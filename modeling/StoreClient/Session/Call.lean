import StoreClient.Session

/-!
# `StoreClient/Session/Call.lean` — the calls on a session as data

What a session promises, it promises for any sequence of calls. Here a call is a value, so that such a
sequence is a list: `Session.perform` makes one call, and `Session.run` makes all of a list, each on
the state that the one before left behind, whether that one failed or not.
-/

set_option autoImplicit false

namespace StoreClient

/-- A call on a session. -/
inductive Call where
  | beginTransaction
  | beginPipeline
  | submit (command : Command) (shape : Shape)
  | execute
  | discard
  deriving DecidableEq

/-- What a successful call returns. -/
inductive Answer where
  | done
  | value (v : Value)
  | values (vs : List Value)

namespace Session

variable {τ : Type} [Transport τ]

/-- Makes a call. -/
def perform : Call → Action (Session τ) Answer
  | .beginTransaction => do beginTransaction; pure .done
  | .beginPipeline => do beginPipeline; pure .done
  | .submit command shape => return .value (← submit command shape)
  | .execute => return .values (← execute)
  | .discard => do discard; pure .done

/-- The outcome of a call and the session after it. -/
def step (s : Session τ) (call : Call) : Except Error Answer × Session τ :=
  match perform call s with
  | .ok answer s => (.ok answer, s)
  | .error e s => (.error e, s)

/-- The outcomes of calls made one after the other, and the session after them. -/
def run (s : Session τ) : List Call → List (Except Error Answer) × Session τ
  | [] => ([], s)
  | call :: calls =>
    let (outcome, s) := s.step call
    let (outcomes, s) := s.run calls
    (outcome :: outcomes, s)

end Session

end StoreClient
