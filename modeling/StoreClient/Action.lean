import StoreClient.Error
import StoreClient.Source

/-!
# `StoreClient/Action.lean` — calls

A call works on a state and either returns a value or fails with an `Error`. In both cases it leaves
a state behind: a failure does not undo what was done before it, since bytes that were sent cannot be
called back.
-/

set_option autoImplicit false

namespace StoreClient

/-- A call on a state of type `σ`. -/
abbrev Action (σ α : Type) : Type := EStateM Error σ α

namespace Action

variable {σ ρ α : Type}

/-- A step on a stream as a call: its failures are errors of the stream. -/
def ofStream (step : StreamAction σ α) : Action σ α := fun s =>
  match step s with
  | .ok a s => .ok a s
  | .error e s => .error (.io e) s

/-- A check that fails with a fault of the protocol. -/
def ofCheck (check : Except ProtocolFault α) : Action σ α :=
  match check with
  | .ok a => pure a
  | .error fault => throw (.protocol fault)

/-- A call on a part of the state. -/
def within (view : ρ → σ) (put : σ → ρ → ρ) (call : Action σ α) : Action ρ α := fun r =>
  match call (view r) with
  | .ok a s => .ok a (put s r)
  | .error e s => .error e (put s r)

/-- A call made `count` times more, after calls with the given results, newest first. All results
come back in order. -/
@[specialize]
def timesMore (call : Action σ α) : (count : Nat) → (results : List α) → Action σ (List α)
  | 0, results => pure results.reverse
  | count + 1, results => do
    let a ← call
    timesMore call count (a :: results)

/-- A call made `count` times, with the results in order; the first failure ends them. -/
@[specialize]
def times (call : Action σ α) (count : Nat) : Action σ (List α) :=
  timesMore call count []

end Action

end StoreClient
