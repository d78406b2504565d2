import StoreClient.Session

/-!
# `StoreClient/Request.lean` — commands with the shape of their reply

A request is a command together with the shape of the reply that the remote side gives to it, so that
nobody who only wants to use a command has to know either. The modules below this one have a request
for each command of the remote side, by what the commands work on.

Most requests can be made of any arguments. A command over several keys cannot do without one, and
some need lists of equal length; such a request is an `Except`, and a fault in its arguments is found
while it is built. Nothing has been sent by then and no session has been touched: `Session.attempt`
gives the fault back and leaves the session as it is.
-/

set_option autoImplicit false

namespace StoreClient

/-- A command with the shape of its reply. -/
structure Request where
  command : Command
  shape : Shape
  deriving DecidableEq

/-- The request for a command whose replies have the given shape. -/
def Command.expecting (command : Command) (shape : Shape) : Request :=
  ⟨command, shape⟩

namespace Request

/-- A keyword with byte strings as its arguments. -/
def of (keyword : String) (arguments : List Bytes) (shape : Shape) : Request :=
  ((Command.ofKeyword keyword).args arguments).expecting shape

/-- Refuses an empty list of keys. -/
def requireKeys (keyword : String) (keys : List Bytes) : Except Error Unit :=
  if keys = [] then .error (.invalidArgument (.noKeys keyword)) else .ok ()

/-- A keyword with keys, of which there has to be one, between the other arguments. -/
def overKeys (keyword : String) (before keys after : List Bytes) (shape : Shape) :
    Except Error Request := do
  requireKeys keyword keys
  return of keyword (before ++ keys ++ after) shape

end Request

namespace Session

variable {τ : Type} [Transport τ]

/-- Submits a request. -/
def request (r : Request) : Action (Session τ) Value :=
  submit r.command r.shape

/-- Submits a request unless its arguments are at fault. -/
def attempt : Except Error Request → Action (Session τ) Value
  | .ok r => request r
  | .error e => throw e

end Session

end StoreClient
