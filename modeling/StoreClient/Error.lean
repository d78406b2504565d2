import StoreClient.Error.Io
import StoreClient.Reply.Fault
import StoreClient.Reply.Frame
import StoreClient.Session.Mode
import StoreClient.Value.Display

/-!
# `StoreClient/Error.lean` — why a call can fail

An error says what happened, not how to say it: the wording is in `message` and its helpers alone. The
one division that the library itself acts on is `isFatal`: a **fatal** error leaves an unknown number
of bytes of the current reply on the stream, or an unknown part of a command on its way, so that no
later reply could be told from the rest of this one. Every other error is raised after the reply it
concerns was read to its last byte, or before anything was sent.

A reply of the wrong shape is no error at all: it is a value (`Value.mismatch`).

Where a cause can also be reported from outside the library, it has a constructor `described` that
carries the words.
-/

set_option autoImplicit false

namespace StoreClient

/-- A complete reply that is not among those the protocol has at this point of a session. -/
inductive UnexpectedReply where
  /-- To the command that opens a transaction. -/
  | toBegin (answer : Value)
  /-- To the command that drops a transaction. -/
  | toDiscard (answer : Value)
  /-- To a command inside a transaction. -/
  | toQueued (answer : Value)
  /-- To the command that executes a transaction: not one reply for each queued command. -/
  | wrongCount (replies queued : Nat)
  /-- To the command that executes a transaction: no array and no error. -/
  | toExecute (reply : Frame)
  | described (text : String)

/-- Why a transaction did not run. -/
inductive AbortReason where
  /-- The remote side gave a null array in place of replies. -/
  | nullReply
  /-- The remote side refused. -/
  | refused (line : Bytes)
  | described (text : String)
  deriving DecidableEq, Repr

/-- What is wrong with the arguments of a call. -/
inductive ArgumentFault where
  /-- A command over keys without a key. -/
  | noKeys (keyword : String)
  /-- As many values as keys are needed. -/
  | valueCount (keyword : String) (keys values : Nat)
  /-- As many weights as keys are needed, or none. -/
  | weightCount (keyword : String) (keys weights : Nat)
  | described (text : String)
  deriving DecidableEq, Repr

/-- What is wrong with a configuration. -/
inductive ConfigFault where
  | emptyHost
  | zeroTcpPort
  | zeroLimit
  | described (text : String)
  deriving DecidableEq, Repr

/-- Why a call failed. -/
inductive Error where
  /-- The byte stream failed or ended too early. -/
  | io (e : IoError)
  /-- No stream to the remote side could be had. -/
  | connecting (text : String)
  /-- An earlier fatal error put the connection out of use. -/
  | broken
  | protocol (fault : ProtocolFault)
  | unexpectedReply (reply : UnexpectedReply)
  | aborted (reason : AbortReason)
  /-- A batch cannot be opened while one is open. -/
  | modeConflict (active requested : Mode)
  /-- A value was read as what it is not. -/
  | typeMismatch (expected found : Tag)
  | invalidArgument (fault : ArgumentFault)
  | configuration (fault : ConfigFault)

namespace UnexpectedReply

def message : UnexpectedReply → String
  | .toBegin answer => s!"MULTI answered with {answer}"
  | .toDiscard answer => s!"DISCARD answered with {answer}"
  | .toQueued answer => s!"expected +QUEUED acknowledgement, got {answer}"
  | .wrongCount replies queued =>
    s!"EXEC returned {replies} replies for {queued} queued commands"
  | .toExecute reply => s!"EXEC answered with a {reply.kind} reply"
  | .described text => text

end UnexpectedReply

namespace AbortReason

def message : AbortReason → String
  | .nullReply => "EXEC returned a null reply"
  | .refused line => String.ofList (Utf8.lossy line)
  | .described text => text

end AbortReason

namespace ArgumentFault

def message : ArgumentFault → String
  | .noKeys keyword => s!"{keyword} needs at least one key"
  | .valueCount keyword keys values => s!"{keyword} got {keys} keys but {values} values"
  | .weightCount keyword keys weights => s!"{keyword} got {keys} keys but {weights} weights"
  | .described text => text

end ArgumentFault

namespace ConfigFault

def message : ConfigFault → String
  | .emptyHost => "host must not be empty"
  | .zeroTcpPort => "port must be non-zero"
  | .zeroLimit => "protocol limits must be non-zero"
  | .described text => text

end ConfigFault

namespace Error

def message : Error → String
  | .io e => s!"IO error: {e.text}"
  | .connecting text => s!"Connection error: {text}"
  | .broken => "Connection is broken by an earlier fatal error"
  | .protocol fault => s!"Protocol error: {fault.message}"
  | .unexpectedReply reply => s!"Unexpected reply: {reply.message}"
  | .aborted reason => s!"Transaction aborted: {reason.message}"
  | .modeConflict active requested =>
    s!"Cannot enter {requested.name} mode while {active.name} mode is active"
  | .typeMismatch expected found =>
    s!"Type mismatch: expected {expected.name}, found {found.name}"
  | .invalidArgument fault => s!"Invalid argument: {fault.message}"
  | .configuration fault => s!"Configuration error: {fault.message}"

/-- Whether the stream is out of step after this error, so that nothing may follow on it. -/
def isFatal : Error → Bool
  | .io _ | .protocol _ | .broken => true
  | _ => false

end Error

end StoreClient
