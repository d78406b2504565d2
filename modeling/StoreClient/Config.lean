import StoreClient.Error

/-!
# `StoreClient/Config.lean` — where and how to connect

A configuration names the remote side and says how patient and how generous to be with it. `validate`
refuses what can never work, and says what is wrong first; it is asked before any connection is made.
-/

set_option autoImplicit false

namespace StoreClient

/-- How to reach the remote side, and what to accept from it. -/
structure Config where
  host : String := "127.0.0.1"
  tcpPort : UInt16 := 6379
  /-- Milliseconds to wait for a connection; 0 leaves it to the system. -/
  connectTimeout : UInt64 := 5000
  /-- Milliseconds to wait for bytes; 0 is for ever. -/
  readTimeout : UInt64 := 5000
  /-- Milliseconds to wait for bytes to be accepted; 0 is for ever. -/
  writeTimeout : UInt64 := 5000
  /-- Whether small writes go out at once. -/
  noDelay : Bool := true
  limits : Limits := {}
  deriving DecidableEq, Repr

namespace Config

/-- The endpoint, the host and the number divided by a colon. -/
def address (c : Config) : String :=
  s!"{c.host}:{c.tcpPort}"

/-- Refuses a configuration that can never work. -/
def validate (c : Config) : Except Error Unit :=
  if c.host.isEmpty then .error (.configuration .emptyHost)
  else if c.tcpPort = 0 then .error (.configuration .zeroTcpPort)
  else if c.limits.bulk = 0 ∨ c.limits.array = 0 then .error (.configuration .zeroLimit)
  else .ok ()

end Config

end StoreClient
