import StoreClient.Request

/-!
# `StoreClient/Request/Strings.lean` — keys that hold a byte string
-/

set_option autoImplicit false

namespace StoreClient

namespace Request

def get (key : Bytes) : Request :=
  of "GET" [key] .bulk

def set (key value : Bytes) : Request :=
  of "SET" [key, value] .status

/-- Gives a key a value and returns the one it had. -/
def getSet (key value : Bytes) : Request :=
  of "GETSET" [key, value] .bulk

/-- Gives a key a value unless it has one. -/
def setNx (key value : Bytes) : Request :=
  of "SETNX" [key, value] .flag

/-- The values of several keys, each under its key; a key without a value is left out. -/
def mget (keys : List Bytes) : Except Error Request :=
  overKeys "MGET" [] keys [] (.valuesOf keys)

/-- The command that gives keys their values: the two lists by turns, so they have to be of one
length. -/
def pairs (keyword : String) (keys values : List Bytes) : Except Error Command := do
  requireKeys keyword keys
  if keys.length ≠ values.length then
    throw (.invalidArgument (.valueCount keyword keys.length values.length))
  return (Command.ofKeyword keyword).args ((keys.zip values).flatMap fun (k, v) => [k, v])

def mset (keys values : List Bytes) : Except Error Request :=
  (pairs "MSET" keys values).map (·.expecting .status)

/-- Gives several keys their values unless one of them has a value already. -/
def msetNx (keys values : List Bytes) : Except Error Request :=
  (pairs "MSETNX" keys values).map (·.expecting .flag)

def incr (key : Bytes) : Request :=
  of "INCR" [key] .integer

def incrBy (key : Bytes) (amount : Int64) : Request :=
  (((Command.ofKeyword "INCRBY").arg key).int amount).expecting .integer

def decr (key : Bytes) : Request :=
  of "DECR" [key] .integer

def decrBy (key : Bytes) (amount : Int64) : Request :=
  (((Command.ofKeyword "DECRBY").arg key).int amount).expecting .integer

/-- Puts bytes behind the value of a key, and returns its new length. -/
def append (key value : Bytes) : Request :=
  of "APPEND" [key, value] .integer

def getRange (key : Bytes) (first last : Int64) : Request :=
  ((((Command.ofKeyword "GETRANGE").arg key).int first).int last).expecting .bulk

end Request

end StoreClient
