import StoreClient.Request

/-!
# `StoreClient/Request/Sets.lean` — keys that hold a set
-/

set_option autoImplicit false

namespace StoreClient

namespace Request

def sadd (key member : Bytes) : Request :=
  of "SADD" [key, member] .flag

def srem (key member : Bytes) : Request :=
  of "SREM" [key, member] .flag

def spop (key : Bytes) : Request :=
  of "SPOP" [key] .bulk

def scard (key : Bytes) : Request :=
  of "SCARD" [key] .integer

def sismember (key member : Bytes) : Request :=
  of "SISMEMBER" [key, member] .flag

def smembers (key : Bytes) : Request :=
  of "SMEMBERS" [key] .list

/-- Some member, which stays. -/
def srandmember (key : Bytes) : Request :=
  of "SRANDMEMBER" [key] .bulk

def smove (source destination member : Bytes) : Request :=
  of "SMOVE" [source, destination, member] .flag

def sinter (keys : List Bytes) : Except Error Request :=
  overKeys "SINTER" [] keys [] .list

def sunion (keys : List Bytes) : Except Error Request :=
  overKeys "SUNION" [] keys [] .list

/-- The members of the first set that none of the others has. -/
def sdiff (keys : List Bytes) : Except Error Request :=
  overKeys "SDIFF" [] keys [] .list

/-- Stores what `sinter` returns, and returns how much it is. -/
def sinterStore (destination : Bytes) (keys : List Bytes) : Except Error Request :=
  overKeys "SINTERSTORE" [destination] keys [] .integer

/-- Stores what `sunion` returns, and returns how much it is. -/
def sunionStore (destination : Bytes) (keys : List Bytes) : Except Error Request :=
  overKeys "SUNIONSTORE" [destination] keys [] .integer

/-- Stores what `sdiff` returns, and returns how much it is. -/
def sdiffStore (destination : Bytes) (keys : List Bytes) : Except Error Request :=
  overKeys "SDIFFSTORE" [destination] keys [] .integer

end Request

end StoreClient
