import StoreClient.Request

/-!
# `StoreClient/Request/Hashes.lean` — keys that hold fields with values
-/

set_option autoImplicit false

namespace StoreClient

namespace Request

def hset (key field value : Bytes) : Request :=
  of "HSET" [key, field, value] .flag

def hget (key field : Bytes) : Request :=
  of "HGET" [key, field] .bulk

def hdel (key field : Bytes) : Request :=
  of "HDEL" [key, field] .flag

def hexists (key field : Bytes) : Request :=
  of "HEXISTS" [key, field] .flag

def hlen (key : Bytes) : Request :=
  of "HLEN" [key] .integer

def hkeys (key : Bytes) : Request :=
  of "HKEYS" [key] .list

def hvals (key : Bytes) : Request :=
  of "HVALS" [key] .list

def hgetAll (key : Bytes) : Request :=
  of "HGETALL" [key] .entries

def hincrBy (key field : Bytes) (amount : Int64) : Request :=
  ((((Command.ofKeyword "HINCRBY").arg key).arg field).int amount).expecting .integer

end Request

end StoreClient
