import StoreClient.Request
import StoreClient.Sorting

/-!
# `StoreClient/Request/Keys.lean` — keys, whatever they hold
-/

set_option autoImplicit false

namespace StoreClient

namespace Request

def keys (pattern : Bytes) : Request :=
  of "KEYS" [pattern] .list

def hasKey (key : Bytes) : Request :=
  of "EXISTS" [key] .flag

def del (key : Bytes) : Request :=
  of "DEL" [key] .integer

/-- Deletes several keys, and returns how many of them there were. -/
def delMany (keys : List Bytes) : Except Error Request :=
  overKeys "DEL" [] keys [] .integer

def typeOf (key : Bytes) : Request :=
  of "TYPE" [key] .keyType

def rename (source destination : Bytes) : Request :=
  of "RENAME" [source, destination] .status

/-- Gives a key another name unless there is such a key. -/
def renameNx (source destination : Bytes) : Request :=
  of "RENAMENX" [source, destination] .flag

def randomKey : Request := of "RANDOMKEY" [] .bulk

def ttl (key : Bytes) : Request :=
  of "TTL" [key] .integer

def expire (key : Bytes) (seconds : Int64) : Request :=
  (((Command.ofKeyword "EXPIRE").arg key).int seconds).expecting .flag

def expireAt (key : Bytes) (timestamp : Int64) : Request :=
  (((Command.ofKeyword "EXPIREAT").arg key).int timestamp).expecting .flag

def moveTo (key : Bytes) (db : Int64) : Request :=
  (((Command.ofKeyword "MOVE").arg key).int db).expecting .flag

def sort (key : Bytes) : Request :=
  of "SORT" [key] .list

/-- The elements under a key as a sorting has them, or how many were stored if it stores them. -/
def sortWith (key : Bytes) (sorting : Sorting) : Request :=
  (sorting.command key).expecting (if sorting.stores then .integer else .list)

end Request

end StoreClient
