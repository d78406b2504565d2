import StoreClient.Request

/-!
# `StoreClient/Request/Lists.lean` — keys that hold a list
-/

set_option autoImplicit false

namespace StoreClient

namespace Request

def lpush (key value : Bytes) : Request :=
  of "LPUSH" [key, value] .integer

def rpush (key value : Bytes) : Request :=
  of "RPUSH" [key, value] .integer

def llen (key : Bytes) : Request :=
  of "LLEN" [key] .integer

def lrange (key : Bytes) (first last : Int64) : Request :=
  ((((Command.ofKeyword "LRANGE").arg key).int first).int last).expecting .list

def ltrim (key : Bytes) (first last : Int64) : Request :=
  ((((Command.ofKeyword "LTRIM").arg key).int first).int last).expecting .status

def lindex (key : Bytes) (index : Int64) : Request :=
  (((Command.ofKeyword "LINDEX").arg key).int index).expecting .bulk

def lset (key : Bytes) (index : Int64) (value : Bytes) : Request :=
  ((((Command.ofKeyword "LSET").arg key).int index).arg value).expecting .status

def lrem (key : Bytes) (count : Int64) (value : Bytes) : Request :=
  ((((Command.ofKeyword "LREM").arg key).int count).arg value).expecting .integer

/-- Takes the first element off. -/
def lpop (key : Bytes) : Request :=
  of "LPOP" [key] .bulk

def rpop (key : Bytes) : Request :=
  of "RPOP" [key] .bulk

/-- Takes the first element off the first list that has one, and waits for one if none has. The reply
holds the key and the element, or nothing if the time is over. -/
def blpop (keys : List Bytes) (timeout : Int64) : Except Error Request :=
  overKeys "BLPOP" [] keys [Decimal.ofInt timeout.toInt] .list

/-- Takes the last element off the first list that has one, and waits as `blpop` does. -/
def brpop (keys : List Bytes) (timeout : Int64) : Except Error Request :=
  overKeys "BRPOP" [] keys [Decimal.ofInt timeout.toInt] .list

/-- Takes the last element off one list and puts it at the front of another. -/
def rpoplpush (source destination : Bytes) : Request :=
  of "RPOPLPUSH" [source, destination] .bulk

end Request

end StoreClient
