import StoreClient.Request

/-!
# `StoreClient/Request/SortedSets.lean` — keys that hold a set with scores

Scores and bounds are doubles, and infinite bounds are common: they say that a side is open.
-/

set_option autoImplicit false

namespace StoreClient

namespace Request

def zadd (key : Bytes) (score : Float) (member : Bytes) : Request :=
  ((((Command.ofKeyword "ZADD").arg key).real score).arg member).expecting .flag

def zrem (key member : Bytes) : Request :=
  of "ZREM" [key, member] .flag

/-- Adds to a member's score, and returns the new one. -/
def zincrBy (key : Bytes) (amount : Float) (member : Bytes) : Request :=
  ((((Command.ofKeyword "ZINCRBY").arg key).real amount).arg member).expecting .double

def zscore (key member : Bytes) : Request :=
  of "ZSCORE" [key, member] .double

def zrank (key member : Bytes) : Request :=
  of "ZRANK" [key, member] .integer

def zrevRank (key member : Bytes) : Request :=
  of "ZREVRANK" [key, member] .integer

def withScores : Bytes := Bytes.ofAscii "WITHSCORES"

/-- The members between two places; with scores, members and scores by turns. -/
def zrange (key : Bytes) (first last : Int64) (scores : Bool) : Request :=
  (((((Command.ofKeyword "ZRANGE").arg key).int first).int last).argIf scores withScores).expecting
    .list

/-- The members between two places by decreasing scores, as `zrange` returns them. -/
def zrevRange (key : Bytes) (first last : Int64) (scores : Bool) : Request :=
  (((((Command.ofKeyword "ZREVRANGE").arg key).int first).int last).argIf scores withScores).expecting
    .list

/-- The members with a score between two bounds, or a section of them. -/
def zrangeByScore (key : Bytes) (min max : Float) (limit : Option (Int64 × Int64)) (scores : Bool) :
    Request :=
  let bounded := (((Command.ofKeyword "ZRANGEBYSCORE").arg key).real min).real max
  let limited :=
    match limit with
    | none => bounded
    | some (offset, count) => ((bounded.word "LIMIT").int offset).int count
  (limited.argIf scores withScores).expecting .list

def zcard (key : Bytes) : Request :=
  of "ZCARD" [key] .integer

def zcount (key : Bytes) (min max : Float) : Request :=
  ((((Command.ofKeyword "ZCOUNT").arg key).real min).real max).expecting .integer

def zremRangeByRank (key : Bytes) (first last : Int64) : Request :=
  ((((Command.ofKeyword "ZREMRANGEBYRANK").arg key).int first).int last).expecting .integer

def zremRangeByScore (key : Bytes) (min max : Float) : Request :=
  ((((Command.ofKeyword "ZREMRANGEBYSCORE").arg key).real min).real max).expecting .integer

/-- How the scores of a member in several sets become one. -/
inductive Aggregate where
  | sum
  | min
  | max
  deriving DecidableEq, Repr

def Aggregate.keyword : Aggregate → String
  | .sum => "SUM"
  | .min => "MIN"
  | .max => "MAX"

/-- The command that combines sets into one. The number of keys goes before them, so that whatever
follows cannot be taken for a key; weights are one for each key, or there are none. -/
def combination (keyword : String) (destination : Bytes) (keys : List Bytes) (weights : List Float)
    (aggregate : Option Aggregate) : Except Error Command := do
  requireKeys keyword keys
  if weights ≠ [] ∧ weights.length ≠ keys.length then
    throw (.invalidArgument (.weightCount keyword keys.length weights.length))
  let weightWords :=
    if weights = [] then [] else Bytes.ofAscii "WEIGHTS" :: weights.map Decimal.ofFloat
  let aggregateWords :=
    match aggregate with
    | none => []
    | some a => [Bytes.ofAscii "AGGREGATE", Bytes.ofAscii a.keyword]
  return (Command.ofKeyword keyword).args
    (destination :: Decimal.ofNat keys.length :: keys ++ weightWords ++ aggregateWords)

def zunionStore (destination : Bytes) (keys : List Bytes) (weights : List Float)
    (aggregate : Option Aggregate) : Except Error Request :=
  (combination "ZUNIONSTORE" destination keys weights aggregate).map (·.expecting .integer)

def zinterStore (destination : Bytes) (keys : List Bytes) (weights : List Float)
    (aggregate : Option Aggregate) : Except Error Request :=
  (combination "ZINTERSTORE" destination keys weights aggregate).map (·.expecting .integer)

end Request

end StoreClient
