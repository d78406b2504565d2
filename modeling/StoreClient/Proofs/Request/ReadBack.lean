import StoreClient.Proofs.Command.Splitting
import StoreClient.Proofs.Request.Arguments
import StoreClient.Proofs.Shape.Arrays

/-!
# `StoreClient/Proofs/Request/ReadBack.lean` — what the remote side can tell from a command

A command says nothing about where one list of its arguments ends and the next one begins, and any argument
may be spelt like the words that are meant to separate them. Keys and values go by turns, so their places tell
them apart. A command that combines sorted sets goes by a number: it says how many keys there are, and with
that **whoever takes so many arguments, and only then looks for words, gets back what was given**
(`readCombination_combined`), weights as the texts that they are sent as.

The reader knows nothing but the arguments, so two calls whose commands are the same were given the same; and
the bytes of a command are not the beginning of those of another one (`Command.encode_prefix_free`).
-/

set_option autoImplicit false

namespace StoreClient

namespace Request

variable {keyword : String} {keys values keys' values' : List Bytes} {weights weights' : List Float}

/-! ## Keys and values -/

theorem byTurns_turns (hlen : keys.length = values.length) :
    Shape.byTurns (turns keys values) = keys.zip values := by
  induction keys generalizing values with
  | nil =>
    obtain rfl := List.length_eq_zero_iff.mp hlen.symm
    rfl
  | cons k keys ih =>
    obtain ⟨v, values, rfl⟩ := List.exists_cons_of_length_eq_add_one hlen.symm
    rw [turns, Shape.byTurns, ih (Nat.succ.inj hlen), List.zip_cons_cons]

theorem zip_inj (hlen : keys.length = values.length) (hlen' : keys'.length = values'.length)
    (h : keys.zip values = keys'.zip values') : keys = keys' ∧ values = values' := by
  have hkeys := congrArg (List.map Prod.fst) h
  have hvalues := congrArg (List.map Prod.snd) h
  rw [List.map_fst_zip hlen.le, List.map_fst_zip hlen'.le] at hkeys
  rw [List.map_snd_zip hlen.ge, List.map_snd_zip hlen'.ge] at hvalues
  exact ⟨hkeys, hvalues⟩

theorem turns_inj (hlen : keys.length = values.length) (hlen' : keys'.length = values'.length)
    (h : turns keys values = turns keys' values') : keys = keys' ∧ values = values' := by
  refine zip_inj hlen hlen' ?_
  rw [← byTurns_turns hlen, ← byTurns_turns hlen', h]

/-! ## Sorted sets to combine -/

/-- What a command that combines sorted sets asks for, each weight as its text. -/
structure Combination where
  destination : Bytes
  keys : List Bytes
  weights : List Bytes
  aggregate : Option Aggregate
  deriving DecidableEq

def readCount (text : Bytes) : Option Nat :=
  if text ≠ [] ∧ text.all Bytes.isDigit then some (Decimal.valueOf text) else none

def takeExactly (count : Nat) (arguments : List Bytes) : Option (List Bytes × List Bytes) :=
  if count ≤ arguments.length then some (arguments.take count, arguments.drop count) else none

/-- Takes one weight for each key off the front, if the word for weights stands there. -/
def readWeights (count : Nat) : List Bytes → Option (List Bytes × List Bytes)
  | [] => some ([], [])
  | word :: rest =>
    if word = Bytes.ofAscii "WEIGHTS" then takeExactly count rest else some ([], word :: rest)

def Aggregate.ofWord? (word : Bytes) : Option Aggregate :=
  [sum, min, max].find? fun a => Bytes.ofAscii a.keyword = word

/-- Reads the way to combine scores, which comes last if it is said. -/
def readAggregate : List Bytes → Option (Option Aggregate)
  | [] => some none
  | [word, kind] =>
    if word = Bytes.ofAscii "AGGREGATE" then (Aggregate.ofWord? kind).map some else none
  | _ => none

/-- Reads the arguments of a command that combines sorted sets: as many keys as it says, and then by the
words. -/
def readCombination : List Bytes → Option Combination
  | destination :: count :: rest => do
    let count ← readCount count
    let (keys, rest) ← takeExactly count rest
    let (weights, rest) ← readWeights count rest
    let aggregate ← readAggregate rest
    some { destination, keys, weights, aggregate }
  | _ => none

theorem readCount_ofNat (n : Nat) : readCount (Decimal.ofNat n) = some n := by
  have hdigits : (Decimal.ofNat n).all Bytes.isDigit = true :=
    List.all_eq_true.mpr (Decimal.isDigit_of_mem_ofNat n)
  rw [readCount, if_pos ⟨Decimal.ofNat_ne_nil n, hdigits⟩, Decimal.valueOf_ofNat]

theorem takeExactly_append {count : Nat} {front : List Bytes} (rest : List Bytes)
    (hlen : front.length = count) : takeExactly count (front ++ rest) = some (front, rest) := by
  subst hlen
  rw [takeExactly, if_pos (by simp), List.take_left, List.drop_left]

theorem readWeights_aggregateWords (count : Nat) (aggregate : Option Aggregate) :
    readWeights count (aggregateWords aggregate) = some ([], aggregateWords aggregate) := by
  have hword : Bytes.ofAscii "AGGREGATE" ≠ Bytes.ofAscii "WEIGHTS" := by decide
  cases aggregate with
  | none => rfl
  | some a => rw [aggregateWords, readWeights, if_neg hword]

theorem readWeights_append (weighed : Weighed keys weights) (aggregate : Option Aggregate) :
    readWeights keys.length
        ((if weights = [] then [] else Bytes.ofAscii "WEIGHTS" :: weights.map Decimal.ofFloat) ++
          aggregateWords aggregate) =
      some (weights.map Decimal.ofFloat, aggregateWords aggregate) := by
  by_cases hweights : weights = []
  · subst hweights
    exact readWeights_aggregateWords _ aggregate
  · have hlen : (weights.map Decimal.ofFloat).length = keys.length := by
      rw [List.length_map]
      exact weighed.resolve_left hweights
    rw [if_neg hweights, List.cons_append, readWeights, if_pos rfl]
    exact takeExactly_append _ hlen

theorem readAggregate_aggregateWords (aggregate : Option Aggregate) :
    readAggregate (aggregateWords aggregate) = some aggregate := by
  cases aggregate with
  | none => rfl
  | some a => cases a <;> decide

/-- **What was given is read back**, however keys are spelt. -/
theorem readCombination_combined (destination : Bytes) (weighed : Weighed keys weights)
    (aggregate : Option Aggregate) :
    readCombination (combined destination keys weights aggregate) =
      some ⟨destination, keys, weights.map Decimal.ofFloat, aggregate⟩ := by
  simp only [combined, List.cons_append, List.append_assoc, readCombination, readCount_ofNat,
    takeExactly_append _ rfl, readWeights_append weighed, readAggregate_aggregateWords,
    Option.bind_eq_bind, Option.bind_some]

/-! ## Calls -/

theorem eq_of_pairs_ok {made : Command} (h : pairs keyword keys values = .ok made) :
    keys.length = values.length ∧ made = (Command.ofKeyword keyword).args (turns keys values) := by
  by_cases nonempty : keys = []
  · subst nonempty
    cases h
  · by_cases hlen : keys.length = values.length
    · rw [pairs_eq_ok nonempty hlen] at h
      exact ⟨hlen, (Except.ok.inj h).symm⟩
    · rw [pairs_eq_error nonempty hlen] at h
      cases h

theorem eq_of_combination_ok {destination : Bytes} {aggregate : Option Aggregate} {made : Command}
    (h : combination keyword destination keys weights aggregate = .ok made) :
    Weighed keys weights ∧
      made = (Command.ofKeyword keyword).args (combined destination keys weights aggregate) := by
  by_cases nonempty : keys = []
  · subst nonempty
    cases h
  · by_cases weighed : Weighed keys weights
    · rw [combination_eq_ok destination aggregate nonempty weighed] at h
      exact ⟨weighed, (Except.ok.inj h).symm⟩
    · rw [combination_eq_error destination aggregate nonempty weighed] at h
      cases h

theorem eq_ok_of_map {made : Except Error Command} {shape : Shape} {r : Request}
    (h : made.map (·.expecting shape) = .ok r) : made = .ok r.command := by
  cases made with
  | error e => cases h
  | ok command =>
    cases h
    rfl

/-- What calls that give keys their values send. The last field is about two calls: if what the one sends is as
much as the beginning of what the other sends, the two were given the same. -/
structure PairsReadBack (keyword : String)
    (request : List Bytes → List Bytes → Except Error Request) : Prop where
  made : ∀ keys values, keys ≠ [] → keys.length = values.length → ∃ r, request keys values = .ok r ∧
    r.command.parts = Bytes.ofAscii keyword :: turns keys values ∧
    Shape.byTurns r.command.arguments = keys.zip values
  apart : ∀ keys values keys' values' r r', request keys values = .ok r →
    request keys' values' = .ok r' → r.command.encode <+: r'.command.encode →
    keys = keys' ∧ values = values'

/-- What calls that combine sorted sets send. -/
structure CombinationReadBack (keyword : String)
    (request : Bytes → List Bytes → List Float → Option Aggregate → Except Error Request) : Prop where
  made : ∀ destination keys weights aggregate, keys ≠ [] → Weighed keys weights →
    ∃ r, request destination keys weights aggregate = .ok r ∧
      r.command.parts = Bytes.ofAscii keyword :: combined destination keys weights aggregate ∧
      readCombination r.command.arguments =
        some ⟨destination, keys, weights.map Decimal.ofFloat, aggregate⟩
  apart : ∀ destination keys weights aggregate destination' keys' weights' aggregate' r r',
    request destination keys weights aggregate = .ok r →
    request destination' keys' weights' aggregate' = .ok r' → r.command.encode <+: r'.command.encode →
    destination = destination' ∧ keys = keys' ∧
      weights.map Decimal.ofFloat = weights'.map Decimal.ofFloat ∧ aggregate = aggregate'

theorem pairsReadBack (keyword : String) (shape : Shape) :
    PairsReadBack keyword fun keys values => (pairs keyword keys values).map (·.expecting shape) where
  made keys values nonempty hlen := by
    rw [pairs_eq_ok nonempty hlen]
    exact ⟨_, rfl, rfl, byTurns_turns hlen⟩
  apart keys values keys' values' r r' h h' hprefix := by
    obtain ⟨hlen, hr⟩ := eq_of_pairs_ok (eq_ok_of_map h)
    obtain ⟨hlen', hr'⟩ := eq_of_pairs_ok (eq_ok_of_map h')
    have hcommand := Command.eq_of_encode_prefix hprefix
    rw [hr, hr'] at hcommand
    exact turns_inj hlen hlen' (congrArg Command.arguments hcommand)

theorem combinationReadBack (keyword : String) (shape : Shape) :
    CombinationReadBack keyword fun destination keys weights aggregate =>
      (combination keyword destination keys weights aggregate).map (·.expecting shape) where
  made destination keys weights aggregate nonempty weighed := by
    rw [combination_eq_ok destination aggregate nonempty weighed]
    exact ⟨_, rfl, rfl, readCombination_combined destination weighed aggregate⟩
  apart destination keys weights aggregate destination' keys' weights' aggregate' r r' h h' hprefix := by
    obtain ⟨weighed, hr⟩ := eq_of_combination_ok (eq_ok_of_map h)
    obtain ⟨weighed', hr'⟩ := eq_of_combination_ok (eq_ok_of_map h')
    have hcommand := Command.eq_of_encode_prefix hprefix
    rw [hr, hr'] at hcommand
    have hread := readCombination_combined destination weighed aggregate
    rw [show combined destination keys weights aggregate = combined destination' keys' weights' aggregate'
      from congrArg Command.arguments hcommand, readCombination_combined destination' weighed'] at hread
    simpa [eq_comm] using hread

/-- **Commands over several keys can be read back**, and no two of them are the same on the wire unless they ask
for the same. -/
theorem several_arguments_read_back :
    PairsReadBack "MSET" mset ∧ PairsReadBack "MSETNX" msetNx ∧
      CombinationReadBack "ZUNIONSTORE" zunionStore ∧ CombinationReadBack "ZINTERSTORE" zinterStore :=
  ⟨pairsReadBack "MSET" .status, pairsReadBack "MSETNX" .flag,
    combinationReadBack "ZUNIONSTORE" .integer, combinationReadBack "ZINTERSTORE" .integer⟩

/-- Three keys that are spelt like a key and what may follow the keys. -/
theorem several_arguments_read_back_lookalikes :
    ∃ three one, zunionStore [100] ([107] :: aggregateWords (some .sum)) [] none = .ok three ∧
      zunionStore [100] [[107]] [] (some .sum) = .ok one ∧
      three.command.arguments.drop 2 = one.command.arguments.drop 2 ∧
      ¬ three.command.encode <+: one.command.encode := by
  obtain ⟨-, -, hunion, -⟩ := several_arguments_read_back
  obtain ⟨three, hthree, hpartsThree, -⟩ := hunion.made [100] ([107] :: aggregateWords (some .sum)) [] none
    (List.cons_ne_nil _ _) (.inl rfl)
  obtain ⟨one, hone, hpartsOne, -⟩ := hunion.made [100] [[107]] [] (some .sum)
    (List.cons_ne_nil _ _) (.inl rfl)
  obtain ⟨-, harguments⟩ := List.cons.inj hpartsThree
  obtain ⟨-, harguments'⟩ := List.cons.inj hpartsOne
  refine ⟨three, one, hthree, hone, ?_, fun hprefix => ?_⟩
  · rw [harguments, harguments']
    rfl
  · obtain ⟨-, hkeys, -⟩ := hunion.apart _ _ _ _ _ _ _ _ _ _ hthree hone hprefix
    cases hkeys

end Request

end StoreClient
