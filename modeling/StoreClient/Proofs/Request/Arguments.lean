import StoreClient.Proofs.Session.Broken
import StoreClient.Request.Keys
import StoreClient.Request.Lists
import StoreClient.Request.Sets
import StoreClient.Request.SortedSets
import StoreClient.Request.Strings

/-!
# `StoreClient/Proofs/Request/Arguments.lean` — arguments are checked before anything else

Fourteen calls take a list of keys, and some of them a second list that has to be as long. They are all
listed here (`KeyedCall`), each with what it was given (`Given`), because one law holds of them: **the
fault that a call is refused for is in its arguments** (`Given.AtFault`), whatever the session is in the
middle of, and a refusal leaves the session as it is, its stream included. All other arguments make one
command, in which each key, value and weight that was given has one place.

There are three ways to make such a command, with a lemma for each of them (`fits_overKeys`, `fits_pairs`,
`fits_combination`). That a session never finds fault with arguments by itself is read off its turns
(`Turn.kind_of_error`).
-/

set_option autoImplicit false

namespace StoreClient

open StoreClient.Action

/-! ## The calls -/

/-- A call over several keys. -/
inductive KeyedCall where
  | delMany (keys : List Bytes)
  | mget (keys : List Bytes)
  | mset (keys values : List Bytes)
  | msetNx (keys values : List Bytes)
  | blpop (keys : List Bytes) (timeout : Int64)
  | brpop (keys : List Bytes) (timeout : Int64)
  | sinter (keys : List Bytes)
  | sunion (keys : List Bytes)
  | sdiff (keys : List Bytes)
  | sinterStore (destination : Bytes) (keys : List Bytes)
  | sunionStore (destination : Bytes) (keys : List Bytes)
  | sdiffStore (destination : Bytes) (keys : List Bytes)
  | zunionStore (destination : Bytes) (keys : List Bytes) (weights : List Float)
      (aggregate : Option Request.Aggregate)
  | zinterStore (destination : Bytes) (keys : List Bytes) (weights : List Float)
      (aggregate : Option Request.Aggregate)

/-- What a call over several keys is given. -/
structure Given where
  keyword : String
  shape : Shape
  keys : List Bytes
  /-- The values of the keys, if the call takes any. -/
  values : Option (List Bytes) := none
  /-- The weights of the keys, perhaps none. -/
  weights : List Float := []
  /-- The other arguments of the command. -/
  others : List Bytes := []

/-- The words that say how scores are combined, if anything is said. -/
def Request.aggregateWords : Option Request.Aggregate → List Bytes
  | none => []
  | some a => [Bytes.ofAscii "AGGREGATE", Bytes.ofAscii a.keyword]

namespace KeyedCall

def request : KeyedCall → Except Error Request
  | delMany keys => Request.delMany keys
  | mget keys => Request.mget keys
  | mset keys values => Request.mset keys values
  | msetNx keys values => Request.msetNx keys values
  | blpop keys timeout => Request.blpop keys timeout
  | brpop keys timeout => Request.brpop keys timeout
  | sinter keys => Request.sinter keys
  | sunion keys => Request.sunion keys
  | sdiff keys => Request.sdiff keys
  | sinterStore destination keys => Request.sinterStore destination keys
  | sunionStore destination keys => Request.sunionStore destination keys
  | sdiffStore destination keys => Request.sdiffStore destination keys
  | zunionStore destination keys weights aggregate =>
    Request.zunionStore destination keys weights aggregate
  | zinterStore destination keys weights aggregate =>
    Request.zinterStore destination keys weights aggregate

/-- What a call that combines sorted sets is given. The command says how many keys there are, and has a word
before the weights, if there are any, and one before the way to combine scores, if that is said. -/
def combining (keyword : String) (destination : Bytes) (keys : List Bytes) (weights : List Float)
    (aggregate : Option Request.Aggregate) : Given where
  keyword := keyword
  shape := .integer
  keys := keys
  weights := weights
  others := destination :: Decimal.ofNat keys.length ::
    (if weights = [] then [] else [Bytes.ofAscii "WEIGHTS"]) ++ Request.aggregateWords aggregate

def given : KeyedCall → Given
  | delMany keys => { keyword := "DEL", shape := .integer, keys }
  | mget keys => { keyword := "MGET", shape := .valuesOf keys, keys }
  | mset keys values => { keyword := "MSET", shape := .status, keys, values := some values }
  | msetNx keys values => { keyword := "MSETNX", shape := .flag, keys, values := some values }
  | blpop keys timeout =>
    { keyword := "BLPOP", shape := .list, keys, others := [Decimal.ofInt timeout.toInt] }
  | brpop keys timeout =>
    { keyword := "BRPOP", shape := .list, keys, others := [Decimal.ofInt timeout.toInt] }
  | sinter keys => { keyword := "SINTER", shape := .list, keys }
  | sunion keys => { keyword := "SUNION", shape := .list, keys }
  | sdiff keys => { keyword := "SDIFF", shape := .list, keys }
  | sinterStore destination keys =>
    { keyword := "SINTERSTORE", shape := .integer, keys, others := [destination] }
  | sunionStore destination keys =>
    { keyword := "SUNIONSTORE", shape := .integer, keys, others := [destination] }
  | sdiffStore destination keys =>
    { keyword := "SDIFFSTORE", shape := .integer, keys, others := [destination] }
  | zunionStore destination keys weights aggregate =>
    combining "ZUNIONSTORE" destination keys weights aggregate
  | zinterStore destination keys weights aggregate =>
    combining "ZINTERSTORE" destination keys weights aggregate

end KeyedCall

namespace Given

/-- There is no key, or not one value for each key, or weights and not one for each key. -/
def AtFault (g : Given) : Prop :=
  g.keys = [] ∨ (∃ values, g.values = some values ∧ values.length ≠ g.keys.length) ∨
    g.weights ≠ [] ∧ g.weights.length ≠ g.keys.length

/-- What is said about arguments at fault; that there is no key is said first. -/
def fault (g : Given) : ArgumentFault :=
  if g.keys = [] then .noKeys g.keyword
  else
    match g.values with
    | some values => .valueCount g.keyword g.keys.length values.length
    | none => .weightCount g.keyword g.keys.length g.weights.length

/-- All that was given, each occurrence once. -/
def arguments (g : Given) : List Bytes :=
  g.keys ++ g.values.getD [] ++ g.weights.map Decimal.ofFloat ++ g.others

/-- The request that is made of what was given, or the refusal to make one. -/
structure Fits (g : Given) (made : Except Error Request) : Prop where
  refused : g.AtFault → made = .error (.invalidArgument g.fault)
  accepted : ¬ g.AtFault → ∃ r, made = .ok r ∧ r.shape = g.shape ∧
    r.command.keyword = Bytes.ofAscii g.keyword ∧ r.command.arguments.Perm g.arguments

end Given

/-! ## The three ways to make a command -/

namespace Request

variable {keyword : String} {keys values : List Bytes} {weights : List Float} {shape : Shape}

theorem requireKeys_of_ne_nil (h : keys ≠ []) : requireKeys keyword keys = .ok () := by
  simp [requireKeys, h]

theorem fits_overKeys (keyword : String) (before keys after : List Bytes) (shape : Shape) :
    Given.Fits { keyword, shape, keys, others := before ++ after }
      (overKeys keyword before keys after shape) where
  refused h := by
    obtain rfl : keys = [] := by simpa [Given.AtFault] using h
    rfl
  accepted h := by
    have nonempty : keys ≠ [] := by simpa [Given.AtFault] using h
    refine ⟨of keyword (before ++ keys ++ after) shape, ?_, rfl, rfl, ?_⟩
    · simp [overKeys, requireKeys_of_ne_nil nonempty]
    · simpa [of, Command.expecting, Command.args, Command.ofKeyword, Given.arguments] using
        List.perm_append_comm_assoc before keys after

/-- Keys and values by turns. -/
def turns : List Bytes → List Bytes → List Bytes
  | k :: keys, v :: values => k :: v :: turns keys values
  | _, _ => []

theorem flatMap_zip_eq_turns (keys values : List Bytes) :
    ((keys.zip values).flatMap fun (k, v) => [k, v]) = turns keys values := by
  fun_induction turns keys values with
  | case1 k keys v values ih => simp [ih]
  | case2 keys values hnot =>
    cases keys with
    | nil => rfl
    | cons k keys =>
      cases values with
      | nil => rfl
      | cons v values => exact absurd rfl (hnot k keys v values rfl)

theorem pairs_eq_ok (nonempty : keys ≠ []) (hlen : keys.length = values.length) :
    pairs keyword keys values = .ok ((Command.ofKeyword keyword).args (turns keys values)) := by
  simp [pairs, requireKeys_of_ne_nil nonempty, hlen, ← flatMap_zip_eq_turns]

theorem pairs_eq_error (nonempty : keys ≠ []) (hlen : keys.length ≠ values.length) :
    pairs keyword keys values =
      .error (.invalidArgument (.valueCount keyword keys.length values.length)) := by
  simp [pairs, requireKeys_of_ne_nil nonempty, hlen]
  rfl

/-- None of the keys and values is left out or comes twice. -/
theorem turns_perm (hlen : keys.length = values.length) : (turns keys values).Perm (keys ++ values) := by
  induction keys generalizing values with
  | nil =>
    obtain rfl := List.length_eq_zero_iff.mp hlen.symm
    exact .refl _
  | cons k keys ih =>
    obtain ⟨v, values, rfl⟩ := List.exists_cons_of_length_eq_add_one hlen.symm
    have hrest := ih (Nat.succ.inj hlen)
    show (k :: v :: turns keys values).Perm (k :: (keys ++ v :: values))
    refine .cons k ?_
    exact (List.Perm.cons v hrest).trans List.perm_middle.symm

theorem fits_pairs (keyword : String) (keys values : List Bytes) (shape : Shape) :
    Given.Fits { keyword, shape, keys, values := some values }
      ((pairs keyword keys values).map (·.expecting shape)) := by
  by_cases nonempty : keys = []
  · subst nonempty
    exact ⟨fun _ => rfl, fun h => absurd (.inl rfl) h⟩
  · by_cases hlen : keys.length = values.length
    · rw [pairs_eq_ok nonempty hlen]
      refine ⟨fun h => absurd h (by simp [Given.AtFault, nonempty, hlen]), fun _ => ?_⟩
      refine ⟨_, rfl, rfl, rfl, ?_⟩
      simpa [Given.arguments, Command.expecting, Command.args, Command.ofKeyword] using turns_perm hlen
    · rw [pairs_eq_error nonempty hlen]
      refine ⟨fun _ => by simp [Given.fault, nonempty, Except.map], fun h => absurd ?_ h⟩
      exact .inr (.inl ⟨values, rfl, Ne.symm hlen⟩)

/-- The arguments of a command that combines sorted sets. -/
def combined (destination : Bytes) (keys : List Bytes) (weights : List Float)
    (aggregate : Option Aggregate) : List Bytes :=
  destination :: Decimal.ofNat keys.length :: keys ++
    (if weights = [] then [] else Bytes.ofAscii "WEIGHTS" :: weights.map Decimal.ofFloat) ++
    aggregateWords aggregate

/-- There are no weights, or there is one for each key. -/
def Weighed (keys : List Bytes) (weights : List Float) : Prop :=
  weights = [] ∨ weights.length = keys.length

theorem combination_eq_ok (destination : Bytes) (aggregate : Option Aggregate) (nonempty : keys ≠ [])
    (weighed : Weighed keys weights) :
    combination keyword destination keys weights aggregate =
      .ok ((Command.ofKeyword keyword).args (combined destination keys weights aggregate)) := by
  have hweights : ¬ (weights ≠ [] ∧ weights.length ≠ keys.length) := by
    rcases weighed with h | h <;> simp [h]
  simp only [combination, requireKeys_of_ne_nil nonempty, if_neg hweights]
  cases aggregate <;> rfl

theorem combination_eq_error (destination : Bytes) (aggregate : Option Aggregate) (nonempty : keys ≠ [])
    (weighed : ¬ Weighed keys weights) :
    combination keyword destination keys weights aggregate =
      .error (.invalidArgument (.weightCount keyword keys.length weights.length)) := by
  have hweights : weights ≠ [] ∧ weights.length ≠ keys.length := by
    simpa [Weighed, not_or] using weighed
  simp only [combination, requireKeys_of_ne_nil nonempty, if_pos hweights]
  rfl

theorem combined_perm (keyword : String) (destination : Bytes) (keys : List Bytes) (weights : List Float)
    (aggregate : Option Aggregate) : (combined destination keys weights aggregate).Perm
      (KeyedCall.combining keyword destination keys weights aggregate).arguments := by
  rw [List.perm_iff_count]
  intro b
  by_cases hweights : weights = []
  · simp [combined, KeyedCall.combining, Given.arguments, hweights, List.count_cons]
    omega
  · simp [combined, KeyedCall.combining, Given.arguments, hweights, List.count_cons]
    omega

theorem fits_combination (keyword : String) (destination : Bytes) (keys : List Bytes)
    (weights : List Float) (aggregate : Option Aggregate) :
    (KeyedCall.combining keyword destination keys weights aggregate).Fits
      ((combination keyword destination keys weights aggregate).map (·.expecting .integer)) := by
  by_cases nonempty : keys = []
  · subst nonempty
    exact ⟨fun _ => rfl, fun h => absurd (.inl rfl) h⟩
  · have hfault : (KeyedCall.combining keyword destination keys weights aggregate).AtFault ↔
        ¬ Weighed keys weights := by
      simp [Given.AtFault, KeyedCall.combining, Weighed, nonempty]
    by_cases weighed : Weighed keys weights
    · rw [combination_eq_ok destination aggregate nonempty weighed]
      refine ⟨fun h => absurd weighed (hfault.mp h), fun _ => ⟨_, rfl, rfl, rfl, ?_⟩⟩
      exact combined_perm keyword destination keys weights aggregate
    · rw [combination_eq_error destination aggregate nonempty weighed]
      refine ⟨fun _ => ?_, fun h => absurd (hfault.mpr weighed) h⟩
      simp [Given.fault, KeyedCall.combining, nonempty, Except.map]

end Request

theorem KeyedCall.fits (call : KeyedCall) : call.given.Fits call.request := by
  cases call with
  | delMany keys => exact Request.fits_overKeys "DEL" [] keys [] _
  | mget keys => exact Request.fits_overKeys "MGET" [] keys [] _
  | mset keys values => exact Request.fits_pairs "MSET" keys values _
  | msetNx keys values => exact Request.fits_pairs "MSETNX" keys values _
  | blpop keys timeout => exact Request.fits_overKeys "BLPOP" [] keys [_] _
  | brpop keys timeout => exact Request.fits_overKeys "BRPOP" [] keys [_] _
  | sinter keys => exact Request.fits_overKeys "SINTER" [] keys [] _
  | sunion keys => exact Request.fits_overKeys "SUNION" [] keys [] _
  | sdiff keys => exact Request.fits_overKeys "SDIFF" [] keys [] _
  | sinterStore destination keys => exact Request.fits_overKeys "SINTERSTORE" [destination] keys [] _
  | sunionStore destination keys => exact Request.fits_overKeys "SUNIONSTORE" [destination] keys [] _
  | sdiffStore destination keys => exact Request.fits_overKeys "SDIFFSTORE" [destination] keys [] _
  | zunionStore destination keys weights aggregate =>
    exact Request.fits_combination "ZUNIONSTORE" destination keys weights aggregate
  | zinterStore destination keys weights aggregate =>
    exact Request.fits_combination "ZINTERSTORE" destination keys weights aggregate

/-! ## On a session -/

namespace Session

variable {τ : Type} [Transport τ]

theorem submit_ne_invalidArgument {s s' : Session τ} {command : Command} {shape : Shape}
    {fault : ArgumentFault} : submit command shape s ≠ .error (.invalidArgument fault) s' := by
  intro h
  have hturn : Turn s (.submit command shape) (.error (.invalidArgument fault)) s' :=
    .of_step (step_of_error (bind_of_error h))
  rcases hturn.kind_of_error with ⟨_, _, ⟨⟩⟩ | ⟨⟨⟩⟩ | ⟨_, ⟨⟩⟩ | ⟨_, ⟨⟩⟩

/-- Arguments without fault make one command, and the call is its submission. -/
theorem attempt_submits (call : KeyedCall) (s : Session τ) (sound : ¬ call.given.AtFault) :
    ∃ command, attempt call.request s = submit command call.given.shape s ∧
      command.keyword = Bytes.ofAscii call.given.keyword ∧
      command.arguments.Perm call.given.arguments := by
  obtain ⟨r, hr, hshape, hkeyword, harguments⟩ := call.fits.accepted sound
  have hattempt : attempt call.request s = submit r.command call.given.shape s := by
    rw [hr, ← hshape]
    rfl
  exact ⟨r.command, hattempt, hkeyword, harguments⟩

/-- A call is refused for its arguments if they are at fault and not otherwise, and leaves the session that it
was made on. -/
theorem attempt_eq_invalidArgument_iff (call : KeyedCall) (s : Session τ) (fault : ArgumentFault)
    (s' : Session τ) : attempt call.request s = .error (.invalidArgument fault) s' ↔
      call.given.AtFault ∧ fault = call.given.fault ∧ s' = s := by
  by_cases atFault : call.given.AtFault
  · have hattempt : attempt call.request s = .error (.invalidArgument call.given.fault) s := by
      rw [call.fits.refused atFault]
      rfl
    rw [hattempt]
    simp [atFault, eq_comm]
  · obtain ⟨command, hattempt, -, -⟩ := attempt_submits call s atFault
    rw [hattempt]
    simp [atFault, submit_ne_invalidArgument]

/-- The call is refused for its arguments if they are at fault and not otherwise. A refusal gives back the
session that it got, with the log of its stream: there was no call on it. Arguments without fault are one
command, and the call is its submission. -/
structure CheckedFirst (call : KeyedCall) (s : Session (Recorder τ)) : Prop where
  refused : ∀ fault s', attempt call.request s = .error (.invalidArgument fault) s' ↔
    call.given.AtFault ∧ fault = call.given.fault ∧ s' = s
  submitted : ¬ call.given.AtFault → ∃ command,
    attempt call.request s = submit command call.given.shape s ∧
    command.keyword = Bytes.ofAscii call.given.keyword ∧
    command.arguments.Perm call.given.arguments

/-- **Arguments are checked before anything else**, on a session in any state and over any transport. -/
theorem arguments_checked_first (call : KeyedCall) (s : Session (Recorder τ)) : CheckedFirst call s where
  refused := attempt_eq_invalidArgument_iff call s
  submitted := attempt_submits call s

/-- A broken session in the middle of a pipeline. -/
def brokenMidway : Session (Recorder Scripted) :=
  ⟨{ stream := { transport := ⟨{ flushFailure := .closed }, [.flushed]⟩ }, broken := true },
    .pipeline [.bulk] (Bytes.ofAscii "held")⟩

/-- Two keys and a value for one of them, and then for both. -/
theorem arguments_checked_first_pairs :
    (KeyedCall.mset [[97], [98]] [[1]]).given.AtFault ∧
      attempt (Request.mset [[97], [98]] [[1]]) brokenMidway =
        .error (.invalidArgument (.valueCount "MSET" 2 1)) brokenMidway ∧
      ¬ (KeyedCall.mset [[97], [98]] [[1], [1]]).given.AtFault ∧
      ∃ command, attempt (Request.mset [[97], [98]] [[1], [1]]) brokenMidway =
        submit command .status brokenMidway := by
  have atFault : (KeyedCall.mset [[97], [98]] [[1]]).given.AtFault := .inr (.inl ⟨_, rfl, by decide⟩)
  have sound : ¬ (KeyedCall.mset [[97], [98]] [[1], [1]]).given.AtFault := by
    simp [Given.AtFault, KeyedCall.given]
  have hrefused := (arguments_checked_first (.mset [[97], [98]] [[1]]) brokenMidway).refused
    (.valueCount "MSET" 2 1) brokenMidway
  obtain ⟨command, hsubmit, -, -⟩ :=
    (arguments_checked_first (.mset [[97], [98]] [[1], [1]]) brokenMidway).submitted sound
  exact ⟨atFault, hrefused.mpr ⟨atFault, rfl, rfl⟩, sound, command, hsubmit⟩

end Session

end StoreClient
