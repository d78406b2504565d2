import Mathlib.Data.List.Basic
import StoreClient.Proofs.Decimal
import StoreClient.Request.Keys

/-!
# `StoreClient/Proofs/Request/Sorting.lean` — what a sort asks for

The clauses of a sort are given in any order and over and over, and the command has each of them once at most,
in an order of its own. So the command is a normal form. It is described here by the clauses alone, with no
record that they are gathered in: **of each kind of clause the last one that was given** (`final`), kind after
kind, each written as its word and what belongs to it (`arguments_ofClauses`).

The words separate the clauses, and any pattern or key may be spelt like one of them. That does no harm: a
reader that goes from the left knows of each word how much belongs to it, takes that unseen, and so comes to
the next word (`readClauses_flatMap`). It does not count on the order, and knows nothing of how the command
was made.
-/

set_option autoImplicit false

namespace StoreClient

namespace Sorting

/-! ## Kinds of clauses, and how they are written -/

/-- What a clause is about. -/
inductive Kind where
  | weight
  | limit
  | lookup
  | direction
  | alphabetic
  | destination
  deriving DecidableEq

/-- The kinds in the order in which their clauses are expected. -/
def Kind.inOrder : List Kind :=
  [weight, limit, lookup, direction, alphabetic, destination]

theorem Kind.mem_inOrder (kind : Kind) : kind ∈ inOrder := by
  cases kind <;> decide

/-- The words that clauses start with. -/
inductive Word where
  | weight
  | limit
  | lookup
  | ascending
  | descending
  | alphabetic
  | destination
  deriving DecidableEq

namespace Word

def text : Word → String
  | weight => "BY"
  | limit => "LIMIT"
  | lookup => "GET"
  | ascending => "ASC"
  | descending => "DESC"
  | alphabetic => "ALPHA"
  | destination => "STORE"

def ofBytes? (bytes : Bytes) : Option Word :=
  [weight, limit, lookup, ascending, descending, alphabetic, destination].find? fun word =>
    Bytes.ofAscii word.text = bytes

theorem ofBytes?_text (word : Word) : ofBytes? (Bytes.ofAscii word.text) = some word := by
  cases word <;> decide

end Word

namespace Clause

def kind : Clause → Kind
  | weight _ => .weight
  | limit _ _ => .limit
  | lookup _ => .lookup
  | direction _ => .direction
  | alphabetic => .alphabetic
  | destination _ => .destination

def word : Clause → Word
  | weight _ => .weight
  | limit _ _ => .limit
  | lookup _ => .lookup
  | direction .ascending => .ascending
  | direction .descending => .descending
  | alphabetic => .alphabetic
  | destination _ => .destination

/-- What belongs to the word. -/
def operands : Clause → List Bytes
  | weight pattern | lookup pattern => [pattern]
  | limit skip count => [Decimal.ofInt skip.toInt, Decimal.ofInt count.toInt]
  | direction _ | alphabetic => []
  | destination key => [key]

/-- The clause as it is written. -/
def written (c : Clause) : List Bytes :=
  Bytes.ofAscii c.word.text :: c.operands

end Clause

/-! ## The last clause of each kind -/

/-- The clauses of one kind, in the order in which they were given. -/
def ofKind (kind : Kind) (clauses : List Clause) : List Clause :=
  clauses.filter fun c => c.kind = kind

/-- What counts of the clauses that were given: the last one of each kind. -/
def final (clauses : List Clause) : List Clause :=
  Kind.inOrder.filterMap fun kind => (ofKind kind clauses).getLast?

/-- The clause of a kind that a sorting has. -/
def clause? (s : Sorting) : Kind → Option Clause
  | .weight => s.weight.map .weight
  | .limit => s.window.map fun w => .limit w.1 w.2
  | .lookup => s.lookup.map .lookup
  | .direction => s.direction.map .direction
  | .alphabetic => if s.alphabetic then some .alphabetic else none
  | .destination => s.destination.map .destination

/-- A clause takes the place of its own kind, and of no other. -/
theorem clause?_set (s : Sorting) (c : Clause) (kind : Kind) :
    (s.set c).clause? kind = if c.kind = kind then some c else s.clause? kind := by
  cases c <;> cases kind <;> rfl

theorem clause?_foldl_set (s : Sorting) (clauses : List Clause) (kind : Kind) :
    (clauses.foldl set s).clause? kind = (ofKind kind clauses).getLast?.or (s.clause? kind) := by
  induction clauses generalizing s with
  | nil => rfl
  | cons c clauses ih =>
    rw [List.foldl_cons, ih, clause?_set]
    by_cases hkind : c.kind = kind
    · have hhead : ofKind kind (c :: clauses) = c :: ofKind kind clauses :=
        List.filter_cons_of_pos (by simp [hkind])
      rw [hhead, if_pos hkind, List.getLast?_cons]
      cases (ofKind kind clauses).getLast? <;> rfl
    · have hhead : ofKind kind (c :: clauses) = ofKind kind clauses :=
        List.filter_cons_of_neg (by simp [hkind])
      rw [hhead, if_neg hkind]

theorem clause?_ofClauses (clauses : List Clause) (kind : Kind) :
    (ofClauses clauses).clause? kind = (ofKind kind clauses).getLast? := by
  rw [ofClauses, clause?_foldl_set]
  cases kind <;> exact Option.or_none

theorem mem_final_iff {clauses : List Clause} {c : Clause} :
    c ∈ final clauses ↔ (ofClauses clauses).clause? c.kind = some c := by
  rw [clause?_ofClauses, final, List.mem_filterMap]
  refine ⟨?_, ?_⟩
  · intro h
    obtain ⟨kind, -, hlast⟩ := h
    -- A clause is only ever the last one of its own kind.
    have hkind : c.kind = kind := by
      simpa using List.of_mem_filter (List.mem_of_getLast? hlast)
    rw [hkind, hlast]
  · intro h
    exact ⟨c.kind, c.kind.mem_inOrder, h⟩

/-! ## The command -/

theorem clauseWords_eq {α : Type} {keyword : String} {words : α → List Bytes} (clause : α → Clause)
    (hwritten : ∀ a, (clause a).written = Bytes.ofAscii keyword :: words a) (setting : Option α) :
    clauseWords keyword words setting = (setting.map clause).toList.flatMap Clause.written := by
  cases setting with
  | none => rfl
  | some a => simp [clauseWords, hwritten]

theorem arguments_eq (s : Sorting) :
    s.arguments = (Kind.inOrder.filterMap s.clause?).flatMap Clause.written := by
  have hdirection : s.direction.toList.map (fun d => Bytes.ofAscii d.keyword) =
      (s.direction.map Clause.direction).toList.flatMap Clause.written := by
    rcases s.direction with _ | _ | _ <;> rfl
  have halphabetic : (if s.alphabetic then [Bytes.ofAscii "ALPHA"] else []) =
      (if s.alphabetic then some Clause.alphabetic else none).toList.flatMap Clause.written := by
    cases s.alphabetic <;> rfl
  rw [arguments, hdirection, halphabetic, clauseWords_eq Clause.weight ?_ s.weight,
    clauseWords_eq (fun w => Clause.limit w.1 w.2) ?_ s.window, clauseWords_eq Clause.lookup ?_ s.lookup,
    clauseWords_eq Clause.destination ?_ s.destination, List.filterMap_eq_flatMap_toList, List.flatMap_assoc]
  · simp [Kind.inOrder, clause?]
  all_goals exact fun _ => rfl

/-- **The command has the last clause of each kind**, and depends on nothing else. -/
theorem arguments_ofClauses (clauses : List Clause) :
    (ofClauses clauses).arguments = (final clauses).flatMap Clause.written := by
  have hclauses : (ofClauses clauses).clause? = fun kind => (ofKind kind clauses).getLast? :=
    funext (clause?_ofClauses clauses)
  rw [arguments_eq, hclauses, final]

theorem parts_command (s : Sorting) (key : Bytes) :
    (s.command key).parts = Bytes.ofAscii "SORT" :: key :: s.arguments := rfl

/-! ## Reading it back -/

/-- Reads clauses from the left, each by the word that it starts with. -/
def readClauses : List Bytes → Option (List Clause)
  | [] => some []
  | word :: rest =>
    match Word.ofBytes? word, rest with
    | some .weight, pattern :: rest => (readClauses rest).map (.weight pattern :: ·)
    | some .limit, skip :: count :: rest => do
      let skip ← Decimal.readStrict skip
      let count ← Decimal.readStrict count
      (readClauses rest).map (.limit skip count :: ·)
    | some .lookup, pattern :: rest => (readClauses rest).map (.lookup pattern :: ·)
    | some .ascending, rest => (readClauses rest).map (.direction .ascending :: ·)
    | some .descending, rest => (readClauses rest).map (.direction .descending :: ·)
    | some .alphabetic, rest => (readClauses rest).map (.alphabetic :: ·)
    | some .destination, key :: rest => (readClauses rest).map (.destination key :: ·)
    | _, _ => none

/-- Reads a command that sorts: the key, and the clauses in the order in which they stand. -/
def readParts : List Bytes → Option (Bytes × List Clause)
  | word :: key :: rest =>
    if word = Bytes.ofAscii "SORT" then (readClauses rest).map (key, ·) else none
  | _ => none

/-- The command asks for its result to be stored. -/
def Storing (c : Command) : Prop :=
  ∃ key clauses destination, readParts c.parts = some (key, clauses) ∧
    .destination destination ∈ clauses

theorem readClauses_written (c : Clause) (rest : List Bytes) :
    readClauses (c.written ++ rest) = (readClauses rest).map (c :: ·) := by
  rw [Clause.written, List.cons_append]
  cases c with
  | weight pattern | lookup pattern | alphabetic | destination key =>
    simp only [Clause.word, Clause.operands, List.cons_append, List.nil_append, readClauses,
      Word.ofBytes?_text]
  | direction d =>
    cases d <;>
      simp only [Clause.word, Clause.operands, List.nil_append, readClauses, Word.ofBytes?_text]
  | limit skip count =>
    simp only [Clause.word, Clause.operands, List.cons_append, List.nil_append, readClauses,
      Word.ofBytes?_text, Decimal.readStrict_ofInt, Option.bind_eq_bind, Option.bind_some]

theorem readClauses_flatMap (clauses : List Clause) :
    readClauses (clauses.flatMap Clause.written) = some clauses := by
  induction clauses with
  | nil => rfl
  | cons c clauses ih => rw [List.flatMap_cons, readClauses_written, ih, Option.map_some]

theorem readParts_command (key : Bytes) (clauses : List Clause) :
    readParts ((ofClauses clauses).command key).parts = some (key, final clauses) := by
  rw [parts_command, arguments_ofClauses, readParts, if_pos rfl, readClauses_flatMap, Option.map_some]

theorem storing_command_iff {key : Bytes} {clauses : List Clause} :
    Storing ((ofClauses clauses).command key) ↔ (ofClauses clauses).stores = true := by
  unfold Storing
  simp only [readParts_command, Option.some.injEq, Prod.mk.injEq]
  rw [stores, Option.isSome_iff_exists]
  refine ⟨?_, ?_⟩
  · rintro ⟨_, _, destination, ⟨rfl, rfl⟩, hmem⟩
    obtain ⟨key', hkey, -⟩ := Option.map_eq_some_iff.mp (mem_final_iff.mp hmem)
    exact ⟨key', hkey⟩
  · rintro ⟨destination, hstored⟩
    refine ⟨_, _, destination, ⟨rfl, rfl⟩, mem_final_iff.mpr ?_⟩
    exact Option.map_eq_some_iff.mpr ⟨destination, hstored, rfl⟩

/-! ## Requests -/

/-- What the request says that was made from these clauses, to the remote side and to the client. -/
structure Sorted (key : Bytes) (clauses : List Clause) (r : Request) : Prop where
  parts : r.command.parts = Bytes.ofAscii "SORT" :: key :: (final clauses).flatMap Clause.written
  readBack : readParts r.command.parts = some (key, final clauses)
  counted : r.shape = .integer ↔ Storing r.command
  listed : r.shape = .list ↔ ¬ Storing r.command

theorem sorted_sortWith (key : Bytes) (clauses : List Clause) :
    Sorted key clauses (Request.sortWith key (ofClauses clauses)) := by
  have hcommand : (Request.sortWith key (ofClauses clauses)).command =
      (ofClauses clauses).command key := rfl
  have hshape : (Request.sortWith key (ofClauses clauses)).shape =
      if (ofClauses clauses).stores then .integer else .list := rfl
  refine ⟨?_, ?_, ?_, ?_⟩
  · rw [hcommand, parts_command, arguments_ofClauses]
  · rw [hcommand, readParts_command]
  · rw [hcommand, hshape, storing_command_iff]
    cases (ofClauses clauses).stores <;> simp
  · rw [hcommand, hshape, storing_command_iff]
    cases (ofClauses clauses).stores <;> simp

theorem command_eq_iff {key key' : Bytes} {clauses clauses' : List Clause} :
    (ofClauses clauses).command key = (ofClauses clauses').command key' ↔
      key = key' ∧ final clauses = final clauses' := by
  refine ⟨?_, ?_⟩
  · intro h
    have hread := readParts_command key clauses
    rw [h, readParts_command] at hread
    obtain ⟨hkey, hfinal⟩ := Prod.mk.inj (Option.some.inj hread)
    exact ⟨hkey.symm, hfinal.symm⟩
  · rintro ⟨rfl, hfinal⟩
    rw [command, command, arguments_ofClauses, arguments_ofClauses, hfinal]

theorem final_congr {clauses clauses' : List Clause}
    (h : ∀ kind, ofKind kind clauses = ofKind kind clauses') : final clauses = final clauses' := by
  simp only [final, h]

/-- **A sort depends on the last clause of each kind, and says which they are.** The command has them in the
order that is expected, and whoever reads it by its words gets them back, so two commands are the same
exactly if key and last clauses are. To give clauses in another order makes no difference, as long as those
of one kind keep theirs. The reply is taken for a number exactly if the command has the result stored, and
for a list otherwise. -/
theorem sort_normal_form :
    (∀ key clauses, Sorted key clauses (Request.sortWith key (ofClauses clauses))) ∧
    (∀ key key' clauses clauses',
      (ofClauses clauses).command key = (ofClauses clauses').command key' ↔
        key = key' ∧ final clauses = final clauses') ∧
    ∀ clauses clauses', (∀ kind, ofKind kind clauses = ofKind kind clauses') →
      ∀ key, (ofClauses clauses).command key = (ofClauses clauses').command key := by
  refine ⟨sorted_sortWith, fun _ _ _ _ => command_eq_iff, ?_⟩
  intro clauses clauses' h key
  exact command_eq_iff.mpr ⟨rfl, final_congr h⟩

/-- Clauses whose patterns and keys are spelt like the words of other clauses. -/
def misleading : List Clause :=
  [.destination (Bytes.ofAscii "BY"), .weight (Bytes.ofAscii "STORE"), .alphabetic, .limit (-1) 10,
    .weight (Bytes.ofAscii "ALPHA")]

/-- The same clauses in another order, in which the two of one kind stand as they stood. -/
def rearranged : List Clause :=
  [.weight (Bytes.ofAscii "STORE"), .limit (-1) 10, .weight (Bytes.ofAscii "ALPHA"), .alphabetic,
    .destination (Bytes.ofAscii "BY")]

theorem sort_normal_form_misleading :
    (∀ kind, ofKind kind misleading = ofKind kind rearranged) ∧
    (ofClauses misleading).command (Bytes.ofAscii "GET") =
      (ofClauses rearranged).command (Bytes.ofAscii "GET") ∧
    readParts (Request.sortWith (Bytes.ofAscii "GET") (ofClauses misleading)).command.parts =
      some (Bytes.ofAscii "GET", [.weight (Bytes.ofAscii "ALPHA"), .limit (-1) 10, .alphabetic,
        .destination (Bytes.ofAscii "BY")]) := by
  obtain ⟨hsorted, -, hreordered⟩ := sort_normal_form
  have hkinds : ∀ kind, ofKind kind misleading = ofKind kind rearranged := by
    intro kind
    cases kind <;> decide
  refine ⟨hkinds, hreordered _ _ hkinds _, ?_⟩
  rw [(hsorted (Bytes.ofAscii "GET") misleading).readBack]
  decide

end Sorting

end StoreClient
