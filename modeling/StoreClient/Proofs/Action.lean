import Mathlib.Data.List.Forall2
import StoreClient.Action

/-!
# `StoreClient/Proofs/Action.lean` — how a call can have ended

A call is a chain of smaller ones on one state, and everything that is proved about it starts from its
outcome. The lemmas here take an outcome apart: **a chain that returned did so because its first call
returned and the rest returned on the state left behind**, and a chain that failed has exactly one call
to blame. With them a call is read backwards, one step at a time, and no proof about a reply or a
session unfolds the monad.
-/

set_option autoImplicit false

namespace StoreClient

namespace Action

/-! ## Chains of calls

Stated over any error type, because the steps on a stream (`StreamAction`) and the calls above them
(`Action`) are chains of the same kind. -/

section Chains

variable {ε σ α β : Type}

theorem bind_eq_ok {call : EStateM ε σ α} {next : α → EStateM ε σ β} {s t : σ} {b : β} :
    (call >>= next) s = .ok b t ↔ ∃ a u, call s = .ok a u ∧ next a u = .ok b t := by
  show EStateM.bind call next s = .ok b t ↔ _
  unfold EStateM.bind
  cases call s with
  | ok a u =>
    refine ⟨?_, ?_⟩
    · intro h
      exact ⟨a, u, rfl, h⟩
    · intro h
      obtain ⟨a', u', h, hnext⟩ := h
      cases h
      exact hnext
  | error e u => simp

theorem bind_eq_error {call : EStateM ε σ α} {next : α → EStateM ε σ β} {s t : σ} {e : ε} :
    (call >>= next) s = .error e t ↔
      call s = .error e t ∨ ∃ a u, call s = .ok a u ∧ next a u = .error e t := by
  show EStateM.bind call next s = .error e t ↔ _
  unfold EStateM.bind
  cases call s with
  | ok a u =>
    refine ⟨?_, ?_⟩
    · intro h
      exact Or.inr ⟨a, u, rfl, h⟩
    · intro h
      rcases h with h | ⟨a', u', h, hnext⟩
      · cases h
      · cases h
        exact hnext
  | error e' u => simp

theorem bind_of_ok {call : EStateM ε σ α} {next : α → EStateM ε σ β} {s u : σ} {a : α}
    (h : call s = .ok a u) : (call >>= next) s = next a u := by
  show EStateM.bind call next s = _
  simp only [EStateM.bind, h]

theorem bind_of_error {call : EStateM ε σ α} {next : α → EStateM ε σ β} {s u : σ} {e : ε}
    (h : call s = .error e u) : (call >>= next) s = .error e u := by
  show EStateM.bind call next s = _
  simp only [EStateM.bind, h]

theorem bind_congr_apply {call call' : EStateM ε σ α} {next : α → EStateM ε σ β} {s s' : σ}
    (h : call s = call' s') : (call >>= next) s = (call' >>= next) s' := by
  show EStateM.bind call next s = EStateM.bind call' next s'
  simp only [EStateM.bind, h]

@[simp]
theorem pure_apply (a : α) (s : σ) : (pure a : EStateM ε σ α) s = .ok a s := rfl

@[simp]
theorem throw_apply (e : ε) (s : σ) : (throw e : EStateM ε σ α) s = .error e s := rfl

@[simp]
theorem get_apply (s : σ) : (get : EStateM ε σ σ) s = .ok s s := rfl

/-- A call for each element that returned: what holds of an element and the result of its call, whatever the
state, holds of all of them in order. -/
theorem forall₂_of_mapM {call : β → EStateM ε σ α} {R : β → α → Prop}
    (hcall : ∀ b s a t, call b s = .ok a t → R b a) {bs : List β} {as : List α} {s t : σ}
    (h : bs.mapM call s = .ok as t) : List.Forall₂ R bs as := by
  induction bs generalizing as s with
  | nil =>
    rw [List.mapM_nil] at h
    cases h
    exact .nil
  | cons b bs ih =>
    rw [List.mapM_cons] at h
    obtain ⟨a, u, hfirst, h⟩ := bind_eq_ok.mp h
    obtain ⟨as, v, hrest, hpure⟩ := bind_eq_ok.mp h
    cases hpure
    exact .cons (hcall b s a u hfirst) (ih hrest)

theorem length_of_mapM {call : β → EStateM ε σ α} {bs : List β} {as : List α} {s t : σ}
    (h : bs.mapM call s = .ok as t) : as.length = bs.length :=
  (forall₂_of_mapM (R := fun _ _ => True) (fun _ _ _ _ _ => trivial) h).length_eq.symm

end Chains

/-! ## Steps on a stream, and checks -/

section Lifting

variable {σ α : Type}

theorem ofStream_eq_ok {step : StreamAction σ α} {s t : σ} {a : α} :
    ofStream step s = .ok a t ↔ step s = .ok a t := by
  unfold ofStream
  cases step s with
  | ok a' t' => simp
  | error e t' => simp

/-- What fails on the stream fails as an error of the stream. -/
theorem ofStream_eq_error {step : StreamAction σ α} {s t : σ} {e : Error} :
    ofStream step s = .error e t ↔ ∃ failure, e = .io failure ∧ step s = .error failure t := by
  unfold ofStream
  cases step s with
  | ok a' t' => simp
  | error failure t' =>
    refine ⟨?_, ?_⟩
    · intro h
      cases h
      exact ⟨failure, rfl, rfl⟩
    · intro h
      obtain ⟨failure', rfl, h⟩ := h
      cases h
      rfl

theorem ofCheck_eq_ok {check : Except ProtocolFault α} {s t : σ} {a : α} :
    ofCheck check s = .ok a t ↔ check = .ok a ∧ t = s := by
  cases check with
  | ok a' => simp [ofCheck, eq_comm]
  | error fault => simp [ofCheck]

theorem ofCheck_eq_error {check : Except ProtocolFault α} {s t : σ} {e : Error} :
    ofCheck check s = .error e t ↔ ∃ fault, check = .error fault ∧ e = .protocol fault ∧ t = s := by
  cases check with
  | ok a' => simp [ofCheck]
  | error fault => simp [ofCheck, eq_comm]

end Lifting

/-! ## Repeated calls -/

section Repetition

variable {σ α : Type}

theorem times_zero (call : Action σ α) (s : σ) : times call 0 s = .ok [] s := rfl

/-- The accumulator only ever goes in front: gathering onto `results` is gathering onto nothing and
putting the front back. -/
theorem timesMore_eq (call : Action σ α) (count : Nat) (results : List α) (s : σ) :
    timesMore call count results s = (do return results.reverse ++ (← times call count)) s := by
  induction count generalizing results s with
  | zero => simp [timesMore, bind_of_ok (times_zero call s)]
  | succ count ih =>
    -- Both sides make the same call first; they differ in where its result is put.
    unfold times timesMore
    cases h : call s with
    | error e t => rw [bind_of_error h, bind_of_error (bind_of_error h)]
    | ok a t =>
      rw [bind_of_ok h, ih]
      cases h' : times call count t with
      | error e u =>
        rw [bind_of_error h', bind_of_error]
        rw [bind_of_ok h, ih, bind_of_error h']
      | ok as u =>
        rw [bind_of_ok h', bind_of_ok (a := a :: as) (u := u)]
        · simp
        · rw [bind_of_ok h, ih, bind_of_ok h']
          simp

theorem times_succ (call : Action σ α) (count : Nat) :
    times call (count + 1) = do
      let a ← call
      let as ← times call count
      return a :: as := by
  funext s
  show (call >>= fun a => timesMore call count [a]) s = _
  cases h : call s with
  | error e t => rw [bind_of_error h, bind_of_error h]
  | ok a t =>
    rw [bind_of_ok h, bind_of_ok h, timesMore_eq]
    rfl

/-- A repetition that returned made its first call and then all the others. -/
theorem times_succ_eq_ok {call : Action σ α} {count : Nat} {s t : σ} {as : List α} :
    times call (count + 1) s = .ok as t ↔
      ∃ a u rest, call s = .ok a u ∧ times call count u = .ok rest t ∧ as = a :: rest := by
  rw [times_succ, bind_eq_ok]
  refine ⟨?_, ?_⟩
  · intro h
    obtain ⟨a, u, hcall, hrest⟩ := h
    obtain ⟨rest, u', htimes, hpure⟩ := bind_eq_ok.mp hrest
    cases hpure
    exact ⟨a, u, rest, hcall, htimes, rfl⟩
  · intro h
    obtain ⟨a, u, rest, hcall, htimes, rfl⟩ := h
    exact ⟨a, u, hcall, bind_eq_ok.mpr ⟨rest, t, htimes, rfl⟩⟩

end Repetition

/-! ## Which errors a call can end in -/

section Failures

variable {σ α β : Type} {P : Error → Prop}

/-- Whatever error the call ends in, it is one of these. -/
def FailsOnlyWith (P : Error → Prop) (call : Action σ α) : Prop :=
  ∀ s e t, call s = .error e t → P e

theorem FailsOnlyWith.pure (a : α) : FailsOnlyWith P (pure a : Action σ α) := by
  intro s e t h
  cases h

theorem FailsOnlyWith.throw {e : Error} (h : P e) : FailsOnlyWith P (throw e : Action σ α) := by
  intro s e' t he
  cases he
  exact h

theorem FailsOnlyWith.bind {call : Action σ α} {next : α → Action σ β}
    (hcall : FailsOnlyWith P call) (hnext : ∀ a, FailsOnlyWith P (next a)) :
    FailsOnlyWith P (call >>= next) := by
  intro s e t h
  rcases bind_eq_error.mp h with h | ⟨a, u, _, h⟩
  · exact hcall s e t h
  · exact hnext a u e t h

theorem FailsOnlyWith.ofStream {step : StreamAction σ α} (h : ∀ failure, P (.io failure)) :
    FailsOnlyWith P (ofStream step) := by
  intro s e t he
  obtain ⟨failure, rfl, _⟩ := ofStream_eq_error.mp he
  exact h failure

theorem FailsOnlyWith.ofCheck {check : Except ProtocolFault α} (h : ∀ fault, P (.protocol fault)) :
    FailsOnlyWith P (ofCheck check : Action σ α) := by
  intro s e t he
  obtain ⟨fault, _, rfl, _⟩ := ofCheck_eq_error.mp he
  exact h fault

theorem FailsOnlyWith.times {call : Action σ α} (h : FailsOnlyWith P call) (count : Nat) :
    FailsOnlyWith P (times call count) := by
  induction count with
  | zero => exact .pure []
  | succ count ih =>
    rw [times_succ]
    exact h.bind fun a => ih.bind fun as => .pure (a :: as)

end Failures

end Action

end StoreClient
