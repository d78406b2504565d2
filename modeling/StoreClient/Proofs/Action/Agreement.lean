import StoreClient.Proofs.Action

/-!
# `StoreClient/Proofs/Action/Agreement.lean` — calls that end alike

Two calls may work on states of different types and still be the same call in all that matters: started
on related states, both return the same result or both fail with the same error, and the states that they
leave behind are related again. `Agree R E x y` says that, with one relation for the states after a return
and one for those after a failure, because a failure may leave less to compare.

Agreement passes from the parts of a call to the whole. So a statement about two streams, or about a
stream and the bytes that it is going to deliver, is proved where a single byte is read and holds of
everything that is built on it.
-/

set_option autoImplicit false

namespace StoreClient

namespace Action

variable {ε σ ρ α β : Type} {R E : σ → ρ → Prop}

/-- Two outcomes with one result, or with one error. -/
inductive Alike (R E : σ → ρ → Prop) :
    EStateM.Result ε σ α → EStateM.Result ε ρ α → Prop where
  | returned {a : α} {s : σ} {t : ρ} (h : R s t) : Alike R E (.ok a s) (.ok a t)
  | failed {e : ε} {s : σ} {t : ρ} (h : E s t) : Alike R E (.error e s) (.error e t)

/-- Whichever way the call ended, the state that it left behind has the property. -/
def Ends (P : σ → Prop) : EStateM.Result ε σ α → Prop
  | .ok _ s => P s
  | .error _ s => P s

theorem Alike.ends {P : σ → Prop} {x : EStateM.Result ε σ α} {y : EStateM.Result ε ρ α}
    (h : Alike R R x y) (hR : ∀ s t, R s t → P s) : Ends P x := by
  cases h with
  | returned h => exact hR _ _ h
  | failed h => exact hR _ _ h

/-- Two outcomes that are both like a third are like one another. What is known of the third, in the state
that it left behind, can be kept. -/
theorem Alike.join {ν : Type} {R' E' : ρ → ν → Prop} {S F : σ → ν → Prop} {P : ν → Prop}
    {x : EStateM.Result ε σ α} {y : EStateM.Result ε ρ α} {z : EStateM.Result ε ν α}
    (hx : Alike S F x z) (hy : Alike R' E' y z) (hz : Ends P z) :
    Alike (fun s t => ∃ u, P u ∧ S s u ∧ R' t u) (fun s t => ∃ u, P u ∧ F s u ∧ E' t u) x y := by
  cases hx with
  | returned h =>
    cases hy with
    | returned h' => exact .returned ⟨_, hz, h, h'⟩
  | failed h =>
    cases hy with
    | failed h' => exact .failed ⟨_, hz, h, h'⟩

theorem Alike.imp {S F : σ → ρ → Prop} {x : EStateM.Result ε σ α} {y : EStateM.Result ε ρ α}
    (h : Alike R E x y) (hR : ∀ s t, R s t → S s t) (hE : ∀ s t, E s t → F s t) : Alike S F x y := by
  cases h with
  | returned h => exact .returned (hR _ _ h)
  | failed h => exact .failed (hE _ _ h)

/-- What is known of either state is kept beside what relates the two. -/
theorem Alike.with_ends {P : σ → Prop} {Q : ρ → Prop} {x : EStateM.Result ε σ α}
    {y : EStateM.Result ε ρ α} (h : Alike R E x y) (hx : Ends P x) (hy : Ends Q y) :
    Alike (fun s t => R s t ∧ P s ∧ Q t) (fun s t => E s t ∧ P s ∧ Q t) x y := by
  cases h with
  | returned h => exact .returned ⟨h, hx, hy⟩
  | failed h => exact .failed ⟨h, hx, hy⟩

theorem Ends.trivial (x : EStateM.Result ε σ α) : Ends (fun _ => True) x := by
  cases x <;> exact True.intro

theorem Ends.imp {P Q : σ → Prop} {x : EStateM.Result ε σ α} (h : Ends P x)
    (hPQ : ∀ s, P s → Q s) : Ends Q x := by
  cases x with
  | ok a s => exact hPQ s h
  | error e s => exact hPQ s h

theorem Ends.bind {P : σ → Prop} {x : EStateM ε σ α} {f : α → EStateM ε σ β} {s : σ}
    (hx : Ends P (x s)) (hf : ∀ a s', P s' → Ends P (f a s')) : Ends P ((x >>= f) s) := by
  show Ends P (EStateM.bind x f s)
  unfold EStateM.bind
  generalize x s = outcome at hx ⊢
  cases outcome with
  | ok a s' => exact hf a s' hx
  | error e s' => exact hx

/-- On related states the two calls end alike. -/
def Agree (R E : σ → ρ → Prop) (x : EStateM ε σ α) (y : EStateM ε ρ α) : Prop :=
  ∀ s t, R s t → Alike R E (x s) (y t)

/-- What the one call returns, the other does. -/
theorem Agree.returns {x : EStateM ε σ α} {y : EStateM ε ρ α} {s : σ} {t t' : ρ} {a : α}
    (h : Agree R E x y) (hst : R s t) (hy : y t = .ok a t') : ∃ s', x s = .ok a s' ∧ R s' t' := by
  have halike := h s t hst
  rw [hy] at halike
  generalize x s = outcome at halike ⊢
  cases halike with
  | returned h' => exact ⟨_, rfl, h'⟩

/-! ## Chains -/

theorem Agree.pure (a : α) : Agree R E (pure a : EStateM ε σ α) (pure a) :=
  fun _ _ h => .returned h

theorem Agree.throw (hsub : ∀ s t, R s t → E s t) (e : ε) :
    Agree R E (throw e : EStateM ε σ α) (throw e) :=
  fun s t h => .failed (hsub s t h)

theorem Alike.bind {S : σ → ρ → Prop} {x : EStateM ε σ α} {y : EStateM ε ρ α} {f : α → EStateM ε σ β}
    {g : α → EStateM ε ρ β} {s : σ} {t : ρ} (hxy : Alike S E (x s) (y t))
    (hfg : ∀ a s t, S s t → Alike R E (f a s) (g a t)) : Alike R E ((x >>= f) s) ((y >>= g) t) := by
  show Alike R E (EStateM.bind x f s) (EStateM.bind y g t)
  unfold EStateM.bind
  generalize x s = outcome at hxy ⊢
  generalize y t = outcome' at hxy ⊢
  cases hxy with
  | returned h => exact hfg _ _ _ h
  | failed h => exact .failed h

theorem Agree.bind {x : EStateM ε σ α} {y : EStateM ε ρ α} {f : α → EStateM ε σ β}
    {g : α → EStateM ε ρ β} (hxy : Agree R E x y) (hfg : ∀ a, Agree R E (f a) (g a)) :
    Agree R E (x >>= f) (y >>= g) :=
  fun s t h => (hxy s t h).bind hfg

/-- A call that looks at its state first goes on from what it saw. -/
theorem Agree.get {f : σ → EStateM ε σ α} {g : ρ → EStateM ε ρ α}
    (h : ∀ s t, R s t → Agree R E (f s) (g t)) : Agree R E (get >>= f) (get >>= g) :=
  fun s t hst => h s t hst s t hst

theorem Agree.mapM {γ δ : Type} {call : γ → EStateM ε σ α} {call' : δ → EStateM ε ρ α} {f : γ → δ}
    (h : ∀ c, Agree R E (call c) (call' (f c))) (cs : List γ) :
    Agree R E (cs.mapM call) ((cs.map f).mapM call') := by
  induction cs with
  | nil =>
    rw [List.map_nil, List.mapM_nil, List.mapM_nil]
    exact .pure []
  | cons c cs ih =>
    rw [List.map_cons, List.mapM_cons, List.mapM_cons]
    exact (h c).bind fun a => ih.bind fun as => .pure (a :: as)

theorem Agree.each {γ : Type} {call : γ → EStateM ε σ α} {call' : γ → EStateM ε ρ α}
    (h : ∀ c, Agree R E (call c) (call' c)) (cs : List γ) : Agree R E (cs.mapM call) (cs.mapM call') := by
  have hid := Agree.mapM (f := id) h cs
  rwa [List.map_id] at hid

/-! ## Streams, checks and repetition -/

theorem Alike.ofStream {x : StreamAction σ α} {y : StreamAction ρ α} {s : σ} {t : ρ}
    (h : Alike R E (x s) (y t)) : Alike R E (ofStream x s) (ofStream y t) := by
  unfold Action.ofStream
  generalize x s = outcome at h ⊢
  generalize y t = outcome' at h ⊢
  cases h with
  | returned h => exact .returned h
  | failed h => exact .failed h

theorem Agree.ofStream {x : StreamAction σ α} {y : StreamAction ρ α} (h : Agree R E x y) :
    Agree R E (ofStream x) (ofStream y) :=
  fun s t hst => (h s t hst).ofStream

theorem Agree.ofCheck (hsub : ∀ s t, R s t → E s t) (check : Except ProtocolFault α) :
    Agree R E (ofCheck check : Action σ α) (ofCheck check) := by
  cases check with
  | ok a => exact .pure a
  | error fault => exact .throw hsub (Error.protocol fault)

theorem Agree.times {x : Action σ α} {y : Action ρ α} (h : Agree R E x y) (count : Nat) :
    Agree R E (times x count) (times y count) := by
  induction count with
  | zero => exact .pure []
  | succ count ih =>
    rw [times_succ, times_succ]
    exact h.bind fun a => ih.bind fun as => .pure (a :: as)

end Action

end StoreClient
