import StoreClient.Proofs.Action.Agreement
import StoreClient.Reply.Reader

/-!
# `StoreClient/Proofs/Reply/Agreement.lean` — a reply is read off its bytes alone

A reader asks its source for the next byte and for nothing else. So **two sources that agree on the next
byte, and go on to do so, give every reader the same reply or the same error** (`Frame.agree_read`), whatever the
sources are made of. It is proved along the readers, one lemma for each.
-/

set_option autoImplicit false

namespace StoreClient

open StoreClient.Action

section Reading

variable {σ ρ : Type} [ByteSource σ] [ByteSource ρ] {R : σ → ρ → Prop}

/-- Related sources have the same next byte, and are related after it. -/
def Coupled (R : σ → ρ → Prop) : Prop :=
  Agree R R (ByteSource.next : StreamAction σ (Option UInt8)) ByteSource.next

theorem agree_pullLine (hnext : Coupled R) (room : Nat) (seen : Bytes) :
    Agree R R (pullLine room seen : StreamAction σ (Bytes × LineStop)) (pullLine room seen) := by
  induction room generalizing seen with
  | zero => exact .pure _
  | succ room ih =>
    rw [pullLine, pullLine]
    refine hnext.bind fun byte? => ?_
    cases byte? with
    | none => exact .pure _
    | some b =>
      by_cases hb : b = Bytes.lf
      · simp only [if_pos hb]
        exact .pure _
      · simp only [if_neg hb]
        exact ih (b :: seen)

theorem agree_pullExactly (hnext : Coupled R) (count : Nat) (seen : Bytes) :
    Agree R R (pullExactly count seen : StreamAction σ Bytes) (pullExactly count seen) := by
  induction count generalizing seen with
  | zero => exact .pure _
  | succ count ih =>
    rw [pullExactly, pullExactly]
    refine hnext.bind fun byte? => ?_
    cases byte? with
    | none => exact .throw (fun _ _ h => h) _
    | some b => exact ih (b :: seen)

theorem agree_readLine (hnext : Coupled R) : Agree R R (readLine : Action σ Bytes) readLine := by
  unfold readLine
  refine (Agree.ofStream (agree_pullLine hnext _ _)).bind fun found => ?_
  cases finishLine found with
  | ok line => exact .pure line
  | error e => exact .throw (fun _ _ h => h) e

namespace Frame

theorem agree_readPayload (hnext : Coupled R) (length : Nat) :
    Agree R R (readPayload length : Action σ Bytes) (readPayload length) :=
  (Agree.ofStream (agree_pullExactly hnext _ _)).bind fun _ => .ofCheck (fun _ _ h => h) _

theorem agree_readBy (hnext : Coupled R) {limits : Limits} {items : Nat → Action σ (List Frame)}
    {items' : Nat → Action ρ (List Frame)}
    (hitems : ∀ n, Agree R R (items n) (items' n)) :
    Agree R R (readBy limits items) (readBy limits items') := by
  unfold readBy
  refine (agree_readLine hnext).bind fun line => ?_
  refine (Agree.ofCheck (fun _ _ h => h) _).bind fun header => ?_
  cases header with
  | complete frame => exact .pure frame
  | payload n => exact (agree_readPayload hnext n).bind fun payload => .pure (Frame.bulk payload)
  | items n => exact (hitems n).bind fun items => .pure (Frame.array items)

theorem agree_read (hnext : Coupled R) (limits : Limits) :
    Agree R R (read limits : Action σ Frame) (read limits) := by
  show Agree R R (readWithin limits Limits.maxNesting) (readWithin limits Limits.maxNesting)
  induction Limits.maxNesting with
  | zero => exact agree_readBy hnext fun _ => .throw (fun _ _ h => h) _
  | succ room ih => exact agree_readBy hnext fun n => ih.times n

/-- What the next byte leaves true of a source is true of it after a reply. A source agrees with itself,
and the property rides along. -/
theorem read_keeps {P : σ → Prop} (hnext : ∀ s, P s → Ends P (ByteSource.next s)) (limits : Limits)
    {s : σ} (h : P s) : Ends P (read limits s) := by
  have hcoupled : Coupled fun s t : σ => s = t ∧ P s := by
    intro s t ⟨hq, hs⟩
    subst hq
    have hs' := hnext s hs
    cases hn : ByteSource.next s with
    | ok byte? s' => exact .returned ⟨rfl, by rwa [hn] at hs'⟩
    | error e s' => exact .failed ⟨rfl, by rwa [hn] at hs'⟩
  exact (agree_read hcoupled limits s s ⟨rfl, h⟩).ends fun _ _ hst => hst.2

end Frame

end Reading

end StoreClient
