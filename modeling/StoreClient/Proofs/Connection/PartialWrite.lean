import StoreClient.Proofs.Connection.Footprint

/-!
# `StoreClient/Proofs/Connection/PartialWrite.lean` — how much of the bytes went out

A sending can fail after any number of bytes, or when all of them are out and are being flushed; and behind
a sending that succeeded, the reading of the reply can fail. `Footprint` tells which calls were made on the
transport until then. This file tells what the remote side was given by them: **a front of the bytes, and
all of them unless a write failed** (`SentFront`). That is so however a call ends, so nothing here asks how
it did.

A write that accepts nothing is among those that failed: it is reported as one (`IoError.stalledWrite`). A
flush is not among them, because nothing is flushed before all bytes were accepted.
-/

set_option autoImplicit false

namespace StoreClient

open StoreClient.Action

def Event.isWriteFault : Event → Bool
  | .sent [] | .writeFailed _ => true
  | _ => false

variable {τ : Type}

/-- Between the two states a front of the bytes went out. -/
structure SentFront (bytes : Bytes) (r r' : Recorder τ) : Prop where
  front : ∃ p, p <+: bytes ∧ r'.sent = r.sent ++ p
  whole : (∀ e ∈ r'.log, e.isWriteFault = false) → r'.sent = r.sent ++ bytes

namespace SentFront

variable {bytes p : Bytes} {r u r' : Recorder τ}

theorem all (h : r'.sent = r.sent ++ bytes) : SentFront bytes r r' :=
  ⟨⟨bytes, List.prefix_rfl, h⟩, fun _ => h⟩

/-- A write failed before it accepted anything. -/
theorem none {e : Event} (hlog : r'.log = e :: r.log) (hsilent : e.bytesSent = [])
    (hfault : e.isWriteFault = true) : SentFront bytes r r' := by
  have hsent : r'.sent = r.sent := by simp [Recorder.sent, hlog, hsilent]
  refine ⟨⟨[], List.nil_prefix, by simp [hsent]⟩, ?_⟩
  intro h
  have hnot := h e (by simp [hlog])
  cases hnot.symm.trans hfault

/-- The front grows by what went out before. -/
theorem after (hsent : u.sent = r.sent ++ p) (h : SentFront bytes u r') :
    SentFront (p ++ bytes) r r' := by
  obtain ⟨⟨q, hq, hfront⟩, hwhole⟩ := h
  refine ⟨⟨p ++ q, (List.prefix_append_right_inj p).mpr hq, ?_⟩, ?_⟩
  · rw [hfront, hsent, List.append_assoc]
  · intro hlog
    rw [hwhole hlog, hsent, List.append_assoc]

/-- Calls that send nothing change nothing. -/
theorem later {events : List Event} (h : SentFront bytes r u) (hlog : r'.log = events ++ u.log)
    (hsilent : events.reverse.flatMap Event.bytesSent = []) : SentFront bytes r r' := by
  have hsent : r'.sent = u.sent := by simp [Recorder.sent, hlog, hsilent]
  obtain ⟨⟨q, hq, hfront⟩, hwhole⟩ := h
  refine ⟨⟨q, hq, hsent.trans hfront⟩, ?_⟩
  intro hnone
  refine hsent.trans (hwhole ?_)
  intro e he
  exact hnone e (by simp [hlog, he])

end SentFront

/-! ## Sending -/

section Sending

variable [Transport τ]

theorem Recorder.writeAll_front (bytes : Bytes) (r : Recorder τ) :
    Ends (SentFront bytes r) (Transport.writeAll bytes r) := by
  -- On the bytes that are left; each write that accepts some of them leaves fewer.
  induction bytes using Transport.writeAll.induct generalizing r with
  | case1 =>
    rw [Transport.writeAll]
    exact SentFront.all (by simp)
  | case2 b rest ih =>
    rw [Transport.writeAll]
    cases hwrite : Transport.write (b :: rest) r with
    | error e u =>
      rw [bind_of_error hwrite]
      exact SentFront.none (Recorder.log_of_logged_error hwrite) rfl rfl
    | ok accepted u =>
      rw [bind_of_ok hwrite]
      cases accepted with
      | zero => exact SentFront.none (Recorder.log_of_logged_ok hwrite) rfl rfl
      | succ n =>
        have hsplit : (b :: rest).take (n + 1) ++ rest.drop n = b :: rest := by simp
        have hsent := (Recorder.write_eq_ok hwrite).1
        refine (ih n u).imp ?_
        intro r' h
        have hfront := h.after hsent
        rwa [hsplit] at hfront

/-- A flush sends nothing, whether it works or not. -/
theorem Recorder.deliver_front (bytes : Bytes) (r : Recorder τ) :
    Ends (SentFront bytes r) (Transport.deliver bytes r) := by
  refine Ends.bind (Recorder.writeAll_front bytes r) ?_
  intro _ u hu
  cases hflush : Transport.flush u with
  | ok _ r' =>
    have hlog : r'.log = [.flushed] ++ u.log := Recorder.log_of_logged_ok hflush
    exact hu.later hlog rfl
  | error e r' =>
    have hlog : r'.log = [.flushFailed e] ++ u.log := Recorder.log_of_logged_error hflush
    exact hu.later hlog rfl

end Sending

/-! ## The connection -/

namespace Connection

variable [Transport τ] {bytes : Bytes} {c : Connection (Recorder τ)}

/-- Between the two connections a front of the bytes went out. -/
def SentFront (bytes : Bytes) (c c' : Connection (Recorder τ)) : Prop :=
  StoreClient.SentFront bytes c.stream.transport c'.stream.transport

theorem write_front (usable : c.broken = false) (bytes : Bytes) :
    Ends (SentFront bytes c) (write bytes c) := by
  have hdeliver := Recorder.deliver_front bytes c.stream.transport
  simp only [write, guarded, usable, Bool.false_eq_true, if_false, ofStream, Buffered.deliver]
  cases hd : Transport.deliver bytes c.stream.transport with
  | ok a t => rwa [hd] at hdeliver
  | error e t => rwa [hd] at hdeliver

omit [Transport τ] in
theorem SentFront.reading {u c' : Connection (Recorder τ)} (h : SentFront bytes c u)
    (hread : ReadSince u.log c'.stream) : SentFront bytes c c' := by
  obtain ⟨reads, hreads, hlog⟩ := hread
  exact h.later hlog hreads.bytesSent

theorem exchange_front (usable : c.broken = false) (command : Command) :
    Ends (SentFront command.encode c) (exchange command c) := by
  refine Ends.bind (write_front usable command.encode) ?_
  intro _ u hu
  exact (readFrame_log (ReadSince.refl u.stream)).imp fun c' hread => hu.reading hread

theorem exchangeAll_front (usable : c.broken = false) (outgoing : Bytes) (queue : List Shape) :
    Ends (SentFront outgoing c) (exchangeAll outgoing queue c) := by
  by_cases hout : outgoing = []
  · have hstart : SentFront outgoing c c := StoreClient.SentFront.all (by simp [hout])
    rw [hout, exchangeAll_nil, ← hout]
    exact (replies_log (ReadSince.refl c.stream) queue).imp fun c' hread => hstart.reading hread
  · rw [exchangeAll_of_ne_nil hout]
    refine Ends.bind (write_front usable outgoing) ?_
    intro _ u hu
    exact (replies_log (ReadSince.refl u.stream) queue).imp fun c' hread => hu.reading hread

end Connection

end StoreClient
