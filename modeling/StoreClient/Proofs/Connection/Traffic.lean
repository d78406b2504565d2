import StoreClient.Proofs.Connection
import StoreClient.Transport.Recorder

/-!
# `StoreClient/Proofs/Connection/Traffic.lean` — what passes over a connection

A watched transport (`Recorder`) knows what went out and what came in. What came in is more than what was
read: the buffer holds the rest. `Passed b out taken` says both things of a stream at once — `out` is
all that went out, and `taken` is all that was read — and this file says what each call makes of it,
from one write and one byte up to a whole exchange:

* a call that sends and returned has sent **exactly its bytes**, in however many writes;
* a call that reads a reply and returned has taken **exactly one reply**.

Calls that failed are not followed. Each of them breaks the connection.
-/

set_option autoImplicit false

namespace StoreClient

open StoreClient.Action

variable {τ : Type}

/-! ## The log -/

namespace Recorder

theorem sent_cons (t u : τ) (event : Event) (log : List Event) :
    (⟨t, event :: log⟩ : Recorder τ).sent = (⟨u, log⟩ : Recorder τ).sent ++ event.bytesSent := by
  simp [sent]

theorem received_cons (t u : τ) (event : Event) (log : List Event) :
    (⟨t, event :: log⟩ : Recorder τ).received =
      (⟨u, log⟩ : Recorder τ).received ++ event.bytesReceived := by
  simp [received]

theorem logged_eq_ok {α : Type} {onResult : α → Event} {onFailure : IoError → Event}
    {step : StreamAction τ α} {r r' : Recorder τ} {a : α}
    (h : logged onResult onFailure step r = .ok a r') :
    r'.sent = r.sent ++ (onResult a).bytesSent ∧
      r'.received = r.received ++ (onResult a).bytesReceived := by
  unfold logged at h
  cases hstep : step r.transport with
  | ok b t =>
    rw [hstep] at h
    cases h
    exact ⟨sent_cons _ _ _ _, received_cons _ _ _ _⟩
  | error e t =>
    rw [hstep] at h
    cases h

variable [Transport τ]

theorem write_eq_ok {bytes : Bytes} {r r' : Recorder τ} {accepted : Nat}
    (h : Transport.write bytes r = .ok accepted r') :
    r'.sent = r.sent ++ bytes.take accepted ∧ r'.received = r.received := by
  obtain ⟨hsent, hreceived⟩ := logged_eq_ok h
  exact ⟨hsent, hreceived.trans (List.append_nil _)⟩

theorem flush_eq_ok {r r' : Recorder τ} (h : Transport.flush r = .ok () r') :
    r'.sent = r.sent ∧ r'.received = r.received := by
  obtain ⟨hsent, hreceived⟩ := logged_eq_ok h
  exact ⟨hsent.trans (List.append_nil _), hreceived.trans (List.append_nil _)⟩

theorem read_eq_ok {atMost : Nat} {r r' : Recorder τ} {bytes : Bytes}
    (h : Transport.read atMost r = .ok bytes r') :
    r'.sent = r.sent ∧ r'.received = r.received ++ bytes := by
  obtain ⟨hsent, hreceived⟩ := logged_eq_ok h
  exact ⟨hsent.trans (List.append_nil _), hreceived⟩

/-- However the bytes were cut, all of them went out. -/
theorem writeAll_eq_ok {bytes : Bytes} {r r' : Recorder τ}
    (h : Transport.writeAll bytes r = .ok () r') :
    r'.sent = r.sent ++ bytes ∧ r'.received = r.received := by
  induction bytes using Transport.writeAll.induct generalizing r with
  | case1 =>
    rw [Transport.writeAll] at h
    cases h
    exact ⟨(List.append_nil _).symm, rfl⟩
  | case2 b rest ih =>
    rw [Transport.writeAll] at h
    obtain ⟨accepted, u, hwrite, hrest⟩ := bind_eq_ok.mp h
    obtain ⟨hsent, hreceived⟩ := write_eq_ok hwrite
    cases accepted with
    | zero => cases hrest
    | succ accepted =>
      -- What was accepted and what is left are the bytes again.
      obtain ⟨hsent', hreceived'⟩ := ih accepted hrest
      refine ⟨?_, hreceived'.trans hreceived⟩
      rw [hsent', hsent, List.append_assoc, List.take_succ_cons, List.cons_append,
        List.take_append_drop]

theorem deliver_eq_ok {bytes : Bytes} {r r' : Recorder τ}
    (h : Transport.deliver bytes r = .ok () r') :
    r'.sent = r.sent ++ bytes ∧ r'.received = r.received := by
  obtain ⟨_, u, hwrite, hflush⟩ := bind_eq_ok.mp h
  obtain ⟨hsent, hreceived⟩ := writeAll_eq_ok hwrite
  obtain ⟨hsent', hreceived'⟩ := flush_eq_ok hflush
  exact ⟨hsent'.trans hsent, hreceived'.trans hreceived⟩

end Recorder

variable [Transport τ]

/-! ## The buffered stream -/

/-- All that went out is `out`. What came in is `taken`, which was read, and what the buffer holds. -/
structure Passed (b : Buffered (Recorder τ)) (out taken : Bytes) : Prop where
  sent : b.transport.sent = out
  received : b.transport.received = taken ++ b.buffer

namespace Passed

variable {b b' : Buffered (Recorder τ)} {out taken : Bytes}

theorem deliver {bytes : Bytes} (h : Passed b out taken)
    (hcall : Buffered.deliver bytes b = .ok () b') : Passed b' (out ++ bytes) taken := by
  obtain ⟨t, hdel, rfl⟩ := Buffered.deliver_eq_ok.mp hcall
  obtain ⟨hsent, hreceived⟩ := Recorder.deliver_eq_ok hdel
  exact ⟨hsent.trans (by rw [h.sent]), hreceived.trans h.received⟩

/-- A byte that was read came from the buffer, or was the first of those that just came in. -/
theorem next {x : UInt8} (h : Passed b out taken) (hcall : ByteSource.next b = .ok (some x) b') :
    Passed b' out (taken ++ [x]) := by
  obtain ⟨r, buffer⟩ := b
  have hcall : Buffered.next ⟨r, buffer⟩ = .ok (some x) b' := hcall
  unfold Buffered.next at hcall
  cases buffer with
  | cons y rest =>
    -- Nothing came in; the byte only changed sides.
    cases hcall
    refine ⟨h.sent, h.received.trans ?_⟩
    rw [List.append_assoc, List.singleton_append]
  | nil =>
    -- The buffer was empty, so all that came in before has been read.
    cases hread : Transport.read Buffered.capacity r with
    | ok bytes r' =>
      obtain ⟨hsent, hreceived⟩ := Recorder.read_eq_ok hread
      have hbefore : r.received = taken := h.received.trans (List.append_nil _)
      cases bytes with
      | nil => simp [hread] at hcall
      | cons y rest =>
        simp only [hread] at hcall
        cases hcall
        refine ⟨hsent.trans h.sent, hreceived.trans ?_⟩
        rw [hbefore, List.append_assoc, List.singleton_append]
    | error e r' => simp [hread] at hcall

theorem delivers {p : Bytes} (h : Passed b out taken) (hdel : Delivers b p b') :
    Passed b' out (taken ++ p) := by
  induction hdel generalizing taken with
  | nothing => rwa [List.append_nil]
  | byte first rest ih =>
    have hrest := ih (h.next first)
    rwa [List.append_assoc, List.singleton_append] at hrest

end Passed

/-! ## The connection -/

namespace Connection

variable {c c' : Connection (Recorder τ)} {out taken : Bytes}

theorem passed_write {bytes : Bytes} (h : Passed c.stream out taken)
    (hcall : write bytes c = .ok () c') : Passed c'.stream (out ++ bytes) taken := by
  obtain ⟨_, stream, hdel, rfl⟩ := guarded_eq_ok.mp hcall
  exact h.deliver (ofStream_eq_ok.mp hdel)

/-- What was read is one reply. -/
theorem passed_readFrame {f : Frame} (h : Passed c.stream out taken)
    (hcall : readFrame c = .ok f c') :
    ∃ p, Derives c.limits 0 p f ∧ Passed c'.stream out (taken ++ p) := by
  obtain ⟨_, stream, hread, rfl⟩ := guarded_eq_ok.mp hcall
  obtain ⟨p, hdel, hp⟩ := Frame.read_eq_ok_iff.mp hread
  exact ⟨p, hp, h.delivers hdel⟩

theorem passed_exchange {command : Command} {reply : Frame} (h : Passed c.stream out taken)
    (hcall : exchange command c = .ok reply c') :
    ∃ p, Derives c.limits 0 p reply ∧ Passed c'.stream (out ++ command.encode) (taken ++ p) := by
  obtain ⟨_, u, hsend, hread⟩ := bind_eq_ok.mp hcall
  obtain ⟨p, hp, hpassed⟩ := passed_readFrame (passed_write h hsend) hread
  have hlimits : u.limits = c.limits := ((tracked_write _).ok _ _ _ hsend).2
  exact ⟨p, hlimits ▸ hp, hpassed⟩

/-- As many replies were read as there are shapes, and each was decoded under its own. -/
theorem passed_replies {queue : List Shape} {values : List Value} (h : Passed c.stream out taken)
    (hcall : queue.mapM readReply c = .ok values c') :
    ∃ replies : List Reply, replies.length = queue.length ∧
      (∀ r ∈ replies, Derives c.limits 0 r.bytes r.frame) ∧
      values = List.zipWith (fun shape r => shape.decode r.frame) queue replies ∧
      Passed c'.stream out (taken ++ replies.flatMap Reply.bytes) := by
  induction queue generalizing c taken values with
  | nil =>
    rw [List.mapM_nil] at hcall
    cases hcall
    exact ⟨[], rfl, by simp, rfl, by simpa using h⟩
  | cons shape queue ih =>
    rw [List.mapM_cons] at hcall
    obtain ⟨value, u, hfirst, hcall⟩ := bind_eq_ok.mp hcall
    obtain ⟨rest, u', hrest, hpure⟩ := bind_eq_ok.mp hcall
    cases hpure
    obtain ⟨f, w, hread, hdecode⟩ := bind_eq_ok.mp hfirst
    cases hdecode
    have hlimits : u.limits = c.limits := (tracked_readFrame.ok _ _ _ hread).2
    obtain ⟨p, hp, hpassed⟩ := passed_readFrame h hread
    obtain ⟨replies, hlen, hderives, rfl, hpassed'⟩ := ih hpassed hrest
    refine ⟨⟨p, f⟩ :: replies, by simp [hlen], ?_, rfl, ?_⟩
    · intro r hr
      rcases List.mem_cons.mp hr with rfl | hr
      · exact hp
      · exact hlimits ▸ hderives r hr
    · rw [List.flatMap_cons, ← List.append_assoc]
      exact hpassed'

theorem passed_exchangeAll {outgoing : Bytes} {queue : List Shape} {values : List Value}
    (h : Passed c.stream out taken) (hcall : exchangeAll outgoing queue c = .ok values c') :
    ∃ replies : List Reply, replies.length = queue.length ∧
      (∀ r ∈ replies, Derives c.limits 0 r.bytes r.frame) ∧
      values = List.zipWith (fun shape r => shape.decode r.frame) queue replies ∧
      Passed c'.stream (out ++ outgoing) (taken ++ replies.flatMap Reply.bytes) := by
  by_cases hout : outgoing = []
  · rw [hout, exchangeAll_nil] at hcall
    rw [hout, List.append_nil]
    exact passed_replies h hcall
  · rw [exchangeAll_of_ne_nil hout] at hcall
    obtain ⟨_, u, hwrite, hcall⟩ := bind_eq_ok.mp hcall
    have hlimits : u.limits = c.limits := ((tracked_write _).ok _ _ _ hwrite).2
    obtain ⟨replies, hlen, hderives, hvalues, hpassed⟩ :=
      passed_replies (passed_write h hwrite) hcall
    exact ⟨replies, hlen, hlimits ▸ hderives, hvalues, hpassed⟩

end Connection

end StoreClient
