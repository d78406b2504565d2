import StoreClient.Proofs.Connection
import StoreClient.Proofs.Connection.Traffic
import StoreClient.Proofs.Reply.Agreement
import StoreClient.Transport.Recorder

/-!
# `StoreClient/Proofs/Connection/Footprint.lean` — what a call leaves in the log

`Passed` says how many bytes went each way; this file says in which order the transport was called. A
watched transport only ever adds to its log, and what a call adds has a simple form, whether the call
succeeds or not:

* reading a reply adds reads and nothing else (`replies_log`);
* sending adds writes and perhaps a flush and nothing else, and if it succeeds it was **one delivery**: the
  bytes in pieces, all of them, and then the flush (`write_log`).

The log is kept newest first, and so are all lists of events here.
-/

set_option autoImplicit false

namespace StoreClient

open StoreClient.Action

def Event.isOutward (e : Event) : Bool :=
  e.isWrite || e.isFlush

/-- The bytes went out in pieces, and were flushed. -/
def Delivery (bytes : Bytes) (events : List Event) : Prop :=
  ∃ pieces : List Bytes, pieces.flatten = bytes ∧ events = .flushed :: (pieces.map Event.sent).reverse

/-- The events are those of calls that send. -/
def Outward (events : List Event) : Prop :=
  ∀ e ∈ events, e.isOutward = true

/-- The events are those of calls that read. -/
def Inward (events : List Event) : Prop :=
  ∀ e ∈ events, e.isOutward = false

theorem outward_pieces (pieces : List Bytes) : Outward (pieces.map Event.sent).reverse := by
  intro e he
  obtain ⟨piece, _, rfl⟩ := List.mem_map.mp (List.mem_reverse.mp he)
  rfl

theorem Outward.cons {e : Event} {events : List Event} (he : e.isOutward = true) (h : Outward events) :
    Outward (e :: events) :=
  List.forall_mem_cons.mpr ⟨he, h⟩

theorem Delivery.outward {bytes : Bytes} {events : List Event} (h : Delivery bytes events) :
    Outward events := by
  obtain ⟨pieces, _, rfl⟩ := h
  exact (outward_pieces pieces).cons rfl

theorem Delivery.bytesSent {bytes : Bytes} {events : List Event} (h : Delivery bytes events) :
    events.reverse.flatMap Event.bytesSent = bytes := by
  obtain ⟨pieces, rfl, rfl⟩ := h
  simp [List.flatMap_map, Event.bytesSent, List.flatMap_append]

theorem Inward.bytesSent {events : List Event} (h : Inward events) :
    events.reverse.flatMap Event.bytesSent = [] := by
  rw [List.flatMap_eq_nil_iff]
  intro e he
  have hin := h e (List.mem_reverse.mp he)
  cases e with
  | sent bytes => cases hin
  | _ => rfl

theorem Outward.append {events events' : List Event} (h : Outward events) (h' : Outward events') :
    Outward (events ++ events') :=
  List.forall_mem_append.mpr ⟨h, h'⟩

variable {τ : Type}

/-! ## Sending -/

namespace Recorder

theorem log_of_logged_ok {α : Type} {onResult : α → Event} {onFailure : IoError → Event}
    {step : StreamAction τ α} {r r' : Recorder τ} {a : α}
    (h : logged onResult onFailure step r = .ok a r') : r'.log = onResult a :: r.log := by
  unfold logged at h
  cases hstep : step r.transport with
  | ok b t =>
    rw [hstep] at h
    cases h
    rfl
  | error e t =>
    rw [hstep] at h
    cases h

theorem log_of_logged_error {α : Type} {onResult : α → Event} {onFailure : IoError → Event}
    {step : StreamAction τ α} {r r' : Recorder τ} {e : IoError}
    (h : logged onResult onFailure step r = .error e r') : r'.log = onFailure e :: r.log := by
  unfold logged at h
  cases hstep : step r.transport with
  | ok b t =>
    rw [hstep] at h
    cases h
  | error e' t =>
    rw [hstep] at h
    cases h
    rfl

variable [Transport τ]

theorem writeAll_log_of_ok {bytes : Bytes} {r r' : Recorder τ}
    (h : Transport.writeAll bytes r = .ok () r') :
    ∃ pieces : List Bytes, pieces.flatten = bytes ∧
      r'.log = (pieces.map Event.sent).reverse ++ r.log := by
  induction bytes using Transport.writeAll.induct generalizing r with
  | case1 =>
    rw [Transport.writeAll] at h
    cases h
    exact ⟨[], rfl, rfl⟩
  | case2 b rest ih =>
    rw [Transport.writeAll] at h
    obtain ⟨accepted, u, hwrite, hrest⟩ := bind_eq_ok.mp h
    cases accepted with
    | zero => cases hrest
    | succ n =>
      obtain ⟨pieces, hpieces, hlog⟩ := ih n hrest
      refine ⟨(b :: rest).take (n + 1) :: pieces, ?_, ?_⟩
      · rw [List.flatten_cons, hpieces, List.take_succ_cons, List.cons_append, List.take_append_drop]
      · rw [hlog, log_of_logged_ok hwrite]
        simp

/-- A sending that failed was made of writes all the same. -/
theorem writeAll_log_of_error {bytes : Bytes} {r r' : Recorder τ} {e : IoError}
    (h : Transport.writeAll bytes r = .error e r') :
    ∃ events, Outward events ∧ r'.log = events ++ r.log := by
  induction bytes using Transport.writeAll.induct generalizing r with
  | case1 =>
    rw [Transport.writeAll] at h
    cases h
  | case2 b rest ih =>
    rw [Transport.writeAll] at h
    rcases bind_eq_error.mp h with hwrite | ⟨accepted, u, hwrite, hrest⟩
    · exact ⟨[.writeFailed e], by simp [Outward, Event.isOutward, Event.isWrite],
        log_of_logged_error hwrite⟩
    · have hsent : Outward [.sent ((b :: rest).take accepted)] := by
        simp [Outward, Event.isOutward, Event.isWrite]
      have hlog : u.log = [.sent ((b :: rest).take accepted)] ++ r.log := by
        rw [log_of_logged_ok hwrite]
        rfl
      cases accepted with
      | zero =>
        cases hrest
        exact ⟨_, hsent, hlog⟩
      | succ n =>
        obtain ⟨events, hevents, hlog'⟩ := ih n hrest
        refine ⟨events ++ [.sent ((b :: rest).take (n + 1))], hevents.append hsent, ?_⟩
        rw [hlog', hlog, List.append_assoc]

theorem deliver_log_of_ok {bytes : Bytes} {r r' : Recorder τ}
    (h : Transport.deliver bytes r = .ok () r') :
    ∃ events, Delivery bytes events ∧ r'.log = events ++ r.log := by
  obtain ⟨_, u, hwrite, hflush⟩ := bind_eq_ok.mp h
  obtain ⟨pieces, hpieces, hlog⟩ := writeAll_log_of_ok hwrite
  refine ⟨_, ⟨pieces, hpieces, rfl⟩, ?_⟩
  rw [log_of_logged_ok hflush, hlog, List.cons_append]

theorem deliver_log_of_error {bytes : Bytes} {r r' : Recorder τ} {e : IoError}
    (h : Transport.deliver bytes r = .error e r') :
    ∃ events, Outward events ∧ r'.log = events ++ r.log := by
  rcases bind_eq_error.mp h with hwrite | ⟨_, u, hwrite, hflush⟩
  · exact writeAll_log_of_error hwrite
  · obtain ⟨pieces, _, hlog⟩ := writeAll_log_of_ok hwrite
    have hevents : Outward (.flushFailed e :: (pieces.map Event.sent).reverse) :=
      (outward_pieces pieces).cons rfl
    refine ⟨_, hevents, ?_⟩
    rw [log_of_logged_error hflush, hlog, List.cons_append]

end Recorder

/-! ## Reading -/

/-- Since the log was the given one, the transport has only been read. -/
def ReadSince (log : List Event) (b : Buffered (Recorder τ)) : Prop :=
  ∃ reads, Inward reads ∧ b.transport.log = reads ++ log

theorem ReadSince.refl (b : Buffered (Recorder τ)) : ReadSince b.transport.log b :=
  ⟨[], by simp [Inward], rfl⟩

theorem ReadSince.event {log : List Event} {r r' : Recorder τ} {buffer buffer' : Bytes} {event : Event}
    (h : ReadSince log ⟨r, buffer⟩) (hevent : event.isOutward = false)
    (hlog : r'.log = event :: r.log) : ReadSince log ⟨r', buffer'⟩ := by
  obtain ⟨reads, hreads, hlog'⟩ := h
  refine ⟨event :: reads, List.forall_mem_cons.mpr ⟨hevent, hreads⟩, ?_⟩
  exact hlog.trans (congrArg (event :: ·) hlog')

/-- The next byte takes at most one more read. -/
theorem ReadSince.next [Transport τ] {log : List Event} {b : Buffered (Recorder τ)} (h : ReadSince log b) :
    Ends (ReadSince log) (ByteSource.next b) := by
  obtain ⟨r, buffer⟩ := b
  show Ends _ (Buffered.next ⟨r, buffer⟩)
  unfold Buffered.next
  cases buffer with
  | cons x rest => exact h
  | nil =>
    cases hread : Transport.read Buffered.capacity r with
    | ok bytes r' =>
      cases bytes with
      | nil => exact h.event rfl (Recorder.log_of_logged_ok hread)
      | cons x rest => exact h.event rfl (Recorder.log_of_logged_ok hread)
    | error e r' => exact h.event rfl (Recorder.log_of_logged_error hread)

/-! ## The connection -/

namespace Connection

variable {τ : Type}

def log (c : Connection (Recorder τ)) : List Event :=
  c.stream.transport.log

def sent (c : Connection (Recorder τ)) : Bytes :=
  c.stream.transport.sent

theorem sent_of_log {c c' : Connection (Recorder τ)} {writes reads : List Event}
    (hreads : Inward reads) (h : c'.log = reads ++ (writes ++ c.log)) :
    c'.sent = c.sent ++ writes.reverse.flatMap Event.bytesSent := by
  have hlog : c'.stream.transport.log = reads ++ (writes ++ c.stream.transport.log) := h
  simp [sent, Recorder.sent, hlog, hreads.bytesSent]

variable [Transport τ]

theorem write_log {bytes : Bytes} {c c' : Connection (Recorder τ)} (h : write bytes c = .ok () c') :
    ∃ events, Delivery bytes events ∧ c'.log = events ++ c.log := by
  obtain ⟨_, stream, hdeliver, rfl⟩ := guarded_eq_ok.mp h
  obtain ⟨t, hsent, rfl⟩ := Buffered.deliver_eq_ok.mp (ofStream_eq_ok.mp hdeliver)
  exact Recorder.deliver_log_of_ok hsent

theorem write_log_of_error {bytes : Bytes} {c c' : Connection (Recorder τ)} {e : Error}
    (h : write bytes c = .error e c') : ∃ events, Outward events ∧ c'.log = events ++ c.log := by
  cases hb : c.broken with
  | true =>
    -- The refusal leaves the transport alone.
    rw [refused_write bytes c hb] at h
    cases h
    exact ⟨[], by simp [Outward], rfl⟩
  | false =>
    obtain ⟨stream, hdeliver, rfl⟩ := (guarded_eq_error hb).mp h
    obtain ⟨failure, _, hdeliver⟩ := ofStream_eq_error.mp hdeliver
    obtain ⟨t, hfailed, rfl⟩ := Buffered.deliver_eq_error.mp hdeliver
    exact Recorder.deliver_log_of_error hfailed

theorem readFrame_log {log : List Event} {c : Connection (Recorder τ)} (h : ReadSince log c.stream) :
    Ends (fun c' : Connection (Recorder τ) => ReadSince log c'.stream) (readFrame c) := by
  cases hb : c.broken with
  | true =>
    rw [refused_readFrame c hb]
    exact h
  | false =>
    have hread := Frame.read_keeps (fun _ hs => ReadSince.next hs) c.limits h
    simp only [readFrame, guarded, hb, Bool.false_eq_true, if_false]
    cases hr : Frame.read c.limits c.stream with
    | ok f stream => rwa [hr] at hread
    | error e stream => rwa [hr] at hread

theorem replies_log {log : List Event} {c : Connection (Recorder τ)} (h : ReadSince log c.stream)
    (queue : List Shape) :
    Ends (fun c' : Connection (Recorder τ) => ReadSince log c'.stream) (queue.mapM readReply c) := by
  induction queue generalizing c with
  | nil => exact h
  | cons shape queue ih =>
    rw [List.mapM_cons]
    refine Ends.bind ?_ fun value c' hc' => Ends.bind (ih hc') fun values c'' hc'' => hc''
    exact Ends.bind (readFrame_log h) fun f c' hc' => hc'

/-! ## Whole exchanges -/

/-- What is sent when a batch is executed: its bytes in one delivery, if there are any. -/
def Sending (outgoing : Bytes) (writes : List Event) : Prop :=
  if outgoing = [] then writes = [] else Delivery outgoing writes

theorem Sending.bytesSent {outgoing : Bytes} {writes : List Event} (h : Sending outgoing writes) :
    writes.reverse.flatMap Event.bytesSent = outgoing := by
  unfold Sending at h
  split at h
  · simp [*]
  · exact h.bytesSent

theorem exchange_sent {command : Command} {c c' : Connection (Recorder τ)} {reply : Frame}
    (h : exchange command c = .ok reply c') : c'.sent = c.sent ++ command.encode := by
  obtain ⟨_, u, hsend, hread⟩ := bind_eq_ok.mp h
  obtain ⟨events, hevents, hlog⟩ := write_log hsend
  have hends := readFrame_log (ReadSince.refl u.stream)
  rw [hread] at hends
  obtain ⟨reads, hreads, hlog'⟩ := hends
  rw [sent_of_log hreads (hlog'.trans (congrArg (reads ++ ·) hlog)), hevents.bytesSent]

/-- **The execution of a batch sends first and reads then.** If the sending succeeds it was one delivery, and
nothing is read unless it did. -/
theorem exchangeAll_log (outgoing : Bytes) (queue : List Shape) (c : Connection (Recorder τ)) :
    ∃ writes, Outward writes ∧ (∀ u, write outgoing c = .ok () u → Sending outgoing writes) ∧
      Ends (fun c' : Connection (Recorder τ) => ∃ reads, Inward reads ∧
          c'.log = reads ++ (writes ++ c.log) ∧ (reads ≠ [] → Sending outgoing writes))
        (exchangeAll outgoing queue c) := by
  by_cases hout : outgoing = []
  · have hsending : Sending outgoing [] := by simp [Sending, hout]
    refine ⟨[], by simp [Outward], fun _ _ => hsending, ?_⟩
    rw [hout, exchangeAll_nil]
    exact (replies_log (ReadSince.refl c.stream) queue).imp fun c' ⟨reads, hreads, hlog⟩ =>
      ⟨reads, hreads, hlog, fun _ => hout ▸ hsending⟩
  · rw [exchangeAll_of_ne_nil hout]
    cases hwrite : write outgoing c with
    | error e u =>
      obtain ⟨events, hevents, hlog⟩ := write_log_of_error hwrite
      refine ⟨events, hevents, ?_, ?_⟩
      · intro u' h
        cases h
      · rw [bind_of_error hwrite]
        exact ⟨[], by simp [Inward], hlog, fun h => absurd rfl h⟩
    | ok _ u =>
      obtain ⟨events, hevents, hlog⟩ := write_log hwrite
      have hsending : Sending outgoing events := by rwa [Sending, if_neg hout]
      refine ⟨events, hevents.outward, fun _ _ => hsending, ?_⟩
      rw [bind_of_ok hwrite]
      exact (replies_log (ReadSince.refl u.stream) queue).imp fun c' ⟨reads, hreads, hlog'⟩ =>
        ⟨reads, hreads, hlog'.trans (congrArg (reads ++ ·) hlog), fun _ => hsending⟩

end Connection

end StoreClient
