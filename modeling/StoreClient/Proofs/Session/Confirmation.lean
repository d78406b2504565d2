import StoreClient.Proofs.Connection.Steady
import StoreClient.Proofs.Session.Turn
import StoreClient.Transport.Scripted

/-!
# `StoreClient/Proofs/Session/Confirmation.lean` — what counts as a confirmation

Two calls are for the remote side to confirm: the one that opens a transaction and the one that drops it.
The confirmation has one word, `OK` (`Frame.confirmation`). The calls do not look at it. They read the reply
under the shape of a status, and that shape has every status, whatever it says; so **a call is confirmed by
any status, and by nothing else** (`confirmed_by_any_status`). A status with another word, such as the
acknowledgement of a queued command from a remote side whose transaction is still open, is taken for a
confirmation.

Every reply that is no status is treated as it should be. The call fails, the session is outside a
transaction, and the connection is usable.
-/

set_option autoImplicit false

namespace StoreClient

/-- The reply with which the remote side is to confirm that a transaction is opened or dropped. -/
def Frame.confirmation : Frame :=
  .status (Bytes.ofAscii "OK")

/-- The phase after a call that was confirmed. -/
def Call.confirmed : Call → Phase
  | .beginTransaction => .transaction []
  | _ => .normal

namespace Phase

variable {phase : Phase} {call : Call} {command : Command} {reply : Frame}

theorem opening_refused (h : ∀ text, reply ≠ .status text) :
    ∃ unexpected, opening reply = (.error (.unexpectedReply unexpected), .normal) := by
  cases reply with
  | status text => exact absurd rfl (h text)
  | _ => exact ⟨_, rfl⟩

theorem dropping_refused (h : ∀ text, reply ≠ .status text) :
    ∃ unexpected, dropping reply = .error (.unexpectedReply unexpected) := by
  cases reply with
  | status text => exact absurd rfl (h text)
  | _ => exact ⟨_, rfl⟩

theorem conclude_confirmed (confirmable : call = .beginTransaction ∨ call = .discard)
    (sends : call.command? phase.mode = some command) (text : Bytes) :
    phase.conclude call (.status text) = (.ok .done, call.confirmed) := by
  rcases confirmable with rfl | rfl <;> cases phase <;> first | rfl | cases sends

theorem conclude_refused (confirmable : call = .beginTransaction ∨ call = .discard)
    (sends : call.command? phase.mode = some command) (h : ∀ text, reply ≠ .status text) :
    ∃ unexpected, phase.conclude call reply = (.error (.unexpectedReply unexpected), .normal) := by
  obtain ⟨unexpected, hopening⟩ := opening_refused h
  obtain ⟨unexpected', hdropping⟩ := dropping_refused h
  rcases confirmable with rfl | rfl
  · cases phase with
    | normal => exact ⟨unexpected, hopening⟩
    | _ => cases sends
  · cases phase with
    | transaction queue => exact ⟨unexpected', Prod.ext hdropping rfl⟩
    | _ => cases sends

end Phase

namespace Session

variable {τ : Type} [Transport τ]

/-- A call that is for the remote side to confirm has got a reply. It returns if the reply is a status, and
fails if it is not; the phase is the one that follows, and the connection is usable. The confirmation alone
is what lets the call return just when the reply is no status with another word. -/
structure ConfirmedByAnyStatus (s : Session τ) (call : Call) (reply : Frame) : Prop where
  returns : ∀ text, reply = .status text →
    (s.step call).1 = .ok .done ∧ (s.step call).2.phase = call.confirmed
  refused : (∀ text, reply ≠ .status text) →
    (∃ unexpected, (s.step call).1 = .error (.unexpectedReply unexpected)) ∧
      (s.step call).2.phase = .normal
  usable : (s.step call).2.isBroken = false
  asDesigned : ((s.step call).1 = .ok .done ↔ reply = .confirmation) ↔
    ∀ text, reply = .status text → reply = .confirmation

/-- **A call is confirmed by any status, and by nothing else**: the call that opens a transaction, in a
session that has none open, and the call that drops one, in a session that has. Over any transport, and
whatever complete reply the command gets. -/
theorem confirmed_by_any_status {s : Session τ} {call : Call} {command : Command} {reply : Frame}
    {c' : Connection τ} (confirmable : call = .beginTransaction ∨ call = .discard)
    (sends : call.command? s.mode = some command)
    (answered : Connection.exchange command s.connection = .ok reply c') :
    ConfirmedByAnyStatus s call reply := by
  have hsame := ((Connection.tracked_exchange command).ok _ _ _ answered).1
  have husable : c'.broken = false := hsame.trans (Connection.not_broken_of_exchange answered)
  have hstep : s.step call = ((s.phase.conclude call reply).1, ⟨c', (s.phase.conclude call reply).2⟩) :=
    step_answered sends answered
  have hstatus : ∀ text, reply = .status text →
      (s.step call).1 = .ok .done ∧ (s.step call).2.phase = call.confirmed := by
    rintro text rfl
    rw [Phase.conclude_confirmed confirmable sends] at hstep
    exact ⟨congrArg Prod.fst hstep, congrArg (Session.phase ∘ Prod.snd) hstep⟩
  have hother : (∀ text, reply ≠ .status text) →
      (∃ unexpected, (s.step call).1 = .error (.unexpectedReply unexpected)) ∧
        (s.step call).2.phase = .normal := by
    intro h
    obtain ⟨unexpected, hconclude⟩ := Phase.conclude_refused confirmable sends h
    rw [hconclude] at hstep
    exact ⟨⟨unexpected, congrArg Prod.fst hstep⟩, congrArg (Session.phase ∘ Prod.snd) hstep⟩
  refine ⟨hstatus, hother, (congrArg (isBroken ∘ Prod.snd) hstep).trans husable, ?_⟩
  by_cases hreply : ∃ text, reply = .status text
  · obtain ⟨text, hreply⟩ := hreply
    rw [iff_true_left (hstatus text hreply).1]
    exact ⟨fun h _ _ => h, fun h => h text hreply⟩
  · have hnone : ∀ text, reply ≠ .status text := fun text h => hreply ⟨text, h⟩
    obtain ⟨⟨unexpected, herror⟩, _⟩ := hother hnone
    have hnot : reply ≠ .confirmation := hnone _
    refine iff_of_true (iff_of_false ?_ hnot) fun text h => absurd h (hnone text)
    rw [herror]
    intro h
    cases h

/-- A new session over a remote side that is going to say no more than the given bytes. -/
def hearing (replies : Bytes) : Session (Recorder Scripted) :=
  fresh { replies, flushFailure := .closed } {}

theorem hearing_exchange {reply : Reply} (complete : Derives {} 0 reply.bytes reply.frame)
    (command : Command) :
    ∃ c', Connection.exchange command (hearing reply.bytes).connection = .ok reply.frame c' := by
  have hawaits : Awaits (hearing reply.bytes).connection.stream ⟨reply.bytes ++ [], none⟩ :=
    ⟨reply.bytes, List.append_nil _, (Scripted.steady ⟨by simp, by simp, rfl, rfl⟩).recorded []⟩
  have hfacing : Connection.Facing {} (hearing reply.bytes).connection ⟨reply.bytes ++ [], none⟩ :=
    ⟨rfl, rfl, hawaits⟩
  obtain ⟨c', hexchange, _⟩ := hfacing.exchange complete command
  exact ⟨c', hexchange⟩

def refusal : Reply :=
  ⟨Bytes.ofAscii "-ERR\r\n", .error (Bytes.ofAscii "ERR")⟩

theorem confirmed_by_any_status_refusal :
    ∃ c', Call.command? (hearing refusal.bytes).mode .beginTransaction = some beginCommand ∧
      Connection.exchange beginCommand (hearing refusal.bytes).connection = .ok refusal.frame c' ∧
      ConfirmedByAnyStatus (hearing refusal.bytes) .beginTransaction refusal.frame := by
  obtain ⟨c', hexchange⟩ := hearing_exchange (.error (by decide) : Derives {} 0 refusal.bytes _) beginCommand
  exact ⟨c', rfl, hexchange, confirmed_by_any_status (.inl rfl) rfl hexchange⟩

/-- What a remote side says to any command while it has a transaction open. -/
def queuedReply : Reply :=
  ⟨Bytes.ofAscii "+QUEUED\r\n", .status Shape.acknowledgement⟩

/-- A transaction is taken to be opened when the remote side has merely queued the command. -/
theorem opened_by_queued :
    (∃ c', Connection.exchange beginCommand (hearing queuedReply.bytes).connection =
        .ok queuedReply.frame c') ∧
      queuedReply.frame ≠ .confirmation ∧
      ((hearing queuedReply.bytes).step .beginTransaction).1.isOk = true ∧
      ((hearing queuedReply.bytes).step .beginTransaction).2.mode = .transaction := by
  refine ⟨hearing_exchange (.status (by decide)) beginCommand, ?_, by decide +kernel, by decide +kernel⟩
  intro h
  have htext : Shape.acknowledgement = Bytes.ofAscii "OK" := Frame.status.inj h
  revert htext
  decide

end Session

end StoreClient
