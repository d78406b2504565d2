import StoreClient.Proofs.Session.Turn
import StoreClient.Proofs.Shape.Tags
import StoreClient.Transport.Scripted

/-!
# `StoreClient/Proofs/Session/Results.lean` — what an execution returns

The results of a batch are what the shapes of its commands make of as many frames, one by one
(`results_of_execute`). So what holds of a shape by itself holds of a whole execution: each result is in
the type of the command at its place. In particular **no result says that a command is still waiting**,
unless it was asked for under the shape of an acknowledgement.
-/

set_option autoImplicit false

namespace StoreClient

open StoreClient.Action

/-- The result of a command whose replies have the shape. -/
structure ResultOf (shape : Shape) (value : Value) : Prop where
  decoded : ∃ frame, value = shape.decode frame ∧ shape.InOwnType frame value
  waiting : value = .queued → shape = .queued

theorem resultOf_decode (shape : Shape) (frame : Frame) : ResultOf shape (shape.decode frame) where
  decoded := ⟨frame, rfl, (shape.outcome_decode frame).inOwnType⟩
  waiting h := ((shape.outcome_decode frame).inOwnType.queued.mp h).1

namespace Session

variable {τ : Type} [Transport τ]

theorem results_zipWith {queue : List Shape} {replies : List Frame} (h : replies.length = queue.length) :
    List.Forall₂ ResultOf queue (List.zipWith Shape.decode queue replies) := by
  induction queue generalizing replies with
  | nil => exact .nil
  | cons shape queue ih =>
    cases replies with
    | nil => cases h
    | cons reply replies => exact .cons (resultOf_decode shape reply) (ih (Nat.succ.inj h))

theorem results_of_committing {queue : List Shape} {reply : Frame} {values : List Value}
    (h : (Phase.committing queue reply).map Answer.values = .ok (Answer.values values)) :
    List.Forall₂ ResultOf queue values := by
  cases reply with
  | array replies =>
    by_cases hlen : replies.length = queue.length
    · simp only [Phase.committing, if_pos hlen] at h
      cases h
      exact results_zipWith hlen
    · simp only [Phase.committing, if_neg hlen] at h
      cases h
  | _ => cases h

theorem results_of_replies {queue : List Shape} {values : List Value} {c c' : Connection τ}
    (h : queue.mapM Connection.readReply c = .ok values c') : List.Forall₂ ResultOf queue values := by
  refine forall₂_of_mapM ?_ h
  intro shape c value c' hread
  obtain ⟨frame, u, -, hdecode⟩ := bind_eq_ok.mp hread
  cases hdecode
  exact resultOf_decode shape frame

theorem results_of_exchangeAll {outgoing : Bytes} {queue : List Shape} {values : List Value}
    {c c' : Connection τ} (h : Connection.exchangeAll outgoing queue c = .ok values c') :
    List.Forall₂ ResultOf queue values := by
  by_cases hout : outgoing = []
  · rw [hout, Connection.exchangeAll_nil] at h
    exact results_of_replies h
  · rw [Connection.exchangeAll_of_ne_nil hout] at h
    obtain ⟨_, u, -, h⟩ := bind_eq_ok.mp h
    exact results_of_replies h

theorem results_of_execute {s s' : Session τ} {values : List Value} (h : execute s = .ok values s') :
    List.Forall₂ ResultOf s.phase.queue values := by
  have hturn : Turn s .execute (.ok (.values values)) s' := .of_step (step_of_ok (bind_of_ok h))
  generalize houtcome : (Except.ok (Answer.values values) : Except Error Answer) = outcome at hturn
  cases hturn with
  | idle =>
    cases houtcome
    exact .nil
  | @answered c c' phase call command reply sends exchanged =>
    cases phase with
    | transaction queue => exact results_of_committing houtcome.symm
    | _ => cases sends
  | executed exchanged =>
    cases houtcome
    exact results_of_exchangeAll exchanged
  | _ => cases houtcome

/-- **Every shape answers every frame in its own type**, and so do the results of every execution: a refusal
is an error frame, an absence a null payload, and all else is a mismatch or data with the one tag of the
shape, and the accessor of that tag returns it. -/
theorem decoded_in_own_type :
    (∀ (shape : Shape) (frame : Frame), shape.InOwnType frame (shape.decode frame)) ∧
    ∀ (s s' : Session τ) (values : List Value), execute s = .ok values s' →
      List.Forall₂ ResultOf s.phase.queue values :=
  ⟨fun shape frame => (shape.outcome_decode frame).inOwnType, fun _ _ _ => results_of_execute⟩

/-- A remote side that acknowledges where it should answer, refuses, has nothing, and answers. -/
def chequered : Scripted :=
  { replies := Bytes.ofAscii "+QUEUED\r\n-ERR no\r\n$-1\r\n:7\r\n", flushFailure := .closed }

/-- A pipeline with a command for each of these replies. -/
def fourfold : Session Scripted :=
  ⟨.ofTransport chequered, .pipeline [.status, .list, .bulk, .integer] (Bytes.ofAscii "sent")⟩

theorem decoded_in_own_type_fourfold :
    ∃ values s', execute fourfold = .ok values s' ∧
      values.map Value.tag = [.boolean, .error, .absent, .integer] ∧
      List.Forall₂ ResultOf fourfold.phase.queue values := by
  have htags : (match execute fourfold with
      | .ok values _ => values.map Value.tag
      | .error _ _ => []) = [.boolean, .error, .absent, .integer] := by decide +kernel
  cases h : execute fourfold with
  | ok values s' =>
    rw [h] at htags
    exact ⟨values, s', rfl, htags, decoded_in_own_type.2 fourfold s' values h⟩
  | error e s' =>
    rw [h] at htags
    cases htags

end Session

end StoreClient
