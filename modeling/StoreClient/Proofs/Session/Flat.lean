import StoreClient.Proofs.Action.Agreement
import StoreClient.Proofs.Session.Turn
import StoreClient.Session.Flat

/-!
# `StoreClient/Proofs/Session/Flat.lean` — the two forms of a session are one

`Session.flat` shows a session as fields side by side. **Every call does the same to both forms**
(`step_flat`): it has the same outcome, and leaves the fields that show the session which it leaves. So a run
of the one form from the start is a run of the other (`run_fresh`), and what is proved of a `Session` can be
carried over to fields that nothing holds together but the calls.

What a session can show is not every value of the fields. It is exactly those in which nothing is left
behind (`exists_flat_iff`): outside a batch nothing is queued, and outside a pipeline nothing is held back.
Nor does any call leave these fields (`Tidy.step`), although each of its steps could.

The two programs of a call are followed side by side. They differ in what they know: a program on phases has
its queue from the phase that it matched on, a program on fields has it from the field. So each lemma says
for one phase where the step leads (`Follows`), and a chain of steps goes from phase to phase.
-/

set_option autoImplicit false

namespace StoreClient

open StoreClient.Action

variable {τ : Type}

/-- The session as fields side by side. -/
def Session.flat (s : Session τ) : FlatSession τ :=
  ⟨s.connection, s.mode, s.phase.queue, s.phase.outgoing⟩

namespace FlatSession

/-! ## What a session can show -/

/-- Nothing is left behind by a batch that is over. -/
structure Tidy (b : FlatSession τ) : Prop where
  normal : b.mode = .normal → b.queue = [] ∧ b.outgoing = []
  transaction : b.mode = .transaction → b.outgoing = []

theorem tidy_flat (s : Session τ) : s.flat.Tidy := by
  obtain ⟨c, phase⟩ := s
  cases phase with
  | normal => exact ⟨fun _ => ⟨rfl, rfl⟩, fun _ => rfl⟩
  | transaction queue => exact ⟨nofun, fun _ => rfl⟩
  | pipeline queue outgoing => exact ⟨nofun, nofun⟩

/-- Exactly the fields in which nothing is left behind show a session. -/
theorem exists_flat_iff (b : FlatSession τ) : (∃ s : Session τ, s.flat = b) ↔ b.Tidy := by
  refine ⟨?_, ?_⟩
  · intro ⟨s, hs⟩
    rw [← hs]
    exact tidy_flat s
  · intro h
    obtain ⟨c, mode, queue, outgoing⟩ := b
    cases mode with
    | normal =>
      obtain ⟨rfl, rfl⟩ := h.normal rfl
      exact ⟨⟨c, .normal⟩, rfl⟩
    | transaction =>
      obtain rfl := h.transaction rfl
      exact ⟨⟨c, .transaction queue⟩, rfl⟩
    | pipeline => exact ⟨⟨c, .pipeline queue outgoing⟩, rfl⟩

/-! ## Following a program on phases -/

variable {α β : Type} {phase phase' : Phase} {R : FlatSession τ → Session τ → Prop}

/-- The fields show the session. -/
def Shows (b : FlatSession τ) (s : Session τ) : Prop :=
  b = s.flat

/-- The fields show the session, and it is in the phase. -/
inductive ShowsIn (phase : Phase) : FlatSession τ → Session τ → Prop where
  | intro (c : Connection τ) : ShowsIn phase (Session.flat ⟨c, phase⟩) ⟨c, phase⟩

/-- On a session in the phase and on the fields that show it, the two programs end alike. After a failure the
fields still show the session. -/
def Follows (τ : Type) (phase : Phase) (R : FlatSession τ → Session τ → Prop)
    (x : Action (FlatSession τ) α) (y : Action (Session τ) α) : Prop :=
  ∀ c, Alike R Shows (x (Session.flat ⟨c, phase⟩)) (y ⟨c, phase⟩)

/-- Where the phase stays, following is agreement. -/
theorem follows_iff_agree {x : Action (FlatSession τ) α} {y : Action (Session τ) α} :
    Follows τ phase (ShowsIn phase) x y ↔ Agree (ShowsIn phase) Shows x y := by
  refine ⟨?_, ?_⟩
  · intro h b s hshows
    cases hshows with
    | intro c => exact h c
  · intro h c
    exact h _ _ (.intro c)

theorem Follows.bind {x : Action (FlatSession τ) α} {y : Action (Session τ) α}
    {f : α → Action (FlatSession τ) β} {g : α → Action (Session τ) β}
    (hxy : Follows τ phase (ShowsIn phase') x y) (hfg : ∀ a, Follows τ phase' R (f a) (g a)) :
    Follows τ phase R (x >>= f) (y >>= g) := by
  intro c
  refine (hxy c).bind fun a b s h => ?_
  cases h with
  | intro c' => exact hfg a c'

theorem Follows.shows {x : Action (FlatSession τ) α} {y : Action (Session τ) α}
    (h : Follows τ phase (ShowsIn phase') x y) : Follows τ phase Shows x y := by
  intro c
  refine (h c).imp (fun b s hshows => ?_) fun _ _ hshows => hshows
  cases hshows with
  | intro c' => rfl

/-- A result that is made of a result. -/
theorem Follows.map {x : Action (FlatSession τ) α} {y : Action (Session τ) α} (h : Follows τ phase Shows x y)
    (f : α → β) : Follows τ phase Shows (x >>= fun a => pure (f a)) (y >>= fun a => pure (f a)) :=
  fun c => (h c).bind fun _ _ _ hshows => .returned hshows

theorem follows_pure (a : α) : Follows τ phase (ShowsIn phase) (pure a) (pure a) :=
  fun c => .returned (.intro c)

theorem follows_fail (e : Error) : Follows τ phase R (throw e : Action _ α) (throw e) :=
  fun _ => .failed rfl

/-! ## The parts of a program -/

theorem follows_onConnection (call : Action (Connection τ) α) :
    Follows τ phase (ShowsIn phase) (onConnection call) (Session.onConnection call) := by
  intro c
  unfold onConnection Session.onConnection Action.within
  dsimp only [Session.flat]
  cases call c with
  | ok a c' => exact .returned (.intro c')
  | error e c' => exact .failed rfl

theorem follows_requireNormal (requested : Mode) :
    Follows τ phase (ShowsIn .normal) (requireNormal requested) (Session.requireNormal requested) := by
  cases phase with
  | normal => exact fun c => .returned (.intro c)
  | _ => exact fun c => .failed rfl

/-- To open a batch the mode is all that has to be set, since a session in normal mode has nothing queued and
nothing held back. -/
theorem follows_setMode (opened : Phase) (hqueue : opened.queue = []) (houtgoing : opened.outgoing = []) :
    Follows τ .normal Shows (setMode opened.mode) (Session.enter opened) := by
  intro c
  refine .returned ?_
  show (⟨c, opened.mode, [], []⟩ : FlatSession τ) = ⟨c, opened.mode, opened.queue, opened.outgoing⟩
  rw [hqueue, houtgoing]

theorem follows_push (queue : List Shape) (shape : Shape) :
    Follows τ (.transaction queue) (ShowsIn (.transaction (queue ++ [shape]))) (push shape)
      (Session.enter (.transaction (queue ++ [shape]))) :=
  fun c => .returned (.intro c)

/-- The shape that leaves the queue is the one that joined it last. -/
theorem follows_pop (queue : List Shape) (shape : Shape) :
    Follows τ (.transaction (queue ++ [shape])) (ShowsIn (.transaction queue)) pop
      (Session.enter (.transaction queue)) := by
  intro c
  have hpop : pop (Session.flat ⟨c, .transaction (queue ++ [shape])⟩) =
      .ok () (⟨c, .transaction, (queue ++ [shape]).dropLast, []⟩ : FlatSession τ) := rfl
  rw [hpop, List.dropLast_concat]
  exact .returned (.intro c)

theorem follows_replies (call : β → Action (Connection τ) α) (bs : List β) :
    Follows τ phase (ShowsIn phase) (bs.mapM fun b => onConnection (call b))
      (bs.mapM fun b => Session.onConnection (call b)) :=
  follows_iff_agree.mpr <| .each (fun b => follows_iff_agree.mp (follows_onConnection (call b))) bs

/-! ## The programs that stay off the wire -/

theorem follows_beginPipeline : Follows τ phase Shows beginPipeline Session.beginPipeline :=
  (follows_requireNormal _).bind fun _ => follows_setMode (.pipeline [] []) rfl rfl

theorem follows_submitHeld (queue : List Shape) (outgoing : Bytes) (command : Command) (shape : Shape) :
    Follows τ (.pipeline queue outgoing) Shows (submitHeld command shape)
      (Session.submitHeld queue outgoing command shape) := by
  intro c
  obtain ⟨stream, limits, peer, broken⟩ := c
  cases broken with
  | true => exact .failed rfl
  | false => exact .returned rfl

variable [Transport τ]

/-! ## The programs that send and read -/

theorem follows_ask (command : Command) (shape : Shape) :
    Follows τ phase (ShowsIn phase) (ask command shape) (Session.ask command shape) :=
  (follows_onConnection (Connection.send command)).bind fun _ =>
    follows_onConnection (Connection.readReply shape)

theorem follows_beginTransaction : Follows τ phase Shows beginTransaction Session.beginTransaction := by
  refine (follows_requireNormal _).bind fun _ => (follows_ask _ _).bind fun answer => ?_
  cases answer with
  | boolean confirmed =>
    cases confirmed with
    | true => exact follows_setMode (.transaction []) rfl rfl
    | false => exact follows_fail _
  | _ => exact follows_fail _

theorem follows_submitQueued (queue : List Shape) (command : Command) (shape : Shape) :
    Follows τ (.transaction queue) Shows (submitQueued command shape)
      (Session.submitQueued queue command shape) := by
  refine (follows_onConnection (Connection.send command)).bind fun _ => ?_
  refine (follows_push queue shape).bind fun _ => ?_
  refine (follows_onConnection (Connection.readReply .queued)).bind fun answer => ?_
  cases answer with
  | queued => exact (follows_pure _).shows
  | error message? =>
    cases message? with
    | some message => exact ((follows_pop queue shape).bind fun _ => follows_pure _).shows
    | none => exact (follows_pop queue shape).bind fun _ => follows_fail _
  | _ => exact (follows_pop queue shape).bind fun _ => follows_fail _

theorem follows_submit (command : Command) (shape : Shape) :
    Follows τ phase Shows (submit command shape) (Session.submit command shape) := by
  cases phase with
  | normal => exact fun c => (follows_ask command shape).shows c
  | transaction queue => exact fun c => follows_submitQueued queue command shape c
  | pipeline queue outgoing => exact fun c => follows_submitHeld queue outgoing command shape c

theorem follows_executePipeline (queue : List Shape) (outgoing : Bytes) :
    Follows τ .normal Shows (executePipeline queue outgoing)
      (Session.executePipeline queue outgoing) := by
  have hreplies : Follows τ .normal (ShowsIn .normal)
      (queue.mapM fun shape => onConnection (Connection.readReply shape)) _ :=
    follows_replies Connection.readReply queue
  by_cases hout : outgoing = []
  · rw [executePipeline, Session.executePipeline, if_neg (not_not_intro hout),
      if_neg (not_not_intro hout)]
    exact hreplies.shows
  · rw [executePipeline, Session.executePipeline, if_pos hout, if_pos hout]
    exact ((follows_onConnection (Connection.write outgoing)).bind fun _ => hreplies).shows

theorem follows_executeTransaction (queue : List Shape) :
    Follows τ .normal Shows (executeTransaction queue) (Session.executeTransaction queue) := by
  refine (follows_onConnection (Connection.send Session.executeCommand)).bind fun _ => ?_
  refine (follows_onConnection Connection.readFrame).bind fun reply => ?_
  cases reply with
  | array replies =>
    dsimp only
    split
    · exact (follows_pure _).shows
    · exact follows_fail _
  | _ => exact follows_fail _

/-- The fields are emptied whatever the mode, and a program on phases leaves its phase. -/
theorem follows_execute : Follows τ phase Shows execute Session.execute := by
  cases phase with
  | normal => exact fun c => .returned rfl
  | transaction queue => exact fun c => follows_executeTransaction queue c
  | pipeline queue outgoing => exact fun c => follows_executePipeline queue outgoing c

theorem follows_discard : Follows τ phase Shows discard Session.discard := by
  cases phase with
  | normal => exact fun c => .returned rfl
  | pipeline queue outgoing => exact fun c => .returned rfl
  | transaction queue =>
    have hask : Follows τ .normal (ShowsIn .normal) (ask Session.discardCommand .status) _ :=
      follows_ask Session.discardCommand .status
    intro c
    refine (hask c).bind fun answer b s hshows => ?_
    cases hshows with
    | intro c' =>
      cases answer with
      | boolean confirmed =>
        cases confirmed with
        | true => exact .returned rfl
        | false => exact .failed rfl
      | _ => exact .failed rfl

/-! ## Calls and runs -/

theorem follows_perform (call : Call) :
    Follows τ phase Shows (perform call) (Session.perform call) := by
  cases call with
  | beginTransaction => exact follows_beginTransaction.map _
  | beginPipeline => exact follows_beginPipeline.map _
  | submit command shape => exact (follows_submit command shape).map _
  | execute => exact follows_execute.map _
  | discard => exact follows_discard.map _

/-- **One call does the same to a session in both forms.** -/
theorem step_flat (s : Session τ) (call : Call) :
    s.flat.step call = ((s.step call).1, (s.step call).2.flat) := by
  have hcall : Alike Shows Shows (perform call s.flat) (Session.perform call s) :=
    follows_perform call s.connection
  unfold step Session.step
  generalize perform call s.flat = outcome at hcall ⊢
  generalize Session.perform call s = outcome' at hcall ⊢
  cases hcall with
  | returned hshows => exact congrArg (Prod.mk _) hshows
  | failed hshows => exact congrArg (Prod.mk _) hshows

/-- Where nothing is left behind, no call leaves anything behind. -/
theorem Tidy.step {b : FlatSession τ} (h : b.Tidy) (call : Call) : (b.step call).2.Tidy := by
  obtain ⟨s, rfl⟩ := (exists_flat_iff b).mpr h
  rw [step_flat]
  exact tidy_flat (s.step call).2

theorem run_flat (s : Session τ) (calls : List Call) :
    s.flat.run calls = ((s.run calls).1, (s.run calls).2.flat) := by
  induction calls generalizing s with
  | nil => rfl
  | cons call calls ih =>
    rw [run, step_flat, Session.run_cons]
    dsimp only
    rw [ih]

/-- A new session on a new connection over a watched transport. -/
def fresh (transport : τ) (limits : Limits) : FlatSession (Recorder τ) :=
  { connection := .ofTransport ⟨transport, []⟩ limits }

/-- **From the start, a run of the one form is a run of the other.** -/
theorem run_fresh (transport : τ) (limits : Limits) (calls : List Call) :
    (fresh transport limits).run calls =
      (((Session.fresh transport limits).run calls).1,
        ((Session.fresh transport limits).run calls).2.flat) :=
  run_flat (Session.fresh transport limits) calls

end FlatSession

end StoreClient
