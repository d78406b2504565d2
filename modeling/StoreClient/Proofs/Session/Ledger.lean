import Mathlib.Data.List.Forall2
import StoreClient.Proofs.Command.Encoding
import StoreClient.Proofs.Connection.Traffic
import StoreClient.Proofs.Session.Broken

/-!
# `StoreClient/Proofs/Session/Ledger.lean` — commands and replies stay in step

Replies carry no name of the command they belong to. The caller gets the right one because of a count:
as many replies have been read as commands have been sent, at every moment at which a call can be made.

The count needs a book to be kept of the commands, and a `Ledger` is that book. It is kept from outside,
from the calls and their outcomes: what each call put on the wire, what was asked of its reply, and
what the caller was given for it. `InStep` compares the book with the stream — **the bytes that went out
are the commands of the ledger, the bytes that were read are as many replies, and each value that was
given is the reply of the same number, decoded as was asked** — and every turn that leaves the session
usable keeps it (`InStep.turn`), whether its outcome is good or bad.
-/

set_option autoImplicit false

namespace StoreClient

open Connection

/-! ## Keeping the book -/

/-- A command that was put on the wire. -/
structure Entry where
  command : Command
  /-- The shape under which the caller is given the reply, if it is given to the caller at all. -/
  asked : Option Shape
  /-- What the caller was given. -/
  given : Option Value

/-- The commands that were put on the wire, and those that wait in a pipeline. -/
structure Ledger where
  log : List Entry := []
  held : List (Command × Shape) := []

/-- The shape under which a call that sends its command at once returns the reply. The other commands
that go out at once are answered with an acknowledgement, and the caller never sees it as a value. -/
def Call.asked? : Mode → Call → Option Shape
  | .normal, .submit _ shape => some shape
  | _, _ => none

namespace Ledger

/-- The value that a call returned. -/
def value? : Except Error Answer → Option Value
  | .ok (.value v) => some v
  | _ => none

/-- The values that a call returned. -/
def values : Except Error Answer → List Value
  | .ok (.values vs) => vs
  | _ => []

/-- The entries of a pipeline, with the values that its execution returned, by position. -/
def settle : List (Command × Shape) → List Value → List Entry
  | [], _ => []
  | (command, shape) :: held, vs => ⟨command, some shape, vs.head?⟩ :: settle held vs.tail

/-- The ledger after a call in a mode, by the outcome of the call. -/
def post (l : Ledger) (mode : Mode) (call : Call) (outcome : Except Error Answer) : Ledger :=
  match call.command? mode with
  | some command => { l with log := l.log ++ [⟨command, call.asked? mode, value? outcome⟩] }
  | none =>
    match mode, call with
    | .pipeline, .submit command shape => { l with held := l.held ++ [(command, shape)] }
    | .pipeline, .execute => ⟨l.log ++ settle l.held (values outcome), []⟩
    | .pipeline, .discard => { l with held := [] }
    | _, _ => l

/-- The ledger after a call on a session. A broken session puts nothing on the wire. -/
def enter {τ : Type} (l : Ledger) (s : Session τ) (call : Call) (outcome : Except Error Answer) :
    Ledger :=
  if s.isBroken then l else l.post s.mode call outcome

/-- The ledger after calls made one after the other. -/
def follow {τ : Type} [Transport τ] (l : Ledger) (s : Session τ) : List Call → Ledger
  | [] => l
  | call :: calls => (l.enter s call (s.step call).1).follow (s.step call).2 calls

/-- The bytes of all commands that were put on the wire. -/
def bytes (l : Ledger) : Bytes :=
  l.log.flatMap fun entry => entry.command.encode

end Ledger

/-! ## Comparing it with the stream -/

/-- A reply is complete, and it is what the caller was given, if anything was asked of it. -/
structure Answered (limits : Limits) (entry : Entry) (reply : Reply) : Prop where
  complete : Derives limits 0 reply.bytes reply.frame
  given : ∀ shape, entry.asked = some shape → entry.given = some (shape.decode reply.frame)

/-- The commands that wait in a pipeline are those that the ledger has as waiting. -/
def Waiting : Phase → List (Command × Shape) → Prop
  | .pipeline queue outgoing, held =>
    queue = held.map Prod.snd ∧ outgoing = held.flatMap fun h => h.1.encode
  | .normal, held | .transaction _, held => held = []

/-- As many replies were read as commands were sent, and each belongs to the command of its number. -/
structure InStep {τ : Type} (limits : Limits) (s : Session (Recorder τ)) (l : Ledger) : Prop where
  limits_eq : s.connection.limits = limits
  waiting : Waiting s.phase l.held
  passed : ∃ replies : List Reply, List.Forall₂ (Answered limits) l.log replies ∧
    Passed s.connection.stream l.bytes (replies.flatMap Reply.bytes)

/-! ## What a call adds to the ledger -/

namespace Ledger

variable {l : Ledger} {mode : Mode} {call : Call} {outcome : Except Error Answer}

theorem enter_of_usable {τ : Type} {s : Session τ} (husable : s.isBroken = false) :
    l.enter s call outcome = l.post s.mode call outcome := by
  unfold enter
  rw [if_neg (by simp [husable])]

theorem post_of_sends {command : Command} (sends : call.command? mode = some command) :
    l.post mode call outcome =
      { l with log := l.log ++ [⟨command, call.asked? mode, value? outcome⟩] } := by
  unfold post
  simp only [sends]

/-- A call that would open a batch inside a batch adds nothing. -/
theorem post_of_opens {requested : Mode} (batching : mode ≠ .normal)
    (opens : call.opens? = some requested) : l.post mode call outcome = l := by
  cases mode with
  | normal => exact absurd rfl batching
  | transaction => cases call <;> first | rfl | cases opens
  | pipeline => cases call <;> first | rfl | cases opens

theorem bytes_append (l : Ledger) (entries : List Entry) (held : List (Command × Shape)) :
    (⟨l.log ++ entries, held⟩ : Ledger).bytes =
      l.bytes ++ entries.flatMap fun entry => entry.command.encode :=
  List.flatMap_append

theorem settle_bytes (held : List (Command × Shape)) (vs : List Value) :
    ((settle held vs).flatMap fun entry => entry.command.encode) =
      held.flatMap fun h => h.1.encode := by
  induction held generalizing vs with
  | nil => rfl
  | cons h held ih => rw [settle, List.flatMap_cons, List.flatMap_cons, ih]

/-- The replies to a pipeline, decoded by position, are what its commands are answered with. -/
theorem answered_settle {limits : Limits} {held : List (Command × Shape)} {replies : List Reply}
    (hlen : replies.length = (held.map Prod.snd).length)
    (hderives : ∀ r ∈ replies, Derives limits 0 r.bytes r.frame) :
    List.Forall₂ (Answered limits)
      (settle held
        (List.zipWith (fun shape r => shape.decode r.frame) (held.map Prod.snd) replies))
      replies := by
  induction held generalizing replies with
  | nil =>
    rw [List.eq_nil_of_length_eq_zero hlen]
    exact .nil
  | cons h held ih =>
    cases replies with
    | nil => cases hlen
    | cons r replies =>
      refine .cons ⟨hderives r List.mem_cons_self, ?_⟩ (ih (Nat.succ.inj hlen) ?_)
      · intro shape hasked
        cases hasked
        rfl
      · intro r' hr'
        exact hderives r' (List.mem_cons_of_mem r hr')

end Ledger

/-! ## Every turn keeps the step -/

section Keeping

variable {τ : Type} [Transport τ] {limits : Limits} {l : Ledger} {call : Call}
  {outcome : Except Error Answer}

/-- A command that joins a pipeline waits behind the others. -/
theorem Waiting.held {queue : List Shape} {outgoing : Bytes} {held : List (Command × Shape)}
    (h : Waiting (.pipeline queue outgoing) held) (command : Command) (shape : Shape) :
    Waiting (.pipeline (queue ++ [shape]) (command.encodeOnto outgoing))
      (held ++ [(command, shape)]) := by
  obtain ⟨hqueue, houtgoing⟩ := h
  refine ⟨by simp [hqueue], ?_⟩
  rw [Command.encodeOnto_eq, houtgoing, List.flatMap_append, List.flatMap_singleton]

/-- Where a command goes out at once nothing waits, before the call and after it. -/
theorem Waiting.conclude {phase : Phase} {command : Command} {held : List (Command × Shape)}
    (sends : call.command? phase.mode = some command) (h : Waiting phase held) (reply : Frame) :
    Waiting (phase.conclude call reply).2 held := by
  cases phase with
  | normal =>
    cases call with
    | beginTransaction =>
      show Waiting (Phase.opening reply).2 held
      unfold Phase.opening
      split <;> exact h
    | submit command shape => exact h
    | _ => cases sends
  | transaction queue =>
    cases call with
    | submit command shape =>
      show Waiting (Phase.acknowledging queue shape reply).2 held
      unfold Phase.acknowledging
      split <;> exact h
    | execute => exact h
    | discard => exact h
    | _ => cases sends
  | pipeline queue outgoing =>
    have hnone := call.command?_pipeline.symm.trans sends
    cases hnone

/-- What a call returns for a command that went out at once is the reply, decoded as was asked. -/
theorem Ledger.value?_conclude {phase : Phase} {reply : Frame} {shape : Shape}
    (hasked : call.asked? phase.mode = some shape) :
    Ledger.value? (phase.conclude call reply).1 = some (shape.decode reply) := by
  cases phase with
  | normal =>
    cases call with
    | submit command shape' =>
      cases hasked
      rfl
    | _ => cases hasked
  | _ => cases call <;> cases hasked

theorem InStep.turn {s s' : Session (Recorder τ)} (h : InStep limits s l)
    (hturn : Session.Turn s call outcome s') (husable : s'.isBroken = false) :
    InStep limits s' (l.enter s call outcome) := by
  obtain ⟨hlimits, hwaiting, replies, hanswered, hpassed⟩ := h
  rw [Ledger.enter_of_usable (hturn.usable husable)]
  cases hturn with
  | conflict batching opens =>
    rw [Ledger.post_of_opens batching opens]
    exact ⟨hlimits, hwaiting, replies, hanswered, hpassed⟩
  | opened =>
    have hheld : l.held = [] := hwaiting
    -- Nothing waited before, and an empty pipeline holds nothing.
    have hempty : Waiting (.pipeline [] []) l.held := by
      rw [hheld]
      exact ⟨rfl, rfl⟩
    exact ⟨hlimits, hempty, replies, hanswered, hpassed⟩
  | held usable => exact ⟨hlimits, hwaiting.held _ _, replies, hanswered, hpassed⟩
  | refused broken => cases husable.symm.trans broken
  | idle => exact ⟨hlimits, hwaiting, replies, hanswered, hpassed⟩
  | @dropped c phase untold =>
    cases phase with
    | normal => exact ⟨hlimits, hwaiting, replies, hanswered, hpassed⟩
    | transaction queue => exact absurd rfl untold
    | pipeline queue outgoing => exact ⟨hlimits, rfl, replies, hanswered, hpassed⟩
  | @answered c c' phase _ command reply sends exchanged =>
    -- One command went out and one reply was read.
    obtain ⟨p, hp, hpassed'⟩ := passed_exchange hpassed exchanged
    have hlimits' := ((tracked_exchange command).ok _ _ _ exchanged).2
    have hentry : Answered limits
        ⟨command, call.asked? phase.mode, Ledger.value? (phase.conclude call reply).1⟩ ⟨p, reply⟩ :=
      ⟨hlimits ▸ hp, fun shape hasked => Ledger.value?_conclude hasked⟩
    show InStep limits _ (l.post phase.mode call _)
    rw [Ledger.post_of_sends sends]
    refine ⟨hlimits'.trans hlimits, hwaiting.conclude sends reply, replies ++ [⟨p, reply⟩],
      List.rel_append hanswered (.cons hentry .nil), ?_⟩
    rw [Ledger.bytes_append, List.flatMap_append, List.flatMap_singleton, List.flatMap_singleton]
    exact hpassed'
  | unanswered sends failed =>
    -- A failure breaks the session, and this one is usable.
    have hbroken := ((tracked_exchange _).error _ _ _ failed).2.1
    cases husable.symm.trans hbroken
  | stranded failed =>
    have hbroken := ((tracked_exchange _).error _ _ _ failed).2.1
    cases husable.symm.trans hbroken
  | @executed c c' queue outgoing values exchanged =>
    obtain ⟨hqueue, houtgoing⟩ := hwaiting
    -- All that waited went out, and as many replies were read.
    obtain ⟨more, hlen, hderives, hvalues, hpassed'⟩ := passed_exchangeAll hpassed exchanged
    have hlimits' := ((tracked_exchangeAll outgoing queue).ok _ _ _ exchanged).2
    have hentries : List.Forall₂ (Answered limits) (Ledger.settle l.held values) more := by
      rw [hvalues, hqueue]
      exact Ledger.answered_settle (hqueue ▸ hlen) (hlimits ▸ hderives)
    refine ⟨hlimits'.trans hlimits, rfl, replies ++ more,
      List.rel_append hanswered hentries, ?_⟩
    show Passed _ (⟨l.log ++ Ledger.settle l.held values, []⟩ : Ledger).bytes _
    rw [Ledger.bytes_append, Ledger.settle_bytes, List.flatMap_append, ← houtgoing]
    exact hpassed'
  | collapsed failed =>
    have hbroken := ((tracked_exchangeAll _ _).error _ _ _ failed).2.1
    cases husable.symm.trans hbroken

theorem InStep.run {s : Session (Recorder τ)} (h : InStep limits s l) {calls : List Call}
    (husable : (s.run calls).2.isBroken = false) :
    InStep limits (s.run calls).2 (l.follow s calls) := by
  induction calls generalizing s l with
  | nil => exact h
  | cons call calls ih =>
    have hnext : (s.step call).2.isBroken = false := Session.usable_of_run husable
    exact ih (h.turn (Session.turn_of_step s call) hnext) husable

/-- **Commands and replies stay in step.** After any calls from the start, over any transport, and as long as
the session is not broken: the bytes that went out are those of the commands in the ledger, the
bytes that were read are as many complete replies, and each value that a caller was given for a
command is the reply of the same number, decoded under the shape of that command. -/
theorem commands_and_replies_in_step (transport : τ) (limits : Limits) (calls : List Call)
    (husable : ((Session.fresh transport limits).run calls).2.isBroken = false) :
    ∃ replies : List Reply,
      List.Forall₂ (Answered limits)
        (Ledger.follow {} (Session.fresh transport limits) calls).log replies ∧
      Passed ((Session.fresh transport limits).run calls).2.connection.stream
        (Ledger.follow {} (Session.fresh transport limits) calls).bytes
        (replies.flatMap Reply.bytes) := by
  have hstart : InStep limits (Session.fresh transport limits) {} :=
    ⟨rfl, rfl, [], .nil, rfl, rfl⟩
  exact (hstart.run husable).passed

end Keeping

/-- A remote side that refuses a transaction and, later, one command of a pipeline. -/
def refusing : Scripted :=
  { replies := Bytes.ofAscii "-ERR\r\n:1\r\n+PONG\r\n-WRONGTYPE\r\n$1\r\nx\r\n", readChunk := some 3,
    flushFailure := .closed }

/-- A transaction that is refused, a command by itself, a pipeline, and a pipeline that is dropped. -/
def errands : List Call :=
  [.beginTransaction, .submit (.ofKeyword "DBSIZE") .integer, .beginPipeline,
    .submit (.ofKeyword "PING") .status, .submit (.ofKeyword "GET") .flag,
    .submit (.ofKeyword "GET") .bulk, .execute, .beginPipeline, .submit (.ofKeyword "PING") .status,
    .discard]

theorem commands_and_replies_in_step_refusing :
    ((Session.fresh refusing {}).run errands).2.isBroken = false ∧
      ∃ replies : List Reply,
        List.Forall₂ (Answered {}) (Ledger.follow {} (Session.fresh refusing {}) errands).log replies ∧
        Passed ((Session.fresh refusing {}).run errands).2.connection.stream
          (Ledger.follow {} (Session.fresh refusing {}) errands).bytes
          (replies.flatMap Reply.bytes) := by
  have husable : ((Session.fresh refusing {}).run errands).2.isBroken = false := by decide +kernel
  exact ⟨husable, commands_and_replies_in_step refusing {} errands husable⟩

end StoreClient
