import SfuLoad.Client.Steps

/-!
# The commands of the protocol core

Along every run the commands are executed once and in the order in which the core issued
them, and every negotiation is answered to the core under its own request.
-/

namespace SfuLoad.Client.Protocol

open Kit.Runs Model

variable {Core Request Kind Slot : Type}

/-- The commands the core answered a call with. -/
@[simp] def Event.issued : Event Request Kind Slot → List (Command Request Kind Slot)
  | .called _ commands => commands
  | .executed _ => []
  | .asked _ _ _ _ => []

/-- The command that was executed. -/
@[simp] def Event.performed : Event Request Kind Slot → Option (Command Request Kind Slot)
  | .called _ _ => none
  | .executed command => some command
  | .asked _ _ _ _ => none

/-- The negotiation a command asks for. -/
def Command.negotiation : Command Request Kind Slot → Option (Request × Kind)
  | .applyNegotiation requestId kind _ _ => some (requestId, kind)
  | _ => none

/-- The negotiation that executing a command came to. -/
@[simp] def Event.negotiated : Event Request Kind Slot → Option (Request × Kind)
  | .called _ _ => none
  | .executed command => command.negotiation
  | .asked _ _ _ _ => none

/-- The negotiation a call submits the answer of. -/
def Call.submission : Call Request Kind → Option (Request × Kind)
  | .submitNegotiationAnswer requestId kind _ => some (requestId, kind)
  | _ => none

/-- The negotiation whose outcome a call hands to the core. -/
@[simp] def Event.answered : Event Request Kind Slot → Option (Request × Kind)
  | .called call _ => call.submission
  | .executed _ => none
  | .asked _ _ _ _ => none

/-- The commands the core has issued, in order. -/
def issued (events : List (Event Request Kind Slot)) : List (Command Request Kind Slot) :=
  events.flatMap Event.issued

/-- The commands the peer has executed, in order. -/
def performed (events : List (Event Request Kind Slot)) : List (Command Request Kind Slot) :=
  events.filterMap Event.performed

/-- The negotiations that were applied, by their requests. -/
def negotiated (events : List (Event Request Kind Slot)) : List (Request × Kind) :=
  events.filterMap Event.negotiated

/-- The negotiations whose answers were submitted, by their requests. -/
def answered (events : List (Event Request Kind Slot)) : List (Request × Kind) :=
  events.filterMap Event.answered

/-- What has been issued is what has been executed and what waits; what has been
negotiated is answered and counted. -/
structure Queued (events : List (Event Request Kind Slot))
    (pending : List (Command Request Kind Slot)) (negotiationCount : Nat) : Prop where
  ordered : issued events = performed events ++ pending
  answered : answered events = negotiated events
  counted : negotiationCount = (negotiated events).length

section Queue

variable {events : List (Event Request Kind Slot)} {pending : List (Command Request Kind Slot)}
  {negotiationCount : Nat}

/-- A call puts its commands at the end of the queue, so the issued ones are still the
executed ones and those that wait. -/
theorem Queued.called (queued : Queued events pending negotiationCount)
    {call : Call Request Kind} (silent : call.submission = none)
    (commands : List (Command Request Kind Slot)) :
    Queued (events ++ [.called call commands]) (pending ++ commands) negotiationCount := by
  obtain ⟨ordered, answers, counted⟩ := queued
  refine ⟨?_, ?_, ?_⟩
  · simp [List.filterMap_cons, issued, performed] at ordered ⊢
    simp [ordered]
  · simpa [List.filterMap_cons, Protocol.answered, negotiated, silent] using answers
  · simpa [List.filterMap_cons, negotiated] using counted

/-- Executing the first command takes it from the waiting to the executed. -/
theorem Queued.executed {command : Command Request Kind Slot}
    (queued : Queued events (command :: pending) negotiationCount)
    (silent : command.negotiation = none) :
    Queued (events ++ [.executed command]) pending negotiationCount := by
  obtain ⟨ordered, answers, counted⟩ := queued
  refine ⟨?_, ?_, ?_⟩
  · simpa [List.filterMap_cons, issued, performed] using ordered
  · simpa [List.filterMap_cons, Protocol.answered, negotiated, silent] using answers
  · simpa [List.filterMap_cons, negotiated, silent] using counted

/-- Asking the RTC peer touches neither the queue nor the calls. -/
theorem Queued.asked (queued : Queued events pending negotiationCount) (rtc : Nat) (kind : Kind)
    (sdp : String) (uploadSlots : List Slot) :
    Queued (events ++ [.asked rtc kind sdp uploadSlots]) pending negotiationCount := by
  obtain ⟨ordered, answers, counted⟩ := queued
  refine ⟨?_, ?_, ?_⟩
  · simpa [List.filterMap_cons, issued, performed] using ordered
  · simpa [List.filterMap_cons, Protocol.answered, negotiated] using answers
  · simpa [List.filterMap_cons, negotiated] using counted

/-- A negotiation is executed, answered and counted in one step. -/
theorem Queued.negotiates {requestId : Request} {kind : Kind} {sdp : String}
    {uploadSlots : List Slot}
    (queued : Queued events (.applyNegotiation requestId kind sdp uploadSlots :: pending)
      negotiationCount) (answer : String) (commands : List (Command Request Kind Slot)) :
    Queued (events ++ [.executed (.applyNegotiation requestId kind sdp uploadSlots)] ++
      [.called (.submitNegotiationAnswer requestId kind answer) commands]) (pending ++ commands)
      (negotiationCount + 1) := by
  obtain ⟨ordered, answers, counted⟩ := queued
  refine ⟨?_, ?_, ?_⟩
  · simp [List.filterMap_cons, issued, performed] at ordered ⊢
    simp [ordered]
  · simpa [List.filterMap_cons, Protocol.answered, negotiated, Command.negotiation,
      Call.submission] using answers
  · simpa [List.filterMap_cons, negotiated, Command.negotiation] using counted

end Queue

/-- The calls an operation starts with hand no outcome to the core. -/
theorem Call.submission_of_isEntry {call : Call Request Kind} (entry : call.isEntry = true) :
    call.submission = none := by
  cases call <;> first | rfl | cases entry

/-- A command executed by the socket alone asks for no negotiation. -/
theorem Command.negotiation_of_isPlain {command : Command Request Kind Slot}
    (plain : command.isPlain = true) : command.negotiation = none := by
  cases command <;> first | rfl | cases plain

/-- Neither does one that arms a timer. -/
theorem Command.negotiation_of_arms {command : Command Request Kind Slot} {timer : Nat × Nat}
    (arms : command.arms = some timer) : command.negotiation = none := by
  cases command <;> first | rfl | cases arms

/-- Nor one that disarms a timer. -/
theorem Command.negotiation_of_disarms {command : Command Request Kind Slot} {id : Nat}
    (disarms : command.disarms = some id) : command.negotiation = none := by
  cases command <;> first | rfl | cases disarms

namespace Peer

variable {core : ProtocolCore Core Request Kind Slot} {peer next : Peer Core Request Kind Slot}

/-- Binding another RTC peer leaves the queue, the timers and the record alone. -/
theorem rebound_same {kind : Kind} {bound : Peer Core Request Kind Slot}
    (rebound : peer.Rebound core kind bound) :
    bound.events = peer.events ∧ bound.pending = peer.pending ∧ bound.timers = peer.timers ∧
      bound.negotiationCount = peer.negotiationCount ∧ bound.activity = peer.activity := by
  rcases rebound with ⟨-, rfl⟩ | ⟨-, rfl⟩ <;> exact ⟨rfl, rfl, rfl, rfl, rfl⟩

/-- Every move keeps the queue's account; this carries the result about runs. -/
theorem moves_queued (moves : Moves core peer next)
    (queued : Queued peer.events peer.pending peer.negotiationCount) :
    Queued next.events next.pending next.negotiationCount := by
  cases moves with
  | fails program error => exact queued
  | turns program activity turned => exact queued
  | begins program call entry idle first =>
    exact queued.called (Call.submission_of_isEntry entry) _
  | hears payload expectedCount reading => exact queued.called rfl _
  | fires id sleeping => exact queued.called rfl _
  | executes command runs plain =>
    obtain ⟨rest, waiting⟩ := runs
    simp only [executed, record, waiting, List.tail_cons]
    exact (waiting ▸ queued).executed (Command.negotiation_of_isPlain plain)
  | opens command runs plain =>
    obtain ⟨rest, waiting⟩ := runs
    simp only [Peer.call, executed, record, waiting, List.tail_cons]
    exact ((waiting ▸ queued).executed (Command.negotiation_of_isPlain plain)).called rfl _
  | closes runs =>
    obtain ⟨rest, waiting⟩ := runs
    simp only [executed, record, waiting, List.tail_cons]
    exact (waiting ▸ queued).executed rfl
  | schedules command runs id ms arms =>
    obtain ⟨rest, waiting⟩ := runs
    simp only [executed, schedule, record, waiting, List.tail_cons]
    exact (waiting ▸ queued).executed (Command.negotiation_of_arms arms)
  | cancels command runs id disarms =>
    obtain ⟨rest, waiting⟩ := runs
    simp only [executed, cancel, record, waiting, List.tail_cons]
    exact (waiting ▸ queued).executed (Command.negotiation_of_disarms disarms)
  | unanswered kind sdp uploadSlots rtc error bound rebound stands =>
    obtain ⟨events, pending, -, counted, -⟩ := rebound_same rebound
    simp only [record, fail, events, pending, counted]
    exact queued.asked rtc kind sdp uploadSlots
  | negotiates requestId kind sdp uploadSlots runs rtc bound rebound stands answer =>
    obtain ⟨rest, waiting⟩ := runs
    obtain ⟨events, pending, -, counted, -⟩ := rebound_same rebound
    simp only [Peer.call, executed, record, events, pending, counted, waiting, List.tail_cons]
    exact ((waiting ▸ queued).asked rtc kind sdp uploadSlots).negotiates answer _

/-- A peer that has a command to execute does not wait. -/
theorem Runs.busy {command : Command Request Kind Slot} (runs : peer.Runs command)
    (settled : peer.activity.waits = true → peer.pending = []) :
    peer.activity.waits = false := by
  obtain ⟨rest, waiting⟩ := runs
  cases waits : peer.activity.waits with
  | false => rfl
  | true =>
    rw [settled waits] at waiting
    cases waiting

/-- At an instruction of its program no command waits. -/
theorem AtHead.empty {expectedCount : Nat} {program : List (Instruction Request Kind)}
    (head : peer.AtHead expectedCount program)
    (settled : peer.activity.waits = true → peer.pending = []) : peer.pending = [] := by
  cases head with
  | readUntil program idle first => exact settled (by rw [idle]; rfl)
  | readNext program idle first expected => exact settled (by rw [idle]; rfl)
  | again running empty => exact empty

/-- A peer turns to something else with nothing left to execute. -/
theorem Turns.empty {program : List (Instruction Request Kind)} {activity : Activity}
    (turned : peer.Turns program activity)
    (settled : peer.activity.waits = true → peer.pending = []) : peer.pending = [] := by
  cases turned with
  | sleeps program id ms idle first least => exact settled (by rw [idle]; rfl)
  | reads program expectedCount head => exact head.empty settled
  | reaches program expectedCount head reached => exact head.empty settled
  | connects program idle first => exact settled (by rw [idle]; rfl)
  | connected connecting => exact settled (by rw [connecting]; rfl)
  | rests running empty => exact empty
  | stays expectedCount reading => exact settled (by rw [reading]; rfl)

/-- A peer waits only once it has executed what there was. -/
theorem moves_settled (moves : Moves core peer next)
    (settled : peer.activity.waits = true → peer.pending = []) :
    next.activity.waits = true → next.pending = [] := by
  cases moves with
  | turns program activity turned => exact fun _ => turned.empty settled
  | fails | begins | hears | fires | unanswered => exact fun waits => by cases waits
  | executes command runs | opens command runs | closes runs | schedules command runs
  | cancels command runs =>
    exact fun waits => by cases (runs.busy settled).symm.trans waits
  | negotiates requestId kind sdp uploadSlots runs rtc bound rebound =>
    obtain ⟨-, -, -, -, same⟩ := rebound_same rebound
    exact fun waits => by cases (same ▸ runs.busy settled).symm.trans waits

/-- A core that offers once and then renegotiates. -/
def sample : ProtocolCore Bool Nat Bool Nat where
  new := false
  offer := true
  call offered
    | .connect url _ _ => ([.connect url], offered)
    | .wsOpen => ([.sendWebSocket "authenticate"], offered)
    | .wsMessage _ =>
      if offered then ([.applyNegotiation 2 false "renegotiation" []], offered)
      else ([.applyNegotiation 1 true "offer" []], true)
    | .publish _ _ => ([.scheduleTimer 4 20, .scheduleTimer 3 20], offered)
    | .timer _ => ([.sendWebSocket "batch"], offered)
    | .submitNegotiationAnswer _ _ _ => ([.sendWebSocket "answer"], offered)
    | .transportReady => ([.emitStateChange], offered)
    | .subscribe _ _ _ => ([.scheduleTimer 3 20], offered)

/-- What the outside answers when all goes well. -/
def smoothIo : Io := ⟨.ok (), .ok "sdp"⟩

/-- A negotiation is received, answered and followed by its answer's frame. -/
def negotiation : List Action :=
  [.begin, .receive (.ok (some (.text "frame"))) (.ok ()), .execute smoothIo, .execute smoothIo,
    .finish]

/-- A peer connects. -/
def handshake : List Action :=
  [.begin, .execute smoothIo, .execute smoothIo, .finish] ++ negotiation ++
    [.begin, .connected (.ok ()), .begin, .execute smoothIo, .finish]

/-- A peer publishes, up to the negotiation of what it publishes. -/
def publication : List Action :=
  [.begin, .execute smoothIo, .execute smoothIo, .finish, .begin, .fire, .execute smoothIo,
    .finish]

/-- A peer connects and publishes its audio. -/
def exchange : List Action :=
  handshake ++ [.start (.publish .audio)] ++ publication ++ negotiation

/-- The peer after the exchange. -/
def exchanged : Peer Bool Nat Bool Nat :=
  (run (step sample) (new sample "url" "jwt" "room") exchange).getD
    (new sample "url" "jwt" "room")

end Peer

end SfuLoad.Client.Protocol
