import SfuLoad.Client.Protocol

/-!
# The steps of a peer

Every step of a peer is one of a few moves, which say what it is about: a turn from one
thing to the next, a call of the core, a command. Results about runs are proved move by
move.
-/

namespace SfuLoad.Client.Protocol

open Kit.Runs Model

variable {Core Request Kind Slot : Type}

/-- The timer that a command arms, with its delay. -/
def Command.arms : Command Request Kind Slot → Option (Nat × Nat)
  | .scheduleTimer id ms => some (id, ms)
  | .beginPendingRequest timeoutTimerId timeoutMs => some (timeoutTimerId, timeoutMs)
  | _ => none

/-- The timer a command takes away: a cancelled one, or that of the request it completes. -/
def Command.disarms : Command Request Kind Slot → Option Nat
  | .cancelTimer id => some id
  | .completePendingRequest timeoutTimerId => some timeoutTimerId
  | _ => none

/-- The commands that touch neither the timers nor the RTC peer. -/
def Command.isPlain : Command Request Kind Slot → Bool
  | .closePeerConnection => false
  | .applyNegotiation _ _ _ _ => false
  | command => command.arms.isNone && command.disarms.isNone

/-- The peer waits for something other than a command that it executes. -/
def Activity.waits : Activity → Bool
  | .running _ => false
  | .failed _ => false
  | _ => true

namespace Peer

/-- The peer is executing the command. -/
def Runs (peer : Peer Core Request Kind Slot) (command : Command Request Kind Slot) : Prop :=
  ∃ rest, peer.pending = command :: rest

/-- The RTC peer is a new one for an initial offer, and otherwise the same. -/
def Rebound (core : ProtocolCore Core Request Kind Slot) (kind : Kind)
    (peer bound : Peer Core Request Kind Slot) : Prop :=
  kind = core.offer ∧ bound = { peer with rtc := some peer.bound, bound := peer.bound + 1 } ∨
    kind ≠ core.offer ∧ bound = peer

/-- The peer is at the head of the loop that reads until there are enough negotiations,
with the program that follows. -/
inductive AtHead (peer : Peer Core Request Kind Slot) (expectedCount : Nat) :
    List (Instruction Request Kind) → Prop where
  | readUntil (program : List (Instruction Request Kind)) (idle : peer.activity = .idle)
      (first : peer.program = .readUntil expectedCount :: program) :
      AtHead peer expectedCount program
  | readNext (program : List (Instruction Request Kind)) (idle : peer.activity = .idle)
      (first : peer.program = .readNext :: program)
      (expected : expectedCount = peer.negotiationCount + 1) : AtHead peer expectedCount program
  | again (running : peer.activity = .running (some expectedCount)) (empty : peer.pending = []) :
      AtHead peer expectedCount peer.program

/-- How a peer turns to something else, with nothing else changed. -/
inductive Turns (peer : Peer Core Request Kind Slot) :
    List (Instruction Request Kind) → Activity → Prop where
  | sleeps (program : List (Instruction Request Kind)) (id ms : Nat)
      (idle : peer.activity = .idle) (first : peer.program = .flushNextTimer :: program)
      (least : peer.timers.least = some (id, ms)) : Turns peer program (.sleeping id)
  | reads (program : List (Instruction Request Kind)) (expectedCount : Nat)
      (head : peer.AtHead expectedCount program) : Turns peer program (.reading expectedCount)
  | reaches (program : List (Instruction Request Kind)) (expectedCount : Nat)
      (head : peer.AtHead expectedCount program)
      (reached : expectedCount ≤ peer.negotiationCount) : Turns peer program .idle
  | connects (program : List (Instruction Request Kind)) (idle : peer.activity = .idle)
      (first : peer.program = .waitUntilConnected :: program) : Turns peer program .connecting
  | connected (connecting : peer.activity = .connecting) : Turns peer peer.program .idle
  | rests (running : peer.activity = .running none) (empty : peer.pending = []) :
      Turns peer peer.program .idle
  | stays (expectedCount : Nat) (reading : peer.activity = .reading expectedCount) :
      Turns peer peer.program (.reading expectedCount)

/-- What a peer can become in one step of an operation. -/
inductive Moves (core : ProtocolCore Core Request Kind Slot) (peer : Peer Core Request Kind Slot) :
    Peer Core Request Kind Slot → Prop where
  | fails (program : List (Instruction Request Kind)) (error : Fault) :
      Moves core peer ({ peer with program := program }.fail error)
  | turns (program : List (Instruction Request Kind)) (activity : Activity)
      (turned : peer.Turns program activity) :
      Moves core peer { peer with program := program, activity := activity }
  | begins (program : List (Instruction Request Kind)) (call : Call Request Kind)
      (entry : call.isEntry = true) (idle : peer.activity = .idle)
      (first : peer.program = .call call entry :: program) :
      Moves core peer { { peer with program := program }.call core call with
        activity := .running none }
  | hears (payload : String) (expectedCount : Nat)
      (reading : peer.activity = .reading expectedCount) :
      Moves core peer { peer.call core (.wsMessage payload) with
        activity := .running (some expectedCount) }
  | fires (id : Nat) (sleeping : peer.activity = .sleeping id) :
      Moves core peer { (peer.cancel id).call core (.timer id) with activity := .running none }
  | executes (command : Command Request Kind Slot) (runs : peer.Runs command)
      (plain : command.isPlain = true) :
      Moves core peer (peer.executed command)
  | opens (command : Command Request Kind Slot) (runs : peer.Runs command)
      (plain : command.isPlain = true) :
      Moves core peer (({ peer with websocket := true }.executed command).call core .wsOpen)
  | closes (runs : peer.Runs .closePeerConnection) :
      Moves core peer ({ peer with rtc := none }.executed .closePeerConnection)
  | schedules (command : Command Request Kind Slot) (runs : peer.Runs command) (id ms : Nat)
      (arms : command.arms = some (id, ms)) :
      Moves core peer ((peer.schedule id ms).executed command)
  | cancels (command : Command Request Kind Slot) (runs : peer.Runs command) (id : Nat)
      (disarms : command.disarms = some id) :
      Moves core peer ((peer.cancel id).executed command)
  | unanswered (kind : Kind) (sdp : String) (uploadSlots : List Slot) (rtc : Nat) (error : Fault)
      (bound : Peer Core Request Kind Slot) (rebound : peer.Rebound core kind bound)
      (stands : bound.rtc = some rtc) :
      Moves core peer ((bound.record (.asked rtc kind sdp uploadSlots)).fail error)
  | negotiates (requestId : Request) (kind : Kind) (sdp : String) (uploadSlots : List Slot)
      (runs : peer.Runs (.applyNegotiation requestId kind sdp uploadSlots)) (rtc : Nat)
      (bound : Peer Core Request Kind Slot) (rebound : peer.Rebound core kind bound)
      (stands : bound.rtc = some rtc) (answer : String) :
      Moves core peer
        { ((bound.record (.asked rtc kind sdp uploadSlots)).executed
            (.applyNegotiation requestId kind sdp uploadSlots)).call core
            (.submitNegotiationAnswer requestId kind answer) with
          negotiationCount := bound.negotiationCount + 1 }

variable {core : ProtocolCore Core Request Kind Slot} {peer next : Peer Core Request Kind Slot}

/-- Reading until a count of negotiations is a move: the peer reads, has no socket to read from, or
has reached the count. -/
theorem moves_readUntil {program : List (Instruction Request Kind)} {expectedCount : Nat}
    (head : peer.AtHead expectedCount program) :
    Moves core peer ({ peer with program := program }.readUntil expectedCount) := by
  unfold readUntil
  split
  case isTrue behind =>
    split
    · exact .turns program (.reading expectedCount) (.reads program expectedCount head)
    · exact .fails program _
  case isFalse reached =>
    exact .turns program .idle (.reaches program expectedCount head (Nat.not_lt.mp reached))

/-- Binding for a negotiation changes the RTC peer and what it is bound for only. -/
theorem rebound_of_bindFor [DecidableEq Kind] {kind : Kind} {io : Except Fault Unit}
    {bound : Peer Core Request Kind Slot} (bound_eq : peer.bindFor core kind io = .ok bound) :
    peer.Rebound core kind bound := by
  unfold bindFor at bound_eq
  split at bound_eq
  case isTrue offer =>
    cases io with
    | error error => cases bound_eq
    | ok => exact .inl ⟨offer, (Except.ok.inj bound_eq).symm⟩
  case isFalse renegotiation => exact .inr ⟨renegotiation, (Except.ok.inj bound_eq).symm⟩

/-- An operation starts on an idle peer with an empty program, and puts its own there. -/
theorem start_eq_some {operation : Operation} (stepped : peer.start operation = some next) :
    peer.activity = .idle ∧ peer.program = [] ∧ next = { peer with program := operation.program } := by
  unfold start at stepped
  split at stepped
  case h_1 idle empty => exact ⟨idle, empty, (Option.some.inj stepped).symm.trans (by rw [idle])⟩
  case h_2 => cases stepped

/-- The next instruction is a move. -/
theorem moves_of_begin (stepped : peer.begin core = some next) : Moves core peer next := by
  unfold begin at stepped
  split at stepped
  case h_2 => cases stepped
  case h_1 instruction program idle first =>
    obtain rfl := Option.some.inj stepped
    cases instruction with
    | call call entry => exact .begins program call entry idle first
    | flushNextTimer =>
      dsimp only
      split
      · exact .fails program _
      case h_2 id ms least =>
        exact .turns program (.sleeping id) (.sleeps program id ms idle first least)
    | readUntil expectedCount => exact moves_readUntil (.readUntil program idle first)
    | readNext => exact moves_readUntil (.readNext program idle first rfl)
    | waitUntilConnected =>
      dsimp only
      split
      · exact .fails program _
      · exact .turns program .connecting (.connects program idle first)

/-- A command that goes over the socket is a move, whether the socket took it or there is
none. -/
theorem moves_of_overWebSocket {command : Command Request Kind Slot} (io : Except Fault Unit)
    (runs : peer.Runs command) (plain : command.isPlain = true) :
    Moves core peer (peer.overWebSocket command io) := by
  unfold overWebSocket
  split
  · cases io with
    | error error => exact .fails peer.program error
    | ok => exact .executes command runs plain
  · exact .fails peer.program _

/-- Executing a command is a move, for every kind of command. -/
theorem moves_of_execute [DecidableEq Kind] {io : Io} (stepped : peer.execute core io = some next) :
    Moves core peer next := by
  unfold execute at stepped
  split at stepped
  case h_2 => cases stepped
  case h_1 command rest _ waiting =>
    have runs : peer.Runs command := ⟨rest, waiting⟩
    obtain rfl := Option.some.inj stepped
    cases command with
    | connect url =>
      simp only [perform]
      split
      · exact .fails peer.program _
      · exact .opens _ runs rfl
    | sendWebSocket frame => exact moves_of_overWebSocket _ runs rfl
    | closePeerConnection => exact .closes runs
    | applyNegotiation requestId kind sdp uploadSlots =>
      simp only [perform]
      split
      case h_1 => exact .fails peer.program _
      case h_2 bound bound_eq =>
        have rebound : peer.Rebound core kind bound := rebound_of_bindFor bound_eq
        unfold negotiate
        split
        case h_1 absent =>
          rcases rebound with ⟨-, rfl⟩ | ⟨-, rfl⟩
          · cases absent
          · exact .fails bound.program _
        case h_2 rtc stands =>
          cases io.answer with
          | error error => exact .unanswered kind sdp uploadSlots rtc error bound rebound stands
          | ok answer =>
            exact .negotiates requestId kind sdp uploadSlots runs rtc bound rebound stands answer
    | scheduleTimer id ms => exact .schedules _ runs id ms rfl
    | cancelTimer id => exact .cancels _ runs id rfl
    | closeWebSocket => exact moves_of_overWebSocket _ runs rfl
    | beginPendingRequest id ms => exact .schedules _ runs id ms rfl
    | completePendingRequest id => exact .cancels _ runs id rfl
    | emitStateChange => exact .executes _ runs rfl
    | emitEvent => exact .executes _ runs rfl
    | setAvailableFeatures => exact .executes _ runs rfl
    | setRecordingState => exact .executes _ runs rfl

/-- Ending a call is a move. -/
theorem moves_of_finish (stepped : peer.finish = some next) : Moves core peer next := by
  unfold finish at stepped
  split at stepped
  case h_1 running empty =>
    obtain rfl := Option.some.inj stepped
    exact .turns peer.program .idle (.rests running empty)
  case h_2 expectedCount running empty =>
    obtain rfl := Option.some.inj stepped
    exact moves_readUntil (.again running empty)
  case h_3 => cases stepped

/-- A message, the end of the socket or its error is a move. -/
theorem moves_of_receive {message : Except Fault (Option Message)} {pong : Except Fault Unit}
    (stepped : peer.receive core message pong = some next) : Moves core peer next := by
  unfold receive at stepped
  split at stepped
  case h_2 => cases stepped
  case h_1 expectedCount reading =>
    have stays : Moves core peer peer := by
      have turned : Moves core peer { peer with activity := .reading expectedCount } :=
        .turns peer.program (.reading expectedCount) (.stays expectedCount reading)
      rwa [← reading] at turned
    obtain rfl := Option.some.inj stepped
    split
    · exact .fails peer.program _
    · exact .fails peer.program _
    · exact .hears _ expectedCount reading
    · split
      · exact .fails peer.program _
      · exact stays
    · exact stays
    · exact .fails peer.program _

/-- Every step of an operation is one of the moves. -/
theorem moves_of_step [DecidableEq Kind] {action : Action}
    (stepped : peer.step core action = some next)
    (other : ∀ operation, action ≠ .start operation) : Moves core peer next := by
  cases action with
  | start operation => exact absurd rfl (other operation)
  | begin => exact moves_of_begin stepped
  | execute io => exact moves_of_execute stepped
  | finish => exact moves_of_finish stepped
  | receive message pong => exact moves_of_receive stepped
  | timeout =>
    simp only [step, timeout] at stepped
    split at stepped
    · obtain rfl := Option.some.inj stepped
      exact .fails peer.program _
    · cases stepped
  | fire =>
    simp only [step, fire] at stepped
    split at stepped
    case h_1 id sleeping =>
      obtain rfl := Option.some.inj stepped
      exact .fires id sleeping
    case h_2 => cases stepped
  | connected io =>
    simp only [step, connected] at stepped
    split at stepped
    case h_2 => cases stepped
    case h_1 connecting =>
      obtain rfl := Option.some.inj stepped
      cases io with
      | error error => exact .fails peer.program error
      | ok => exact .turns peer.program .idle (.connected connecting)

/-- What every move keeps and every start, every run of a new peer keeps. -/
theorem run_keeps_moves [DecidableEq Kind] (invariant : Peer Core Request Kind Slot → Prop)
    {url jwt roomId : String} {actions : List Action}
    (ran : run (step core) (new core url jwt roomId) actions = some peer)
    (initial : invariant (new core url jwt roomId))
    (started : ∀ (peer : Peer Core Request Kind Slot) (operation : Operation),
      invariant peer → invariant { peer with program := operation.program })
    (kept : ∀ {peer next : Peer Core Request Kind Slot}, Moves core peer next →
      invariant peer → invariant next) : invariant peer := by
  refine run_keeps (fun state action next stepped holds => ?_) ran initial
  cases action with
  | start operation =>
    obtain ⟨-, -, rfl⟩ := start_eq_some stepped
    exact started state operation holds
  | _ => exact kept (moves_of_step stepped (fun _ same => by cases same)) holds

end Peer

end SfuLoad.Client.Protocol
