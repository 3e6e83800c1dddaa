import SfuLoad.Client.Commands
import SfuLoad.Client.Integrity
import SfuLoad.Client.Setup

/-!
# What a room has asked for when it is ready

Along the set-up of a room every peer works off its own plan: the calls it has made, those
of its program and those of the rounds to come are always the same. The number of
negotiations a peer will have accepted at the end of its program only grows.
-/

namespace SfuLoad.Client.Protocol

open Kit.Fallible Kit.Runs Model

variable {Core Request Kind Slot : Type}

/-- The call an instruction makes of the core. -/
def Instruction.asks : Instruction Request Kind → Option (Call Request Kind)
  | .call entry _ => some entry
  | _ => none

/-- The call an operation has made by itself. -/
def Event.asks : Event Request Kind Slot → Option (Call Request Kind)
  | .called call _ => if call.isEntry then some call else none
  | _ => none

/-- The calls an operation makes by itself, in order. -/
def Operation.asks (operation : Operation) : List (Call Request Kind) :=
  operation.program.filterMap Instruction.asks

/-- The count of negotiations that is reached at the end of a program. -/
def due (negotiationCount : Nat) : List (Instruction Request Kind) → Nat
  | [] => negotiationCount
  | .readUntil expectedCount :: program => due (max expectedCount negotiationCount) program
  | .readNext :: program => due (negotiationCount + 1) program
  | _ :: program => due negotiationCount program

/-- Who has accepted more negotiations has accepted more at the end of the program. -/
theorem due_mono {fewer more : Nat} (atMost : fewer ≤ more)
    (program : List (Instruction Request Kind)) : due fewer program ≤ due more program := by
  induction program generalizing fewer more with
  | nil => exact atMost
  | cons instruction program inductionHypothesis =>
    cases instruction with
    | readUntil expectedCount => exact inductionHypothesis (max_le_max_left expectedCount atMost)
    | readNext => exact inductionHypothesis (Nat.succ_le_succ atMost)
    | call | flushNextTimer | waitUntilConnected => exact inductionHypothesis atMost

namespace Peer

/-- The calls the operations of a peer have made and will have made. -/
def asked (peer : Peer Core Request Kind Slot) : List (Call Request Kind) :=
  peer.events.filterMap Event.asks ++ peer.program.filterMap Instruction.asks

/-- The count of negotiations for which what the peer does waits. -/
def expected (peer : Peer Core Request Kind Slot) : Nat :=
  match peer.activity with
  | .reading expectedCount => max expectedCount peer.negotiationCount
  | .running (some expectedCount) => max expectedCount peer.negotiationCount
  | _ => peer.negotiationCount

/-- The count of negotiations that the peer will have reached when it comes to rest. -/
def promised (peer : Peer Core Request Kind Slot) : Nat := due peer.expected peer.program

/-- From one state of a peer to a later one of the same operation: what it asks for stays
the same and what it has promised is not taken back. -/
structure Keeps (peer next : Peer Core Request Kind Slot) : Prop where
  asked : next.asked = peer.asked
  promised : peer.promised ≤ next.promised

variable {core : ProtocolCore Core Request Kind Slot} {peer next : Peer Core Request Kind Slot}

/-- Going on after a finished wait makes no call and leaves the negotiations promised. -/
theorem AtHead.keeps {expectedCount : Nat} {program : List (Instruction Request Kind)}
    (head : peer.AtHead expectedCount program) :
    program.filterMap Instruction.asks = peer.program.filterMap Instruction.asks ∧
      peer.promised = due (max expectedCount peer.negotiationCount) program := by
  cases head with
  | readUntil program idle first =>
    simp [promised, expected, idle, first, due, List.filterMap_cons, Instruction.asks]
  | readNext program idle first same =>
    simp [promised, expected, idle, first, due, List.filterMap_cons, Instruction.asks, same]
  | again running empty => simp [promised, expected, running]

/-- A turn to the next instruction does so too. -/
theorem Turns.keeps {program : List (Instruction Request Kind)} {activity : Activity}
    (turned : peer.Turns program activity) :
    Keeps peer { peer with program := program, activity := activity } := by
  cases turned with
  | sleeps program id ms idle first least =>
    constructor <;>
      simp [asked, promised, expected, idle, first, due, List.filterMap_cons, Instruction.asks]
  | reads program expectedCount head =>
    obtain ⟨asks, promise⟩ := head.keeps
    constructor
    · simp [asked, asks]
    · exact promise.le
  | reaches program expectedCount head reached =>
    obtain ⟨asks, promise⟩ := head.keeps
    constructor
    · simp [asked, asks]
    · rw [promise, max_eq_right reached]
      exact le_refl _
  | connects program idle first =>
    constructor <;>
      simp [asked, promised, expected, idle, first, due, List.filterMap_cons, Instruction.asks]
  | connected connecting => constructor <;> simp [asked, promised, expected, connecting]
  | rests running empty => constructor <;> simp [asked, promised, expected, running]
  | stays expectedCount reading => constructor <;> simp [asked, promised, expected, reading]

/-- A step that makes no call of the core keeps the plan, if the negotiations it expects only
grow. -/
theorem Keeps.of_silent (peer : Peer Core Request Kind Slot) {later : Peer Core Request Kind Slot}
    {events : List (Event Request Kind Slot)} (program : later.program = peer.program)
    (appended : later.events = peer.events ++ events) (silent : events.filterMap Event.asks = [])
    (grown : peer.expected ≤ later.expected) : Keeps peer later where
  asked := by
    rw [Peer.asked, appended, List.filterMap_append, silent, program, List.append_nil, Peer.asked]
  promised := by
    rw [Peer.promised, Peer.promised, program]
    exact due_mono grown peer.program

/-- A peer fails, or keeps what it asks for and has promised. -/
theorem moves_keeps (moves : Moves core peer next) :
    (∃ error, next.activity = .failed error) ∨ Keeps peer next := by
  cases moves with
  | fails program error => exact .inl ⟨error, rfl⟩
  | unanswered kind sdp uploadSlots rtc error bound rebound stands => exact .inl ⟨error, rfl⟩
  | turns program activity turned => exact .inr turned.keeps
  | begins program call entry idle first =>
    refine .inr ⟨?_, ?_⟩
    · simp [asked, Peer.call, record, first, Event.asks, entry, Instruction.asks]
    · simp [promised, expected, Peer.call, record, idle, first, due]
  | hears payload expectedCount reading =>
    refine .inr (.of_silent peer rfl rfl rfl ?_)
    simp [expected, Peer.call, record, reading]
  | fires id sleeping =>
    refine .inr (.of_silent peer rfl rfl rfl ?_)
    simp [expected, Peer.call, record, cancel, sleeping]
  | executes command runs plain => exact .inr (.of_silent peer rfl rfl rfl (le_refl _))
  | opens command runs plain =>
    refine .inr (.of_silent peer rfl (List.append_assoc _ _ _) rfl (le_refl _))
  | closes runs => exact .inr (.of_silent peer rfl rfl rfl (le_refl _))
  | schedules command runs id ms arms => exact .inr (.of_silent peer rfl rfl rfl (le_refl _))
  | cancels command runs id disarms => exact .inr (.of_silent peer rfl rfl rfl (le_refl _))
  | negotiates requestId kind sdp uploadSlots runs rtc bound rebound stands answer =>
    have same : bound.events = peer.events ∧ bound.program = peer.program ∧
        bound.activity = peer.activity ∧ bound.negotiationCount = peer.negotiationCount := by
      rcases rebound with ⟨-, rfl⟩ | ⟨-, rfl⟩ <;> exact ⟨rfl, rfl, rfl, rfl⟩
    obtain ⟨events, program, activity, count⟩ := same
    have appended : bound.events ++ [.asked rtc kind sdp uploadSlots] ++
        [.executed (.applyNegotiation requestId kind sdp uploadSlots)] = peer.events ++
          [.asked rtc kind sdp uploadSlots,
            .executed (.applyNegotiation requestId kind sdp uploadSlots)] := by simp [events]
    refine .inr (.of_silent peer program
      ((congrArg (· ++ _) appended).trans (List.append_assoc _ _ _)) rfl ?_)
    simp only [expected, Peer.call, executed, record, activity, count]
    split <;> omega

end Peer

/-- How many negotiations an operation waits for. -/
def Operation.negotiations : Operation → Nat
  | .publish _ => 1
  | .acceptNextNegotiation => 1
  | .setCameraLayouts _ => 0

/-- Each program of an operation ends by accepting the negotiations of that operation. -/
theorem Operation.due_program (operation : Operation) (negotiationCount : Nat) :
    due negotiationCount (operation.program : List (Instruction Request Kind)) =
      negotiationCount + operation.negotiations := by
  cases operation with
  | publish streamType => rfl
  | acceptNextNegotiation => rfl
  | setCameraLayouts layouts =>
    have flushed (intents : List (Int × VideoLayoutIntent))
        (flush : List (Instruction Request Kind)) (flat : due negotiationCount flush =
          negotiationCount) : due negotiationCount (intents.map (fun entry =>
            .call (.subscribe entry.1 (entry.2 ≠ .hidden) entry.2) rfl) ++ flush) =
              negotiationCount := by
      induction intents with
      | nil => exact flat
      | cons entry intents inductionHypothesis => exact inductionHypothesis
    refine flushed layouts _ ?_
    split <;> rfl

namespace Round

/-- What a round makes a peer ask for. -/
def asks (peerIndex : Nat) (round : Round) : List (Call Request Kind) :=
  match round.operation peerIndex with
  | none => []
  | some operation => operation.asks

/-- The negotiations a peer accepts in a round; a peer without part in it none. -/
def negotiations (peerIndex : Nat) (round : Round) : Nat :=
  match round.operation peerIndex with
  | none => 0
  | some operation => operation.negotiations

end Round

/-- What the rounds make a peer ask for, in order. -/
def plannedAsks (peerIndex : Nat) (rounds : List Round) : List (Call Request Kind) :=
  rounds.flatMap (Round.asks peerIndex)

/-- How many negotiations the rounds make a peer wait for. -/
def plannedNegotiations (peerIndex : Nat) (rounds : List Round) : Nat :=
  (rounds.map (Round.negotiations peerIndex)).sum

/-- A peer at rest takes on what the round asks of it. -/
theorem assigned {peer : Peer Core Request Kind Slot} (round : Round) (peerIndex : Nat)
    (idle : peer.activity = .idle) (empty : peer.program = []) :
    (round.assign peerIndex peer).asked = peer.asked ++ round.asks peerIndex ∧
      (round.assign peerIndex peer).promised = peer.promised + round.negotiations peerIndex := by
  unfold Round.assign Round.asks Round.negotiations
  cases round.operation peerIndex with
  | none => exact ⟨(List.append_nil _).symm, rfl⟩
  | some operation =>
    have started : peer.start operation = some { peer with program := operation.program } := by
      rw [Peer.start, idle, empty]
    simp only [started, Option.getD_some, Peer.asked, Peer.promised, Peer.expected, idle, empty,
      Operation.due_program, Operation.asks, due, List.filterMap_nil, List.append_nil, and_self]

namespace Setup

/-- A peer that has not failed is on its plan. -/
def OnPlan (plan : List (Call Request Kind)) (goal : Nat) (peerIndex : Nat)
    (rounds : List Round) (peer : Peer Core Request Kind Slot) : Prop :=
  (∃ error, peer.activity = .failed error) ∨
    (peer.asked ++ plannedAsks peerIndex rounds = plan ∧
      goal ≤ peer.promised + plannedNegotiations peerIndex rounds)

variable {core : ProtocolCore Core Request Kind Slot} {setup next : Setup Core Request Kind Slot}

/-- A peer that keeps its plan is still on it, or has failed. -/
theorem OnPlan.keeps {plan : List (Call Request Kind)} {goal peerIndex : Nat}
    {rounds : List Round} {peer later : Peer Core Request Kind Slot}
    (onPlan : OnPlan plan goal peerIndex rounds peer)
    (kept : (∃ error, later.activity = .failed error) ∨ peer.Keeps later)
    (working : ∀ error, peer.activity ≠ .failed error) :
    OnPlan plan goal peerIndex rounds later := by
  rcases kept with failed | keeps
  · exact .inl failed
  · rcases onPlan with ⟨error, failed⟩ | ⟨asked, promised⟩
    · exact absurd failed (working error)
    · refine .inr ⟨keeps.asked ▸ asked, le_trans promised ?_⟩
      exact Nat.add_le_add_right keeps.promised _

/-- A failed peer does not step. -/
theorem working_of_step [DecidableEq Kind] {peer later : Peer Core Request Kind Slot}
    {action : Action} (stepped : peer.step core action = some later) (error : Fault) :
    peer.activity ≠ .failed error := by
  intro failed
  cases action <;> simp [Peer.step, Peer.start, Peer.begin, Peer.execute, Peer.finish,
    Peer.receive, Peer.timeout, Peer.fire, Peer.connected, failed] at stepped

/-- The peers of a room on their plans. A room that is ready has no round left, and its
peers have come to rest with all that a load peer needs. -/
structure Planned (plan : Nat → List (Call Request Kind)) (goal : Nat → Nat) (size : Nat)
    (setup : Setup Core Request Kind Slot) : Prop where
  size : setup.peers.length = size
  onPlan : ∀ (index : Nat) (peer : Peer Core Request Kind Slot), setup.peers[index]? = some peer →
    OnPlan (plan index) (goal index) index setup.rounds peer
  ready : setup.stage = .ready → setup.rounds = [] ∧ ∀ peer ∈ setup.peers,
    peer.atRest = true ∧ peer.fault = none ∧ ∃ rtc, peer.intoLoadPeer = .ok rtc

variable {plan : Nat → List (Call Request Kind)} {goal : Nat → Nat} {size : Nat}

/-- A step of any peer keeps the room on its plan. -/
theorem planned_stepPeer [DecidableEq Kind] {index : Nat} {action : Action}
    (planned : Planned plan goal size setup) (stepped : setup.stepPeer core index action = some next) :
    Planned plan goal size next := by
  unfold stepPeer at stepped
  split at stepped
  case h_1 => cases stepped
  case h_3 => cases stepped
  case h_2 settingUp other =>
    obtain ⟨peer, located, stepped⟩ := Option.bind_eq_some_iff.mp stepped
    obtain ⟨later, moved, stepped⟩ := Option.bind_eq_some_iff.mp stepped
    obtain rfl := Option.some.inj stepped
    have kept := Peer.moves_keeps (Peer.moves_of_step moved (fun operation => other operation))
    refine ⟨(List.length_set).trans planned.size, fun position held found => ?_,
      fun ready => ?_⟩
    · rw [List.getElem?_set] at found
      split at found
      case isTrue same =>
        subst same
        split at found
        · obtain rfl := Option.some.inj found
          exact (planned.onPlan index peer located).keeps kept (working_of_step moved)
        · cases found
      case isFalse => exact planned.onPlan position held found
    · change setup.stage = .ready at ready
      rw [settingUp] at ready
      cases ready

/-- A peer at rest that has not failed has nothing left to do. -/
theorem idle_of_atRest {peer : Peer Core Request Kind Slot} (rests : peer.atRest = true)
    (sound : peer.fault = none) : peer.activity = .idle ∧ peer.program = [] := by
  unfold Peer.atRest at rests
  unfold Peer.fault at sound
  split at rests
  case h_1 error failed => simp [failed] at sound
  case h_2 idle => exact ⟨idle, List.isEmpty_iff.mp rests⟩
  case h_3 => cases rests

/-- So does the start of the next round, which puts its operations into the programs. -/
theorem planned_advance (planned : Planned plan goal size setup) (settingUp : setup.stage = .settingUp)
    (rests : ∀ peer ∈ setup.peers, peer.atRest = true) : Planned plan goal size setup.advance := by
  unfold advance
  split
  case h_1 error found => exact ⟨planned.size, planned.onPlan, fun ready => by cases ready⟩
  case h_2 noFault =>
    have sound : ∀ peer ∈ setup.peers, peer.fault = none := List.findSome?_eq_none_iff.mp noFault
    split
    case h_1 round rounds left =>
      split
      · exact ⟨planned.size, planned.onPlan, fun ready => by cases ready⟩
      · refine ⟨(List.length_mapIdx).trans planned.size, fun index peer found => ?_,
          fun ready => ?_⟩
        · rw [List.getElem?_mapIdx] at found
          obtain ⟨before, located, rfl⟩ := Option.map_eq_some_iff.mp found
          have member := List.mem_of_getElem? located
          obtain ⟨idle, empty⟩ := idle_of_atRest (rests before member) (sound before member)
          obtain ⟨asked, promised⟩ := assigned round index idle empty
          rcases planned.onPlan index before located with ⟨error, failed⟩ | ⟨onPlan, enough⟩
          · rw [idle] at failed
            cases failed
          · refine .inr ⟨?_, ?_⟩
            · rw [asked, ← onPlan, left, List.append_assoc]
              rfl
            · rw [left, plannedNegotiations, List.map_cons, List.sum_cons] at enough
              change goal index ≤ _ + plannedNegotiations index rounds
              rw [promised, plannedNegotiations]
              omega
        · change setup.stage = .ready at ready
          rw [settingUp] at ready
          cases ready
    case h_2 noRound =>
      split
      · exact ⟨planned.size, planned.onPlan, fun ready => by cases ready⟩
      case h_2 handles taken =>
        refine ⟨planned.size, planned.onPlan, fun _ => ⟨noRound, fun peer member => ?_⟩⟩
        obtain ⟨rtc, -, taken⟩ := exists_of_forall₂ (forall₂_of_mapM taken) member
        exact ⟨rests peer member, sound peer member, rtc, taken⟩

/-- So every step of the set-up does. -/
theorem planned_step [DecidableEq Kind] {action : SetupAction} (planned : Planned plan goal size setup)
    (stepped : setup.step core action = some next) : Planned plan goal size next := by
  cases action with
  | peer index action => exact planned_stepPeer planned stepped
  | proceed =>
    simp only [step, proceed] at stepped
    split at stepped
    case h_1 settingUp =>
      split at stepped
      case isTrue rests =>
        obtain rfl := Option.some.inj stepped
        exact planned_advance planned settingUp (List.all_eq_true.mp rests)
      case isFalse => cases stepped
    case h_2 => cases stepped

/-- The calls every peer makes to connect. -/
def connecting (url jwt roomId : String) : List (Call Request Kind) :=
  [.connect url jwt roomId, .transportReady]

/-- And the room starts on its plan: nothing asked yet, all rounds to come. -/
theorem planned_initial (spec : ScenarioSpec) (url roomId : String) (token : Nat → String) :
    Planned (fun index => connecting url (token index) roomId ++ plannedAsks index (roundsOf spec))
      (fun index => 1 + plannedNegotiations index (roundsOf spec)) spec.peersPerRoom.toNat
      (initial core spec url roomId token) where
  size := by simp [initial]
  onPlan index peer found := by
    obtain ⟨position, located, rfl⟩ := Option.map_eq_some_iff.mp (List.getElem?_map ▸ found)
    obtain ⟨inside, same⟩ := List.getElem?_eq_some_iff.mp located
    obtain rfl : index = position := (List.getElem_range inside).symm.trans same
    exact .inr ⟨rfl, le_refl _⟩
  ready stage := by cases stage

end Setup

/-! ## The plans -/

/-- The calls for a list of layouts. -/
def subscriptions (layouts : List (Int × VideoLayoutIntent)) : List (Call Request Kind) :=
  layouts.map (fun entry => .subscribe entry.1 (entry.2 ≠ .hidden) entry.2)

/-- Setting layouts asks for one subscription of each. -/
theorem asks_setCameraLayouts (layouts : List (Int × VideoLayoutIntent)) :
    ((Operation.setCameraLayouts layouts).asks : List (Call Request Kind)) =
      subscriptions layouts := by
  have flushed : ((if layouts.isEmpty then [] else [Instruction.flushNextTimer]) :
      List (Instruction Request Kind)).filterMap Instruction.asks = [] := by
    split <;> rfl
  rw [Operation.asks, Operation.program, List.filterMap_append, flushed, List.append_nil,
    List.filterMap_map, subscriptions]
  exact congrFun List.filterMap_eq_map' layouts

/-- Of numbered parts only the one with the number has something. -/
theorem flatMap_range_only {α : Type} (count position : Nat) (part : List α) :
    (List.range count).flatMap (fun index => if index = position then part else []) =
      if position < count then part else [] := by
  induction count with
  | zero => rfl
  | succ count inductionHypothesis =>
    rw [List.range_succ, List.flatMap_append, inductionHypothesis]
    by_cases last : count = position
    · simp [last]
    · have apart : position < count + 1 ↔ position < count := by omega
      simp [last, apart]

/-- The calls of some rounds after others. -/
theorem plannedAsks_append (peerIndex : Nat) (first second : List Round) :
    (plannedAsks peerIndex (first ++ second) : List (Call Request Kind)) =
      plannedAsks peerIndex first ++ plannedAsks peerIndex second :=
  List.flatMap_append

/-- And their negotiations. -/
theorem plannedNegotiations_append (peerIndex : Nat) (first second : List Round) :
    plannedNegotiations peerIndex (first ++ second) =
      plannedNegotiations peerIndex first + plannedNegotiations peerIndex second := by
  simp [plannedNegotiations]

/-- Of all publications a peer makes its own. -/
theorem plannedAsks_publishSources (peerIndex : Nat) (publisherCount : UInt32)
    (kind : StreamType) :
    (plannedAsks peerIndex (publishSources publisherCount kind) : List (Call Request Kind)) =
      if peerIndex < publisherCount.toNat then [.publish kind true] else [] := by
  rw [plannedAsks, publishSources, List.flatMap_assoc,
    ← flatMap_range_only publisherCount.toNat peerIndex]
  congr 1
  funext index
  by_cases own : index = peerIndex
  · simp [Round.asks, Round.operation, own, Operation.asks, Operation.program, Instruction.asks,
      List.filterMap_cons]
  · simp [Round.asks, Round.operation, own, Operation.asks, Operation.program, Instruction.asks,
      List.filterMap_cons]

/-- A peer negotiates once for each publication, its own and the others'. -/
theorem plannedNegotiations_publishSources (peerIndex : Nat) (publisherCount : UInt32)
    (kind : StreamType) :
    plannedNegotiations peerIndex (publishSources publisherCount kind) =
      publisherCount.toNat := by
  rw [publishSources]
  induction publisherCount.toNat with
  | zero => rfl
  | succ count inductionHypothesis =>
    rw [List.range_succ, List.flatMap_append, plannedNegotiations_append, inductionHypothesis]
    by_cases own : count = peerIndex <;>
      simp [plannedNegotiations, Round.negotiations, Round.operation, own, Operation.negotiations]

/-- Of the rounds of layouts, a peer has its own part and no other. -/
theorem plannedAsks_configureVideoLayouts {peerIndex : Nat} {peerCount : UInt32}
    (inside : peerIndex < peerCount.toNat) (publisherCount : UInt32) :
    (plannedAsks peerIndex (configureVideoLayouts peerCount publisherCount) :
      List (Call Request Kind)) =
        subscriptions (setLayouts (Rooms.cameraLayouts peerIndex publisherCount)) := by
  rw [plannedAsks, configureVideoLayouts, List.flatMap_map]
  refine Eq.trans ?_ ((flatMap_range_only peerCount.toNat peerIndex _).trans (if_pos inside))
  congr 1
  funext index
  by_cases own : index = peerIndex
  · simp [Round.asks, Round.operation, own, asks_setCameraLayouts]
  · simp [Round.asks, Round.operation, own]

/-- Setting layouts is answered without a negotiation. -/
theorem plannedNegotiations_configureVideoLayouts (peerIndex : Nat)
    (peerCount publisherCount : UInt32) :
    plannedNegotiations peerIndex (configureVideoLayouts peerCount publisherCount) = 0 := by
  rw [plannedNegotiations, configureVideoLayouts, List.sum_eq_zero_iff]
  intro count member
  rw [List.map_map, List.mem_map] at member
  obtain ⟨index, -, rfl⟩ := member
  by_cases own : index = peerIndex <;>
    simp [Round.negotiations, Round.operation, own, Operation.negotiations]

/-- The layouts come before the audio, and the audio before the cameras. -/
theorem plannedAsks_roundsOf (spec : ScenarioSpec) {peerIndex : Nat}
    (inside : peerIndex < spec.peersPerRoom.toNat) :
    (plannedAsks peerIndex (roundsOf spec) : List (Call Request Kind)) =
      subscriptions (setLayouts (Rooms.cameraLayouts peerIndex spec.videoPublishersPerRoom)) ++
        (if peerIndex < spec.audioPublishersPerRoom.toNat then [.publish .audio true] else []) ++
        (if peerIndex < spec.videoPublishersPerRoom.toNat then [.publish .camera true] else []) := by
  cases spec with
  | smoke | audioMesh =>
    rw [roundsOf, plannedAsks_publishSources]
    exact (List.append_nil _).symm
  | videoGallery rooms peers publishers seconds =>
    change peerIndex < peers.toNat at inside
    rw [roundsOf, plannedAsks_append, plannedAsks_publishSources,
      plannedAsks_configureVideoLayouts inside]
    exact congrArg (· ++ _) (List.append_nil _).symm
  | mixedConference rooms peers audioPublishers videoPublishers seconds =>
    change peerIndex < peers.toNat at inside
    rw [roundsOf, plannedAsks_append, plannedAsks_append, plannedAsks_publishSources,
      plannedAsks_publishSources, plannedAsks_configureVideoLayouts inside]
    rfl

/-- Over all rounds a peer accepts one negotiation for each publication of its room. -/
theorem plannedNegotiations_roundsOf (spec : ScenarioSpec) (peerIndex : Nat) :
    plannedNegotiations peerIndex (roundsOf spec) =
      spec.audioPublishersPerRoom.toNat + spec.videoPublishersPerRoom.toNat := by
  cases spec with
  | smoke | audioMesh => exact plannedNegotiations_publishSources peerIndex _ _
  | videoGallery rooms peers publishers seconds =>
    rw [roundsOf, plannedNegotiations_append, plannedNegotiations_configureVideoLayouts,
      plannedNegotiations_publishSources]
    rfl
  | mixedConference rooms peers audioPublishers videoPublishers seconds =>
    rw [roundsOf, plannedNegotiations_append, plannedNegotiations_append,
      plannedNegotiations_configureVideoLayouts, plannedNegotiations_publishSources,
      plannedNegotiations_publishSources, Nat.zero_add]
    rfl

variable [DecidableEq Kind] {core : ProtocolCore Core Request Kind Slot}
  {setup : Setup Core Request Kind Slot}

/-- Every peer of a room that is ready has made the calls of its plan and no others, and
has accepted as many negotiations as it was to wait for. -/
theorem ready_planned {spec : ScenarioSpec} {url roomId : String} {token : Nat → String}
    {actions : List SetupAction}
    (ran : run (Setup.step core) (.initial core spec url roomId token) actions = some setup)
    (ready : setup.stage = .ready) {index : Nat} (inside : index < spec.peersPerRoom.toNat) :
    ∃ peer rtc, setup.peers[index]? = some peer ∧ peer.intoLoadPeer = .ok rtc ∧
      peer.events.filterMap Event.asks = Setup.connecting url (token index) roomId ++
        plannedAsks index (roundsOf spec) ∧
      1 + plannedNegotiations index (roundsOf spec) ≤ peer.negotiationCount := by
  have planned := run_keeps (fun _ _ _ stepped planned => Setup.planned_step planned stepped) ran
    (Setup.planned_initial spec url roomId token)
  obtain ⟨noRound, settled⟩ := planned.ready ready
  have present : index < setup.peers.length := planned.size ▸ inside
  have located := List.getElem?_eq_getElem present
  obtain ⟨rests, sound, rtc, taken⟩ := settled _ (List.getElem_mem present)
  obtain ⟨idle, empty⟩ := Setup.idle_of_atRest rests sound
  refine ⟨_, rtc, located, taken, ?_⟩
  rcases planned.onPlan index _ located with ⟨error, failed⟩ | ⟨asked, promised⟩
  · rw [idle] at failed
    cases failed
  · rw [noRound, Peer.asked, empty] at asked
    rw [noRound, Peer.promised, Peer.expected, idle, empty] at promised
    exact ⟨by simpa [plannedAsks] using asked, promised⟩

/-- The publishers of a room in the workload are those of its scenario. -/
theorem workload_publishers (spec : ScenarioSpec) (valid : spec.validate = .ok ()) :
    (spec.workload valid).audioPublishers = spec.audioPublishersPerRoom.toNat ∧
      (spec.workload valid).videoPublishers = spec.videoPublishersPerRoom.toNat := by
  cases spec <;> exact ⟨rfl, rfl⟩

/-- Every peer of a room that is ready has asked the core for what its media task is about
and for nothing else: it has connected, subscribed to the layouts of the room, and
published what it has sources for. It has accepted a negotiation for itself and one for
each publication of the room. -/
theorem room_ready {spec : ScenarioSpec} (valid : spec.validate = .ok ())
    {rooms : List Rooms.Room} (made : Rooms.run spec = .ok rooms) {roomIndex : Nat}
    {room : Rooms.Room} (roomLocated : rooms[roomIndex]? = some room) {index : Nat}
    {task : Rooms.PeerTask} (taskLocated : room.tasks[index]? = some task)
    {url roomId : String} {token : Nat → String} {actions : List SetupAction}
    (ran : run (Setup.step core) (.initial core spec url roomId token) actions = some setup)
    (ready : setup.stage = .ready) :
    ∃ peer rtc, setup.peers[index]? = some peer ∧ peer.intoLoadPeer = .ok rtc ∧
      peer.events.filterMap Event.asks =
        [.connect url (token index) roomId, .transportReady] ++
          subscriptions (setLayouts ((room.layouts[index]?).getD [])) ++
          (if task.media.audio.isSome then [.publish .audio true] else []) ++
          (if task.media.video.isSome then [.publish .camera true] else []) ∧
      1 + spec.audioPublishersPerRoom.toNat + spec.videoPublishersPerRoom.toNat ≤
        peer.negotiationCount := by
  obtain ⟨made', ran', furnished⟩ := Rooms.run_furnished spec valid
  obtain rfl : made' = rooms := Except.ok.inj (ran'.symm.trans made)
  obtain ⟨-, whole, inside, assigned⟩ :=
    Workload.furnished_task furnished roomLocated taskLocated
  obtain ⟨audio, audible⟩ := assigned.audio
  obtain ⟨video, visible⟩ := assigned.video
  have layouts := whole.layouts index inside
  obtain ⟨audioCount, videoCount⟩ := workload_publishers spec valid
  rw [← spec.workload_peers valid] at inside
  rw [audioCount] at audible
  rw [videoCount] at visible layouts
  rw [UInt32.ofNat_toNat] at layouts
  obtain ⟨peer, rtc, located, taken, asked, negotiated⟩ := ready_planned ran ready inside
  refine ⟨peer, rtc, located, taken, ?_, ?_⟩
  · rw [asked, plannedAsks_roundsOf spec inside, layouts, audible, visible, Setup.connecting]
    by_cases speaks : index < spec.audioPublishersPerRoom.toNat <;>
      by_cases shows : index < spec.videoPublishersPerRoom.toNat <;>
        simp [speaks, shows]
  · rw [plannedNegotiations_roundsOf] at negotiated
    omega

/-- Two peers connect, the first publishes and the second accepts. -/
def smokeSetup : Setup Bool Nat Bool Nat :=
  let room := Setup.initial Peer.sample (.smoke 1 1) "url" "room" (fun _ => "jwt")
  (run (Setup.step Peer.sample) room
    (Peer.handshake.map (.peer 0) ++ Peer.handshake.map (.peer 1) ++ [.proceed] ++
      Peer.publication.map (.peer 0) ++ Peer.negotiation.map (.peer 0) ++ [.proceed] ++
      Peer.negotiation.map (.peer 1) ++ [.proceed])).getD room

/-- A smoke of one receiver that becomes ready: its publisher has connected, said that its
transport is ready and published audio. -/
theorem room_ready_smoke :
    ∃ peer rtc, smokeSetup.peers[0]? = some peer ∧ peer.intoLoadPeer = .ok rtc ∧
      peer.events.filterMap Event.asks =
        [.connect "url" "jwt" "room", .transportReady] ++ [] ++ [.publish .audio true] ++ [] ∧
      1 + (ScenarioSpec.smoke 1 1).audioPublishersPerRoom.toNat +
        (ScenarioSpec.smoke 1 1).videoPublishersPerRoom.toNat ≤ peer.negotiationCount := by
  have ran : run (Setup.step Peer.sample)
      (.initial Peer.sample (.smoke 1 1) "url" "room" (fun _ => "jwt"))
      (Peer.handshake.map (.peer 0) ++ Peer.handshake.map (.peer 1) ++ [.proceed] ++
        Peer.publication.map (.peer 0) ++ Peer.negotiation.map (.peer 0) ++ [.proceed] ++
        Peer.negotiation.map (.peer 1) ++ [.proceed]) = some smokeSetup := rfl
  have valid : (ScenarioSpec.smoke 1 1).validate = .ok () := by decide
  have located : [Integrity.smokeRoom][0]? = some Integrity.smokeRoom := rfl
  have tasked : Integrity.smokeRoom.tasks[0]? =
      some ⟨⟨some (Media.AudioSource.new 0), 1, none, 0⟩, []⟩ := rfl
  exact room_ready valid Integrity.run_smoke located tasked ran rfl

end SfuLoad.Client.Protocol
