import SfuLoad.Phases.System
import SfuLoad.Phases.Traffic

/-!
# What holds of one peer

A peer is in step with the barrier, its traffic is its stage's, and what it has seen
of the shared state is true. Nothing another task does takes any of it back.
-/

namespace SfuLoad.Phases

open Kit.Barriers Kit.Runs Media Model Rooms Sender

variable {Peer : Type} [DecidableEq Peer] {rtp : RtpConstants} {task : PeerTask}
  {sync next : ScenarioSync Peer} {persisted later : List ScenarioPhase} {peer other : Peer}
  {self after : PeerState}

/-- What holds of a peer, given what is shared and the phases that are persisted. -/
structure PeerSound (rtp : RtpConstants) (task : PeerTask) (sync : ScenarioSync Peer)
    (persisted : List ScenarioPhase) (peer : Peer) (state : PeerState) : Prop where
  inStep : InStep sync.barrier peer state.stage.entered state.stage.left
  ticket : ∀ wait generation, state.stage = .waiting wait generation → generation = wait
  traffic : Traffic rtp task.media state state.stage.segment
  started : state.stage = .started ∨ 4 < state.stage.entered →
    ∃ startedAt, sync.measuredAt = some startedAt ∧ state.origin = some startedAt
  acknowledged : state.stage.segment = .measuring ∨ state.stage.segment = .sent →
    sync.measuredAcknowledged = true
  elected : sync.barrier.Elects 0 peer → state.stage = .reported .warmup ∨ 1 < state.stage.entered →
    .warmup ∈ persisted

/-- What is shared only grows, the barrier apart. -/
structure Extends (sync next : ScenarioSync Peer) : Prop where
  barrier : next.barrier = sync.barrier
  measuredAt : ∀ startedAt, sync.measuredAt = some startedAt → next.measuredAt = some startedAt
  acknowledged : sync.measuredAcknowledged = true → next.measuredAcknowledged = true

omit [DecidableEq Peer] in

/-- The shared state extends itself. -/
theorem Extends.refl (sync : ScenarioSync Peer) : Extends sync sync :=
  ⟨rfl, fun _ => id, id⟩

namespace PeerSound

/-- A task that was just spawned. -/
theorem spawned (rtp : RtpConstants) (task : PeerTask) (peer : Peer) :
    PeerSound rtp task .new [] peer (.spawned task) where
  inStep := .new
  ticket := fun _ _ stage => by cases stage
  traffic := ⟨rfl, rfl⟩
  started := fun reached => by rcases reached with stage | waits <;> contradiction
  acknowledged := fun reached => by rcases reached with stage | stage <;> cases stage
  elected := fun leader => by cases leader

/-- What other tasks do to what is shared. -/
theorem grow (sound : PeerSound rtp task sync persisted peer self) (extended : Extends sync next)
    (kept : ∀ phase ∈ persisted, phase ∈ later) : PeerSound rtp task next later peer self where
  inStep := extended.barrier ▸ sound.inStep
  ticket := sound.ticket
  traffic := sound.traffic
  started := fun reached => by
    obtain ⟨startedAt, shared, own⟩ := sound.started reached
    exact ⟨startedAt, extended.measuredAt startedAt shared, own⟩
  acknowledged := fun reached => extended.acknowledged (sound.acknowledged reached)
  elected := fun leader reached => kept _ (sound.elected (extended.barrier ▸ leader) reached)

/-- A task that is dropped stays where it is. -/
theorem stop (sound : PeerSound rtp task sync persisted peer self) :
    PeerSound rtp task sync persisted peer { self with stopped := true } :=
  { sound with traffic := sound.traffic.congr rfl rfl rfl rfl rfl }

/-- A task that goes on without entering a wait. -/
theorem follow (sound : PeerSound rtp task sync persisted peer self)
    (entered : after.stage.entered = self.stage.entered)
    (left : after.stage.left ≤ sync.barrier.generation)
    (moving : ∀ wait generation, after.stage ≠ .waiting wait generation)
    (traffic : Traffic rtp task.media after after.stage.segment)
    (origin : 4 < self.stage.entered → after.origin = self.origin)
    (starting : after.stage ≠ .started)
    (acknowledged : after.stage.segment = .measuring ∨ after.stage.segment = .sent →
      sync.measuredAcknowledged = true)
    (reported : after.stage = .reported .warmup → sync.barrier.Elects 0 peer →
      .warmup ∈ persisted) : PeerSound rtp task sync persisted peer after where
  inStep := entered ▸ sound.inStep.leave left
  ticket := fun wait generation stage => absurd stage (moving wait generation)
  traffic := traffic
  started := fun reached => by
    have waits := reached.resolve_left starting
    rw [entered] at waits
    rw [origin waits]
    exact sound.started (.inr waits)
  acknowledged := acknowledged
  elected := fun leader reached => by
    rcases reached with stage | waits
    · exact reported stage leader
    · exact sound.elected leader (.inr (entered ▸ waits))

/-- A task that goes on within its segment. -/
theorem goTo (sound : PeerSound rtp task sync persisted peer self) {stage : Stage}
    (entered : stage.entered = self.stage.entered) (left : stage.left ≤ sync.barrier.generation)
    (moving : ∀ wait generation, stage ≠ .waiting wait generation)
    (segment : stage.segment = self.stage.segment) (starting : stage ≠ .started)
    (reported : stage = .reported .warmup → sync.barrier.Elects 0 peer → .warmup ∈ persisted) :
    PeerSound rtp task sync persisted peer (self.goTo stage) := by
  apply sound.follow
  · exact entered
  · exact left
  · exact moving
  · show Traffic rtp task.media (self.goTo stage) stage.segment
    rw [segment]
    exact sound.traffic.congr rfl rfl rfl rfl rfl
  · intro _
    rfl
  · exact starting
  · intro reached
    exact sound.acknowledged (segment ▸ reached)
  · exact reported

/-- A task that goes on to a stage near its own. -/
theorem proceed (sound : PeerSound rtp task sync persisted peer self) {before stage : Stage}
    (here : self.stage = before) (near : before.Near stage)
    (left : stage.left ≤ sync.barrier.generation) :
    PeerSound rtp task sync persisted peer (self.goTo stage) := by
  subst here
  exact sound.goTo near.entered left near.moving near.segment near.starting
    (fun same => absurd same near.reported)

/-- What follows a wait that was released. -/
theorem leaveWait (sound : PeerSound rtp task sync persisted peer self) {now wait generation : Nat}
    (stage : self.stage = .waiting wait generation)
    (released : generation < sync.barrier.generation)
    (moved : self.leaveWait rtp now (sync.barrier.Elects generation peer) wait = some after) :
    PeerSound rtp task sync persisted peer after := by
  obtain rfl := sound.ticket wait generation stage
  have traffic := sound.traffic
  have acknowledged := sound.acknowledged
  rw [stage] at traffic acknowledged
  match generation with
  | 0 =>
    obtain rfl := Option.some.inj moved
    by_cases leader : sync.barrier.Elects 0 peer
    · simp only [leader, decide_true, if_true]
      exact sound.proceed stage ⟨rfl, rfl, by simp, by simp, by simp⟩ released
    · simp only [leader, decide_false, Bool.false_eq_true, if_false]
      exact sound.goTo (by simp [stage, Stage.entered, due]) released (by simp)
        (by simp [stage, Stage.segment, due]) (by simp) (fun _ elected => absurd elected leader)
  | 1 =>
    obtain rfl := Option.some.inj moved
    refine sound.follow (by simp [stage, Stage.entered]) released (by simp) ?_ ?_ (by simp)
      (by simp [Stage.segment]) (by simp)
    · obtain ⟨sent, media⟩ := traffic
      exact ⟨by rw [sent, media]; rfl, by rw [media]⟩
    · intro waits
      simp [stage, Stage.entered] at waits
  | 2 =>
    obtain rfl := Option.some.inj moved
    refine sound.follow (by simp [stage, Stage.entered]) released (by simp) ?_ ?_ (by simp)
      (by simp [Stage.segment]) (by simp)
    · obtain ⟨sent, media⟩ := traffic
      exact ⟨sent, by rw [media]⟩
    · intro waits
      simp [stage, Stage.entered] at waits
  | 3 =>
    obtain rfl := Option.some.inj moved
    exact sound.proceed stage ⟨rfl, rfl, by simp, by simp, by simp⟩ released
  | 4 =>
    obtain rfl := Option.some.inj moved
    by_cases leader : sync.barrier.Elects 4 peer
    · simp only [leader, decide_true, if_true]
      exact sound.proceed stage ⟨rfl, rfl, by simp, by simp, by simp⟩ released
    · simp only [leader, decide_false, Bool.false_eq_true, if_false]
      exact sound.proceed stage ⟨rfl, rfl, by simp, by simp, by simp⟩ released
  | 5 =>
    obtain rfl := Option.some.inj moved
    by_cases leader : sync.barrier.Elects 5 peer
    · simp only [leader, decide_true, if_true]
      exact sound.proceed stage ⟨rfl, rfl, by simp, by simp, by simp⟩ released
    · simp only [leader, decide_false, Bool.false_eq_true, if_false]
      exact sound.proceed stage ⟨rfl, rfl, by simp, by simp, by simp⟩ released
  | 6 =>
    obtain rfl := Option.some.inj moved
    exact sound.proceed stage ⟨rfl, rfl, by simp, by simp, by simp⟩ released
  | more + 7 => cases moved

/-- A task that only pauses or observes keeps its stage and its traffic. -/
theorem stay (sound : PeerSound rtp task sync persisted peer self)
    (stage : after.stage = self.stage) (traffic : Traffic rtp task.media after self.stage.segment)
    (origin : ∀ startedAt, self.origin = some startedAt → after.origin = some startedAt) :
    PeerSound rtp task sync persisted peer after where
  inStep := stage ▸ sound.inStep
  ticket := stage ▸ sound.ticket
  traffic := stage ▸ traffic
  started := fun reached => by
    obtain ⟨startedAt, shared, own⟩ := sound.started (stage ▸ reached)
    exact ⟨startedAt, shared, origin startedAt own⟩
  acknowledged := stage ▸ sound.acknowledged
  elected := stage ▸ sound.elected

/-- The measured loop begins when the acknowledgement is seen, and not before. -/
theorem beginMeasured (sound : PeerSound rtp task sync persisted peer self)
    (segment : self.stage.segment = .reset) (entered : self.stage.entered = 5)
    (left : 5 ≤ sync.barrier.generation) (seen : sync.measuredAcknowledged = true) :
    PeerSound rtp task sync persisted peer self.beginMeasured := by
  have traffic := sound.traffic
  rw [segment] at traffic
  apply sound.follow
  · exact entered.symm
  · exact left
  · simp [PeerState.beginMeasured]
  · exact traffic.begin
  · intro _
    rfl
  · simp [PeerState.beginMeasured]
  · intro _
    exact seen
  · simp [PeerState.beginMeasured]

/-- What follows the packets of a turn. -/
theorem nextPackets (sound : PeerSound rtp task sync persisted peer self) {now : Nat}
    (idle : self.pending = []) (moved : self.nextPackets rtp now = some after) :
    PeerSound rtp task sync persisted peer after := by
  have left := sound.inStep.left
  have traffic := sound.traffic
  unfold PeerState.nextPackets at moved
  cases stage : self.stage <;> simp only [stage, reduceCtorEq] at moved
  case warming =>
    obtain rfl := Option.some.inj moved
    rw [stage] at left traffic
    refine sound.follow (by simp [stage, PeerState.goTo, Stage.entered]) left
      (by simp [PeerState.goTo]) ?_ (fun _ => rfl) (by simp [PeerState.goTo])
      (by simp [PeerState.goTo, Stage.segment]) (by simp [PeerState.goTo])
    obtain ⟨sent, media⟩ := traffic
    rw [idle, List.append_nil] at sent
    exact ⟨sent, media⟩
  case measuring =>
    rw [stage] at left traffic
    rcases traffic.next idle moved with ⟨same, origin, going⟩ | ⟨deadline, rfl, done⟩
    · exact sound.stay same (by rw [stage]; exact going) (fun _ own => origin ▸ own)
    · exact sound.follow (by simp [stage, PeerState.goTo, Stage.entered]) left
        (by simp [PeerState.goTo]) done (fun _ => rfl) (by simp [PeerState.goTo])
        (fun _ => sound.acknowledged (.inl (by rw [stage]; rfl))) (by simp [PeerState.goTo])

/-- A move of a peer keeps what holds of it. -/
theorem move (sound : PeerSound rtp task sync persisted peer self) {now : Nat} {move : Move}
    (moved : self.move rtp now sync peer move = some after) :
    PeerSound rtp task sync persisted peer after := by
  have left := sound.inStep.left
  cases move with
  | leave =>
    cases stage : self.stage <;> simp only [PeerState.move, stage, reduceCtorEq] at moved
    split_ifs at moved with released
    exact sound.leaveWait stage released moved
  | pace =>
    cases origin : self.origin <;> cases pending : self.pending <;>
      simp only [PeerState.move, origin, pending, reduceCtorEq] at moved
    obtain rfl := Option.some.inj moved
    refine sound.stay rfl (sound.traffic.congr rfl pending.symm rfl rfl rfl) ?_
    intro startedAt own
    rw [origin] at own
    cases own
  | send =>
    cases origin : self.origin <;> cases pending : self.pending <;>
      simp only [PeerState.move, origin, pending, reduceCtorEq] at moved
    split_ifs at moved with sends
    obtain rfl := Option.some.inj moved
    refine sound.stay rfl (sound.traffic.send ?_ pending) (fun _ own => origin.symm.trans own)
    cases stage : self.stage <;> simp_all [Stage.sends, Stage.segment]
  | turn =>
    cases pending : self.pending <;>
      simp only [PeerState.move, pending, reduceCtorEq] at moved
    exact sound.nextPackets pending moved
  | settle =>
    cases stage : self.stage <;> simp only [PeerState.move, stage, reduceCtorEq] at moved
    split_ifs at moved
    obtain rfl := Option.some.inj moved
    rw [stage] at left
    exact sound.proceed stage ⟨rfl, rfl, by simp, by simp, by simp⟩ left
  | load =>
    cases stage : self.stage <;> simp only [PeerState.move, stage, reduceCtorEq] at moved
    all_goals
      obtain rfl := Option.some.inj moved
      rw [stage] at left
      split_ifs with seen
      · exact sound.beginMeasured (by rw [stage]; rfl) (by rw [stage]; rfl) left seen
      · exact sound.proceed stage ⟨rfl, rfl, by simp, by simp, by simp⟩ left
  | listen =>
    cases stage : self.stage <;> simp only [PeerState.move, stage, reduceCtorEq] at moved
    obtain rfl := Option.some.inj moved
    rw [stage] at left
    exact sound.proceed stage ⟨rfl, rfl, by simp, by simp, by simp⟩ left
  | wake =>
    cases stage : self.stage <;> simp only [PeerState.move, stage, reduceCtorEq] at moved
    split_ifs at moved
    obtain rfl := Option.some.inj moved
    rw [stage] at left
    exact sound.proceed stage ⟨rfl, rfl, by simp, by simp, by simp⟩ left
  | observe payload =>
    simp only [PeerState.move] at moved
    split_ifs at moved
    obtain rfl := Option.some.inj moved
    exact sound.stay rfl (sound.traffic.congr rfl rfl rfl rfl rfl) (fun _ own => own)
  | receive =>
    cases stage : self.stage <;> simp only [PeerState.move, stage, reduceCtorEq] at moved
    split_ifs at moved
    obtain rfl := Option.some.inj moved
    rw [stage] at left
    exact sound.proceed stage ⟨rfl, rfl, by simp, by simp, by simp⟩ left
  | quiesce =>
    cases stage : self.stage <;> simp only [PeerState.move, stage, reduceCtorEq] at moved
    split_ifs at moved
    obtain rfl := Option.some.inj moved
    rw [stage] at left
    exact sound.proceed stage ⟨rfl, rfl, by simp, by simp, by simp⟩ left
  | stop =>
    obtain rfl := Option.some.inj moved
    exact sound.stop

/-- A task enters the wait its stage is before, which is the barrier's generation. -/
theorem arrive (sound : PeerSound rtp task sync persisted peer self) {wait : Nat}
    (waits : self.stage.nextWait = some wait) :
    PeerSound rtp task { sync with barrier := sync.barrier.arrive peer } persisted peer
      (self.goTo (.waiting wait sync.barrier.generation)) := by
  obtain ⟨entered, left⟩ := Stage.nextWait_eq_some waits
  have inStep := sound.inStep
  rw [entered, left] at inStep
  have segment := Stage.segment_waiting waits sync.barrier.generation
  constructor
  case inStep => exact inStep.arrive
  case ticket =>
    intro other generation stage
    obtain ⟨rfl, rfl⟩ := Stage.waiting.inj stage
    exact inStep.present.2
  case traffic =>
    show Traffic rtp task.media (self.goTo _) (Stage.waiting wait _).segment
    rw [segment]
    exact sound.traffic.congr rfl rfl rfl rfl rfl
  case started =>
    intro reached
    have later : 4 < wait + 1 := reached.resolve_left (by simp [PeerState.goTo])
    apply sound.started
    by_cases fifth : wait = 4
    · exact .inl (Stage.nextWait_started (fifth ▸ waits))
    · exact .inr (by omega)
  case acknowledged =>
    intro reached
    apply sound.acknowledged
    rw [← segment]
    exact reached
  case elected =>
    intro leader reached
    have later : 1 < wait + 1 := reached.resolve_left (by simp [PeerState.goTo])
    apply sound.elected leader
    by_cases second : wait = 1
    · exact .inl (Stage.nextWait_warmup (second ▸ waits))
    · exact .inr (by omega)

/-- Another task enters a wait. -/
theorem arrive_other (sound : PeerSound rtp task sync persisted peer self)
    (distinct : peer ≠ other) :
    PeerSound rtp task { sync with barrier := sync.barrier.arrive other } persisted peer self :=
  { sound with inStep := sound.inStep.arrive_other distinct }

/-- The barrier is released. Its first leader has not reported yet. -/
theorem release [Fintype Peer] (sound : PeerSound rtp task sync persisted peer self)
    {barrier : Barrier Peer} (released : sync.barrier.release other = some barrier) :
    PeerSound rtp task { sync with barrier := barrier } persisted peer self where
  inStep := sound.inStep.release released
  ticket := sound.ticket
  traffic := sound.traffic
  started := sound.started
  acknowledged := sound.acknowledged
  elected := fun leader reached => by
    rcases (release_elects released).mp leader with before | ⟨first, _⟩
    · exact sound.elected before reached
    · have entered := sound.inStep.everyone_arrived released
      have left := sound.inStep.left
      rcases reached with stage | waits
      · simp [stage, Stage.left, Stage.entered, due] at left
        omega
      · omega

/-- A task takes the start instant. -/
theorem start (sound : PeerSound rtp task sync persisted peer self)
    (stage : self.stage = .starting) {startedAt : Nat}
    (shared : sync.measuredAt = some startedAt) :
    PeerSound rtp task sync persisted peer
      { self with stage := .started, origin := some startedAt } := by
  have inStep := sound.inStep
  have traffic := sound.traffic
  rw [stage] at inStep traffic
  constructor
  case inStep => exact inStep
  case ticket =>
    intro wait generation other
    cases other
  case traffic => exact traffic
  case started =>
    intro _
    exact ⟨startedAt, shared, rfl⟩
  case acknowledged =>
    intro reached
    rcases reached with other | other <;> cases other
  case elected =>
    intro leader _
    exact sound.elected leader (.inr (by rw [stage]; decide))

/-- An elected task asks for its report. -/
theorem request (sound : PeerSound rtp task sync persisted peer self) {phase : ScenarioPhase}
    (stage : self.stage = .requesting phase) :
    PeerSound rtp task sync persisted peer (self.goTo (.reporting phase)) := by
  have left := sound.inStep.left
  rw [stage] at left
  exact sound.proceed stage ⟨rfl, rfl, by simp, by simp, by simp⟩ left

/-- An elected task goes on when its phase is persisted. -/
theorem report (sound : PeerSound rtp task sync persisted peer self) {phase : ScenarioPhase}
    (stage : self.stage = .reporting phase) (acknowledged : phase ∈ persisted) :
    PeerSound rtp task sync persisted peer (self.goTo (.reported phase)) := by
  have left := sound.inStep.left
  rw [stage] at left
  refine sound.goTo (by rw [stage]; rfl) left (by simp) (by rw [stage]; rfl) (by simp) ?_
  intro same _
  obtain rfl := Stage.reported.inj same
  exact acknowledged

/-- The elected task goes on once it has notified. -/
theorem notify (sound : PeerSound rtp task sync persisted peer self)
    (stage : self.stage = .notifying) :
    PeerSound rtp task sync persisted peer (self.goTo .checking) := by
  have left := sound.inStep.left
  rw [stage] at left
  exact sound.proceed stage ⟨rfl, rfl, by simp, by simp, by simp⟩ left

end PeerSound

end SfuLoad.Phases
