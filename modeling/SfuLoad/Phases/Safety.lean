import Mathlib.Data.Fintype.Prod
import SfuLoad.Phases.Invariant

/-!
# Safety of the phases

Which phases are on their way, and which were acknowledged, in every reachable state.
A phase is only ever under way once the barrier has released the waits before its
report, and only a persisted phase is acknowledged. With what holds of each peer this
orders the traffic of all peers by the phases in the sampler's file.
-/

namespace SfuLoad.Phases

open Identity Kit.Barriers Kit.Runs Media Model Rooms Sender

variable {Peer : Type} [DecidableEq Peer] {rtp : RtpConstants} {tasks : Peer → PeerTask}
  {state next : State Peer}

/-- Between the leader's notification and the report. -/
def MeasuredStage.summoned : MeasuredStage → Bool
  | ready | sleeping _ | requesting => true
  | _ => false

/-- What holds of every reachable state. -/
structure Sound (rtp : RtpConstants) (tasks : Peer → PeerTask) (state : State Peer) : Prop where
  peers : ∀ peer,
    PeerSound rtp (tasks peer) state.sync state.persisted peer (state.peers peer)
  telemetry : state.telemetry.Sound
  acknowledged : state.sync.measuredAcknowledged = true ∨ state.measured = .storing →
    .measured ∈ state.persisted
  summoned : state.sync.measuredReady.permit = true ∨ state.measured.summoned = true →
    due .measured ≤ state.sync.barrier.generation
  reports : ∀ report ∈ state.reports, due report.phase ≤ state.sync.barrier.generation
  exchange : ∀ exchange, state.exchange = some exchange →
    due exchange.report.phase ≤ state.sync.barrier.generation
  events : ∀ phase ∈ state.events, due phase ≤ state.sync.barrier.generation
  unanswered : ∀ phase ∈ state.capture.stage.unanswered, due phase ≤ state.sync.barrier.generation
  seen : ∀ phase ∈ state.telemetry.seen, due phase ≤ state.sync.barrier.generation
  answered : ∀ phase ∈ state.capture.stage.answered, phase ∈ state.persisted
  confirmed : ∀ phase ∈ state.acknowledgements, phase ∈ state.persisted

/-- Before the first step nothing is on its way and nothing has been sent. -/
theorem initial_sound (rtp : RtpConstants) (tasks : Peer → PeerTask) (serverPid rtcPid : UInt32)
    (clockTicksPerSecond : UInt64) (startedAt : Nat) :
    Sound rtp tasks
      (.initial tasks (.initial serverPid rtcPid clockTicksPerSecond startedAt)) where
  peers := fun peer => .spawned rtp (tasks peer) peer
  telemetry := Telemetry.System.initial_sound _ _ _ _
  acknowledged := fun reached => by rcases reached with flag | stage <;> contradiction
  summoned := fun reached => by rcases reached with permit | stage <;> contradiction
  reports := fun report member => by
    obtain rfl := List.mem_singleton.mp member
    exact Nat.zero_le _
  exchange := fun _ held => by cases held
  events := fun _ member => by cases member
  unanswered := fun _ member => by cases member
  seen := fun _ member => by cases member
  answered := fun _ member => by cases member
  confirmed := fun _ member => by cases member

/-- What holds of a changed peer and of all others. -/
theorem State.forall_setPeer {holds : Peer → PeerState → Prop} {peer : Peer} {after : PeerState}
    (own : holds peer after) (others : ∀ other, other ≠ peer → holds other (state.peers other))
    (other : Peer) : holds other ((state.setPeer peer after).peers other) := by
  by_cases same : other = peer
  · subst same
    simpa [State.setPeer] using own
  · simpa [State.setPeer, same] using others other same

namespace Sound

/-- One peer changes, and what is shared grows. -/
theorem setPeer (sound : Sound rtp tasks state) {sync : ScenarioSync Peer}
    (extended : Extends state.sync sync) {peer : Peer} {after : PeerState}
    (own : PeerSound rtp (tasks peer) sync state.persisted peer after) :
    ∀ other, PeerSound rtp (tasks other) sync state.persisted other
      ((state.setPeer peer after).peers other) :=
  State.forall_setPeer own (fun other _ => (sound.peers other).grow extended (fun _ => id))

/-- A step of a peer keeps the whole sound: of the other peers nothing changes, and what it
asks for it may ask for at its stage. -/
theorem peerStep {peer : Peer} {action : PeerAction}
    (stepped : state.peerStep rtp peer action = some next) (sound : Sound rtp tasks state) :
    Sound rtp tasks next := by
  have own := sound.peers peer
  cases action with
  | arrive =>
    cases waits : (state.peers peer).stage.nextWait with
    | none => simp [State.peerStep, waits] at stepped
    | some wait =>
      simp only [State.peerStep, waits, Option.bind_eq_bind, Option.bind_some] at stepped
      split_ifs at stepped
      obtain rfl := Option.some.inj stepped
      exact { sound with
        peers := State.forall_setPeer (own.arrive waits)
          (fun other distinct => (sound.peers other).arrive_other distinct) }
  | request =>
    cases stage : (state.peers peer).stage <;>
      simp only [State.peerStep, stage, reduceCtorEq] at stepped
    split_ifs at stepped
    obtain rfl := Option.some.inj stepped
    refine { sound with peers := sound.setPeer (.refl _) (own.request stage), reports := ?_ }
    intro report member
    rcases List.mem_append.mp member with before | new
    · exact sound.reports report before
    · -- the leader has left the wait before its report
      obtain rfl := List.mem_singleton.mp new
      have left := own.inStep.left
      rw [stage] at left
      exact left
  | start =>
    simp only [State.peerStep] at stepped
    split_ifs at stepped with starting
    obtain rfl := Option.some.inj stepped
    have extended : Extends state.sync { state.sync with
        measuredAt := some (state.sync.measuredAt.getD
          (state.telemetry.now + measureStartLead)) } :=
      ⟨rfl, fun startedAt set => by simp [set], id⟩
    exact { sound with
      peers := sound.setPeer extended ((own.grow extended (fun _ => id)).start starting.1 rfl) }
  | notify =>
    simp only [State.peerStep] at stepped
    split_ifs at stepped with notifying
    obtain rfl := Option.some.inj stepped
    have extended : Extends state.sync { state.sync with
        measuredReady := state.sync.measuredReady.notifyOne } := ⟨rfl, fun _ => id, id⟩
    have left := own.inStep.left
    rw [notifying.1] at left
    exact { sound with
      peers := sound.setPeer extended ((own.grow extended (fun _ => id)).notify notifying.1)
      summoned := fun _ => left }
  | move move =>
    simp only [State.peerStep] at stepped
    split_ifs at stepped
    obtain ⟨after, moved, rfl⟩ := Option.map_eq_some_iff.mp stepped
    exact { sound with peers := sound.setPeer (.refl _) (own.move moved) }

/-- A released wait keeps every peer in step with the barrier. -/
theorem release [Fintype Peer] (sound : Sound rtp tasks state) {leader : Peer}
    {barrier : Barrier Peer} (released : state.sync.barrier.release leader = some barrier) :
    Sound rtp tasks { state with sync := { state.sync with barrier := barrier } } := by
  have later {phase : ScenarioPhase} (before : due phase ≤ state.sync.barrier.generation) :
      due phase ≤ barrier.generation := by
    rw [release_generation released]
    exact Nat.le_succ_of_le before
  exact { sound with
    peers := fun peer => (sound.peers peer).release released
    summoned := fun reached => later (sound.summoned reached)
    reports := fun report member => later (sound.reports report member)
    exchange := fun exchange held => later (sound.exchange exchange held)
    events := fun phase member => later (sound.events phase member)
    unanswered := fun phase member => later (sound.unanswered phase member)
    seen := fun phase member => later (sound.seen phase member) }

/-- The measured task changes, and what is shared grows. -/
theorem setMeasured (sound : Sound rtp tasks state) {sync : ScenarioSync Peer}
    (extended : Extends state.sync sync) {measured : MeasuredStage}
    (acknowledged : sync.measuredAcknowledged = true ∨ measured = .storing →
      .measured ∈ state.persisted)
    (summoned : sync.measuredReady.permit = true ∨ measured.summoned = true →
      due .measured ≤ state.sync.barrier.generation) :
    Sound rtp tasks { state with measured := measured, sync := sync } := by
  obtain ⟨barrier, measuredAt, permit, ready, released⟩ := sync
  obtain rfl : barrier = state.sync.barrier := extended.barrier
  exact { sound with
    peers := fun peer => (sound.peers peer).grow extended (fun _ => id)
    acknowledged := acknowledged
    summoned := summoned }

/-- The measured task goes on to a stage that neither stores nor asks. -/
theorem idleMeasured (sound : Sound rtp tasks state) {measured : MeasuredStage}
    (storing : measured ≠ .storing) (summoned : measured.summoned = false) :
    Sound rtp tasks { state with measured := measured } := by
  refine sound.setMeasured (.refl _) ?_ ?_
  · exact fun reached => sound.acknowledged (.inl (reached.resolve_right storing))
  · exact fun reached => sound.summoned (.inl (reached.resolve_right (by simp [summoned])))

/-- The measured task goes on to a stage before its report. -/
theorem summonedMeasured (sound : Sound rtp tasks state) {measured : MeasuredStage}
    (storing : measured ≠ .storing) (summoned : state.measured.summoned = true) :
    Sound rtp tasks { state with measured := measured } := by
  refine sound.setMeasured (.refl _) ?_ ?_
  · exact fun reached => sound.acknowledged (.inl (reached.resolve_right storing))
  · exact fun _ => sound.summoned (.inr summoned)

/-- A step of the task that reports the measured phase keeps the whole sound. -/
theorem measuredStep {action : MeasuredAction} (stepped : state.measuredStep action = some next)
    (sound : Sound rtp tasks state) : Sound rtp tasks next := by
  cases action with
  | ready =>
    simp only [State.measuredStep] at stepped
    split_ifs at stepped with ready
    obtain rfl := Option.some.inj stepped
    apply sound.setMeasured
    · exact ⟨rfl, fun _ => id, id⟩
    · exact fun reached => sound.acknowledged (.inl (reached.resolve_right nofun))
    · exact fun _ => sound.summoned (.inl ready.2)
  | read =>
    simp only [State.measuredStep] at stepped
    split_ifs at stepped with reading
    obtain rfl := Option.some.inj stepped
    apply sound.summonedMeasured
    · cases state.sync.measuredAt <;> nofun
    · rw [reading]
      rfl
  | wake =>
    cases stage : state.measured <;> simp only [State.measuredStep, stage, reduceCtorEq] at stepped
    split_ifs at stepped
    obtain rfl := Option.some.inj stepped
    exact sound.summonedMeasured nofun (by rw [stage]; rfl)
  | request =>
    simp only [State.measuredStep] at stepped
    split_ifs at stepped with requesting
    obtain rfl := Option.some.inj stepped
    have summoned := sound.summoned (.inr (by rw [requesting]; rfl))
    have asked : Sound rtp tasks { state with measured := .reporting } :=
      sound.idleMeasured nofun rfl
    refine { asked with reports := ?_ }
    intro report member
    rcases List.mem_append.mp member with before | new
    · exact sound.reports report before
    · obtain rfl := List.mem_singleton.mp new
      exact summoned
  | store =>
    simp only [State.measuredStep] at stepped
    split_ifs at stepped with storing
    obtain rfl := Option.some.inj stepped
    apply sound.setMeasured
    · exact ⟨rfl, fun _ => id, fun _ => rfl⟩
    · exact fun _ => sound.acknowledged (.inr storing)
    · exact fun reached => sound.summoned (.inl (reached.resolve_right nofun))
  | release =>
    simp only [State.measuredStep] at stepped
    split_ifs at stepped
    obtain rfl := Option.some.inj stepped
    apply sound.setMeasured
    · exact ⟨rfl, fun _ => id, id⟩
    · exact fun reached => sound.acknowledged (.inl (reached.resolve_right nofun))
    · exact fun reached => sound.summoned (.inl (reached.resolve_right nofun))
  | stop =>
    obtain rfl := Option.some.inj stepped
    exact sound.idleMeasured nofun rfl

/-- The reporter tells its client of an acknowledgement of the client's own phase. -/
theorem answer (sound : Sound rtp tasks state) (report : Report Peer) {acknowledged : Bool}
    (persisted : acknowledged = true → report.phase ∈ state.persisted) :
    Sound rtp tasks (state.answer report acknowledged) := by
  cases report with
  | main =>
    simp only [State.answer]
    split_ifs <;> exact { sound with }
  | peer peer phase =>
    have own := sound.peers peer
    simp only [State.answer]
    split_ifs with waits granted
    · exact { sound with
        peers := sound.setPeer (.refl _) (own.report waits.1 (persisted granted)) }
    · exact { sound with peers := sound.setPeer (.refl _) own.stop }
    · exact sound
  | measured =>
    simp only [State.answer]
    split_ifs with waits granted
    · refine sound.setMeasured (.refl _) ?_ ?_
      · exact fun _ => persisted granted
      · exact fun reached => sound.summoned (.inl (reached.resolve_right nofun))
    · exact sound.idleMeasured nofun rfl
    · exact sound

/-- A step of the reporter keeps the whole sound. -/
theorem reporterStep {action : ReporterAction} (stepped : state.reporterStep action = some next)
    (sound : Sound rtp tasks state) : Sound rtp tasks next := by
  cases action with
  | lock position =>
    cases held : state.exchange <;> cases located : state.reports[position]? <;>
      simp only [State.reporterStep, held, located, reduceCtorEq] at stepped
    obtain rfl := Option.some.inj stepped
    refine { sound with reports := ?_, exchange := ?_ }
    · intro report member
      exact sound.reports report (List.mem_of_mem_eraseIdx member)
    · intro exchange taken
      obtain rfl := Option.some.inj taken
      exact sound.reports _ (List.mem_of_getElem? located)
  | write =>
    match held : state.exchange with
    | none => simp [State.reporterStep, held] at stepped
    | some ⟨report, true⟩ => simp [State.reporterStep, held] at stepped
    | some ⟨report, false⟩ =>
      simp only [State.reporterStep, held] at stepped
      obtain rfl := Option.some.inj stepped
      have own := sound.exchange _ held
      refine { sound with exchange := ?_, events := ?_ }
      · intro exchange taken
        obtain rfl := Option.some.inj taken
        exact own
      · intro phase member
        rcases List.mem_append.mp member with before | new
        · exact sound.events phase before
        · obtain rfl := List.mem_singleton.mp new
          exact own
  | reply =>
    match held : state.exchange, queued : state.acknowledgements with
    | none, _ => simp [State.reporterStep, held] at stepped
    | some ⟨report, false⟩, _ => simp [State.reporterStep, held] at stepped
    | some ⟨report, true⟩, [] => simp [State.reporterStep, held, queued] at stepped
    | some ⟨report, true⟩, phase :: acknowledgements =>
      simp only [State.reporterStep, held, queued] at stepped
      obtain rfl := Option.some.inj stepped
      have confirmed := sound.confirmed
      rw [queued] at confirmed
      apply answer
      · exact { sound with
          exchange := fun _ taken => by cases taken
          confirmed := fun other member => confirmed other (List.mem_cons_of_mem _ member) }
      · intro own
        rw [← of_decide_eq_true own]
        exact confirmed phase List.mem_cons_self
  | fail =>
    match held : state.exchange with
    | none => simp [State.reporterStep, held] at stepped
    | some ⟨report, written⟩ =>
      simp only [State.reporterStep, held] at stepped
      obtain rfl := Option.some.inj stepped
      apply answer
      · exact { sound with exchange := fun _ taken => by cases taken }
      · intro impossible
        cases impossible

/-- The sampler's file keeps its phases, and learns only of those that are marked. -/
theorem telemetryStep (sound : Sound rtp tasks state) {action : Telemetry.Action}
    {telemetry : Telemetry.System} (stepped : state.telemetry.step action = some telemetry)
    (marks : ∀ phase ∈ action.marks, due phase ≤ state.sync.barrier.generation) :
    Sound rtp tasks { state with telemetry := telemetry } := by
  obtain ⟨kept, known⟩ := Telemetry.System.step_passes stepped
  exact { sound with
    peers := fun peer => (sound.peers peer).grow (.refl _) kept
    telemetry := Telemetry.System.step_sound stepped sound.telemetry
    acknowledged := fun reached => kept _ (sound.acknowledged reached)
    seen := fun phase member => (known phase member).elim (sound.seen phase) (marks phase)
    answered := fun phase member => kept phase (sound.answered phase member)
    confirmed := fun phase member => kept phase (sound.confirmed phase member) }

/-- A step of the controller's loop keeps the whole sound. What it acknowledges the sampler
has filed. -/
theorem captureStep {action : CaptureAction} (stepped : state.captureStep action = some next)
    (sound : Sound rtp tasks state) : Sound rtp tasks next := by
  cases action with
  | read =>
    cases stage : state.capture.stage <;> cases queued : state.events <;>
      simp only [State.captureStep, stage, queued, reduceCtorEq] at stepped
    split_ifs at stepped
    have due := sound.events
    rw [queued] at due
    split at stepped
    · obtain rfl := Option.some.inj stepped
      refine { sound with events := ?_, unanswered := ?_, answered := ?_ }
      · exact fun phase member => due phase (List.mem_cons_of_mem _ member)
      · intro phase member
        obtain rfl := List.mem_singleton.mp member
        exact due phase List.mem_cons_self
      · exact fun _ member => by cases member
    · obtain rfl := Option.some.inj stepped
      refine { sound with events := ?_, unanswered := ?_, answered := ?_ }
      · exact fun phase member => due phase (List.mem_cons_of_mem _ member)
      · exact fun _ member => by cases member
      · exact fun _ member => by cases member
  | mark =>
    cases stage : state.capture.stage <;>
      simp only [State.captureStep, stage, reduceCtorEq] at stepped
    obtain ⟨telemetry, marked, rfl⟩ := Option.map_eq_some_iff.mp stepped
    have due := sound.unanswered
    rw [stage] at due
    exact { sound.telemetryStep marked due with
      unanswered := due
      answered := fun _ member => by cases member }
  | send =>
    cases stage : state.capture.stage <;>
      simp only [State.captureStep, stage, reduceCtorEq] at stepped
    obtain ⟨telemetry, sent, rfl⟩ := Option.map_eq_some_iff.mp stepped
    exact sound.telemetryStep sent (fun _ member => by cases member)
  | acknowledge =>
    cases stage : state.capture.stage <;>
      simp only [State.captureStep, stage, reduceCtorEq] at stepped
    obtain rfl := Option.some.inj stepped
    have answered := sound.answered
    rw [stage] at answered
    refine { sound with unanswered := ?_, answered := ?_, confirmed := ?_ }
    · exact fun _ member => by cases member
    · exact fun _ member => by cases member
    · intro phase member
      rcases List.mem_append.mp member with before | new
      · exact sound.confirmed phase before
      · exact answered phase new
  | stop =>
    obtain rfl := Option.some.inj stepped
    exact { sound with
      unanswered := fun _ member => by cases member
      answered := fun _ member => by cases member }

/-- A step of the sampler keeps the whole sound: the file only grows. -/
theorem sampleStep {action : Telemetry.Action} (stepped : state.sampleStep action = some next)
    (sound : Sound rtp tasks state) : Sound rtp tasks next := by
  cases action with
  | mark phase => cases stepped
  | send => cases stepped
  | finish =>
    simp only [State.sampleStep] at stepped
    split_ifs at stepped
    obtain ⟨telemetry, finished, rfl⟩ := Option.map_eq_some_iff.mp stepped
    exact sound.telemetryStep finished (fun _ member => by cases member)
  | receive io =>
    obtain ⟨telemetry, received, rfl⟩ := Option.map_eq_some_iff.mp stepped
    have stepped := sound.telemetryStep received (fun _ member => by cases member)
    refine { stepped with unanswered := ?_, answered := ?_ }
    · intro phase member
      exact sound.unanswered phase (CaptureStage.mem_completed_unanswered member)
    · intro phase member
      rcases CaptureStage.mem_completed_answered member with before | ⟨running, _, head⟩
      · exact stepped.answered phase before
      · exact Telemetry.System.receive_files received head running
  | advance nanoseconds | start | tick | scraped answers io | close =>
    simp only [State.sampleStep] at stepped
    obtain ⟨telemetry, sampled, rfl⟩ := Option.map_eq_some_iff.mp stepped
    exact sound.telemetryStep sampled (fun _ member => by cases member)

/-- Every step keeps the invariant. -/
theorem step [Fintype Peer] {action : Action Peer} (stepped : state.step rtp action = some next)
    (sound : Sound rtp tasks state) : Sound rtp tasks next := by
  cases action with
  | peer peer action => exact peerStep stepped sound
  | release leader =>
    obtain ⟨barrier, released, rfl⟩ := Option.map_eq_some_iff.mp stepped
    exact sound.release released
  | measured action => exact measuredStep stepped sound
  | reporter action => exact reporterStep stepped sound
  | capture action => exact captureStep stepped sound
  | sample action => exact sampleStep stepped sound

/-- The phases of the file are persisted in order, each once. -/
theorem persisted_prefix (sound : Sound rtp tasks state) :
    state.persisted <+: ScenarioPhase.ordered := by
  rw [State.persisted, sound.telemetry.persisted_eq]
  exact List.take_prefix _ _

/-- No phase is in the file twice. -/
theorem persisted_nodup (sound : Sound rtp tasks state) : state.persisted.Nodup :=
  sound.persisted_prefix.sublist.nodup (by decide)

/-- A persisted phase was reported behind its waits. -/
theorem due_le (sound : Sound rtp tasks state) {phase : ScenarioPhase}
    (member : phase ∈ state.persisted) : due phase ≤ state.sync.barrier.generation :=
  sound.seen phase (List.mem_append_left _ member)

/-- A wait that some peer has left, every peer has entered. -/
theorem rendezvous (sound : Sound rtp tasks state) (peer other : Peer) :
    (state.peers peer).stage.left ≤ (state.peers other).stage.entered :=
  (sound.peers peer).inStep.rendezvous (sound.peers other).inStep

/-- The second wait is released only behind the first leader's report. -/
theorem warmup_persisted (sound : Sound rtp tasks state) {peer : Peer}
    (left : 2 ≤ (state.peers peer).stage.left) : .warmup ∈ state.persisted := by
  have released := Nat.le_trans left (sound.peers peer).inStep.left
  obtain ⟨leader, elected⟩ := exists_elected (Nat.lt_of_lt_of_le Nat.zero_lt_two released)
  apply (sound.peers leader).elected elected
  have entered := Nat.le_trans left (sound.rendezvous peer leader)
  exact .inr (Nat.lt_of_lt_of_le Nat.one_lt_two entered)

/-- Who has sent a measured packet has seen its acknowledgement, behind a wait that
every peer entered with its warmup settled and its start instant set. -/
theorem measured_sent (sound : Sound rtp tasks state) {peer : Peer} {packet : Sent}
    (member : packet ∈ (state.peers peer).sent) (measured : packet.identity.phase = .measured) :
    .measured ∈ state.persisted ∧
    (∀ other, (sendWarmup rtp (tasks other).media).1 <+: (state.peers other).sent ∧
      (state.peers other).stage.hasSettled = true) ∧
    ∃ startedAt, ∀ other, (state.peers other).origin = some startedAt := by
  have own := sound.peers peer
  have segment := own.traffic.of_measured member measured
  have entered (other : Peer) : 5 ≤ (state.peers other).stage.entered :=
    Nat.le_trans (Stage.five_le_left segment) (sound.rendezvous peer other)
  refine ⟨sound.acknowledged (.inl (own.acknowledged segment)), ?_, ?_⟩
  · intro other
    have later : 2 < (state.peers other).stage.entered :=
      Nat.lt_of_lt_of_le (by decide) (entered other)
    obtain ⟨begun, ended⟩ := Stage.segment_of_two_lt later
    refine ⟨(sound.peers other).traffic.warmup_prefix begun ended, ?_⟩
    simp [Stage.hasSettled, later]
  · obtain ⟨startedAt, shared, _⟩ := own.started (.inr (entered peer))
    refine ⟨startedAt, fun other => ?_⟩
    obtain ⟨same, other_shared, origin⟩ := (sound.peers other).started (.inr (entered other))
    rw [origin, ← other_shared, shared]

/-- The drain is reported behind a wait that every peer entered with all it had sent. -/
theorem drain_persisted (sound : Sound rtp tasks state) (member : .drain ∈ state.persisted)
    (peer : Peer) : (state.peers peer).stage.sends = false ∧
      runMediaPeer rtp (tasks peer).media = .ok (state.peers peer).sent := by
  have own := sound.peers peer
  have entered : 5 < (state.peers peer).stage.entered :=
    Nat.le_trans (sound.due_le member) own.inStep.reached
  have segment := Stage.segment_of_five_lt entered
  have traffic := own.traffic
  rw [segment] at traffic
  refine ⟨?_, traffic⟩
  cases stage : (state.peers peer).stage <;> simp_all [Stage.sends, Stage.segment]

end Sound

/-- Every state a run reaches satisfies the invariant. -/
theorem run_sound [Fintype Peer] {actions : List (Action Peer)}
    (ran : run (State.step rtp) state actions = some next) (sound : Sound rtp tasks state) :
    Sound rtp tasks next :=
  run_keeps (fun _ _ _ stepped sound => sound.step stepped) ran sound

section kept

/-- An answer to a report touches no telemetry. -/
theorem answer_telemetry (report : Report Peer) (acknowledged : Bool) :
    (state.answer report acknowledged).telemetry = state.telemetry := by
  cases report <;> grind [State.answer, State.setPeer]

/-- Nor does a step of a peer. -/
theorem peerStep_telemetry {peer : Peer} {action : PeerAction}
    (stepped : state.peerStep rtp peer action = some next) : next.telemetry = state.telemetry := by
  cases action with
  | arrive =>
    obtain ⟨wait, _, entered⟩ := Option.bind_eq_some_iff.mp stepped
    split_ifs at entered
    obtain rfl := Option.some.inj entered
    rfl
  | move move =>
    simp only [State.peerStep] at stepped
    split_ifs at stepped
    obtain ⟨after, _, rfl⟩ := Option.map_eq_some_iff.mp stepped
    rfl
  | _ => grind [State.peerStep, State.setPeer]

omit [DecidableEq Peer] in

/-- Nor does a step of the task that reports the measured phase. -/
theorem measuredStep_telemetry {action : MeasuredAction}
    (stepped : state.measuredStep action = some next) : next.telemetry = state.telemetry := by
  cases action <;> grind [State.measuredStep]

/-- Nor does a step of the reporter. -/
theorem reporterStep_telemetry {action : ReporterAction}
    (stepped : state.reporterStep action = some next) : next.telemetry = state.telemetry := by
  cases action <;> grind [State.reporterStep, answer_telemetry]

omit [DecidableEq Peer] in

/-- The controller's loop touches it only by a step of the client that marks. -/
theorem captureStep_telemetry {action : CaptureAction}
    (stepped : state.captureStep action = some next) : next.telemetry = state.telemetry ∨
      ∃ own, state.telemetry.step own = some next.telemetry := by
  cases action with
  | mark | send =>
    simp only [State.captureStep] at stepped
    split at stepped
    · obtain ⟨telemetry, own, rfl⟩ := Option.map_eq_some_iff.mp stepped
      exact .inr ⟨_, own⟩
    · cases stepped
  | _ =>
    left
    grind [State.captureStep]

omit [DecidableEq Peer] in

/-- The sampler's own steps are steps of the telemetry. -/
theorem sampleStep_telemetry {action : Telemetry.Action}
    (stepped : state.sampleStep action = some next) :
    state.telemetry.step action = some next.telemetry := by
  cases action with
  | mark phase => cases stepped
  | send => cases stepped
  | finish =>
    simp only [State.sampleStep] at stepped
    split_ifs at stepped
    obtain ⟨telemetry, own, rfl⟩ := Option.map_eq_some_iff.mp stepped
    exact own
  | advance nanoseconds | start | tick | scraped answers io | receive io | close =>
    simp only [State.sampleStep] at stepped
    obtain ⟨telemetry, own, rfl⟩ := Option.map_eq_some_iff.mp stepped
    exact own

/-- Seen from the sampler, a step is one of its own or none. -/
theorem step_telemetry [Fintype Peer] {action : Action Peer}
    (stepped : state.step rtp action = some next) : next.telemetry = state.telemetry ∨
      ∃ own, state.telemetry.step own = some next.telemetry := by
  cases action with
  | peer peer action => exact .inl (peerStep_telemetry stepped)
  | release leader =>
    obtain ⟨barrier, _, rfl⟩ := Option.map_eq_some_iff.mp stepped
    exact .inl rfl
  | measured action => exact .inl (measuredStep_telemetry stepped)
  | reporter action => exact .inl (reporterStep_telemetry stepped)
  | capture action => exact captureStep_telemetry stepped
  | sample action => exact .inr ⟨action, sampleStep_telemetry stepped⟩

/-- What is persisted stays persisted. -/
theorem run_persisted [Fintype Peer] {actions : List (Action Peer)} {phase : ScenarioPhase}
    (ran : run (State.step rtp) state actions = some next) (member : phase ∈ state.persisted) :
    phase ∈ next.persisted := by
  have kept (before : State Peer) (action : Action Peer) (after : State Peer)
      (stepped : before.step rtp action = some after) (persisted : phase ∈ before.persisted) :
      phase ∈ after.persisted := by
    rcases step_telemetry stepped with same | ⟨own, sampled⟩
    · simpa [State.persisted, same] using persisted
    · exact (Telemetry.System.step_passes sampled).kept phase persisted
  exact run_keeps kept ran member

end kept

/-- The phases of a run are safe. For every number of rooms and peers and every
interleaving: the phases in the sampler's file are the first of their order, each
once. Whoever has sent a warmup packet has done so with the warmup phase persisted.
Whoever has sent a measured packet has done so with the measured phase persisted, all
warmups sent and settled, and one start instant for all peers. And once the drain
phase is persisted every peer has sent all its media yields, and sends no more.

Proof: every step keeps the invariant. A peer that has left a wait knows that all
have entered it, and what each of them is behind by then is in its own part of the
invariant. -/
theorem phases_are_safe {rooms peersPerRoom : Nat} {rtp : RtpConstants}
    {tasks : Fin rooms × Fin peersPerRoom → PeerTask} {serverPid rtcPid : UInt32}
    {clockTicksPerSecond : UInt64} {startedAt : Nat}
    {actions : List (Action (Fin rooms × Fin peersPerRoom))}
    {state : State (Fin rooms × Fin peersPerRoom)}
    (ran : run (State.step rtp)
      (.initial tasks (.initial serverPid rtcPid clockTicksPerSecond startedAt)) actions =
        some state) :
    (state.persisted <+: ScenarioPhase.ordered ∧ state.persisted.Nodup) ∧
    (∀ peer, ∀ packet ∈ (state.peers peer).sent, packet.identity.phase = .warmup →
      .warmup ∈ state.persisted) ∧
    (∀ peer, ∀ packet ∈ (state.peers peer).sent, packet.identity.phase = .measured →
      .measured ∈ state.persisted ∧
      (∀ other, (sendWarmup rtp (tasks other).media).1 <+: (state.peers other).sent ∧
        (state.peers other).stage.hasSettled = true) ∧
      ∃ startedAt, ∀ other, (state.peers other).origin = some startedAt) ∧
    (.drain ∈ state.persisted → ∀ peer,
      (state.peers peer).stage.sends = false ∧
      runMediaPeer rtp (tasks peer).media = .ok (state.peers peer).sent ∧
      ∀ later final, run (State.step rtp) state later = some final →
        (final.peers peer).sent = (state.peers peer).sent) := by
  have sound : Sound rtp tasks state := run_sound ran (initial_sound rtp tasks _ _ _ _)
  refine ⟨⟨sound.persisted_prefix, sound.persisted_nodup⟩, ?_, ?_, ?_⟩
  · intro peer packet member _
    have begun := (sound.peers peer).traffic.of_sent member
    exact sound.warmup_persisted (Stage.two_le_left begun)
  · intro peer packet member measured
    exact sound.measured_sent member measured
  · intro drained peer
    obtain ⟨quiet, whole⟩ := sound.drain_persisted drained peer
    refine ⟨quiet, whole, ?_⟩
    intro later final continued
    have wholeLater := ((run_sound continued sound).drain_persisted
      (run_persisted continued drained) peer).2
    exact Except.ok.inj (wholeLater.symm.trans whole)

/-- A room of two whose first peer sends one audio packet. -/
def pairTasks (peer : Fin 1 × Fin 2) : PeerTask :=
  ⟨.audioOnly (if peer.2 = 0 then some (AudioSource.new 0) else none) 1, []⟩

/-- A step of both peers of the pair. -/
def both (action : PeerAction) : List (Action (Fin 1 × Fin 2)) :=
  [.peer (0, 0) action, .peer (0, 1) action]

/-- All peers meet, and the first one leads. -/
def meet : List (Action (Fin 1 × Fin 2)) :=
  both .arrive ++ [.release (0, 0)] ++ both (.move .leave)

/-- One report from the lock to its answer. -/
def exchanged : List (Action (Fin 1 × Fin 2)) :=
  [.reporter (.lock 0), .reporter .write, .capture .read, .capture .mark, .capture .send,
    .sample (.receive (.ok ())), .capture .acknowledge, .reporter .reply]

/-- Two seconds pass. -/
def pass : Action (Fin 1 × Fin 2) := .sample (.advance 2000000000)

/-- A scrape at which neither the server nor its endpoints answer. -/
def lost : Telemetry.Scrape :=
  ⟨.error "connection refused", .ok none, .error "connection refused", .error "connection refused"⟩

/-- The pair's whole run. -/
def pairRun : List (Action (Fin 1 × Fin 2)) :=
  [.sample .start, .sample (.scraped lost (.ok ()))] ++ exchanged ++
  -- the warmup
  meet ++ [.peer (0, 0) .request] ++ exchanged ++ meet ++ [.peer (0, 0) (.move .pace), pass] ++
  List.replicate 5 (.peer (0, 0) (.move .send)) ++ both (.move .turn) ++ [pass] ++
  both (.move .settle) ++ meet ++ meet ++ both .start ++ meet ++
  -- the measured packet
  [.peer (0, 0) .notify, .measured .ready, .measured .read, pass, .measured .wake,
    .measured .request] ++ exchanged ++ [.measured .store, .measured .release] ++
  both (.move .load) ++ [.peer (0, 0) (.move .turn), .peer (0, 0) (.move .send)] ++
  both (.move .turn) ++ both (.move .receive) ++
  -- the drain
  meet ++ [.peer (0, 0) .request] ++ exchanged

/-- The pair's run gets to its drain with five warmup packets and a measured one. -/
theorem pair_reaches_drain : ∃ state,
    run (State.step documentedRtp) (.initial pairTasks (.initial 1 2 100 0)) pairRun = some state ∧
    state.persisted = ScenarioPhase.ordered ∧ (state.peers (0, 0)).sent.length = 6 ∧
    ∀ peer, runMediaPeer documentedRtp (pairTasks peer).media = .ok (state.peers peer).sent := by
  have reached : (run (State.step documentedRtp) (.initial pairTasks (.initial 1 2 100 0))
      pairRun).map (fun state => (state.persisted, (state.peers (0, 0)).sent.length)) =
        some (ScenarioPhase.ordered, 6) := by decide +kernel
  obtain ⟨state, ran, ends⟩ := Option.map_eq_some_iff.mp reached
  obtain ⟨persisted, sent⟩ := Prod.mk.inj ends
  obtain ⟨_, _, _, drained⟩ := phases_are_safe ran
  refine ⟨state, ran, persisted, sent, ?_⟩
  intro peer
  exact (drained (by rw [persisted]; decide) peer).2.1

end SfuLoad.Phases
