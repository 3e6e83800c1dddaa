import SfuLoad.Kit.Runs
import SfuLoad.Telemetry.Journal

/-!
# Runs of the sampler

The sampler task, the one client that marks phases, and the command channel
between them, on one monotonic clock. Scrapes take time, during which marks may
be taken and queued. When the interval fires and when the controller marks or
finishes is left open; the scheduler's bias towards commands is kept.
-/

namespace SfuLoad.Telemetry

open Kit.Runs Model

/-- How many commands the channel holds. -/
def samplerCommandCapacity : Nat := 8

/-- What the controller asks of the sampler: to record a phase that was taken at this time,
or to finish. -/
inductive SamplerCommand where
  | phase (phase : ScenarioPhase) (elapsedMs : UInt64)
  | finish
deriving DecidableEq

/-- The time a command carries. -/
def SamplerCommand.markMs : SamplerCommand → Option UInt64
  | .phase _ elapsedMs => some elapsedMs
  | .finish => none

/-- Where the sampler is: before its immediate record, in a scrape, waiting for a
command or the interval, or done. -/
inductive Stage where
  | starting
  | scraping (finalSample : Bool) (elapsedMs : UInt64) (scrapeStarted : Nat)
  | waiting
  | returned (result : Except String TelemetrySummary)
deriving DecidableEq

/-- A sampler that has returned receives no more. -/
def Stage.isReturned : Stage → Bool
  | .returned _ => true
  | _ => false

/-- Where the marking client is. There is no marker before the sampler's start has
returned. A mark takes its time, is sent, and waits for its completion. -/
inductive Marker where
  | absent
  | idle
  | marked (phase : ScenarioPhase) (elapsedMs : UInt64)
  | sent
deriving DecidableEq

/-- The time of a mark that is not sent yet. -/
def Marker.unsent : Marker → List UInt64
  | .marked _ elapsedMs => [elapsedMs]
  | _ => []

/-- The sampler, its one client and the channel between them, with the time. -/
structure System where
  now : Nat
  sampler : SamplerState
  stage : Stage
  marker : Marker
  queue : List SamplerCommand
  finishing : Bool
deriving DecidableEq

/-- One step of the sampler, of its client or of the clock. -/
inductive Action where
  | advance (nanoseconds : Nat)
  | start
  | tick
  | scraped (answers : Scrape) (io : Except String Unit)
  | receive (io : Except String Unit)
  | mark (phase : ScenarioPhase)
  | send
  | finish
  | close

namespace System

/-- The sampler is about to take its first observation. -/
def initial (serverPid rtcPid : UInt32) (clockTicksPerSecond : UInt64) (startedAt : Nat) :
    System where
  now := startedAt
  sampler := .started serverPid rtcPid clockTicksPerSecond startedAt
  stage := .starting
  marker := .absent
  queue := []
  finishing := false

/-- Milliseconds since the sampler started. -/
def elapsed (self : System) : UInt64 := millis (self.now - self.sampler.startedAt)

/-- A scrape begins: the record will have the time of now. -/
def beginRecord (self : System) (finalSample : Bool) : System :=
  { self with stage := .scraping finalSample self.elapsed self.now }

/-- A record is written. The final one ends the task; the immediate one lets `start`
return, and with it the marker exists. -/
def recorded (self : System) (finalSample : Bool) (sampler : SamplerState) : System :=
  { self with
    sampler := sampler
    stage := if finalSample then .returned sampler.finish else .waiting
    marker := if self.marker = .absent then .idle else self.marker }

/-- The end of a scrape. -/
def endRecord (self : System) (finalSample : Bool) (elapsedMs : UInt64) (scrapeStarted : Nat)
    (answers : Scrape) (io : Except String Unit) : System :=
  match self.sampler.record finalSample elapsedMs (millis (self.now - scrapeStarted)) answers io with
  | .error message => { self with stage := .returned (.error message) }
  | .ok sampler => self.recorded finalSample sampler

/-- The first command of the queue. A phase is persisted and completed. -/
def receiveCommand (self : System) (io : Except String Unit) : Option System :=
  match self.queue with
  | [] => none
  | .phase phase elapsedMs :: queue =>
    match self.sampler.recordPhase phase elapsedMs io with
    | .error message =>
      some { self with queue := queue, marker := .idle, stage := .returned (.error message) }
    | .ok sampler => some { self with queue := queue, marker := .idle, sampler := sampler }
  | .finish :: queue => some ({ self with queue := queue }.beginRecord true)

/-- A step, where its action is enabled. The interval is only looked at when no
command waits, and the channel closes early only when nobody finished. -/
def step (self : System) : Action → Option System
  | .advance nanoseconds => some { self with now := self.now + nanoseconds }
  | .start =>
    match self.stage with
    | .starting => some (self.beginRecord false)
    | _ => none
  | .tick =>
    match self.stage, self.queue with
    | .waiting, [] => some (self.beginRecord false)
    | _, _ => none
  | .scraped answers io =>
    match self.stage with
    | .scraping finalSample elapsedMs scrapeStarted =>
      some (self.endRecord finalSample elapsedMs scrapeStarted answers io)
    | _ => none
  | .receive io =>
    match self.stage with
    | .waiting => self.receiveCommand io
    | _ => none
  | .mark phase =>
    match self.marker with
    | .idle => some { self with marker := .marked phase self.elapsed }
    | _ => none
  | .send =>
    match self.marker with
    | .marked phase elapsedMs =>
      if self.stage.isReturned = false ∧ self.queue.length < samplerCommandCapacity then
        some { self with marker := .sent, queue := self.queue ++ [.phase phase elapsedMs] }
      else none
    | _ => none
  | .finish =>
    if self.marker ≠ .absent ∧ self.finishing = false ∧ self.stage.isReturned = false ∧
        self.queue.length < samplerCommandCapacity then
      some { self with finishing := true, queue := self.queue ++ [.finish] }
    else none
  | .close =>
    match self.stage, self.queue, self.finishing with
    | .waiting, [], false =>
      some { self with
        stage := .returned (.error "telemetry command channel closed before finish") }
    | _, _, _ => none

/-- The times of the marks that are not written yet, in the order they were taken. -/
def pending (self : System) : List UInt64 :=
  self.queue.filterMap SamplerCommand.markMs ++ self.marker.unsent

/-- How a file ends whose sampler returned a summary: first a scrape that is not
final, last one that is, and none between them is. -/
structure Complete (records : List TelemetryRecord) : Prop where
  first : ∃ record, records.head? = some record ∧ record.outcome.isPhase = false
  last : ∃ record, records.getLast? = some record ∧ record.outcome.isPhase = false ∧
    record.finalSample = true
  before : ∀ record ∈ records.dropLast, record.finalSample = false
  several : 1 < records.length

/-- What every reachable state satisfies. -/
structure Sound (system : System) : Prop where
  journal : Journal system.elapsed system.sampler system.pending
  scraping : ∀ finalSample elapsedMs scrapeStarted,
    system.stage = .scraping finalSample elapsedMs scrapeStarted → elapsedMs ≤ system.elapsed ∧
      (∀ record ∈ scrapes system.sampler.output, record.elapsedMs ≤ elapsedMs) ∧
      (finalSample = true → system.marker ≠ .absent)
  unstarted : system.marker = .absent → system.queue = [] ∧ system.sampler.output = []
  started : system.marker ≠ .absent →
    ∃ record, system.sampler.output.head? = some record ∧ record.outcome.isPhase = false
  waiting : system.stage = .waiting → system.marker ≠ .absent
  running : (∀ result, system.stage ≠ .returned result) →
    ∀ record ∈ system.sampler.output, record.finalSample = false
  complete : ∀ summary, system.stage = .returned (.ok summary) →
    system.sampler.phases.count = ScenarioPhase.count ∧
    summary = ⟨system.sampler.sampleCount, system.sampler.errorCount, system.sampler.errors⟩ ∧
    Complete system.sampler.output

/-- Nothing has been written yet, so nothing can be out of order. -/
theorem initial_sound (serverPid rtcPid : UInt32) (clockTicksPerSecond : UInt64)
    (startedAt : Nat) : (initial serverPid rtcPid clockTicksPerSecond startedAt).Sound where
  journal := Journal.empty _ _ _ _ _
  scraping := fun _ _ _ stage => by cases stage
  unstarted := fun _ => ⟨rfl, rfl⟩
  started := fun present => absurd rfl present
  waiting := fun stage => by cases stage
  running := fun _ record member => by cases member
  complete := fun _ stage => by cases stage

section
variable {system : System}

/-- Time may pass at any moment. -/
theorem advance_sound (sound : system.Sound) (nanoseconds : Nat) :
    Sound { system with now := system.now + nanoseconds } := by
  have passed : system.elapsed ≤ elapsed { system with now := system.now + nanoseconds } :=
    millis_mono (Nat.sub_le_sub_right (Nat.le_add_right _ _) _)
  exact
    { sound with
      journal := sound.journal.later passed
      scraping := fun finalSample elapsedMs scrapeStarted stage => by
        obtain ⟨begun, latest, present⟩ := sound.scraping finalSample elapsedMs scrapeStarted stage
        exact ⟨UInt64.le_trans begun passed, latest, present⟩ }

/-- A record begins at the present time, which no scrape before it passes. -/
theorem beginRecord_sound (sound : system.Sound) {finalSample : Bool}
    (running : ∀ result, system.stage ≠ .returned result)
    (present : finalSample = true → system.marker ≠ .absent) :
    (system.beginRecord finalSample).Sound where
  journal := sound.journal
  scraping := fun final elapsedMs scrapeStarted stage => by
    obtain ⟨rfl, rfl, _⟩ := Stage.scraping.inj stage
    exact ⟨UInt64.le_refl _, fun record member =>
      sound.journal.past record (List.mem_of_mem_filter member), present⟩
  unstarted := sound.unstarted
  started := sound.started
  waiting := fun stage => by cases stage
  running := fun _ => sound.running running
  complete := fun _ stage => by cases stage

/-- A sampler that gives up leaves its records as they are. -/
theorem returned_sound (sound : system.Sound) (message : String) :
    Sound { system with stage := .returned (.error message) } where
  journal := sound.journal
  scraping := fun _ _ _ stage => by cases stage
  unstarted := sound.unstarted
  started := sound.started
  waiting := fun stage => by cases stage
  running := fun other => absurd rfl (other (.error message))
  complete := fun _ stage => by cases stage

/-- After a record the sampler is the one the record left. -/
@[simp] theorem recorded_sampler (finalSample : Bool) (sampler : SamplerState) :
    (system.recorded finalSample sampler).sampler = sampler := rfl

/-- A record does not move the clock. -/
theorem recorded_elapsed {finalSample : Bool} {sampler : SamplerState}
    (startedAt : sampler.startedAt = system.sampler.startedAt) :
    (system.recorded finalSample sampler).elapsed = system.elapsed := by
  simp only [elapsed, recorded, startedAt]

/-- A marker that comes to be has nothing pending. -/
theorem recorded_pending (finalSample : Bool) (sampler : SamplerState) :
    (system.recorded finalSample sampler).pending = system.pending := by
  simp only [pending, recorded]
  split_ifs with absent
  · rw [absent]
    rfl
  · rfl

/-- After the first record there is a client that may mark phases. -/
theorem recorded_present (finalSample : Bool) (sampler : SamplerState) :
    (system.recorded finalSample sampler).marker ≠ .absent := by
  simp only [recorded]
  split_ifs with absent
  · decide
  · exact absent

/-- The end of a scrape: its record is the last, and the first if there was none. -/
theorem endRecord_sound (sound : system.Sound) {finalSample : Bool} {elapsedMs : UInt64}
    {scrapeStarted : Nat} (stage : system.stage = .scraping finalSample elapsedMs scrapeStarted)
    (answers : Scrape) (io : Except String Unit) :
    (system.endRecord finalSample elapsedMs scrapeStarted answers io).Sound := by
  obtain ⟨begun, latest, present⟩ := sound.scraping finalSample elapsedMs scrapeStarted stage
  have unfinished : ∀ record ∈ system.sampler.output, record.finalSample = false :=
    sound.running (fun result other => by rw [stage] at other; cases other)
  unfold endRecord
  cases written : system.sampler.record finalSample elapsedMs
      (millis (system.now - scrapeStarted)) answers io with
  | error message => exact returned_sound sound message
  | ok sampler =>
    have journal := sound.journal.scrape written begun latest
    obtain ⟨outcome, output, startedAt, _, counted⟩ := SamplerState.record_eq_ok written
    have noPhase := TelemetryOutcome.isPhase_eq_false (counted.imp And.left And.left)
    have first : ∃ record, sampler.output.head? = some record ∧
        record.outcome.isPhase = false := by
      rw [output]
      by_cases absent : system.marker = .absent
      · rw [(sound.unstarted absent).2]
        exact ⟨_, rfl, noPhase⟩
      · obtain ⟨record, located, kind⟩ := sound.started absent
        exact ⟨record, by rw [List.head?_append, located]; rfl, kind⟩
    constructor
    case journal =>
      rw [recorded_elapsed startedAt, recorded_pending]
      exact journal
    case scraping =>
      intro final began started scraping
      cases finalSample <;> cases scraping
    case unstarted => exact fun absent => absurd absent (recorded_present finalSample sampler)
    case started => exact fun _ => first
    case waiting => exact fun _ => recorded_present finalSample sampler
    case running =>
      intro running record member
      cases finalSample with
      | true => exact absurd rfl (running sampler.finish)
      | false =>
        rw [recorded_sampler, output] at member
        rcases List.mem_append.mp member with before | new
        · exact unfinished record before
        · rw [List.mem_singleton.mp new]
    case complete =>
      intro summary returned
      cases finalSample with
      | false => cases returned
      | true =>
        obtain ⟨counted, summarized⟩ := SamplerState.finish_eq_ok (Stage.returned.inj returned)
        refine ⟨counted, summarized, first, ?_, ?_, ?_⟩
        · exact ⟨_, by rw [recorded_sampler, output, List.getLast?_append]; rfl, noPhase, rfl⟩
        · rw [recorded_sampler, output, List.dropLast_concat]
          exact unfinished
        · obtain ⟨record, located, _⟩ := sound.started (present rfl)
          have nonempty := List.length_pos_of_mem (List.mem_of_head? located)
          rw [recorded_sampler, output, List.length_append, List.length_singleton]
          omega

/-- Once there is a marker, marks and commands only have to stay in time order. -/
theorem channel_sound (sound : system.Sound) (present : system.marker ≠ .absent)
    {queue : List SamplerCommand} {marker : Marker} (finishing : Bool) (stays : marker ≠ .absent)
    (journal : Journal system.elapsed system.sampler
      (queue.filterMap SamplerCommand.markMs ++ marker.unsent)) :
    Sound { system with queue := queue, marker := marker, finishing := finishing } where
  journal := journal
  scraping := fun finalSample elapsedMs scrapeStarted stage => by
    obtain ⟨begun, latest, _⟩ := sound.scraping finalSample elapsedMs scrapeStarted stage
    exact ⟨begun, latest, fun _ => stays⟩
  unstarted := fun absent => absurd absent stays
  started := fun _ => sound.started present
  waiting := fun _ => stays
  running := sound.running
  complete := sound.complete

/-- A phase that was written is the next of the file. -/
theorem recordPhase_sound (sound : system.Sound) (present : system.marker ≠ .absent)
    (waiting : system.stage = .waiting) {markMs : UInt64}
    (journal : Journal system.elapsed system.sampler (markMs :: system.pending))
    {phase : ScenarioPhase} {io : Except String Unit} {sampler : SamplerState}
    (written : system.sampler.recordPhase phase markMs io = .ok sampler) :
    Sound { system with sampler := sampler } := by
  have marked := journal.mark written
  obtain ⟨_, rfl⟩ := SamplerState.recordPhase_eq_ok written
  exact
    { journal := marked
      scraping := fun _ _ _ stage => by cases waiting.symm.trans stage
      unstarted := fun absent => absurd absent present
      started := fun _ => by
        obtain ⟨record, located, kind⟩ := sound.started present
        exact ⟨record, by rw [List.head?_append, located]; rfl, kind⟩
      waiting := fun _ => present
      running := fun running record member => by
        rcases List.mem_append.mp member with before | new
        · exact sound.running running record before
        · rw [List.mem_singleton.mp new]
      complete := fun _ stage => by cases waiting.symm.trans stage }

/-- What is received leaves the queue; a phase is written when it is the next. -/
theorem receiveCommand_sound (sound : system.Sound) (waiting : system.stage = .waiting)
    {io : Except String Unit} {next : System} (received : system.receiveCommand io = some next) :
    next.Sound := by
  have present := sound.waiting waiting
  have journal := sound.journal
  unfold receiveCommand at received
  unfold pending at journal
  match queued : system.queue with
  | [] => simp [queued] at received
  | .phase phase elapsedMs :: queue =>
    rw [queued] at received journal
    have whole : Journal system.elapsed system.sampler
        (elapsedMs :: (queue.filterMap SamplerCommand.markMs ++ Marker.idle.unsent)) :=
      (List.append_nil _).symm ▸
        journal.forget (List.sublist_append_left (elapsedMs :: queue.filterMap _) _)
    have dequeued : Sound { system with queue := queue, marker := .idle } :=
      channel_sound sound present system.finishing (by decide)
        (whole.forget (List.sublist_cons_self _ _))
    dsimp only at received
    cases written : system.sampler.recordPhase phase elapsedMs io with
    | error message =>
      rw [written] at received
      rw [← Option.some.inj received]
      exact returned_sound dequeued message
    | ok sampler =>
      rw [written] at received
      rw [← Option.some.inj received]
      exact recordPhase_sound dequeued (fun absent => by cases absent) waiting whole written
  | .finish :: queue =>
    rw [queued] at received journal
    have dequeued : Sound { system with queue := queue } :=
      channel_sound sound present system.finishing present journal
    rw [← Option.some.inj received]
    exact beginRecord_sound dequeued (fun _ stage => by cases waiting.symm.trans stage)
      (fun _ => present)

/-- Every step keeps the invariant. -/
theorem step_sound {action : Action} {next : System} (stepped : system.step action = some next)
    (sound : system.Sound) : next.Sound := by
  have journal := sound.journal
  unfold pending at journal
  cases action with
  | advance nanoseconds =>
    rw [← Option.some.inj stepped]
    exact advance_sound sound nanoseconds
  | start =>
    cases stage : system.stage <;> simp only [step, stage, reduceCtorEq] at stepped
    rw [← Option.some.inj stepped]
    exact beginRecord_sound sound (fun _ other => by cases stage.symm.trans other)
      (fun final => by cases final)
  | tick =>
    cases stage : system.stage <;> cases queued : system.queue <;>
      simp only [step, stage, queued, reduceCtorEq] at stepped
    rw [← Option.some.inj stepped]
    exact beginRecord_sound sound (fun _ other => by cases stage.symm.trans other)
      (fun final => by cases final)
  | scraped answers io =>
    cases stage : system.stage <;> simp only [step, stage, reduceCtorEq] at stepped
    rw [← Option.some.inj stepped]
    exact endRecord_sound sound stage answers io
  | receive io =>
    cases stage : system.stage <;> simp only [step, stage, reduceCtorEq] at stepped
    exact receiveCommand_sound sound stage stepped
  | mark phase =>
    cases marker : system.marker <;> simp only [step, marker, reduceCtorEq] at stepped
    rw [← Option.some.inj stepped]
    refine channel_sound sound (by simp [marker]) system.finishing (by simp) ?_
    rw [marker] at journal
    simpa [Marker.unsent] using journal.pend
  | send =>
    cases marker : system.marker <;> simp only [step, marker, reduceCtorEq] at stepped
    split_ifs at stepped
    rw [← Option.some.inj stepped]
    refine channel_sound sound (by simp [marker]) system.finishing (by simp) ?_
    rw [marker] at journal
    simpa [Marker.unsent, SamplerCommand.markMs] using journal
  | finish =>
    simp only [step] at stepped
    split_ifs at stepped with open_
    rw [← Option.some.inj stepped]
    refine channel_sound sound open_.1 true open_.1 ?_
    simpa [SamplerCommand.markMs, List.filterMap_cons] using journal
  | close =>
    cases stage : system.stage <;> cases queued : system.queue <;>
      cases finishing : system.finishing <;>
        simp only [step, stage, queued, finishing, reduceCtorEq] at stepped
    rw [← Option.some.inj stepped]
    simpa only [queued, finishing] using returned_sound sound _

/-- Every state a run reaches satisfies the invariant. -/
theorem run_sound {serverPid rtcPid : UInt32} {clockTicksPerSecond : UInt64} {startedAt : Nat}
    {actions : List Action} {final : System}
    (ran : run step (initial serverPid rtcPid clockTicksPerSecond startedAt) actions = some final) :
    final.Sound :=
  run_keeps (fun _ _ _ stepped sound => step_sound stepped sound) ran (initial_sound _ _ _ _)

end

end System

end SfuLoad.Telemetry
