import SfuLoad.Telemetry.Run

/-!
# Phases on their way to the file

A phase gets into the sampler's file in one way: the controller marks it, the mark
is queued, and the sampler receives it. What is in the file stays there, and a mark
that was received without ending the sampler is in the file.
-/

namespace SfuLoad.Telemetry

open Kit.Runs Model

/-- The phase a command carries. -/
def SamplerCommand.marked : SamplerCommand → Option ScenarioPhase
  | .phase reached _ => some reached
  | .finish => none

/-- The phase of a mark that is not sent yet. -/
def Marker.marking : Marker → List ScenarioPhase
  | .marked phase _ => [phase]
  | _ => []

/-- The phase an action marks. -/
def Action.marks : Action → List ScenarioPhase
  | .mark phase => [phase]
  | _ => []

namespace System

/-- The phases the file holds. -/
def persisted (self : System) : List ScenarioPhase :=
  self.sampler.output.filterMap TelemetryRecord.marked

/-- The phases in the queue and at the marker. -/
def carried (self : System) : List ScenarioPhase :=
  self.queue.filterMap SamplerCommand.marked ++ self.marker.marking

/-- The phases in the file and on their way to it. -/
def seen (self : System) : List ScenarioPhase := self.persisted ++ self.carried

/-- A reachable file holds the phases in their order, up to some phase. -/
theorem Sound.persisted_eq {system : System} (sound : system.Sound) :
    system.persisted = ScenarioPhase.ordered.take system.sampler.phases.count :=
  sound.journal.order

/-- What a step does to phases: the file keeps its phases, and only marks are new. -/
structure Passes (before after : System) (marks : List ScenarioPhase) : Prop where
  kept : ∀ phase ∈ before.persisted, phase ∈ after.persisted
  known : ∀ phase ∈ after.seen, phase ∈ before.seen ∨ phase ∈ marks

variable {system next : System}

/-- The file did not change. -/
theorem Passes.unfiled {marks : List ScenarioPhase} (file : next.persisted = system.persisted)
    (moved : ∀ phase ∈ next.carried, phase ∈ system.carried ∨ phase ∈ marks) :
    Passes system next marks where
  kept := fun phase member => file ▸ member
  known := fun phase member => by
    rw [seen, file] at member
    rcases List.mem_append.mp member with filed | carried
    · exact .inl (List.mem_append_left _ filed)
    · exact (moved phase carried).imp_left (List.mem_append_right _)

/-- Neither file, queue nor marker changed. -/
theorem Passes.same (file : next.persisted = system.persisted) (queue : next.queue = system.queue)
    (marker : next.marker.marking = system.marker.marking) : Passes system next [] := by
  apply Passes.unfiled file
  intro phase member
  rw [carried, queue, marker] at member
  exact .inl member

/-- A scrape marks no phase and loses none. -/
theorem endRecord_passes (finalSample : Bool) (elapsedMs : UInt64) (scrapeStarted : Nat)
    (answers : Scrape) (io : Except String Unit) :
    Passes system (system.endRecord finalSample elapsedMs scrapeStarted answers io) [] := by
  unfold endRecord
  cases written : system.sampler.record finalSample elapsedMs
      (millis (system.now - scrapeStarted)) answers io with
  | error message => exact .same rfl rfl rfl
  | ok sampler =>
    obtain ⟨outcome, output, _, _, counted⟩ := SamplerState.record_eq_ok written
    have noPhase := TelemetryOutcome.isPhase_eq_false (counted.imp And.left And.left)
    apply Passes.same
    · -- what a scrape writes is no phase
      simp only [persisted, recorded_sampler, output, List.filterMap_append]
      cases outcome with
      | phase reached => cases noPhase
      | _ => simp [TelemetryRecord.marked]
    · rfl
    · simp only [recorded]
      split_ifs with absent
      · rw [absent]
        rfl
      · rfl

/-- A received phase leaves the queue; it is in the file, or the sampler has ended. -/
theorem receivePhase_passes {io : Except String Unit} {phase : ScenarioPhase} {elapsedMs : UInt64}
    {queue : List SamplerCommand} (queued : system.queue = .phase phase elapsedMs :: queue)
    (received : system.receiveCommand io = some next) :
    Passes system next [] ∧ (next.stage.isReturned = false → phase ∈ next.persisted) := by
  have underway : phase ∈ system.seen := by simp [seen, carried, queued, SamplerCommand.marked]
  have rest : ∀ other ∈ queue.filterMap SamplerCommand.marked, other ∈ system.seen := by
    intro other member
    simp [seen, carried, queued, SamplerCommand.marked, member]
  have filed : ∀ other ∈ system.persisted, other ∈ system.seen := by
    intro other member
    simp [seen, member]
  unfold receiveCommand at received
  simp only [queued] at received
  cases written : system.sampler.recordPhase phase elapsedMs io with
  | error message =>
    simp only [written] at received
    obtain rfl := Option.some.inj received
    refine ⟨⟨fun other member => member, ?_⟩, fun running => by cases running⟩
    intro other member
    simp only [seen, carried, Marker.marking, List.append_nil, List.mem_append] at member
    exact .inl (member.elim (filed other) (rest other))
  | ok sampler =>
    simp only [written] at received
    obtain rfl := Option.some.inj received
    obtain ⟨_, rfl⟩ := SamplerState.recordPhase_eq_ok written
    refine ⟨⟨?_, ?_⟩, ?_⟩
    · intro other member
      simp only [persisted, List.filterMap_append, List.mem_append]
      exact .inl member
    · intro other member
      simp only [seen, carried, persisted, Marker.marking, List.append_nil, List.mem_append,
        List.filterMap_append] at member
      rcases member with (before | new) | queued
      · exact .inl (filed other before)
      · obtain rfl : other = phase := by simpa [TelemetryRecord.marked] using new
        exact .inl underway
      · exact .inl (rest other queued)
    · intro _
      simp [persisted, TelemetryRecord.marked]

/-- Nor does a command that is received: its phase is filed, or the sampler ends. -/
theorem receive_passes {io : Except String Unit} (received : system.receiveCommand io = some next) :
    Passes system next [] := by
  match queued : system.queue with
  | [] => simp [receiveCommand, queued] at received
  | .phase phase elapsedMs :: queue => exact (receivePhase_passes queued received).1
  | .finish :: queue =>
    unfold receiveCommand at received
    simp only [queued] at received
    obtain rfl := Option.some.inj received
    apply Passes.unfiled
    · rfl
    · intro phase member
      simpa [carried, beginRecord, queued, SamplerCommand.marked] using member

/-- A mark that was received is in the file, unless it ended the sampler. -/
theorem receive_files {io : Except String Unit} {phase : ScenarioPhase} {elapsedMs : UInt64}
    (received : system.step (.receive io) = some next)
    (head : system.queue.head? = some (.phase phase elapsedMs))
    (running : next.stage.isReturned = false) : phase ∈ next.persisted := by
  cases stage : system.stage <;> simp only [step, stage, reduceCtorEq] at received
  obtain ⟨queue, queued⟩ := List.head?_eq_some_iff.mp head
  exact (receivePhase_passes queued received).2 running

/-- What any step does to phases. -/
theorem step_passes {action : Action} (stepped : system.step action = some next) :
    Passes system next action.marks := by
  cases action with
  | advance nanoseconds =>
    obtain rfl := Option.some.inj stepped
    exact .same rfl rfl rfl
  | start =>
    cases stage : system.stage <;> simp only [step, stage, reduceCtorEq] at stepped
    obtain rfl := Option.some.inj stepped
    exact .same rfl rfl rfl
  | tick =>
    cases stage : system.stage <;> cases queued : system.queue <;>
      simp only [step, stage, queued, reduceCtorEq] at stepped
    obtain rfl := Option.some.inj stepped
    exact .same rfl rfl rfl
  | scraped answers io =>
    cases stage : system.stage <;> simp only [step, stage, reduceCtorEq] at stepped
    obtain rfl := Option.some.inj stepped
    exact endRecord_passes _ _ _ answers io
  | receive io =>
    cases stage : system.stage <;> simp only [step, stage, reduceCtorEq] at stepped
    exact receive_passes stepped
  | mark phase =>
    cases marker : system.marker <;> simp only [step, marker, reduceCtorEq] at stepped
    obtain rfl := Option.some.inj stepped
    apply Passes.unfiled
    · rfl
    · intro other member
      simpa [carried, Marker.marking, marker, Action.marks] using member
  | send =>
    cases marker : system.marker <;> simp only [step, marker, reduceCtorEq] at stepped
    split_ifs at stepped
    obtain rfl := Option.some.inj stepped
    apply Passes.unfiled
    · rfl
    · intro other member
      simpa [carried, Marker.marking, marker, SamplerCommand.marked, Action.marks] using member
  | finish =>
    simp only [step] at stepped
    split_ifs at stepped
    obtain rfl := Option.some.inj stepped
    apply Passes.unfiled
    · rfl
    · intro other member
      simpa [carried, SamplerCommand.marked, Action.marks] using member
  | close =>
    cases stage : system.stage <;> cases queued : system.queue <;>
      cases finishing : system.finishing <;>
        simp only [step, stage, queued, finishing, reduceCtorEq] at stepped
    obtain rfl := Option.some.inj stepped
    exact .same rfl queued.symm rfl

end System

end SfuLoad.Telemetry
