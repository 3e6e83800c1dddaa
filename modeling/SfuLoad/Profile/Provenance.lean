import SfuLoad.Profile.Artifacts

/-!
# What a rendered profile describes

A capture and the data it belongs to stem from one run, and so does a result that
is valid; whatever stands beside a mark of readiness stems from the call that
wrote the mark, on that run's data. Profiled runs and prepare calls keep this at
every step that may fail. A run without the profiler does not: it replaces the
result and leaves the capture, the reports and the mark of an earlier run.
-/

namespace SfuLoad.Profile

open Kit.Files Model

/-- What a prepare call derives from the capture. -/
def derivedFiles : List Artifact :=
  [.perfScript, .perfScriptStderr, .folded, .collapseStderr, .flamegraph, .flamegraphStderr,
    .perfHeader, .perfHeaderStderr, .hotspotsSelf, .hotspotsSelfStderr, .hotspotsInclusive,
    .hotspotsInclusiveStderr, .threads, .threadsStderr]

/-- Every derived content is of this call and this run. -/
structure Made (call : Nat) (run : Option Nat) (files : Artifacts) : Prop where
  derived : ∀ file ∈ derivedFiles, ∀ content, files file = some content →
    content.stamp = ⟨run, some call⟩
  environment : ∀ content, files .environment = some content → content.stamp.call = some call

/-- The derived files rendering looks at. -/
def reports : List Artifact :=
  [.folded, .flamegraph, .perfHeader, .hotspotsSelf, .hotspotsInclusive, .threads]

/-- A capture, its data and a valid result are of one run. -/
def Captured (reader : Reader) (files : Artifacts) : Prop :=
  ∀ data metadata, files .perfData = some data → files .capture = some metadata →
    ∃ run, data.stamp.run = some run ∧ metadata.stamp.run = some run ∧
      (reader.runValid files = true → runOf files .result = some run)

/-- A mark of readiness is of a call that completed on the data that is there. -/
def Marked (completed : List (Nat × Option Nat)) (files : Artifacts) : Prop :=
  ∀ marker, files .ready = some marker → marker.bytes ≠ [] →
    ∃ call, (call, runOf files .perfData) ∈ completed ∧ marker.stamp.call = some call ∧
      Made call (runOf files .perfData) files

/-- A directory that can be trusted: the capture is of one run, and a mark stands for what it
marks. -/
structure Sound (reader : Reader) (completed : List (Nat × Option Nat)) (files : Artifacts) :
    Prop where
  captured : Captured reader files
  marked : Marked completed files

/-- The run loads from these bytes, and its result passes its own checks. -/
def Reader.accepts (reader : Reader) (result : List UInt8) (samples : Option (List UInt8)) :
    Bool :=
  (reader.loadRun result samples).any (fun loaded => (loaded.validate loaded.scenario).isOk)

/-- The bytes a worker leaves as its result, and those of the samples beside it. All
that comes before the result has to succeed. -/
def leftBehind (script : RunScript) : Option (List UInt8 × List UInt8) :=
  match script.worker with
  | .done _ :: .done _ :: .done _ :: .done samples :: writing :: _ =>
    writing.left.map (fun result => (result, samples))
  | _ => none

/-- The two ways to spoil a directory: to leave a valid result beside the capture
of an earlier run, and to fail after part of the mark is written. Both are told from
the directory as it was and from how the call went. -/
def Careful (reader : Reader) (workspace : Workspace) : Operation → Prop
  | .run _ true _ => True
  | .run _ false script =>
    (workspace.files .perfData).isSome → (workspace.files .capture).isSome →
      (runScript (startCommands workspace.runs false) script.start workspace.files).2 = true →
      ∀ result samples, leftBehind script = some (result, samples) →
        reader.accepts result (some samples) = false
  | .prepare body marker =>
    (runScript (prepareCommands reader workspace.calls) body workspace.files).2 = true →
      ∀ bytes, marker.head? = some (.failed (some bytes)) → bytes = []
  | .render _ => True

/-- Every operation of the sequence is careful, on the directory it comes upon. -/
def AllCareful (reader : Reader) : Workspace → List Operation → Prop
  | _, [] => True
  | workspace, operation :: operations =>
    Careful reader workspace operation ∧ AllCareful reader (workspace.step reader operation)
      operations

/-- Everything a rendered profile relies on stems from one run, and what was
prepared stems from one call that completed on that run's data. -/
structure Describes (workspace : Workspace) (run call : Nat) : Prop where
  relied : ∀ file ∈ .result :: .capture :: .perfData :: reports,
    runOf workspace.files file = some run
  prepared : ∀ file ∈ .ready :: .environment :: reports,
    ∃ content, workspace.files file = some content ∧ content.stamp.call = some call
  completed : (call, some run) ∈ workspace.completed

/-- What preparing derives is among what it clears first. -/
theorem derivedFiles_prepared : ∀ file ∈ derivedFiles, file ∈ preparedFiles := by
  decide

section Frames

variable {reader : Reader} {completed : List (Nat × Option Nat)} {files files' : Artifacts}

/-- Whether a run is valid depends on its result and its samples alone. -/
theorem runValid_congr (result : files' .result = files .result)
    (samples : files' .samples = files .samples) :
    reader.runValid files' = reader.runValid files := by
  simp only [Reader.runValid, Reader.loadedRun, bytesOf, result, samples]

/-- Without a result there is no valid run. -/
theorem runValid_of_noResult (absent : files .result = none) : reader.runValid files = false := by
  simp [Reader.runValid, Reader.loadedRun, bytesOf, absent]

/-- A valid run has a result. -/
theorem result_of_runValid (valid : reader.runValid files = true) :
    ∃ content, files .result = some content := by
  cases result : files .result with
  | none => rw [runValid_of_noResult result] at valid; cases valid
  | some content => exact ⟨content, rfl⟩

/-- The run of a file depends on the file alone. -/
theorem runOf_congr {file : Artifact} (same : files' file = files file) :
    runOf files' file = runOf files file := by
  rw [runOf, runOf, same]

/-- Without a result the capture only has to belong to its data. -/
theorem Captured.of_noResult (captured : Captured reader files)
    (data : files' .perfData = files .perfData) (capture : files' .capture = files .capture)
    (absent : files' .result = none) : Captured reader files' := by
  intro content metadata present presentMetadata
  rw [data] at present
  rw [capture] at presentMetadata
  obtain ⟨run, dataRun, metadataRun, _⟩ := captured content metadata present presentMetadata
  refine ⟨run, dataRun, metadataRun, ?_⟩
  intro valid
  rw [runValid_of_noResult absent] at valid
  cases valid

/-- What is said of a capture depends on its data, its metadata and the result. -/
theorem Captured.congr (captured : Captured reader files)
    (data : files' .perfData = files .perfData) (capture : files' .capture = files .capture)
    (result : files' .result = files .result) (samples : files' .samples = files .samples) :
    Captured reader files' := by
  intro content metadata present presentMetadata
  rw [data] at present
  rw [capture] at presentMetadata
  rw [runValid_congr result samples, runOf_congr result]
  exact captured content metadata present presentMetadata

/-- Without data nothing is captured. -/
theorem captured_of_noData (absent : files .perfData = none) : Captured reader files := by
  intro data metadata present
  rw [absent] at present
  cases present

/-- Nor is it without metadata. -/
theorem captured_of_noCapture (absent : files .capture = none) : Captured reader files := by
  intro data metadata _ present
  rw [absent] at present
  cases present

/-- Without a mark nothing is marked. -/
theorem marked_of_unmarked (unmarked : files .ready = none) : Marked completed files := by
  intro marker present
  rw [unmarked] at present
  cases present

/-- What is said of a mark depends on the data and on what was prepared from it. -/
theorem Marked.congr (marked : Marked completed files)
    (same : ∀ file ∈ .perfData :: preparedFiles, files' file = files file) :
    Marked completed files' := by
  intro marker present written
  rw [same .ready (by decide)] at present
  rw [runOf_congr (same .perfData (by decide))]
  obtain ⟨call, among, stamped, made⟩ := marked marker present written
  refine ⟨call, among, stamped, ?_, ?_⟩
  · intro file derived content inFiles
    rw [same file (List.mem_cons_of_mem _ (derivedFiles_prepared file derived))] at inFiles
    exact made.derived file derived content inFiles
  · intro content inFiles
    rw [same .environment (by decide)] at inFiles
    exact made.environment content inFiles

/-- A directory without a mark is sound if its capture is. -/
theorem Sound.of_unmarked (captured : Captured reader files) (unmarked : files .ready = none) :
    Sound reader completed files :=
  ⟨captured, marked_of_unmarked unmarked⟩

end Frames

/-! ## A controller run -/

/-- Content of this run, if there is any. -/
def Own (run : Nat) (files : Artifacts) (file : Artifact) : Prop :=
  ∀ content, files file = some content → content.stamp.run = some run

/-- A file that is not there is nobody else's. -/
theorem own_of_none {run : Nat} {files : Artifacts} {file : Artifact}
    (absent : files file = none) : Own run files file := by
  intro content present
  rw [absent] at present
  cases present

/-- A file that a run has written is its own. -/
theorem own_put {run : Nat} {files : Artifacts} (file : Artifact) (bytes : List UInt8) :
    Own run (put files file (some ⟨ownStamp run files, bytes⟩)) file := by
  intro content present
  rw [put_same] at present
  exact Option.some.inj present ▸ rfl

/-- Writing one file leaves the others whose they are. -/
theorem Own.put_other {run : Nat} {files : Artifacts} {file name : Artifact}
    (own : Own run files name) (other : name ≠ file) (content : Option (Content Stamp)) :
    Own run (put files file content) name := by
  intro found present
  rw [Kit.Files.put_other files other] at present
  exact own found present

section Controller

variable {reader : Reader} {completed : List (Nat × Option Nat)} {before : Artifacts} {run : Nat}

/-- Once the old result is removed: everything but the stale artifacts stands. -/
structure Cleared (before files : Artifacts) : Prop where
  result : files .result = none
  others : ∀ file, file ∉ staleArtifacts → files file = before file

/-- Removing one more stale artifact goes on with the clearing. -/
theorem Cleared.put {files : Artifacts} (cleared : Cleared before files) {file : Artifact}
    (stale : file ∈ staleArtifacts) (other : Artifact.result ≠ file)
    (content : Option (Content Stamp)) : Cleared before (put files file content) where
  result := (put_other files other content).trans cleared.result
  others name kept := by
    have distinct : name ≠ file := fun same => kept (same ▸ stale)
    exact (put_other files distinct content).trans (cleared.others name kept)

/-- While it is being cleared the directory stays sound: where the result is gone no capture
is claimed for it, and where the result is still there nothing else has changed. -/
theorem Cleared.sound {files : Artifacts} (cleared : Cleared before files)
    (sound : Sound reader completed before) : Sound reader completed files where
  captured := sound.captured.of_noResult (cleared.others .perfData (by decide))
    (cleared.others .capture (by decide)) cleared.result
  marked := by
    refine sound.marked.congr ?_
    intro file among
    apply cleared.others
    revert file
    decide

/-- The step of the clearing: a removal goes through or stops the run. -/
theorem ends_remove_stale {file : Artifact} (stale : file ∈ staleArtifacts)
    (other : Artifact.result ≠ file) :
    Ends (Cleared before) (.remove file) (Cleared before)
      (fun files => files = before ∨ Cleared before files) :=
  ends_remove (fun _ cleared => cleared.put stale other none) (fun _ cleared => .inr cleared)

/-- Up to the start of the server, a run clears the old result and nothing else. -/
theorem meets_clear : Meets (fun files => files = before)
    (step :: staleArtifacts.map .remove ++ [.emit .scenario (ownStamp run) anything, step])
    (Cleared before) (fun files => files = before ∨ Cleared before files) := by
  have creates : Ends (fun files => files = before) step (fun files => files = before)
      (fun files => files = before ∨ Cleared before files) :=
    ends_attempt (fun _ same _ => same) (fun _ same => .inl same)
  have clears : Ends (fun files => files = before) (.remove .result) (Cleared before)
      (fun files => files = before ∨ Cleared before files) := by
    apply ends_remove
    · rintro files rfl
      refine ⟨put_same files _ none, ?_⟩
      intro file kept
      apply put_other files
      rintro rfl
      exact kept (by decide)
    · exact fun _ same => .inl same
  have removes : Meets (Cleared before)
      (([.scenario, .samples, .rtcStdout, .rtcStderr] : List Artifact).map .remove)
      (Cleared before) (fun files => files = before ∨ Cleared before files) := by
    apply meets_of_keeps
    · intro command among
      obtain ⟨file, stale, rfl⟩ := List.mem_map.mp among
      refine ends_remove_stale (List.mem_cons_of_mem _ stale) ?_
      rintro rfl
      exact absurd stale (by decide)
    · exact fun _ cleared => .inr cleared
  have starts : Meets (Cleared before) [.emit .scenario (ownStamp run) anything, step]
      (Cleared before) (fun files => files = before ∨ Cleared before files) := by
    apply meets_of_keeps
    · intro command among
      simp only [List.mem_cons, List.not_mem_nil, or_false] at among
      rcases among with rfl | rfl
      · apply ends_emit
        · exact fun _ _ cleared _ => cleared.put (by decide) (by decide) _
        · exact fun _ _ cleared => .inr (cleared.put (by decide) (by decide) _)
        · exact fun _ cleared => .inr cleared
      · exact ends_attempt (fun _ cleared _ => cleared) (fun _ cleared => .inr cleared)
    · exact fun _ cleared => .inr cleared
  have cleared := meets_cons creates (meets_cons clears removes (fun _ same => .inl same))
    (fun _ same => .inl same)
  exact meets_append cleared starts

/-- While a profiled run works: no mark, no capture, and data and result its own. -/
structure Working (run : Nat) (files : Artifacts) : Prop where
  unmarked : files .ready = none
  uncaptured : files .capture = none
  data : Own run files .perfData
  result : Own run files .result

/-- A file that the run writes keeps the directory its own. -/
theorem Working.put {files : Artifacts} (working : Working run files) {file : Artifact}
    (apart : file ≠ .ready ∧ file ≠ .capture) (bytes : List UInt8) :
    Working run (put files file (some ⟨ownStamp run files, bytes⟩)) where
  unmarked := (put_other files apart.1.symm _).trans working.unmarked
  uncaptured := (put_other files apart.2.symm _).trans working.uncaptured
  data := by
    by_cases same : file = .perfData
    · exact same ▸ own_put file bytes
    · exact working.data.put_other (Ne.symm same) _
  result := by
    by_cases same : file = .result
    · exact same ▸ own_put file bytes
    · exact working.result.put_other (Ne.symm same) _

/-- While a run works, there is no mark and no capture that could be wrong. -/
theorem Working.sound {files : Artifacts} (working : Working run files) :
    Sound reader completed files :=
  .of_unmarked (captured_of_noCapture working.uncaptured) working.unmarked

/-- A worker's commands emit files of the run. -/
theorem ends_emit_working {file : Artifact} (apart : file ≠ .ready ∧ file ≠ .capture)
    {stopped : Artifacts → Prop} (stop : ∀ files, Working run files → stopped files)
    {accepts : List UInt8 → Bool} :
    Ends (Working run) (.emit file (ownStamp run) accepts) (Working run) stopped :=
  ends_emit (fun _ bytes working _ => working.put apart bytes)
    (fun _ bytes working => stop _ (working.put apart bytes)) (fun _ working => stop _ working)

/-- Trust in the old capture is given up in order: the mark, the data, the metadata. -/
theorem meets_profilerStart (sound : Sound reader completed before) :
    Meets (Cleared before) (profilerStart run) (Working run) (Sound reader completed) := by
  apply meets_cons (ends_attempt (fun _ cleared _ => cleared) (fun _ cleared => cleared.sound sound))
  · have unmarks : Ends (Cleared before) (.remove .ready)
        (fun files => Captured reader files ∧ files .result = none ∧ files .ready = none)
        (Sound reader completed) := by
      apply ends_remove
      · intro files cleared
        refine ⟨?_, put_other files (by decide) none |>.trans cleared.result, put_same files _ none⟩
        exact (cleared.sound sound).captured.of_noResult (put_other files (by decide) none)
          (put_other files (by decide) none)
          (put_other files (by decide) none |>.trans cleared.result)
      · exact fun _ cleared => cleared.sound sound
    apply meets_cons unmarks
    · have forgets : Ends
          (fun files => Captured reader files ∧ files .result = none ∧ files .ready = none)
          (.remove .perfData)
          (fun files => files .perfData = none ∧ files .result = none ∧ files .ready = none)
          (Sound reader completed) := by
        apply ends_remove
        · rintro files ⟨_, result, unmarked⟩
          exact ⟨put_same files _ none, put_other files (by decide) none |>.trans result,
            put_other files (by decide) none |>.trans unmarked⟩
        · exact fun _ stands => .of_unmarked stands.1 stands.2.2
      apply meets_cons forgets
      · have uncaptures : Ends
            (fun files => files .perfData = none ∧ files .result = none ∧ files .ready = none)
            (.remove .capture) (Working run) (Sound reader completed) := by
          apply ends_remove
          · rintro files ⟨data, result, unmarked⟩
            constructor
            · exact put_other files (by decide) none |>.trans unmarked
            · exact put_same files _ none
            · exact own_of_none (put_other files (by decide) none |>.trans data)
            · exact own_of_none (put_other files (by decide) none |>.trans result)
          · exact fun _ stands => .of_unmarked (captured_of_noData stands.1) stands.2.2
        apply meets_cons uncaptures
        · apply meets_of_keeps
          · intro command among
            simp only [List.mem_cons, List.not_mem_nil, or_false] at among
            rcases among with rfl | rfl | rfl
            · exact ends_emit_working (by decide) (fun _ working => working.sound)
            · exact ends_emit_working (by decide) (fun _ working => working.sound)
            · exact ends_emit_working (by decide) (fun _ working => working.sound)
          · exact fun _ working => working.sound
        · exact fun _ stands => .of_unmarked (captured_of_noData stands.1) stands.2.2
      · exact fun _ stands => .of_unmarked stands.1 stands.2.2
    · exact fun _ cleared => cleared.sound sound
  · exact fun _ cleared => cleared.sound sound

/-- The worker's files are the run's own. -/
theorem meets_worker (spec : ScenarioSpec) :
    Meets (Working run) (workerCommands reader spec run) (Working run) (Working run) := by
  apply meets_of_keeps
  · intro command among
    simp only [workerCommands, List.mem_cons, List.not_mem_nil, or_false] at among
    rcases among with rfl | rfl | rfl | rfl | rfl | rfl | rfl
    · exact ends_emit_working (by decide) (fun _ working => working)
    · exact ends_emit_working (by decide) (fun _ working => working)
    · exact ends_attempt (fun _ working _ => working) (fun _ working => working)
    · exact ends_emit_working (by decide) (fun _ working => working)
    · exact ends_emit_working (by decide) (fun _ working => working)
    · exact ends_attempt (fun _ working _ => working) (fun _ working => working)
    · exact ends_attempt (fun _ working _ => working) (fun _ working => working)
  · exact fun _ working => working

/-- A capture of one's own data and result is sound. -/
theorem sound_of_own {files : Artifacts} (unmarked : files .ready = none)
    (data : Own run files .perfData) (capture : Own run files .capture)
    (result : Own run files .result) : Sound reader completed files := by
  apply Sound.of_unmarked _ unmarked
  intro content metadata present presentMetadata
  refine ⟨run, data content present, capture metadata presentMetadata, ?_⟩
  intro valid
  obtain ⟨written, found⟩ := result_of_runValid valid
  rw [runOf, found]
  exact result written found

/-- The capture that is written at the end is of the run's own data, and the result beside it
is the run's own. -/
theorem meets_profilerFinish :
    Meets (Working run) (profilerFinish run) (Sound reader completed) (Sound reader completed) := by
  have done : ∀ files bytes, Working run files →
      Sound reader completed (put files .capture (some ⟨ownStamp run files, bytes⟩)) := by
    intro files bytes working
    apply @sound_of_own reader completed run
    · exact put_other files (by decide) _ |>.trans working.unmarked
    · exact working.data.put_other (by decide) _
    · exact own_put .capture bytes
    · exact working.result.put_other (by decide) _
  have stop : ∀ files, Working run files → Sound reader completed files :=
    fun _ working => working.sound
  apply meets_cons (ends_emit_working (by decide) stop) _ stop
  apply meets_cons (ends_emit_working (by decide) stop) _ stop
  apply meets_cons (ends_attempt (fun _ working _ => working) stop) _ stop
  apply meets_cons _ (meets_nil (fun _ sound => sound)) stop
  exact ends_emit (fun files bytes working _ => done files bytes working) done stop

/-- Stopping the server changes no file. -/
theorem stop_files (outcomes : List Outcome) (files : Artifacts) :
    (runScript [step] outcomes files).1 = files := by
  funext name
  apply runScript_other
  intro command among
  rw [List.mem_singleton.mp among]
  intro targeted
  cases targeted

/-- A profiled run keeps its directory sound, wherever it fails. -/
theorem profiled_run_sound (sound : Sound reader completed before) (spec : ScenarioSpec)
    (script : RunScript) :
    Sound reader completed (controllerRun reader spec run true script before).1 := by
  have clear := @meets_clear before run
  have starts : Meets (fun files => files = before) (startCommands run true) (Working run)
      (Sound reader completed) := by
    refine meets_append (clear.weaken (fun _ same => same) (fun _ cleared => cleared) ?_)
      (meets_profilerStart sound)
    rintro files (rfl | cleared)
    · exact sound
    · exact cleared.sound sound
  have started := starts script.start before rfl
  rw [controllerRun]
  split at started
  · next succeeded =>
    rw [if_pos succeeded]
    have worked := @meets_worker reader run spec script.worker _ started
    rw [ite_self] at worked
    have finished := @meets_profilerFinish reader completed run script.finish _ worked
    rw [ite_self] at finished
    simp only [stop_files]
    exact finished
  · next failed =>
    rw [if_neg failed]
    exact started

/-- What a run without the profiler may have done: nothing, or a result of its own. -/
structure Replaced (before : Artifacts) (run : Nat) (files : Artifacts) : Prop where
  result : Own run files .result
  others : ∀ file, file ∉ staleArtifacts → files file = before file

/-- Replacing the result and what belongs to it leaves everything else. -/
theorem Replaced.put {files : Artifacts} (replaced : Replaced before run files) {file : Artifact}
    (stale : file ∈ staleArtifacts) (bytes : List UInt8) :
    Replaced before run (put files file (some ⟨ownStamp run files, bytes⟩)) where
  result := by
    by_cases same : file = .result
    · exact same ▸ own_put file bytes
    · exact replaced.result.put_other (Ne.symm same) _
  others name kept := by
    have distinct : name ≠ file := fun same => kept (same ▸ stale)
    exact (put_other files distinct _).trans (replaced.others name kept)

/-- The step of a run without the profiler: one file is replaced, or the run stops. -/
theorem ends_emit_replaced {file : Artifact} (stale : file ∈ staleArtifacts)
    {accepts : List UInt8 → Bool} :
    Ends (Replaced before run) (.emit file (ownStamp run) accepts) (Replaced before run)
      (Replaced before run) :=
  ends_emit (fun _ bytes replaced _ => replaced.put stale bytes)
    (fun _ bytes replaced => replaced.put stale bytes) (fun _ replaced => replaced)

/-- The worker of a run without the profiler replaces nothing else. -/
theorem meets_worker_replaced (spec : ScenarioSpec) :
    Meets (Replaced before run) (workerCommands reader spec run) (Replaced before run)
      (Replaced before run) := by
  apply meets_of_keeps
  · intro command among
    simp only [workerCommands, List.mem_cons, List.not_mem_nil, or_false] at among
    rcases among with rfl | rfl | rfl | rfl | rfl | rfl | rfl
    · exact ends_emit_replaced (by decide)
    · exact ends_emit_replaced (by decide)
    · exact ends_attempt (fun _ replaced _ => replaced) (fun _ replaced => replaced)
    · exact ends_emit_replaced (by decide)
    · exact ends_emit_replaced (by decide)
    · exact ends_attempt (fun _ replaced _ => replaced) (fun _ replaced => replaced)
    · exact ends_attempt (fun _ replaced _ => replaced) (fun _ replaced => replaced)
  · exact fun _ replaced => replaced

/-- What a worker does before its result. -/
def openingCommands (run : Nat) : List ArtifactCommand :=
  [.emit .rtcStdout (ownStamp run) anything, .emit .rtcStderr (ownStamp run) anything, step,
    .emit .samples (ownStamp run) anything]

/-- A worker that had no result before leaves none, or the one its script says. -/
theorem worker_leaves (spec : ScenarioSpec) {files : Artifacts} (absent : files .result = none)
    (script : RunScript) {left : Artifacts}
    (ended : (runScript (workerCommands reader spec run) script.worker files).1 = left) :
    left .result = none ∨ ∃ result samples, leftBehind script = some (result, samples) ∧
      bytesOf left .result = some result ∧ bytesOf left .samples = some samples := by
  have commands : workerCommands reader spec run = openingCommands run ++
      .emit .result (ownStamp run) anything :: [step, .attempt (reader.resultPasses spec)] := rfl
  have opened : (runScript (openingCommands run) script.worker files).1 .result = none := by
    refine (runScript_other ?_ _ _).trans absent
    intro command among targeted
    simp only [openingCommands, List.mem_cons, List.not_mem_nil, or_false] at among
    rcases among with rfl | rfl | rfl | rfl <;> cases targeted
  have closes (outcomes : List Outcome) (now : Artifacts) (file : Artifact) :
      (runScript [step, .attempt (reader.resultPasses spec)] outcomes now).1 file = now file := by
    apply runScript_other
    intro command among targeted
    simp only [List.mem_cons, List.not_mem_nil, or_false] at among
    rcases among with rfl | rfl <;> cases targeted
  rw [commands, runScript_append] at ended
  split at ended
  · next succeeded =>
    obtain ⟨written, rest, count, given⟩ := outcomes_of_succeeded succeeded
    match written, count with
    | [_, _, _, samples], _ =>
      have sampled : bytesOf (runScript (openingCommands run) script.worker files).1 .samples =
          some samples := by
        rw [given]
        rfl
      rw [show script.worker.drop (openingCommands run).length = rest from by rw [given]; rfl]
        at ended
      generalize (runScript (openingCommands run) script.worker files).1 = now at *
      cases rest with
      | nil => exact Or.inl (ended ▸ opened)
      | cons writing others =>
        have left_eq (file : Artifact) :
            left file = (perform now (.emit .result (ownStamp run) anything) writing).1 file := by
          rw [← ended, runScript]
          split
          · exact closes others _ file
          · rfl
        have behind : leftBehind script = writing.left.map (fun result => (result, samples)) := by
          rw [leftBehind, given]
          rfl
        have kept : bytesOf left .samples = some samples := by
          rw [bytesOf, left_eq, perform_other now (by simp [Command.target])]
          exact sampled
        cases writing with
        | done bytes =>
          exact Or.inr ⟨bytes, samples, behind, by rw [bytesOf, left_eq]; rfl, kept⟩
        | failed unfinished =>
          cases unfinished with
          | none => exact Or.inl ((left_eq .result).trans opened)
          | some bytes =>
            exact Or.inr ⟨bytes, samples, behind, by rw [bytesOf, left_eq]; rfl, kept⟩
  · exact Or.inl (ended ▸ opened)

/-- A run without the profiler does nothing, or replaces the result: by none, or by
its own where it starts and gets that far. -/
theorem unprofiled_run_replaces (spec : ScenarioSpec) (script : RunScript) {left : Artifacts}
    (ended : (controllerRun reader spec run false script before).1 = left) :
    left = before ∨ Replaced before run left ∧
      (left .result = none ∨
        (runScript (startCommands run false) script.start before).2 = true ∧
        ∃ result samples, leftBehind script = some (result, samples) ∧
          bytesOf left .result = some result ∧ bytesOf left .samples = some samples) := by
  have started := @meets_clear before run script.start before rfl
  have commands : startCommands run false =
      step :: staleArtifacts.map .remove ++ [.emit .scenario (ownStamp run) anything, step] :=
    List.append_nil _
  rw [controllerRun, commands] at ended
  rw [commands]
  split at started
  · next succeeded =>
    rw [if_pos succeeded] at ended
    have replaced : Replaced before run _ := ⟨own_of_none started.result, started.others⟩
    have worked := @meets_worker_replaced reader before run spec script.worker _ replaced
    rw [ite_self] at worked
    simp only [stop_files, Bool.false_eq_true, if_false] at ended
    have nothing (now : Artifacts) : runScript ([] : List ArtifactCommand) script.finish now =
        (now, true) := rfl
    rw [nothing] at ended
    rw [ended] at worked
    exact .inr ⟨worked, (worker_leaves spec started.result script ended).imp_right
      (fun behind => ⟨succeeded, behind⟩)⟩
  · next failed =>
    rw [if_neg failed] at ended
    rw [ended] at started
    rcases started with same | cleared
    · exact .inl same
    · exact .inr ⟨⟨own_of_none cleared.result, cleared.others⟩, .inl cleared.result⟩

/-- A run without the profiler is safe unless its own valid result comes to stand
beside an earlier capture. -/
theorem unprofiled_run_sound (sound : Sound reader completed before) (spec : ScenarioSpec)
    (script : RunScript)
    (careful : (before .perfData).isSome → (before .capture).isSome →
      (runScript (startCommands run false) script.start before).2 = true →
      ∀ result samples, leftBehind script = some (result, samples) →
        reader.accepts result (some samples) = false) :
    Sound reader completed (controllerRun reader spec run false script before).1 := by
  obtain same | ⟨replaced, left⟩ := @unprofiled_run_replaces reader before run spec script _ rfl
  · rw [same]
    exact sound
  · generalize (controllerRun reader spec run false script before).1 = files at *
    constructor
    · intro data metadata present presentMetadata
      rw [replaced.others .perfData (by decide)] at present
      rw [replaced.others .capture (by decide)] at presentMetadata
      obtain ⟨owner, dataRun, metadataRun, _⟩ :=
        sound.captured data metadata present presentMetadata
      refine ⟨owner, dataRun, metadataRun, ?_⟩
      intro valid
      rcases left with absent | ⟨started, result, samples, behind, written, sampled⟩
      · rw [runValid_of_noResult absent] at valid
        cases valid
      · have invalid := careful (by rw [present]; rfl) (by rw [presentMetadata]; rfl) started
          result samples behind
        rw [Reader.runValid, Reader.loadedRun, written, sampled] at valid
        exact absurd (valid.symm.trans invalid) (by decide)
    · refine sound.marked.congr ?_
      intro file among
      apply replaced.others
      revert file
      decide

end Controller

end SfuLoad.Profile
