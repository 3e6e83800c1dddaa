import SfuLoad.Profile.Provenance

/-!
# Preparing, and every careful sequence of calls

A prepare call clears what other calls made, the mark of readiness first, derives
its reports from the capture and writes the mark last. With the controller's runs
this keeps every reachable directory sound, and a rendering that gets everything
it asks for then describes one run.
-/

namespace SfuLoad.Profile

open Kit.Files Model

/-! ## A prepare call -/

section Prepare

variable {reader : Reader} {completed : List (Nat × Option Nat)} {before : Artifacts} {call : Nat}
  {run : Option Nat}

/-- Between clearing and marking: everything that is there was made by this call. -/
structure Preparing (call : Nat) (run : Option Nat) (files : Artifacts) : Prop where
  unmarked : files .ready = none
  data : runOf files .perfData = run
  made : Made call run files

/-- Deriving one more file from a file of the run. -/
theorem Preparing.derive {files : Artifacts} (preparing : Preparing call run files)
    {source file : Artifact} (sourced : runOf files source = run)
    (derived : file ∈ derivedFiles) (apart : file ≠ source) (bytes : List UInt8) :
    Preparing call run (put files file (some ⟨derivedStamp call source files, bytes⟩)) ∧
      runOf (put files file (some ⟨derivedStamp call source files, bytes⟩)) source = run ∧
      runOf (put files file (some ⟨derivedStamp call source files, bytes⟩)) file = run := by
  have stamped : derivedStamp call source files = ⟨run, some call⟩ := by
    rw [derivedStamp, sourced]
  rw [stamped]
  refine ⟨?_, ?_, ?_⟩
  · constructor
    · refine (put_other files ?_ _).trans preparing.unmarked
      rintro rfl
      exact absurd derived (by decide)
    · refine (runOf_congr (put_other files ?_ _)).trans preparing.data
      rintro rfl
      exact absurd derived (by decide)
    · constructor
      · intro name among content present
        by_cases same : name = file
        · rw [same, put_same] at present
          rw [← Option.some.inj present]
        · rw [put_other files same] at present
          exact preparing.made.derived name among content present
      · intro content present
        rw [put_other files] at present
        · exact preparing.made.environment content present
        · rintro rfl
          exact absurd derived (by decide)
  · exact (runOf_congr (put_other files apart.symm _)).trans sourced
  · rw [runOf, put_same]
    rfl

/-- A command run to a file passes the run on to its output. -/
theorem meets_runToFile {source output stderr : Artifact}
    (derived : output ∈ derivedFiles ∧ stderr ∈ derivedFiles)
    (apart : output ≠ source ∧ stderr ≠ source) :
    Meets (fun files => Preparing call run files ∧ runOf files source = run)
      (runToFile call source output stderr)
      (fun files => Preparing call run files ∧ runOf files output = run) (fun _ => True) := by
  have keeps : ∀ file ∈ derivedFiles, file ≠ source → ∀ files bytes,
      Preparing call run files ∧ runOf files source = run →
      Preparing call run (put files file (some ⟨derivedStamp call source files, bytes⟩)) ∧
        runOf (put files file (some ⟨derivedStamp call source files, bytes⟩)) source = run :=
    fun file among other files bytes given =>
      have put := given.1.derive given.2 among other bytes
      ⟨put.1, put.2.1⟩
  have creates : ∀ file ∈ derivedFiles, file ≠ source →
      Ends (fun files => Preparing call run files ∧ runOf files source = run)
        (.write file (derivedStamp call source) [])
        (fun files => Preparing call run files ∧ runOf files source = run) (fun _ => True) :=
    fun file among other => ends_write (fun files given => keeps file among other files [] given)
      (fun _ _ _ => trivial) (fun _ _ => trivial)
  have logs : Ends (fun files => Preparing call run files ∧ runOf files source = run)
      (.emit stderr (derivedStamp call source) anything)
      (fun files => Preparing call run files ∧ runOf files source = run) (fun _ => True) :=
    ends_emit (fun files bytes given _ => keeps stderr derived.2 apart.2 files bytes given)
      (fun _ _ _ => trivial) (fun _ _ => trivial)
  have fills : Ends (fun files => Preparing call run files ∧ runOf files source = run)
      (.emit output (derivedStamp call source) (fun bytes => !bytes.isEmpty))
      (fun files => Preparing call run files ∧ runOf files output = run) (fun _ => True) :=
    ends_emit (fun files bytes given _ =>
      have put := given.1.derive given.2 derived.1 apart.1 bytes
      ⟨put.1, put.2.2⟩) (fun _ _ _ => trivial) (fun _ _ => trivial)
  apply meets_cons (creates output derived.1 apart.1) _ (fun _ _ => trivial)
  apply meets_cons (creates stderr derived.2 apart.2) _ (fun _ _ => trivial)
  apply meets_cons logs _ (fun _ _ => trivial)
  exact meets_cons fills (meets_nil (fun _ given => given)) (fun _ _ => trivial)

/-- From the capture itself. -/
theorem meets_fromData (output stderr : Artifact)
    (derived : output ∈ derivedFiles ∧ stderr ∈ derivedFiles) :
    Meets (Preparing call run) (runToFile call .perfData output stderr) (Preparing call run)
      (fun _ => True) := by
  have apart : ∀ file ∈ derivedFiles, file ≠ .perfData := by decide
  exact (meets_runToFile derived ⟨apart output derived.1, apart stderr derived.2⟩).weaken
    (fun _ preparing => ⟨preparing, preparing.data⟩) (fun _ given => given.1) (fun _ _ => trivial)

/-- Clearing leaves nothing that another call prepared. -/
theorem meets_clearPrepared :
    Meets (fun files => files = before) (preparedFiles.map .remove)
      (Preparing call (runOf before .perfData)) (fun _ => True) := by
  rintro outcomes files rfl
  split
  · next succeeded =>
    have gone := removes_leave_none succeeded
    constructor
    · exact gone .ready (by decide)
    · apply runOf_congr
      apply runScript_other
      intro command among
      obtain ⟨file, cleared, rfl⟩ := List.mem_map.mp among
      intro targeted
      rw [Option.some.inj targeted] at cleared
      exact absurd cleared (by decide)
    · constructor
      · intro file derived content present
        rw [gone file (derivedFiles_prepared file derived)] at present
        cases present
      · intro content present
        rw [gone .environment (by decide)] at present
        cases present
  · trivial

/-- The script of preparing: from the clearing, over the checks, to the last report. -/
theorem meets_prepare :
    Meets (fun files => files = before) (prepareCommands reader call)
      (Preparing call (runOf before .perfData)) (fun _ => True) := by
  have opens : Meets (fun files => files = before) [step] (fun files => files = before)
      (fun _ => True) :=
    meets_of_keeps (by
      intro command among
      rw [List.mem_singleton.mp among]
      exact ends_attempt (fun _ same _ => same) (fun _ _ => trivial)) (fun _ _ => trivial)
  have checks : ∀ {assertion : Artifacts → Prop} (checked : List (Artifacts → Bool)),
      Meets assertion (checked.map .attempt) assertion (fun _ => True) := by
    intro assertion checked
    apply meets_of_keeps
    · intro command among
      obtain ⟨check, _, rfl⟩ := List.mem_map.mp among
      exact ends_attempt (fun _ given _ => given) (fun _ _ => trivial)
    · exact fun _ _ => trivial
  have script := (@meets_runToFile call (runOf before .perfData) .perfData .perfScript
    .perfScriptStderr (by decide) (by decide)).weaken
      (fun _ preparing => ⟨preparing, Preparing.data preparing⟩) (fun _ given => given)
      (fun _ _ => trivial)
  have collapse := @meets_runToFile call (runOf before .perfData) .perfScript .folded
    .collapseStderr (by decide) (by decide)
  have draw := (@meets_runToFile call (runOf before .perfData) .folded .flamegraph
    .flamegraphStderr (by decide) (by decide)).weaken (fun _ given => given)
      (fun _ given => And.left given) (fun _ _ => trivial)
  have describe : Meets (Preparing call (runOf before .perfData))
      [.emit .environment (callStamp call) anything] (Preparing call (runOf before .perfData))
      (fun _ => True) := by
    apply meets_of_keeps
    · intro command among
      rw [List.mem_singleton.mp among]
      apply ends_emit
      · intro files bytes preparing _
        constructor
        · exact (put_other files (by decide) _).trans preparing.unmarked
        · exact (runOf_congr (put_other files (by decide) _)).trans preparing.data
        · constructor
          · intro file derived content present
            rw [put_other files (by rintro rfl; exact absurd derived (by decide))] at present
            exact preparing.made.derived file derived content present
          · intro content present
            rw [put_same] at present
            rw [← Option.some.inj present]
            rfl
      · exact fun _ _ _ => trivial
      · exact fun _ _ => trivial
    · exact fun _ _ => trivial
  have cleared := meets_append opens (@meets_clearPrepared before call)
  have loaded := meets_append cleared
    (checks [nonempty .perfData, reader.captureLoads, reader.runValid])
  have collapsed := meets_append (meets_append loaded script) collapse
  have drawn := meets_append (meets_append collapsed (checks [reader.stacksLoad, reader.runLoads]))
    draw
  have headed := meets_append drawn (meets_fromData .perfHeader .perfHeaderStderr (by decide))
  have self := meets_append headed
    (meets_fromData .hotspotsSelf .hotspotsSelfStderr (by decide))
  have inclusive := meets_append self
    (meets_fromData .hotspotsInclusive .hotspotsInclusiveStderr (by decide))
  have threads := meets_append inclusive (meets_fromData .threads .threadsStderr (by decide))
  exact meets_append threads describe

/-- What a command run to a file writes, in order. -/
def outputTargets (output stderr : Artifact) : List Artifact :=
  [output, stderr, stderr, output]

/-- All that a prepare call writes after it has removed the mark of readiness. -/
def prepareTargets : List Artifact :=
  preparedFiles.tail ++ outputTargets .perfScript .perfScriptStderr ++
  outputTargets .folded .collapseStderr ++ outputTargets .flamegraph .flamegraphStderr ++
  outputTargets .perfHeader .perfHeaderStderr ++ outputTargets .hotspotsSelf .hotspotsSelfStderr ++
  outputTargets .hotspotsInclusive .hotspotsInclusiveStderr ++
  outputTargets .threads .threadsStderr ++ [.environment]

/-- Whatever a prepare call writes is among what it clears. -/
theorem prepareTargets_prepared : ∀ file ∈ prepareTargets, file ∈ preparedFiles := by
  decide

/-- The files that preparing touches, in order. -/
theorem prepareCommands_targets (reader : Reader) (call : Nat) :
    ((prepareCommands reader call).drop 2).filterMap Command.target = prepareTargets :=
  rfl

/-- A prepare call that stops short leaves no mark of readiness, or has not begun. -/
theorem prepare_stopped :
    Meets (fun files => files = before) (prepareCommands reader call)
      (fun _ => True) (fun files => files = before ∨ files .ready = none) := by
  have commands : prepareCommands reader call =
      step :: .remove .ready :: (prepareCommands reader call).drop 2 := rfl
  have rest : ∀ command ∈ (prepareCommands reader call).drop 2,
      command.target ≠ some Artifact.ready := by
    intro command among targeted
    have written : Artifact.ready ∈ ((prepareCommands reader call).drop 2).filterMap
        Command.target := List.mem_filterMap.mpr ⟨command, among, targeted⟩
    rw [prepareCommands_targets] at written
    exact absurd written (by decide)
  rw [commands]
  have opens : Ends (fun files => files = before) step (fun files => files = before)
      (fun files => files = before ∨ files .ready = none) :=
    ends_attempt (fun _ same _ => same) (fun _ same => .inl same)
  have unmarks : Ends (fun files => files = before) (.remove .ready)
      (fun files => files .ready = none) (fun files => files = before ∨ files .ready = none) :=
    ends_remove (fun files _ => put_same files _ none) (fun _ same => .inl same)
  apply meets_cons opens _ (fun _ same => .inl same)
  apply meets_cons unmarks _ (fun _ same => .inl same)
  intro outcomes files unmarked
  have kept := runScript_other rest outcomes files
  split
  · trivial
  · exact .inr (kept.trans unmarked)

/-- No command of preparing touches anything else. -/
theorem prepareCommands_prepared {file : Artifact} {command : ArtifactCommand}
    (among : command ∈ prepareCommands reader call) (targeted : command.target = some file) :
    file ∈ preparedFiles := by
  have commands : prepareCommands reader call =
      step :: .remove .ready :: (prepareCommands reader call).drop 2 := rfl
  rw [commands] at among
  rcases List.mem_cons.mp among with rfl | among
  · cases targeted
  · rcases List.mem_cons.mp among with rfl | among
    · exact Option.some.inj targeted ▸ by decide
    · have written : file ∈ ((prepareCommands reader call).drop 2).filterMap Command.target :=
        List.mem_filterMap.mpr ⟨command, among, targeted⟩
      rw [prepareCommands_targets] at written
      exact prepareTargets_prepared file written

/-- Preparing leaves every other file as it is. -/
theorem prepare_other {file : Artifact} (kept : file ∉ preparedFiles)
    (body marker : List Outcome) :
    (prepare reader call body marker before).1 file = before file := by
  have unmade : (runScript (prepareCommands reader call) body before).1 file = before file := by
    apply runScript_other
    intro command among targeted
    exact kept (prepareCommands_prepared among targeted)
  have unmarked : ∀ files, (runScript (markerCommands call) marker files).1 file = files file := by
    intro files
    apply runScript_other
    intro command among targeted
    rw [List.mem_singleton.mp among] at targeted
    exact kept (Option.some.inj targeted ▸ by decide)
  rw [prepare]
  split
  · exact (unmarked _).trans unmade
  · exact unmade

/-- So it leaves the capture as it is. -/
theorem prepare_captured (captured : Captured reader before) (body marker : List Outcome) :
    Captured reader (prepare reader call body marker before).1 :=
  captured.congr (prepare_other (by decide) body marker) (prepare_other (by decide) body marker)
    (prepare_other (by decide) body marker) (prepare_other (by decide) body marker)

/-- A completed call's mark stands beside what the call made of its capture. -/
theorem marked_of_preparing {files : Artifacts} (preparing : Preparing call run files)
    (bytes : List UInt8) (recorded : (call, run) ∈ completed) :
    Marked completed (put files .ready (some ⟨callStamp call files, bytes⟩)) := by
  have data : runOf (put files .ready (some ⟨callStamp call files, bytes⟩)) .perfData = run :=
    (runOf_congr (put_other files (by decide) _)).trans preparing.data
  intro marker present _
  rw [put_same] at present
  rw [data]
  refine ⟨call, recorded, Option.some.inj present ▸ rfl, ?_, ?_⟩
  · intro file derived content inFiles
    rw [put_other files (by rintro rfl; exact absurd derived (by decide))] at inFiles
    exact preparing.made.derived file derived content inFiles
  · intro content inFiles
    rw [put_other files (by decide)] at inFiles
    exact preparing.made.environment content inFiles

/-- A prepare call keeps its directory sound, and is recorded if it completes. -/
theorem prepare_sound (sound : Sound reader completed before) (body marker : List Outcome)
    (careful : (runScript (prepareCommands reader call) body before).2 = true →
      ∀ bytes, marker.head? = some (.failed (some bytes)) → bytes = []) :
    Sound reader
      (if (prepare reader call body marker before).2 then
        (call, runOf before .perfData) :: completed else completed)
      (prepare reader call body marker before).1 := by
  have captured := @prepare_captured reader before call sound.captured body marker
  refine ⟨captured, ?_⟩
  clear captured
  have preparing := @meets_prepare reader before call body before rfl
  have stopped := @prepare_stopped reader before call body before rfl
  rw [prepare]
  by_cases succeeded : (runScript (prepareCommands reader call) body before).2 = true
  · rw [if_pos succeeded] at preparing
    rw [if_pos succeeded]
    generalize (runScript (prepareCommands reader call) body before).1 = files at *
    cases marker with
    | nil => exact marked_of_unmarked preparing.unmarked
    | cons outcome rest =>
      cases outcome with
      | done bytes =>
        cases rest <;> exact marked_of_preparing preparing readyMarker List.mem_cons_self
      | failed left =>
        cases left with
        | none => exact marked_of_unmarked preparing.unmarked
        | some bytes =>
          have empty := careful succeeded bytes rfl
          subst empty
          intro found present written
          have same : some found = some ⟨callStamp call files, []⟩ :=
            present.symm.trans (put_same files .ready _)
          rw [Option.some.inj same] at written
          exact absurd rfl written
  · rw [if_neg succeeded] at stopped
    rw [if_neg succeeded, if_neg succeeded]
    rcases stopped with same | unmarked
    · rw [same]
      exact sound.marked
    · exact marked_of_unmarked unmarked

end Prepare

/-! ## Any careful sequence of calls -/

section Sequence

variable {reader : Reader}

/-- A rendering writes nothing into the directory. -/
theorem render_files (outcomes : List Outcome) (files : Artifacts) :
    (render reader outcomes files).1 = files := by
  funext name
  apply runScript_other
  intro command among
  obtain ⟨check, _, rfl⟩ := List.mem_map.mp among
  intro targeted
  cases targeted

/-- Every careful operation keeps the directory sound. -/
theorem step_sound {workspace : Workspace} {operation : Operation}
    (sound : Sound reader workspace.completed workspace.files)
    (careful : Careful reader workspace operation) :
    Sound reader (workspace.step reader operation).completed
      (workspace.step reader operation).files := by
  cases operation with
  | run spec profileServer script =>
    cases profileServer with
    | true => exact profiled_run_sound sound spec script
    | false => exact unprofiled_run_sound sound spec script careful
  | prepare body marker => exact prepare_sound sound body marker careful
  | render outcomes =>
    simp only [Workspace.step, render_files]
    exact sound

/-- A sequence of careful operations keeps the directory sound, by induction on the sequence.
-/
theorem run_sound {workspace : Workspace} {operations : List Operation}
    (sound : Sound reader workspace.completed workspace.files)
    (careful : AllCareful reader workspace operations) :
    Sound reader (operations.foldl (Workspace.step reader) workspace).completed
      (operations.foldl (Workspace.step reader) workspace).files := by
  induction operations generalizing workspace with
  | nil => exact sound
  | cons operation operations hypothesis =>
    exact hypothesis (step_sound sound careful.1) careful.2

/-- The empty directory is sound. -/
theorem empty_sound : Sound reader Workspace.empty.completed Workspace.empty.files :=
  .of_unmarked (captured_of_noData rfl) rfl

/-- A file that holds something is there. -/
theorem present_of_nonempty {file : Artifact} {files : Artifacts}
    (filled : nonempty file files = true) :
    ∃ content, files file = some content ∧ content.bytes ≠ [] := by
  cases found : files file with
  | none => simp [nonempty, bytesOf, found] at filled
  | some content =>
    refine ⟨content, rfl, ?_⟩
    intro empty
    simp [nonempty, bytesOf, found, empty] at filled

/-- A file that was decoded is there. -/
theorem present_of_decoded {α : Type} {file : Artifact} {files : Artifacts}
    {decode : List UInt8 → Option α}
    (decoded : ((bytesOf files file).bind decode).isSome = true) :
    ∃ content, files file = some content := by
  cases found : files file with
  | none => simp [bytesOf, found] at decoded
  | some content => exact ⟨content, rfl⟩

/-- Everything a rendering asks of the directory. -/
theorem loaded_of_rendered {files : Artifacts} {outcomes : List Outcome}
    (rendered : (render reader outcomes files).2 = true) :
    (∀ file ∈ Artifact.capture :: .environment :: .folded :: presentFiles,
      ∃ content, files file = some content) ∧
    nonempty .ready files = true ∧ reader.runValid files = true := by
  have checked := attempts_hold rendered
  have filled : ∀ file ∈ presentFiles, nonempty file files = true := by
    intro file among
    apply checked
    exact List.mem_append_left _ (List.mem_append_left _ (List.mem_map_of_mem among))
  have captured : reader.captureLoads files = true := checked _ (by simp [loadPrepared])
  have described : reader.environmentLoads files = true := checked _ (by simp [loadPrepared])
  have stacked : reader.stacksLoad files = true := checked _ (by simp [loadPrepared])
  refine ⟨?_, filled .ready (by decide), checked _ (by simp [loadPrepared])⟩
  intro file among
  rcases List.mem_cons.mp among with rfl | among
  · apply present_of_decoded
    rw [of_decide_eq_true captured]
    rfl
  · rcases List.mem_cons.mp among with rfl | among
    · apply present_of_decoded
      rw [of_decide_eq_true described]
      rfl
    · rcases List.mem_cons.mp among with rfl | among
      · apply present_of_decoded
        exact Option.isSome_of_any stacked
      · obtain ⟨content, found, _⟩ := present_of_nonempty (filled file among)
        exact ⟨content, found⟩

/-- Whatever the programs are called with, and wherever each call fails: what a
rendering relies on stems from one run and one completed prepare call on its
capture, unless a run without the profiler left a valid result beside the capture
of an earlier run, or a prepare call failed within its mark of readiness. -/
theorem rendered_profile_describes_one_run {operations : List Operation}
    (careful : AllCareful reader .empty operations) (outcomes : List Outcome)
    (rendered : (render reader outcomes (Workspace.after reader operations).files).2 = true) :
    ∃ run call, Describes (Workspace.after reader operations) run call := by
  have sound : Sound reader (Workspace.after reader operations).completed
      (Workspace.after reader operations).files := run_sound empty_sound careful
  obtain ⟨present, filled, valid⟩ := loaded_of_rendered rendered
  generalize Workspace.after reader operations = workspace at *
  obtain ⟨marker, marked, written⟩ := present_of_nonempty filled
  obtain ⟨call, recorded, stamped, made⟩ := sound.marked marker marked written
  obtain ⟨data, dataFound⟩ := present .perfData (by decide)
  obtain ⟨metadata, metadataFound⟩ := present .capture (by decide)
  obtain ⟨run, dataRun, metadataRun, resultRun⟩ :=
    sound.captured data metadata dataFound metadataFound
  have dataOf : runOf workspace.files .perfData = some run := by
    rw [runOf, dataFound]
    exact dataRun
  have metadataOf : runOf workspace.files .capture = some run := by
    rw [runOf, metadataFound]
    exact metadataRun
  rw [dataOf] at recorded made
  have reported : ∀ file ∈ reports, ∃ content,
      workspace.files file = some content ∧ content.stamp = ⟨some run, some call⟩ := by
    intro file among
    have inDerived : file ∈ derivedFiles := by
      revert file
      decide
    have inPresent : file ∈ Artifact.capture :: .environment :: .folded :: presentFiles := by
      revert file
      decide
    obtain ⟨content, found⟩ := present file inPresent
    exact ⟨content, found, made.derived file inDerived content found⟩
  refine ⟨run, call, ?_, ?_, recorded⟩
  · intro file among
    rcases List.mem_cons.mp among with rfl | among
    · exact resultRun valid
    · rcases List.mem_cons.mp among with rfl | among
      · exact metadataOf
      · rcases List.mem_cons.mp among with rfl | among
        · exact dataOf
        · obtain ⟨content, found, stamp⟩ := reported file among
          rw [runOf, found]
          exact congrArg Stamp.run stamp
  · intro file among
    rcases List.mem_cons.mp among with rfl | among
    · exact ⟨marker, marked, stamped⟩
    · rcases List.mem_cons.mp among with rfl | among
      · obtain ⟨content, found⟩ := present .environment (by decide)
        exact ⟨content, found, made.environment content found⟩
      · obtain ⟨content, found, stamp⟩ := reported file among
        exact ⟨content, found, congrArg Stamp.call stamp⟩

end Sequence

/-! ## A smoke, profiled and run again -/

/-- The bytes of an ASCII text. -/
def text (content : String) : List UInt8 :=
  content.toList.map (fun character => UInt8.ofNat character.toNat)

/-- The bytes of a text that is spelled out, which are quicker to compute with. -/
theorem text_spelled (characters : List Char) :
    text (String.ofList characters) =
      characters.map (fun character => UInt8.ofNat character.toNat) := by
  rw [text, String.toList_ofList]

/-- The result of one packet from one sender to one receiver. -/
def smokeResult : ScenarioResult where
  schemaVersion := 4
  profile := "opus-fanout-smoke-v3"
  oSfuRevision := none
  scenario := .smoke 1 1
  serverPolicy := ServerPolicy.forScenario (.smoke 1 1)
  plan := ⟨1, 1, 1, 80, 1, 80⟩
  offeredPackets := 1
  offeredPayloadBytes := 80
  deliveredPackets := 1
  deliveredPayloadBytes := 80
  correctness := .zero
  elapsedMs := 1
  maxSendLagMs := 0

/-- This result as the worker writes it. -/
def smokeJson : List UInt8 :=
  text "\x7b\"schemaVersion\":4,\"profile\":" ++ text "\"opus-fanout-smoke-v3\"," ++
    text "\"oSfuRevision\":null,\"scenario\":" ++
    text "\x7b\"type\":\"smoke\",\"receivers\":1," ++
    text "\"packets\":1\x7d,\"serverPolicy\":" ++
    text "\x7b\"mediaWorkers\":1,\"roomSize\":2," ++
    text "\"maxPreAuthWebsocketSessionsPerOrigin\":2," ++ text "\"maxActiveAudioSpeakers\":4," ++
    text "\"maxVideoDownloadsPerReceiver\":10," ++ text "\"maxBitrateInBps\":8000000," ++
    text "\"maxBitrateOutBps\":10000000\x7d," ++
    text "\"plan\":\x7b\"streams\":1,\"routes\":1," ++ text "\"offeredPackets\":1," ++
    text "\"offeredPayloadBytes\":80," ++ text "\"expectedDeliveries\":1," ++
    text "\"expectedDeliveryPayloadBytes\":" ++ text "80\x7d,\"offeredPackets\":1," ++
    text "\"offeredPayloadBytes\":80," ++ text "\"deliveredPackets\":1," ++
    text "\"deliveredPayloadBytes\":80," ++ text "\"correctness\":\x7b\"missingPackets\":0," ++
    text "\"duplicatePackets\":0," ++ text "\"outOfOrderPackets\":0," ++
    text "\"unexpectedPackets\":0," ++ text "\"payloadMismatches\":0\x7d," ++
    text "\"elapsedMs\":1,\"maxSendLagMs\":0\x7d"

/-- The metadata of a capture of one second. -/
def captureJson : List UInt8 :=
  text "\x7b\"schemaVersion\":1,\"event\":" ++ text "\"cpu-clock\",\"frequencyHz\":99," ++
    text "\"callGraph\":\"fp\",\"durationMs\":" ++ text "1000\x7d"

/-- The description of a machine on which nothing is known. -/
def environmentJson : List UInt8 :=
  text "\x7b\"schemaVersion\":1,\"cpuModel\":" ++ text "\"unavailable\",\"logicalCpus\":1," ++
    text "\"kernel\":\"Linux\",\"perfVersion\":" ++ text "\"unavailable\",\"infernoVersion\":" ++
    text "\"unreported\",\"rustcVersion\":" ++ text "\"unavailable\",\"runnerImage\":" ++
    text "\"Ubuntu\",\"perfEventMaxStack\":" ++ text "\"127\"\x7d"

/-- One stack with seven samples. -/
def foldedText : List UInt8 :=
  text "o-sfu;main;work 7\n"

/-- Reads the texts above as the programs do, and nothing else. -/
def textReader : Reader where
  decodeResult bytes := if bytes = smokeJson then some smokeResult else none
  loadRun bytes _ := if bytes = smokeJson then some smokeResult else none
  captureSchema bytes := if bytes = captureJson then some 1 else none
  environmentSchema bytes := if bytes = environmentJson then some 1 else none
  foldedSamples bytes := if bytes = foldedText then some 7 else none

/-- Everything goes well, and every file but the named ones gets one byte. -/
def fine (count : Nat) : List Outcome :=
  List.replicate count (.done [10])

/-- A run in which nothing fails. -/
def smoothRun : RunScript where
  start := fine 15
  worker := fine 4 ++ [.done smokeJson] ++ fine 2
  finish := fine 3 ++ [.done captureJson]
  stop := fine 1

/-- A prepare call in which nothing fails. -/
def smoothPrepare : Operation :=
  .prepare (fine 27 ++ [.done foldedText] ++ fine 22 ++ [.done environmentJson]) (fine 1)

/-- A profiled and prepared smoke is described as one run. -/
theorem profiled_smoke_describes_one_run :
    ∃ run call, Describes (Workspace.after textReader
      [.run (.smoke 1 1) true smoothRun, smoothPrepare]) run call := by
  have careful : AllCareful textReader .empty
      [.run (.smoke 1 1) true smoothRun, smoothPrepare] := by
    refine ⟨trivial, ?_, trivial⟩
    intro _ bytes failed
    cases failed
  have rendered : (render textReader (fine 12) (Workspace.after textReader
      [.run (.smoke 1 1) true smoothRun, smoothPrepare]).files).2 = true := by
    unfold textReader smoothRun smoothPrepare smokeJson captureJson environmentJson foldedText
    repeat rw [text_spelled]
    decide +kernel
  exact rendered_profile_describes_one_run careful (fine 12) rendered

/-- The same, and then run again without the profiler. -/
def profiledThenPlain : Workspace :=
  .after textReader [.run (.smoke 1 1) true smoothRun, smoothPrepare,
    .run (.smoke 1 1) false smoothRun]

/-- Running the smoke again mixes two runs: the result is the second run's,
everything else the first one's. -/
theorem second_smoke_mixes_runs :
    (render textReader (fine 12) profiledThenPlain.files).2 = true ∧
    ¬∃ run call, Describes profiledThenPlain run call := by
  have mixed : (render textReader (fine 12) profiledThenPlain.files).2 = true ∧
      runOf profiledThenPlain.files .result = some 1 ∧
      runOf profiledThenPlain.files .perfData = some 0 := by
    unfold profiledThenPlain textReader smoothRun smoothPrepare smokeJson captureJson
      environmentJson foldedText
    repeat rw [text_spelled]
    decide +kernel
  obtain ⟨rendered, result, data⟩ := mixed
  refine ⟨rendered, ?_⟩
  intro described
  obtain ⟨run, call, describes⟩ := described
  have resultRun := describes.relied .result (by decide)
  have dataRun := describes.relied .perfData (by decide)
  rw [result] at resultRun
  rw [data, ← resultRun] at dataRun
  cases dataRun

end SfuLoad.Profile
