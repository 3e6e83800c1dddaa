import SfuLoad.Kit.Files
import SfuLoad.Model.Result

/-!
# The artifact directory of a profiled run

Three programs share one output directory. The controller clears the previous
run's artifacts, lets the workers write new ones and, when it profiles, records a
capture. Preparing turns a capture into reports and marks them ready at the very
end. Rendering reads what is there. Every content carries the controller run its
bytes derive from and the prepare call that made it.
-/

namespace SfuLoad.Profile

open Kit.Files Model

/-- The files the three programs remove, write or read. -/
inductive Artifact where
  | result                  -- result.json
  | scenario                -- scenario.json
  | samples                 -- samples.jsonl
  | rtcStdout               -- rtc.stdout.log
  | rtcStderr               -- rtc.stderr.log
  | perfData                -- perf.data
  | capture                 -- profile.json
  | perfStderr              -- perf.stderr.log
  | ready                   -- profile.ready
  | environment             -- environment.json
  | perfScript              -- perf.script
  | perfScriptStderr        -- perf-script.stderr.log
  | folded                  -- stacks.folded
  | collapseStderr          -- collapse.stderr.log
  | flamegraph              -- flamegraph.svg
  | flamegraphStderr        -- flamegraph.stderr.log
  | perfHeader              -- perf-header.txt
  | perfHeaderStderr        -- perf-header.stderr.log
  | hotspotsSelf            -- hotspots-self.txt
  | hotspotsSelfStderr      -- hotspots-self.txt.stderr.log
  | hotspotsInclusive       -- hotspots-inclusive.txt
  | hotspotsInclusiveStderr -- hotspots-inclusive.txt.stderr.log
  | threads                 -- threads.txt
  | threadsStderr           -- threads.txt.stderr.log
deriving DecidableEq

/-- The controller run a content derives from, and the prepare call that made it. -/
structure Stamp where
  run : Option Nat
  call : Option Nat
deriving DecidableEq

/-- The output directory. -/
abbrev Artifacts := Directory Artifact Stamp

/-- One step of a program on the output directory. -/
abbrev ArtifactCommand := Command Artifact Stamp

/-- What the programs make of the bytes they read. Nothing here depends on what
these accept. -/
structure Reader where
  /-- The controller's own reading of `result.json`. -/
  decodeResult : List UInt8 → Option ScenarioResult
  /-- The report's reading of `result.json` and, if there is one, `samples.jsonl`. -/
  loadRun : List UInt8 → Option (List UInt8) → Option ScenarioResult
  /-- The schema version of a decoded `profile.json`. -/
  captureSchema : List UInt8 → Option UInt32
  /-- The schema version of a decoded `environment.json`. -/
  environmentSchema : List UInt8 → Option UInt32
  /-- The samples in a text of folded stacks. -/
  foldedSamples : List UInt8 → Option UInt64

/-- The bytes of a file that is there. -/
def bytesOf (files : Artifacts) (file : Artifact) : Option (List UInt8) :=
  (files file).map Content.bytes

/-- The run that the bytes of a file derive from. -/
def runOf (files : Artifacts) (file : Artifact) : Option Nat :=
  (files file).bind (fun content => content.stamp.run)

/-- The file is there and holds something. -/
def nonempty (file : Artifact) (files : Artifacts) : Bool :=
  (bytesOf files file).any (fun bytes => !bytes.isEmpty)

namespace Reader

variable (reader : Reader)

/-- The result with its samples, as the report loads them. -/
def loadedRun (files : Artifacts) : Option ScenarioResult := do
  let bytes ← bytesOf files .result
  reader.loadRun bytes (bytesOf files .samples)

/-- The result loads. -/
def runLoads (files : Artifacts) : Bool :=
  (reader.loadedRun files).isSome

/-- The run loads and its result passes its own checks. -/
def runValid (files : Artifacts) : Bool :=
  (reader.loadedRun files).any (fun result => (result.validate result.scenario).isOk)

/-- The metadata of a capture loads and has the version that is read. -/
def captureLoads (files : Artifacts) : Bool :=
  ((bytesOf files .capture).bind reader.captureSchema) = some 1

/-- The description of the machine loads and has the version that is read. -/
def environmentLoads (files : Artifacts) : Bool :=
  ((bytesOf files .environment).bind reader.environmentSchema) = some 1

/-- The folded stacks load and hold a sample. -/
def stacksLoad (files : Artifacts) : Bool :=
  ((bytesOf files .folded).bind reader.foldedSamples).any (fun samples => 0 < samples)

/-- The result the controller reads back satisfies the scenario it was told to run. -/
def resultPasses (spec : ScenarioSpec) (files : Artifacts) : Bool :=
  ((bytesOf files .result).bind reader.decodeResult).any
    (fun result => (result.validate spec).isOk)

end Reader

/-- A step that may fail and is of no further interest. -/
def step : ArtifactCommand :=
  .attempt (fun _ => true)

/-- Accepts whatever bytes were left. -/
def anything (_ : List UInt8) : Bool :=
  true

/-! ## The controller -/

/-- The stamp of what a controller run writes. -/
def ownStamp (run : Nat) (_ : Artifacts) : Stamp :=
  ⟨some run, none⟩

/-- What every run removes before it starts. -/
def staleArtifacts : List Artifact :=
  [.result, .scenario, .samples, .rtcStdout, .rtcStderr]

/-- Stop trusting the last capture, then record a new one. Recording writes
`perf.data` from its start until it is stopped or killed. -/
def profilerStart (run : Nat) : List ArtifactCommand :=
  [step,  -- the server has a process id
    .remove .ready,
    .remove .perfData,
    .remove .capture,
    .emit .perfStderr (ownStamp run) anything,
    .emit .perfData (ownStamp run) anything,  -- spawn
    .emit .perfData (ownStamp run) anything]  -- enable

/-- What the controller does to the files before the worker runs: the stale artifacts go, the
scenario is written, and the profiler starts if there is one. -/
def startCommands (run : Nat) (profileServer : Bool) : List ArtifactCommand :=
  step :: staleArtifacts.map .remove ++
    [.emit .scenario (ownStamp run) anything,
      step] ++  -- the server starts
    if profileServer then profilerStart run else []

/-- The worker writes its result last; telemetry is sampled meanwhile. -/
def workerCommands (reader : Reader) (spec : ScenarioSpec) (run : Nat) : List ArtifactCommand :=
  [.emit .rtcStdout (ownStamp run) anything,
    .emit .rtcStderr (ownStamp run) anything,
    step,  -- the worker starts
    .emit .samples (ownStamp run) anything,
    .emit .result (ownStamp run) anything,
    step,  -- the worker exits in time and telemetry ends
    .attempt (reader.resultPasses spec)]

/-- Stop recording; metadata is written for a capture that is not empty. -/
def profilerFinish (run : Nat) : List ArtifactCommand :=
  [.emit .perfData (ownStamp run) anything,  -- disable
    .emit .perfData (ownStamp run) anything,  -- stop
    .attempt (nonempty .perfData),
    .emit .capture (ownStamp run) anything]

/-- How the parts of a controller run went. -/
structure RunScript where
  start : List Outcome
  worker : List Outcome
  finish : List Outcome
  stop : List Outcome

/-- One run. Once it has started, the profiler is finished and the server stopped
whatever became of the work. -/
def controllerRun (reader : Reader) (spec : ScenarioSpec) (run : Nat) (profileServer : Bool)
    (script : RunScript) (files : Artifacts) : Artifacts × Bool :=
  let started := runScript (startCommands run profileServer) script.start files
  if started.2 then
    let worked := runScript (workerCommands reader spec run) script.worker started.1
    let finished := runScript (if profileServer then profilerFinish run else []) script.finish
      worked.1
    let stopped := runScript [step] script.stop finished.1
    (stopped.1, worked.2 && finished.2 && stopped.2)
  else started

/-! ## Preparing and rendering -/

/-- What a prepare call clears before it starts, the mark of readiness first. -/
def preparedFiles : List Artifact :=
  [.ready, .environment, .perfScript, .perfScriptStderr, .folded, .collapseStderr, .flamegraph,
    .flamegraphStderr, .perfHeader, .perfHeaderStderr, .hotspotsSelf, .hotspotsSelfStderr,
    .hotspotsInclusive, .hotspotsInclusiveStderr, .threads, .threadsStderr]

/-- The stamp of what a call derives from a file. -/
def derivedStamp (call : Nat) (source : Artifact) (files : Artifacts) : Stamp :=
  ⟨runOf files source, some call⟩

/-- The stamp of what a call writes on its own. -/
def callStamp (call : Nat) (_ : Artifacts) : Stamp :=
  ⟨none, some call⟩

/-- Create both files, and have a command fill them from its source. -/
def runToFile (call : Nat) (source output stderr : Artifact) : List ArtifactCommand :=
  [.write output (derivedStamp call source) [],
    .write stderr (derivedStamp call source) [],
    .emit stderr (derivedStamp call source) anything,
    .emit output (derivedStamp call source) (fun bytes => !bytes.isEmpty)]

/-- Preparing, up to the mark: what an earlier call made goes, the capture and the result are
checked, and each report is derived from the one before it. -/
def prepareCommands (reader : Reader) (call : Nat) : List ArtifactCommand :=
  [step] ++  -- the input is a directory
  preparedFiles.map .remove ++
  [.attempt (nonempty .perfData), .attempt reader.captureLoads, .attempt reader.runValid] ++
  runToFile call .perfData .perfScript .perfScriptStderr ++
  runToFile call .perfScript .folded .collapseStderr ++
  [.attempt reader.stacksLoad, .attempt reader.runLoads] ++
  runToFile call .folded .flamegraph .flamegraphStderr ++
  runToFile call .perfData .perfHeader .perfHeaderStderr ++
  runToFile call .perfData .hotspotsSelf .hotspotsSelfStderr ++
  runToFile call .perfData .hotspotsInclusive .hotspotsInclusiveStderr ++
  runToFile call .perfData .threads .threadsStderr ++
  [.emit .environment (callStamp call) anything]

/-- The bytes `ready` and a line feed. -/
def readyMarker : List UInt8 :=
  [114, 101, 97, 100, 121, 10]

/-- The mark of readiness is written in a step of its own. -/
def markerCommands (call : Nat) : List ArtifactCommand :=
  [.write .ready (callStamp call) readyMarker]

/-- Prepare everything, then write the marker. -/
def prepare (reader : Reader) (call : Nat) (body marker : List Outcome) (files : Artifacts) :
    Artifacts × Bool :=
  let prepared := runScript (prepareCommands reader call) body files
  if prepared.2 then runScript (markerCommands call) marker prepared.1 else prepared

/-- The files rendering wants to have something in. -/
def presentFiles : List Artifact :=
  [.ready, .perfData, .flamegraph, .perfHeader, .hotspotsSelf, .hotspotsInclusive, .threads]

/-- What a rendering asks of the files. -/
def loadPrepared (reader : Reader) : List (Artifacts → Bool) :=
  presentFiles.map nonempty ++
    [reader.runValid, reader.captureLoads, reader.environmentLoads, reader.stacksLoad]

/-- Rendering checks what it loads, and then may still fail on a link or a limit. -/
def render (reader : Reader) (outcomes : List Outcome) (files : Artifacts) : Artifacts × Bool :=
  runScript ((loadPrepared reader ++ [fun _ => true]).map .attempt) outcomes files

/-! ## Any sequence of calls -/

/-- The directory, how often it was run and prepared, and which prepare calls
completed on which run's capture. -/
structure Workspace where
  files : Artifacts
  runs : Nat
  calls : Nat
  completed : List (Nat × Option Nat)

/-- Nothing has been run. -/
def Workspace.empty : Workspace where
  files := fun _ => none
  runs := 0
  calls := 0
  completed := []

/-- A run of the controller, a prepare call, or a rendering, with how its commands end. -/
inductive Operation where
  | run (spec : ScenarioSpec) (profileServer : Bool) (script : RunScript)
  | prepare (body marker : List Outcome)
  | render (outcomes : List Outcome)

/-- The directory after one operation. Runs and prepare calls are counted, so that their
stamps differ. -/
def Workspace.step (reader : Reader) (workspace : Workspace) : Operation → Workspace
  | .run spec profileServer script =>
    { workspace with
      files := (controllerRun reader spec workspace.runs profileServer script workspace.files).1
      runs := workspace.runs + 1 }
  | .prepare body marker =>
    let prepared := Profile.prepare reader workspace.calls body marker workspace.files
    { workspace with
      files := prepared.1
      calls := workspace.calls + 1
      completed :=
        if prepared.2 then (workspace.calls, runOf workspace.files .perfData) :: workspace.completed
        else workspace.completed }
  | .render outcomes => { workspace with files := (Profile.render reader outcomes workspace.files).1 }

/-- The directory after a sequence of operations. -/
def Workspace.after (reader : Reader) (operations : List Operation) : Workspace :=
  operations.foldl (Workspace.step reader) .empty

end SfuLoad.Profile
