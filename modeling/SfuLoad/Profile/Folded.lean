import SfuLoad.Kit.Counts
import SfuLoad.Kit.Numerals
import SfuLoad.Kit.Updates
import SfuLoad.Report.Formats
import Mathlib.Data.Char
import Mathlib.Data.List.Lex

/-!
# Folded stacks

A line of a folded profile is a stack of frames, root first, and a number of
samples. Adding a line changes counters and maps one after the other, and each
change may fail; a line that fails is counted as malformed, and what it changed
before it failed stays changed. The tables rank the entries of a map, and a table
over a partition of the samples gets a row for what it leaves out.
-/

namespace SfuLoad.Profile

open Kit Kit.Fallible Kit.Lines Kit.Numerals Kit.Saturating Kit.Updates
open scoped List

/-- How many messages about malformed lines are kept. -/
def maxDiagnostics : Nat := 8

/-- The most lines a folded profile may have. -/
def maxFoldedLines : Nat := 1000000

/-- The most rows of a table. -/
def maxRows : Nat := 15

/-- What is kept of a folded profile: totals, and counters by stack, frame and thread. -/
structure FoldedProfile where
  totalSamples : UInt64
  stackSamples : Counts Text
  selfSamples : Counts Text
  inclusiveSamples : Counts Text
  threadSamples : Counts Text
  kernelSamples : UInt64
  unresolvedLeafSamples : UInt64
  unresolvedStackSamples : UInt64
  malformedLines : Nat
  diagnostics : List String
deriving DecidableEq

/-- The profile without a line. -/
def FoldedProfile.empty : FoldedProfile where
  totalSamples := 0
  stackSamples := .empty
  selfSamples := .empty
  inclusiveSamples := .empty
  threadSamples := .empty
  kernelSamples := 0
  unresolvedLeafSamples := 0
  unresolvedStackSamples := 0
  malformedLines := 0
  diagnostics := []

/-- A frame whose symbol was not found. -/
def unresolved (frame : Text) : Bool :=
  "[unknown]".toList <:+: frame || "0x".toList <+: frame ||
    (frame.head? = some '[' && " <".toList <:+: frame)

/-- A frame of the kernel, which its mark tells. -/
def kernel (frame : Text) : Bool := "_[k]".toList <:+ frame

/-- A line that could be read: frames without the empty ones, and samples. -/
structure FoldedLine where
  stack : Text
  frames : List Text
  count : UInt64
  nonempty : frames ≠ []
  positive : 0 < count
deriving DecidableEq

namespace FoldedLine

/-- The frame that was running. -/
def leaf (line : FoldedLine) : Text := line.frames.getLast line.nonempty

/-- The first frame, which names the thread. -/
def thread (line : FoldedLine) : Text := line.frames.head line.nonempty

/-- The frames that get inclusive samples, each once and in order: those below the
thread root, or the only one. -/
def inclusiveFrames (line : FoldedLine) : List Text :=
  (line.frames.drop (if 1 < line.frames.length then 1 else 0)).dedup.insertionSort (· ≤ ·)

/-- The checks on a line before anything is changed. Without frames there is no
leaf, so that the lack of a thread root is never what a line fails for. -/
def read (line : Text) : Except String FoldedLine := do
  let (stack, count) ← context (rsplitOnce ' ' line) "missing sample count"
  let count ← context (parseU64 count) "sample count is not an integer"
  if positive : 0 < count then
    let frames := (stack.splitOn ';').filter (fun frame => !frame.isEmpty)
    if nonempty : frames ≠ [] then return ⟨stack, frames, count, nonempty, positive⟩
    else .error "stack contains no frames"
  else .error "sample count must be positive"

end FoldedLine

/-- A key without a counter gets one even where the addition fails. -/
def addCount (label : Text) (count : UInt64) : Update (Counts Text) Unit := fun values =>
  let value := values.count label
  match checkedAdd value count with
  | some sum => (.ok (), values.put label sum)
  | none => (.error "sample count overflowed", values.put label value)

/-- Add to a counter of its own. -/
def addSamples (count : UInt64) (message : String) : Update UInt64 Unit := fun value =>
  match checkedAdd value count with
  | some sum => (.ok (), sum)
  | none => (.error message, value)

/-- Adds the samples to each frame in turn. Where one has no room, the frames before it keep
what they got. -/
def addInclusive (count : UInt64) : List Text → Update (Counts Text) Unit
  | [] => pure ()
  | frame :: rest => do
      addCount frame count
      addInclusive count rest

namespace FoldedProfile

/-- Adds a line. The total comes first, so that a line for which it has no room changes
nothing. -/
def addLine (line : Text) : Update FoldedProfile Unit := do
  let line ← lift (FoldedLine.read line)
  part totalSamples (fun profile totalSamples => { profile with totalSamples })
    (addSamples line.count "total sample count overflowed")
  part stackSamples (fun profile stackSamples => { profile with stackSamples })
    (addCount line.stack line.count)
  part selfSamples (fun profile selfSamples => { profile with selfSamples })
    (addCount line.leaf line.count)
  part threadSamples (fun profile threadSamples => { profile with threadSamples })
    (addCount line.thread line.count)
  part inclusiveSamples (fun profile inclusiveSamples => { profile with inclusiveSamples })
    (addInclusive line.count line.inclusiveFrames)
  when (kernel line.leaf)
    (part kernelSamples (fun profile kernelSamples => { profile with kernelSamples })
      (addSamples line.count "kernel sample count overflowed"))
  when (unresolved line.leaf)
    (part unresolvedLeafSamples
      (fun profile unresolvedLeafSamples => { profile with unresolvedLeafSamples })
      (addSamples line.count "unresolved leaf sample count overflowed"))
  when (line.frames.any unresolved)
    (part unresolvedStackSamples
      (fun profile unresolvedStackSamples => { profile with unresolvedStackSamples })
      (addSamples line.count "unresolved stack sample count overflowed"))

/-- One line of the text. -/
def takeLine (profile : FoldedProfile) (line : Text) (lineIndex : Nat) : FoldedProfile :=
  let line := trim line
  if line.isEmpty then profile
  else
    match addLine line profile with
    | (.ok _, next) => next
    | (.error error, next) =>
      { next with
        malformedLines := min (next.malformedLines + 1) limit
        diagnostics :=
          if next.diagnostics.length < maxDiagnostics then
            next.diagnostics ++ [s!"line {lineIndex + 1}: {error}"]
          else next.diagnostics }

/-- Reads a profile line by line. Only one with too many lines is refused. -/
def parse (payload : Text) : Except String FoldedProfile :=
  (lines payload).zipIdx.foldlM (fun profile (line, lineIndex) => do
    ensure (lineIndex < maxFoldedLines)
      s!"folded profile exceeds its {maxFoldedLines} line limit"
    return profile.takeLine line lineIndex) empty

end FoldedProfile

/-- More samples first, and the label where they are equal. -/
def rankOrder (left right : Text × UInt64) : Ordering :=
  (compare right.2 left.2).then (compare left.1 right.1)

/-- The first entries of a ranking. Labels are distinct, so that the order leaves an
unstable sort no choice. -/
def ranked (values : Counts Text) (limit : Nat) : List (Text × UInt64) :=
  (values.entries.mergeSort (fun left right => (rankOrder left right).isLE)).take limit

/-- A number with a comma before each group of three digits. -/
def grouped (value : UInt64) : String :=
  let digits := (toString value).toList
  String.ofList (digits.zipIdx.flatMap (fun (digit, index) =>
    if 0 < index ∧ (digits.length - index) % 3 = 0 then [',', digit] else [digit]))

/-- A share in hundredths of a percent, rounded down. -/
def formatPercent (count total : UInt64) : String :=
  if total = 0 then "n/a"
  else
    let basisPoints := count.toNat * 10000 / total.toNat
    s!"{basisPoints / 100}.{Report.zeroPadded 2 (basisPoints % 100)}%"

/-- A row of a ranking: its rank or what stands for it, a label and samples. -/
structure Row where
  rank : String
  label : String
  count : UInt64

/-- A row as it is written. -/
def Row.text (row : Row) (total : UInt64) : String :=
  s!"| {row.rank} | {row.label} | {grouped row.count} | {formatPercent row.count total} |\n"

/-- What a ranking is made from. -/
structure RankedTable where
  title : String
  name : String
  values : Counts Text
  total : UInt64
  limit : Nat
  isPartition : Bool

namespace RankedTable

/-- The rows for the entries that are shown, and one for the others in a partition. -/
def rows (table : RankedTable) : List Row :=
  let ranked := ranked table.values table.limit
  let shown := Saturating.total (ranked.map Prod.snd)
  ranked.zipIdx.map (fun ((label, count), index) =>
      ⟨toString (index + 1), Report.escapeTable (String.ofList label), count⟩) ++
    if table.isPartition ∧ shown < table.total then
      [⟨"Other", "Remaining entries", table.total - shown⟩]
    else []

/-- A table as it is written, with its heading. -/
def renderRanked (table : RankedTable) (output : String) : String :=
  output ++ s!"## {table.title}\n\n" ++ s!"| Rank | {table.name} | Samples | Share |\n" ++
    "| ---: | --- | ---: | ---: |\n" ++
    String.join (table.rows.map (fun row => row.text table.total)) ++ "\n"

end RankedTable

/-- A frame that tells something: it is resolved and not one of those that start every
thread. -/
def informativeInclusiveFrame (frame : Text) : Bool :=
  !unresolved frame &&
    !(["<std::sys::thread::unix::Thread>::new::thread_start",
      "core::ops::function::FnOnce::call_once\x7b\x7bvtable.shim\x7d\x7d",
      "std::sys::backtrace::__rust_begin_short_backtrace"].contains (String.ofList frame))

/-- The rankings of a breakdown, in order. -/
def FoldedProfile.rankedTables (profile : FoldedProfile) : List RankedTable :=
  [⟨"Thread sample share", "Thread", profile.threadSamples, profile.totalSamples, maxRows, true⟩,
    ⟨"Hottest leaf symbols", "Symbol", profile.selfSamples, profile.totalSamples, maxRows, true⟩,
    ⟨"Hottest inclusive frames", "Frame",
      profile.inclusiveSamples.filter informativeInclusiveFrame, profile.totalSamples, maxRows,
      false⟩]

end SfuLoad.Profile
