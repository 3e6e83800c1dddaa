import SfuLoad.Kit.Buffered
import SfuLoad.Kit.Fallible

/-!
# The frames of a phase stream

A phase event is a line of at most 256 bytes on the worker's output. The controller
reads it buffer by buffer: what a buffer holds of the frame is checked against the
limit, appended and consumed. What is read depends on the bytes alone and not on how
they come in buffers.
-/

namespace SfuLoad.Phases

open Kit.Buffered

/-- The most bytes an event may have, its newline included. -/
def maxPhaseFrameBytes : Nat := 256

/-- The byte that ends an event. -/
def newline : UInt8 := 10

/-- A failure reading, too long a frame, and an end inside a frame. -/
def readFailure : String := "failed to read an RTC phase event"

/-- What the controller says of an event that is too long. -/
def oversizedFrame : String := s!"RTC phase event exceeds {maxPhaseFrameBytes} bytes"

/-- What it says of a stream that ends inside an event. -/
def unfinishedFrame : String := "RTC phase stream ended within an event"

/-- The loop that reads one frame, of which some bytes have been read. Lengths stay
far below the end of their range, where additions would saturate. -/
def readPhaseFrameFrom (frame : List UInt8) (output : Reader UInt8) :
    Except String (Option (List UInt8)) × Reader UInt8 :=
  match _filled : output.fillBuf with
  | none => (.error readFailure, output)
  | some available =>
    if _ended : available = [] then
      if frame.isEmpty then (.ok none, output) else (.error unfinishedFrame, output)
    else
      let consumed := reach newline available
      if frame.length + consumed ≤ maxPhaseFrameBytes then
        if available[consumed - 1]? = some newline then
          (.ok (some (frame ++ available.take consumed)), output.consume consumed)
        else readPhaseFrameFrom (frame ++ available.take consumed) (output.consume consumed)
      else (.error oversizedFrame, output)
termination_by output.content.length
decreasing_by exact Reader.consume_lt _filled (reach_pos _ended) reach_le_length

/-- Reads the next event, starting with an empty frame. -/
def readPhaseFrame (output : Reader UInt8) :
    Except String (Option (List UInt8)) × Reader UInt8 :=
  readPhaseFrameFrom [] output

/-- A stream that fails stops the reading, whatever has been read. -/
theorem readPhaseFrameFrom_failed {frame : List UInt8} {output : Reader UInt8}
    (failed : output.fillBuf = none) :
    readPhaseFrameFrom frame output = (.error readFailure, output) := by
  rw [readPhaseFrameFrom]
  split
  · rfl
  · next found =>
    rw [failed] at found
    cases found

/-- A stream that ends is fine between two events and a failure inside one. -/
theorem readPhaseFrameFrom_ended {frame : List UInt8} {output : Reader UInt8}
    (ended : output.fillBuf = some []) : readPhaseFrameFrom frame output =
      if frame.isEmpty then (.ok none, output) else (.error unfinishedFrame, output) := by
  rw [readPhaseFrameFrom]
  split
  · next missing =>
    rw [ended] at missing
    cases missing
  · next found =>
    obtain rfl := Option.some.inj (ended.symm.trans found)
    exact dif_pos rfl

/-- With a buffer to read from, the loop takes it up to the newline, if the frame may grow
that long, and goes on with the next buffer where there was none. -/
theorem readPhaseFrameFrom_buffer {frame available : List UInt8} {output : Reader UInt8}
    (filled : output.fillBuf = some available) (nonempty : available ≠ []) :
    readPhaseFrameFrom frame output =
      if frame.length + reach newline available ≤ maxPhaseFrameBytes then
        if available[reach newline available - 1]? = some newline then
          (.ok (some (frame ++ available.take (reach newline available))),
            output.consume (reach newline available))
        else
          readPhaseFrameFrom (frame ++ available.take (reach newline available))
            (output.consume (reach newline available))
      else (.error oversizedFrame, output) := by
  rw [readPhaseFrameFrom]
  split
  · next missing =>
    rw [filled] at missing
    cases missing
  · next found =>
    obtain rfl := Option.some.inj (filled.symm.trans found)
    exact dif_neg nonempty

/-- What the first frame of a stream is read as, by its bytes alone. -/
def firstFrame (ending : Ending) (bytes : List UInt8) : Except String (Option (List UInt8)) :=
  if maxPhaseFrameBytes < reach newline bytes then .error oversizedFrame
  else if newline ∈ bytes then .ok (some (bytes.take (reach newline bytes)))
  else
    match ending with
    | .failed => .error readFailure
    | .closed => if bytes = [] then .ok none else .error unfinishedFrame

section
variable {ending : Ending} {bytes : List UInt8}

/-- A frame that is too long is refused, terminated or not. -/
theorem firstFrame_oversized (long : maxPhaseFrameBytes < reach newline bytes) :
    firstFrame ending bytes = .error oversizedFrame := if_pos long

/-- A short frame with its newline is the bytes up to it. -/
theorem firstFrame_terminated (short : reach newline bytes ≤ maxPhaseFrameBytes)
    (terminated : newline ∈ bytes) :
    firstFrame ending bytes = .ok (some (bytes.take (reach newline bytes))) :=
  (if_neg (Nat.not_lt.mpr short)).trans (if_pos terminated)

/-- Without a newline it depends on how the stream ends. -/
theorem firstFrame_unterminated (short : bytes.length ≤ maxPhaseFrameBytes)
    (unterminated : newline ∉ bytes) : firstFrame ending bytes =
      if ending = .failed then .error readFailure
      else if bytes = [] then .ok none else .error unfinishedFrame := by
  have reached := reach_of_not_mem unterminated
  rw [← reached] at short
  refine (if_neg (Nat.not_lt.mpr short)).trans ((if_neg unterminated).trans ?_)
  cases ending <;> rfl

end

/-- Reading went as the bytes say, and a frame that was read is what was consumed. -/
structure ReadsAs (ending : Ending) (bytes : List UInt8)
    (read : Except String (Option (List UInt8)) × Reader UInt8) : Prop where
  result : read.1 = firstFrame ending bytes
  consumed : ∀ frame, read.1 = .ok (some frame) → frame ++ read.2.content = bytes
  ending : read.2.ending = ending

/-- The loop reads the frame that has begun to its end, whatever the buffers. -/
theorem readPhaseFrameFrom_readsAs (frame : List UInt8) (output : Reader UInt8)
    (begun : newline ∉ frame) (bounded : frame.length ≤ maxPhaseFrameBytes) :
    ReadsAs output.ending (frame ++ output.content) (readPhaseFrameFrom frame output) := by
  induction held : output.buffers generalizing frame output with
  | nil =>
    obtain ⟨done, filled⟩ := Reader.fillBuf_of_empty held
    have result := @firstFrame_unterminated output.ending _ bounded begun
    rw [done, List.append_nil]
    cases ends : output.ending with
    | failed =>
      rw [ends, if_neg (by simp)] at filled
      rw [ends] at result
      rw [readPhaseFrameFrom_failed filled]
      exact ⟨result.symm, by simp, ends⟩
    | closed =>
      rw [ends, if_pos rfl] at filled
      rw [ends] at result
      rw [readPhaseFrameFrom_ended filled]
      cases frame with
      | nil => exact ⟨result.symm, by simp, ends⟩
      | cons byte bytes => exact ⟨result.symm, by simp, ends⟩
  | cons available rest inductionHypothesis =>
    obtain ⟨filled, nonempty, whole, left⟩ := Reader.fillBuf_of_cons held
    rw [readPhaseFrameFrom_buffer filled nonempty, whole]
    by_cases terminated : newline ∈ available
    · -- The frame ends in this buffer, and the rest of the buffer stays.
      obtain ⟨body, tail, rfl, clean⟩ := List.eq_append_cons_of_mem terminated
      have inFrame : newline ∉ frame ++ body := by simp [begun, clean]
      have shape : frame ++ (body ++ newline :: tail ++ rest.flatten) =
          (frame ++ body) ++ newline :: (tail ++ rest.flatten) := by simp
      have last : (body ++ newline :: tail)[body.length]? = some newline := by simp
      have reached := reach_terminated inFrame (tail ++ rest.flatten)
      rw [List.length_append] at reached
      rw [reach_terminated clean, shape]
      split
      · next fits =>
        have result := @firstFrame_terminated output.ending
          ((frame ++ body) ++ newline :: (tail ++ rest.flatten)) (by rw [reached]; omega) (by simp)
        rw [reached, ← List.length_append, take_terminated] at result
        rw [Nat.add_sub_cancel, if_pos last, take_terminated, ← List.append_assoc]
        refine ⟨result.symm, fun whole same => ?_, Reader.consume_ending _ _⟩
        obtain rfl := Option.some.inj (Except.ok.inj same)
        rw [left _ (by simp), drop_terminated, List.append_assoc, List.singleton_append]
      · next exceeds =>
        exact ⟨(firstFrame_oversized (by rw [reached]; omega)).symm, by simp, rfl⟩
    · -- The whole buffer belongs to the frame.
      have reached := reach_of_not_mem terminated
      have inFrame : newline ∉ frame ++ available := by simp [begun, terminated]
      have notLast (index : Nat) : available[index]? ≠ some newline :=
        fun found => terminated (List.mem_of_getElem? found)
      rw [reached, if_neg (notLast _), List.take_length]
      split
      · next fits =>
        have further := inductionHypothesis (frame ++ available) (output.consume available.length)
          inFrame (by rwa [List.length_append]) (Reader.consume_all held)
        rw [left _ (Nat.le_refl _), List.drop_length, List.nil_append, List.append_assoc] at further
        exact further
      · next exceeds =>
        have longer := reach_append inFrame rest.flatten
        rw [List.length_append, List.append_assoc] at longer
        exact ⟨(firstFrame_oversized (by rw [longer]; omega)).symm, by simp, rfl⟩

/-- Reading a frame, of any output. -/
theorem readPhaseFrame_readsAs (output : Reader UInt8) :
    ReadsAs output.ending output.content (readPhaseFrame output) :=
  readPhaseFrameFrom_readsAs [] output (by simp) (Nat.zero_le _)

/-- A line within the limit. -/
structure Framed (frame : List UInt8) : Prop where
  bounded : frame.length ≤ maxPhaseFrameBytes
  terminated : ∃ body, frame = body ++ [newline] ∧ newline ∉ body

/-- How reading ends on what no frame was read from. -/
inductive Ends : Ending → List UInt8 → Except String Unit → Prop where
  | clean : Ends .closed [] (.ok ())
  | oversized {ending : Ending} {rest : List UInt8} :
      maxPhaseFrameBytes < reach newline rest → Ends ending rest (.error oversizedFrame)
  | unfinished {rest : List UInt8} : rest ≠ [] → newline ∉ rest →
      rest.length ≤ maxPhaseFrameBytes → Ends .closed rest (.error unfinishedFrame)
  | failed {rest : List UInt8} : newline ∉ rest → rest.length ≤ maxPhaseFrameBytes →
      Ends .failed rest (.error readFailure)

/-- A frame in front of the bytes is read, whatever follows it. -/
theorem firstFrame_of_framed {ending : Ending} {frame : List UInt8} (framed : Framed frame)
    (rest : List UInt8) : firstFrame ending (frame ++ rest) = .ok (some frame) := by
  obtain ⟨bounded, body, rfl, clean⟩ := framed
  have reached := reach_terminated clean rest
  rw [List.length_append, List.length_singleton] at bounded
  rw [List.append_assoc, List.singleton_append,
    firstFrame_terminated (by rwa [reached]) (by simp), reached, take_terminated]

/-- Bytes that end the stream end the reading in the same way. -/
theorem firstFrame_of_ends {ending : Ending} {rest : List UInt8} {outcome : Except String Unit}
    (ends : Ends ending rest outcome) :
    firstFrame ending rest = outcome.map (fun _ => none) := by
  cases ends with
  | clean => rfl
  | oversized long => exact firstFrame_oversized long
  | unfinished some unterminated short =>
    rw [firstFrame_unterminated short unterminated, if_neg (by simp), if_neg some]
    rfl
  | failed unterminated short =>
    rw [firstFrame_unterminated short unterminated, if_pos rfl]
    rfl

/-- The first frame of a stream, or how the stream ends without one. -/
theorem firstFrame_cases (ending : Ending) (bytes : List UInt8) :
    (∃ frame rest, bytes = frame ++ rest ∧ Framed frame ∧
      firstFrame ending bytes = .ok (some frame)) ∨
    ∃ outcome, Ends ending bytes outcome := by
  by_cases long : maxPhaseFrameBytes < reach newline bytes
  · exact Or.inr ⟨_, .oversized long⟩
  · by_cases terminated : newline ∈ bytes
    · obtain ⟨body, rest, rfl, clean⟩ := List.eq_append_cons_of_mem terminated
      rw [reach_terminated clean] at long
      have framed : Framed (body ++ [newline]) :=
        ⟨by rw [List.length_append, List.length_singleton]; omega, body, rfl, clean⟩
      refine Or.inl ⟨_, rest, by simp, framed, ?_⟩
      rw [← List.singleton_append, ← List.append_assoc]
      exact firstFrame_of_framed framed rest
    · rw [reach_of_not_mem terminated] at long
      cases ending with
      | failed => exact Or.inr ⟨_, .failed terminated (Nat.not_lt.mp long)⟩
      | closed =>
        by_cases done : bytes = []
        · subst done
          exact Or.inr ⟨_, .clean⟩
        · exact Or.inr ⟨_, .unfinished done terminated (Nat.not_lt.mp long)⟩

/-- A frame that was read has at least its newline. -/
theorem readPhaseFrame_lt {output next : Reader UInt8} {frame : List UInt8}
    (read : readPhaseFrame output = (.ok (some frame), next)) :
    next.content.length < output.content.length := by
  obtain ⟨result, consumed, _⟩ := readPhaseFrame_readsAs output
  rw [read] at result consumed
  rw [← consumed frame rfl, List.length_append]
  rcases firstFrame_cases output.ending output.content with ⟨other, _, _, framed, first⟩ |
    ⟨outcome, ends⟩
  · obtain rfl : frame = other :=
      Option.some.inj (Except.ok.inj (result.trans first))
    obtain ⟨_, body, rfl, _⟩ := framed
    simp only [List.length_append, List.length_singleton]
    omega
  · rw [firstFrame_of_ends ends] at result
    cases outcome <;> simp [Except.map] at result

/-- Read until the end of the stream or the first error. -/
def readPhaseFrames (output : Reader UInt8) : List (List UInt8) × Except String Unit :=
  match _read : readPhaseFrame output with
  | (.ok (some frame), next) =>
    let (frames, outcome) := readPhaseFrames next
    (frame :: frames, outcome)
  | (.ok none, _) => ([], .ok ())
  | (.error message, _) => ([], .error message)
termination_by output.content.length
decreasing_by exact readPhaseFrame_lt _read

/-- A frame that was read is the first, and the reader is read on. -/
theorem readPhaseFrames_frame {output next : Reader UInt8} {frame : List UInt8}
    (read : readPhaseFrame output = (.ok (some frame), next)) : readPhaseFrames output =
      (frame :: (readPhaseFrames next).1, (readPhaseFrames next).2) := by
  rw [readPhaseFrames]
  split
  · next same =>
    rw [read] at same
    cases same
    rfl
  · next same =>
    rw [read] at same
    cases same
  · next same =>
    rw [read] at same
    cases same

/-- The reading ends where no frame is answered. -/
theorem readPhaseFrames_end {output : Reader UInt8} {outcome : Except String Unit}
    (read : (readPhaseFrame output).1 = outcome.map (fun _ => none)) :
    readPhaseFrames output = ([], outcome) := by
  rw [readPhaseFrames]
  split
  · next same =>
    rw [same] at read
    cases outcome <;> cases read
  · next same =>
    rw [same] at read
    cases outcome <;> cases read
    rfl
  · next same =>
    rw [same] at read
    cases outcome <;> cases read
    rfl

/-- The frames that are read, and what reading ends with, by the bytes alone. -/
theorem readPhaseFrames_iff (output : Reader UInt8) (frames : List (List UInt8))
    (outcome : Except String Unit) : readPhaseFrames output = (frames, outcome) ↔
      (∀ frame ∈ frames, Framed frame) ∧
      ∃ rest, frames.flatten ++ rest = output.content ∧ Ends output.ending rest outcome := by
  constructor
  · intro read
    induction frames generalizing output with
    | nil =>
      rcases firstFrame_cases output.ending output.content with ⟨frame, _, _, _, first⟩ |
        ⟨other, ends⟩
      · obtain ⟨result, _, _⟩ := readPhaseFrame_readsAs output
        have step := readPhaseFrames_frame (Prod.ext (result.trans first) rfl)
        rw [read] at step
        cases step
      · have result := (readPhaseFrame_readsAs output).result
        rw [firstFrame_of_ends ends] at result
        obtain ⟨rfl⟩ : other = outcome :=
          congrArg Prod.snd ((readPhaseFrames_end result).symm.trans read)
        exact ⟨by simp, output.content, rfl, ends⟩
    | cons frame frames inductionHypothesis =>
      rcases firstFrame_cases output.ending output.content with ⟨other, _, _, framed, first⟩ |
        ⟨other, ends⟩
      · obtain ⟨result, consumed, ending⟩ := readPhaseFrame_readsAs output
        have step := readPhaseFrames_frame (Prod.ext (result.trans first) rfl)
        rw [read, Prod.mk.injEq, List.cons.injEq] at step
        obtain ⟨⟨rfl, rfl⟩, rfl⟩ := step
        obtain ⟨later, rest, shape, ends⟩ := inductionHypothesis _ rfl
        refine ⟨List.forall_mem_cons.mpr ⟨framed, later⟩, rest, ?_, ending ▸ ends⟩
        rw [List.flatten_cons, List.append_assoc, shape]
        exact consumed _ (result.trans first)
      · have result := (readPhaseFrame_readsAs output).result
        rw [firstFrame_of_ends ends] at result
        rw [readPhaseFrames_end result] at read
        cases read
  · rintro ⟨framed, rest, shape, ends⟩
    induction frames generalizing output with
    | nil =>
      rw [List.flatten_nil, List.nil_append] at shape
      rw [shape] at ends
      have result := (readPhaseFrame_readsAs output).result
      rw [firstFrame_of_ends ends] at result
      exact readPhaseFrames_end result
    | cons frame frames inductionHypothesis =>
      obtain ⟨here, later⟩ := List.forall_mem_cons.mp framed
      rw [List.flatten_cons, List.append_assoc] at shape
      obtain ⟨result, consumed, ending⟩ := readPhaseFrame_readsAs output
      rw [← shape, firstFrame_of_framed here] at result
      have left : frames.flatten ++ rest = (readPhaseFrame output).2.content :=
        List.append_cancel_left (shape.trans (consumed frame result).symm)
      have step := readPhaseFrames_frame (Prod.ext result rfl)
      rw [inductionHypothesis _ later left (ending ▸ ends)] at step
      exact step

/-- Reading the frames of a phase stream until it ends or fails takes from each call
the bytes of its frame. The frames are the lines within the limit, in order, up to a
clean end, to a line or an unfinished run over the limit, or to an end or a failure
inside a frame, and how the stream comes in buffers makes no difference. -/
theorem phase_frames_by_bytes (output : Reader UInt8) :
    (∀ frame next, readPhaseFrame output = (.ok (some frame), next) →
      frame ++ next.content = output.content ∧ next.ending = output.ending) ∧
    (∀ frames outcome, readPhaseFrames output = (frames, outcome) ↔
      (∀ frame ∈ frames, Framed frame) ∧
      ∃ rest, frames.flatten ++ rest = output.content ∧ Ends output.ending rest outcome) ∧
    ∀ other : Reader UInt8, other.content = output.content → other.ending = output.ending →
      readPhaseFrames other = readPhaseFrames output := by
  refine ⟨fun frame next read => ?_, readPhaseFrames_iff output, fun other content ending => ?_⟩
  · obtain ⟨_, consumed, ending⟩ := readPhaseFrame_readsAs output
    rw [read] at consumed ending
    exact ⟨consumed frame rfl, ending⟩
  · refine (readPhaseFrames_iff other _ _).mpr ?_
    rw [content, ending]
    exact (readPhaseFrames_iff output _ _).mp rfl

/-- Two short lines in buffers that end before a newline and after one. -/
def cutLines : Reader UInt8 where
  buffers := [[97], [10, 98], [10]]
  filled := by decide
  ending := .closed

/-- Two events that were cut across buffers are read whole. -/
theorem cutLines_read : readPhaseFrames cutLines = ([[97, 10], [98, 10]], .ok ()) := by
  obtain ⟨-, frames, -⟩ := phase_frames_by_bytes cutLines
  refine (frames _ _).mpr ⟨?_, [], rfl, .clean⟩
  rintro frame (_ | ⟨_, _ | ⟨_, member⟩⟩)
  · exact ⟨by decide, [97], rfl, by decide⟩
  · exact ⟨by decide, [98], rfl, by decide⟩
  · cases member

end SfuLoad.Phases
