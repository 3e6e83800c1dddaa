import SfuLoad.Profile.Folded
import Mathlib.Algebra.Order.BigOperators.Group.List
import Mathlib.Algebra.Order.Group.Nat

/-!
# The accounts of a folded profile

Every counter and every map counts some of the samples of the accepted lines, so
that none of them exceeds the total. The total is changed first: where it has room
for a line, so has everything else, and a line that fails has changed nothing.
-/

namespace SfuLoad.Profile

open Kit Kit.Counts Kit.Fallible Kit.Lines Kit.Saturating Kit.Updates

namespace FoldedLine

variable (line : FoldedLine)

/-- The samples of a line. -/
def samples (line : FoldedLine) : Nat := line.count.toNat

/-- A frame that a line counts for inclusively. -/
def includes (frame : Text) (line : FoldedLine) : Bool :=
  frame ∈ line.frames.tail ∨ line.frames = [frame]

/-- The leaf is one of the frames. -/
theorem leaf_mem : line.leaf ∈ line.frames := List.getLast_mem line.nonempty

/-- A frame is listed once, however often the stack has it. -/
theorem inclusiveFrames_nodup : line.inclusiveFrames.Nodup :=
  ((List.perm_insertionSort _ _).nodup_iff).mpr (List.nodup_dedup _)

/-- A frame is listed exactly when the stack has it. -/
theorem mem_inclusiveFrames_iff (frame : Text) :
    frame ∈ line.inclusiveFrames ↔ line.includes frame = true := by
  rw [inclusiveFrames, List.mem_insertionSort, List.mem_dedup, includes, decide_eq_true_eq]
  obtain ⟨_, frames, _, nonempty, _⟩ := line
  cases frames with
  | nil => exact absurd rfl nonempty
  | cons first rest =>
    cases rest with
    | nil => simp [eq_comm]
    | cons second rest => simp

/-- The leaf is listed. -/
theorem leaf_mem_inclusiveFrames : line.leaf ∈ line.inclusiveFrames := by
  rw [mem_inclusiveFrames_iff, includes, decide_eq_true_eq]
  obtain ⟨_, frames, _, nonempty, _⟩ := line
  cases frames with
  | nil => exact absurd rfl nonempty
  | cons first rest =>
    cases rest with
    | nil => exact Or.inr rfl
    | cons second rest => exact Or.inl (by simp [leaf, List.getLast_cons])

/-- A line all of whose changes are made. -/
def record (line : FoldedLine) (profile : FoldedProfile) : FoldedProfile :=
  { profile with
    totalSamples := profile.totalSamples + line.count
    stackSamples := profile.stackSamples.bump line.count line.stack
    selfSamples := profile.selfSamples.bump line.count line.leaf
    threadSamples := profile.threadSamples.bump line.count line.thread
    inclusiveSamples := line.inclusiveFrames.foldl (bump line.count) profile.inclusiveSamples
    kernelSamples :=
      if kernel line.leaf then profile.kernelSamples + line.count else profile.kernelSamples
    unresolvedLeafSamples :=
      if unresolved line.leaf then profile.unresolvedLeafSamples + line.count
      else profile.unresolvedLeafSamples
    unresolvedStackSamples :=
      if line.frames.any unresolved then profile.unresolvedStackSamples + line.count
      else profile.unresolvedStackSamples }

end FoldedLine

/-- The counters and maps of a profile count samples of accepted lines. -/
structure Balanced (accepted : List FoldedLine) (profile : FoldedProfile) : Prop where
  total : profile.totalSamples.toNat = (accepted.map FoldedLine.samples).sum
  stackTally : Tallies FoldedLine.samples (fun line => [line.stack]) accepted profile.stackSamples
  selfTally : Tallies FoldedLine.samples (fun line => [line.leaf]) accepted profile.selfSamples
  threadTally :
    Tallies FoldedLine.samples (fun line => [line.thread]) accepted profile.threadSamples
  inclusiveTally :
    Tallies FoldedLine.samples FoldedLine.inclusiveFrames accepted profile.inclusiveSamples
  kernel : profile.kernelSamples.toNat =
    tally FoldedLine.samples (fun line => kernel line.leaf) accepted
  unresolvedLeaf : profile.unresolvedLeafSamples.toNat =
    tally FoldedLine.samples (fun line => unresolved line.leaf) accepted
  unresolvedStack : profile.unresolvedStackSamples.toNat =
    tally FoldedLine.samples (fun line => line.frames.any unresolved) accepted
  stackSum : profile.stackSamples.whole = profile.totalSamples.toNat
  selfSum : profile.selfSamples.whole = profile.totalSamples.toNat
  threadSum : profile.threadSamples.whole = profile.totalSamples.toNat

variable {accepted : List FoldedLine} {profile : FoldedProfile} {line : FoldedLine}

/-- Without a line every count is zero. -/
theorem Balanced.empty : Balanced [] .empty :=
  ⟨rfl, Tallies.empty, Tallies.empty, Tallies.empty, Tallies.empty, rfl, rfl, rfl, rfl, rfl, rfl⟩

/-- Nothing that counts accepted lines exceeds the total. -/
theorem Balanced.tally_le (balanced : Balanced accepted profile) (counted : FoldedLine → Bool) :
    tally FoldedLine.samples counted accepted ≤ profile.totalSamples.toNat := by
  rw [balanced.total, ← tally_all]
  exact tally_mono (fun _ _ _ => rfl)

/-- No counter of a map exceeds the total. -/
theorem Balanced.count_le (balanced : Balanced accepted profile) {keys : FoldedLine → List Text}
    {values : Counts Text} (tallied : Tallies FoldedLine.samples keys accepted values)
    (key : Text) : (values.count key).toNat ≤ profile.totalSamples.toNat := by
  rw [tallied.count]
  exact balanced.tally_le _

section
variable {count : UInt64} (room : profile.totalSamples.toNat + count.toNat ≤ limit)
include room

/-- Where the total has room for samples, so has every counter of a map. -/
theorem Balanced.count_room (balanced : Balanced accepted profile)
    {keys : FoldedLine → List Text} {values : Counts Text}
    (tallied : Tallies FoldedLine.samples keys accepted values) (key : Text) :
    (values.count key).toNat + count.toNat ≤ limit :=
  (Nat.add_le_add_right (balanced.count_le tallied key) _).trans room

/-- Where the total has room for samples, so has every counter of its own. -/
theorem Balanced.counter_room (balanced : Balanced accepted profile) {value : UInt64}
    {counted : FoldedLine → Bool}
    (tallied : value.toNat = tally FoldedLine.samples counted accepted) :
    value.toNat + count.toNat ≤ limit := by
  rw [tallied]
  exact (Nat.add_le_add_right (balanced.tally_le counted) _).trans room

end

/-- A counter with room takes the samples. -/
theorem addCount_of_room {values : Counts Text} {label : Text} {count : UInt64}
    (room : (values.count label).toNat + count.toNat ≤ limit) :
    addCount label count values = (.ok (), values.bump count label) := by
  rw [addCount, checkedAdd_of_room room]
  rfl

/-- So does the counter of all samples. -/
theorem addSamples_of_room {value count : UInt64} (message : String)
    (room : value.toNat + count.toNat ≤ limit) :
    addSamples count message value = (.ok (), value + count) := by
  rw [addSamples, checkedAdd_of_room room]

/-- So do the counters of all frames of a stack. -/
theorem addInclusive_of_room {count : UInt64} {frames : List Text} {values : Counts Text}
    (distinct : frames.Nodup)
    (room : ∀ frame ∈ frames, (values.count frame).toNat + count.toNat ≤ limit) :
    addInclusive count frames values = (.ok (), frames.foldl (bump count) values) := by
  induction frames generalizing values with
  | nil => rfl
  | cons frame rest inductionHypothesis =>
    obtain ⟨fresh, later⟩ := List.nodup_cons.mp distinct
    obtain ⟨here, behind⟩ := List.forall_mem_cons.mp room
    rw [addInclusive, bind_of_ok (addCount_of_room here)]
    refine inductionHypothesis later (fun other member => ?_)
    have different : frame ≠ other := fun same => fresh (by rwa [same])
    rw [count_bump_of_ne count different]
    exact behind other member

/-- A line the total has room for changes everything it has to. -/
theorem addLine_of_room (balanced : Balanced accepted profile) {text : Text}
    (readable : FoldedLine.read text = .ok line)
    (room : profile.totalSamples.toNat + line.count.toNat ≤ limit) :
    FoldedProfile.addLine text profile = (.ok (), line.record profile) := by
  have roomFor {keys : FoldedLine → List Text} {values : Counts Text}
      (tallied : Tallies FoldedLine.samples keys accepted values) (key : Text) :=
    balanced.count_room room tallied key
  have roomWhere {value : UInt64} {counted : FoldedLine → Bool}
      (tallied : value.toNat = tally FoldedLine.samples counted accepted) :=
    balanced.counter_room room tallied
  rw [FoldedProfile.addLine]
  refine (bind_of_ok (lift_of_ok readable profile)).trans ?_
  refine (bind_of_ok (part_of_ok (addSamples_of_room _ room))).trans ?_
  refine (bind_of_ok (part_of_ok (addCount_of_room ?_))).trans ?_
  · exact roomFor balanced.stackTally _
  refine (bind_of_ok (part_of_ok (addCount_of_room ?_))).trans ?_
  · exact roomFor balanced.selfTally _
  refine (bind_of_ok (part_of_ok (addCount_of_room ?_))).trans ?_
  · exact roomFor balanced.threadTally _
  refine (bind_of_ok (part_of_ok (addInclusive_of_room line.inclusiveFrames_nodup ?_))).trans ?_
  · exact fun frame _ => roomFor balanced.inclusiveTally frame
  refine (bind_of_ok (when_part_of_ok rfl (addSamples_of_room _ ?_))).trans ?_
  · exact roomWhere balanced.kernel
  refine (bind_of_ok (when_part_of_ok rfl (addSamples_of_room _ ?_))).trans ?_
  · exact roomWhere balanced.unresolvedLeaf
  refine (when_part_of_ok rfl (addSamples_of_room _ ?_)).trans rfl
  exact roomWhere balanced.unresolvedStack

/-- A line whose changes are all made is one more that is counted. -/
theorem Balanced.record (balanced : Balanced accepted profile)
    (room : profile.totalSamples.toNat + line.count.toNat ≤ limit) :
    Balanced (accepted ++ [line]) (line.record profile) := by
  have roomFor {keys : FoldedLine → List Text} {values : Counts Text}
      (tallied : Tallies FoldedLine.samples keys accepted values) (key : Text) :=
    balanced.count_room room tallied key
  have counter {value : UInt64} {counted : FoldedLine → Bool}
      (tallied : value.toNat = tally FoldedLine.samples counted accepted) :
      (if counted line then value + line.count else value).toNat =
        tally FoldedLine.samples counted (accepted ++ [line]) := by
    rw [tally_append, ← tallied]
    cases counted line with
    | false => rfl
    | true => exact toNat_add_of_room (balanced.counter_room room tallied)
  have total := toNat_add_of_room room
  constructor
  · rw [List.map_append, List.sum_append, ← balanced.total]
    exact total
  · exact balanced.stackTally.step rfl (List.nodup_singleton _)
      (fun key _ => roomFor balanced.stackTally key)
  · exact balanced.selfTally.step rfl (List.nodup_singleton _)
      (fun key _ => roomFor balanced.selfTally key)
  · exact balanced.threadTally.step rfl (List.nodup_singleton _)
      (fun key _ => roomFor balanced.threadTally key)
  · exact balanced.inclusiveTally.step rfl line.inclusiveFrames_nodup
      (fun key _ => roomFor balanced.inclusiveTally key)
  · exact counter balanced.kernel
  · exact counter balanced.unresolvedLeaf
  · exact counter balanced.unresolvedStack
  · exact (whole_bump (roomFor balanced.stackTally _)).trans
      (by rw [balanced.stackSum]; exact total.symm)
  · exact (whole_bump (roomFor balanced.selfTally _)).trans
      (by rw [balanced.selfSum]; exact total.symm)
  · exact (whole_bump (roomFor balanced.threadTally _)).trans
      (by rw [balanced.threadSum]; exact total.symm)

/-- The line that a text is accepted as after a number of samples. -/
def accepts (total : Nat) (text : Text) : Option FoldedLine :=
  match FoldedLine.read text with
  | .ok line => if total + line.samples ≤ limit then some line else none
  | .error _ => none

/-- The lines accepted from a list after a number of samples. -/
def acceptedFrom (total : Nat) : List Text → List FoldedLine
  | [] => []
  | text :: rest =>
    match accepts total (trim text) with
    | some line => line :: acceptedFrom (total + line.samples) rest
    | none => acceptedFrom total rest

/-- A line that is taken is the first accepted one, and the others are judged with its
samples counted. -/
theorem acceptedFrom_of_some {total : Nat} {text : Text} {rest : List Text}
    (taken : accepts total (trim text) = some line) :
    acceptedFrom total (text :: rest) = line :: acceptedFrom (total + line.samples) rest := by
  rw [acceptedFrom, taken]

/-- A line that is not taken changes nothing for the others. -/
theorem acceptedFrom_of_none {total : Nat} {text : Text} {rest : List Text}
    (taken : accepts total (trim text) = none) :
    acceptedFrom total (text :: rest) = acceptedFrom total rest := by
  rw [acceptedFrom, taken]

/-- Adding a line records it or leaves the profile as it was. -/
theorem addLine_cases (balanced : Balanced accepted profile) (text : Text) :
    (∃ line, accepts profile.totalSamples.toNat text = some line ∧
      profile.totalSamples.toNat + line.count.toNat ≤ limit ∧
      FoldedProfile.addLine text profile = (.ok (), line.record profile)) ∨
    (accepts profile.totalSamples.toNat text = none ∧
      ∃ message, FoldedProfile.addLine text profile = (.error message, profile)) := by
  rw [accepts]
  cases readable : FoldedLine.read text with
  | error message =>
    exact Or.inr ⟨rfl, message, bind_of_error (lift_of_error readable profile)⟩
  | ok line =>
    simp only []
    split
    · next room => exact Or.inl ⟨line, rfl, room, addLine_of_room balanced readable room⟩
    · next full =>
      have checked : checkedAdd profile.totalSamples line.count = none := if_neg full
      have overflow : addSamples line.count "total sample count overflowed" profile.totalSamples =
          (.error "total sample count overflowed", profile.totalSamples) := by
        rw [addSamples, checked]
      refine Or.inr ⟨rfl, "total sample count overflowed", ?_⟩
      rw [FoldedProfile.addLine]
      refine (bind_of_ok (lift_of_ok readable profile)).trans ?_
      exact bind_of_error (by rw [part, overflow])

/-- A profile but for what it says of malformed lines. -/
def Alike (profile profile' : FoldedProfile) : Prop :=
  { profile' with
    malformedLines := profile.malformedLines
    diagnostics := profile.diagnostics } = profile

/-- Profiles that are alike have the same total. -/
theorem Alike.totalSamples {profile' : FoldedProfile} (alike : Alike profile profile') :
    profile'.totalSamples = profile.totalSamples := by
  rw [Alike] at alike
  have same := congrArg FoldedProfile.totalSamples alike
  exact same

/-- What is alike a balanced profile is balanced. -/
theorem Balanced.alike (balanced : Balanced accepted profile) {profile' : FoldedProfile}
    (alike : Alike profile profile') : Balanced accepted profile' := by
  rw [Alike] at alike
  rw [← alike] at balanced
  exact ⟨balanced.total, balanced.stackTally, balanced.selfTally, balanced.threadTally,
    balanced.inclusiveTally, balanced.kernel, balanced.unresolvedLeaf, balanced.unresolvedStack,
    balanced.stackSum, balanced.selfSum, balanced.threadSum⟩

/-- A text that is not blank. -/
def written (text : Text) : Bool := !(trim text).isEmpty

/-- Taking a line records it, passes over it, or counts it as malformed. -/
theorem takeLine_cases (balanced : Balanced accepted profile) (text : Text) (index : Nat) :
    (∃ line, accepts profile.totalSamples.toNat (trim text) = some line ∧
      profile.totalSamples.toNat + line.count.toNat ≤ limit ∧ written text = true ∧
      profile.takeLine text index = line.record profile) ∨
    (accepts profile.totalSamples.toNat (trim text) = none ∧ written text = false ∧
      profile.takeLine text index = profile) ∨
    (accepts profile.totalSamples.toNat (trim text) = none ∧ written text = true ∧
      (profile.takeLine text index).malformedLines = min (profile.malformedLines + 1) limit ∧
      Alike profile (profile.takeLine text index)) := by
  by_cases blank : (trim text).isEmpty
  · have empty : trim text = [] := List.isEmpty_iff.mp blank
    refine Or.inr (Or.inl ⟨by rw [empty]; rfl, by rw [written, blank]; rfl, ?_⟩)
    simp only [FoldedProfile.takeLine, blank, if_true]
  · have visible : written text = true := by simpa [written] using blank
    rcases addLine_cases balanced (trim text) with ⟨line, taken, room, added⟩ |
      ⟨taken, message, added⟩
    · refine Or.inl ⟨line, taken, room, visible, ?_⟩
      simp only [FoldedProfile.takeLine, blank, added, Bool.false_eq_true, if_false]
    · refine Or.inr (Or.inr ⟨taken, visible, ?_, ?_⟩)
      · simp only [FoldedProfile.takeLine, blank, added, Bool.false_eq_true, if_false]
      · simp only [Alike, FoldedProfile.takeLine, blank, added, Bool.false_eq_true, if_false]

/-- The profile after lines. -/
def takeLines (profile : FoldedProfile) (texts : List Text) (index : Nat) : FoldedProfile :=
  (texts.zipIdx index).foldl (fun profile indexed => profile.takeLine indexed.1 indexed.2) profile

/-- The profile after these lines, from the empty one. -/
def afterLines (texts : List Text) : FoldedProfile := takeLines .empty texts 0

/-- A further line is added to the profile of those before it. -/
theorem afterLines_append (texts : List Text) (text : Text) :
    afterLines (texts ++ [text]) = (afterLines texts).takeLine text texts.length := by
  simp [afterLines, takeLines, List.zipIdx_append]

/-- A text within the line limit is parsed line by line. -/
theorem parse_eq_ok (payload : Text) (profile : FoldedProfile) :
    FoldedProfile.parse payload = .ok profile ↔
      (lines payload).length ≤ maxFoldedLines ∧ profile = afterLines (lines payload) := by
  refine @foldlM_zipIdx_iff _ _ _ _ afterLines (fun passed => passed.length ≤ maxFoldedLines)
    ?_ ?_ [] (Nat.zero_le _) (lines payload) profile
  · intro passed more whole
    rw [List.length_append] at whole
    exact (Nat.le_add_right _ _).trans whole
  · intro passed text next _
    simp only [bind_eq_ok, ensure_eq_ok, List.length_append, List.length_singleton,
      afterLines_append]
    constructor
    · rintro ⟨_, inside, returned⟩
      exact ⟨inside, (Except.ok.inj returned).symm⟩
    · rintro ⟨inside, rfl⟩
      exact ⟨(), inside, rfl⟩

/-- Over any lines a profile stays balanced, and each line that is not blank is
accepted or counted as malformed. -/
theorem Balanced.takeLines (balanced : Balanced accepted profile) (texts : List Text)
    (index : Nat) :
    Balanced (accepted ++ acceptedFrom profile.totalSamples.toNat texts)
        (takeLines profile texts index) ∧
      ∃ rejected, rejected + (acceptedFrom profile.totalSamples.toNat texts).length =
          (texts.filter written).length ∧
        (profile.malformedLines ≤ limit →
          (takeLines profile texts index).malformedLines =
            min (profile.malformedLines + rejected) limit) := by
  induction texts generalizing accepted profile index with
  | nil =>
    refine ⟨by rwa [acceptedFrom, List.append_nil], 0, rfl, fun inside => ?_⟩
    exact (Nat.min_eq_left inside).symm
  | cons text rest inductionHypothesis =>
    have unfolded : takeLines profile (text :: rest) index =
        takeLines (profile.takeLine text index) rest (index + 1) := rfl
    rw [unfolded]
    rcases takeLine_cases balanced text index with ⟨line, taken, room, visible, result⟩ |
      ⟨taken, blank, result⟩ | ⟨taken, visible, counted, alike⟩
    · have next := balanced.record room
      have total : (line.record profile).totalSamples.toNat =
          profile.totalSamples.toNat + line.samples := toNat_add_of_room room
      obtain ⟨later, rejected, account, malformed⟩ := inductionHypothesis next (index + 1)
      rw [total] at later account
      rw [acceptedFrom_of_some taken, result]
      refine ⟨by simpa using later, rejected, ?_, malformed⟩
      rw [List.filter_cons_of_pos visible, List.length_cons, List.length_cons]
      omega
    · obtain ⟨later, rejected, account, malformed⟩ := inductionHypothesis balanced (index + 1)
      rw [acceptedFrom_of_none taken, result, List.filter_cons_of_neg (by simp [blank])]
      exact ⟨later, rejected, account, malformed⟩
    · obtain ⟨later, rejected, account, malformed⟩ :=
        inductionHypothesis (balanced.alike alike) (index + 1)
      rw [alike.totalSamples] at later account
      rw [acceptedFrom_of_none taken]
      refine ⟨later, rejected + 1, ?_, fun inside => ?_⟩
      · rw [List.filter_cons_of_pos visible, List.length_cons]
        omega
      · rw [malformed (counted ▸ Nat.min_le_right _ _), counted]
        omega

/-- The lines accepted from a text. -/
def acceptedLines (payload : Text) : List FoldedLine := acceptedFrom 0 (lines payload)

/-- The profile of any lines is balanced over those that were accepted. -/
theorem afterLines_balanced (texts : List Text) :
    Balanced (acceptedFrom 0 texts) (afterLines texts) :=
  (Balanced.empty.takeLines texts 0).1

/-- The lines that can be read, whether or not the total has room for them. -/
def readable (texts : List Text) : List FoldedLine :=
  texts.filterMap (fun text => (FoldedLine.read (trim text)).toOption)

/-- Where the total has room for all lines that can be read, all of them are
accepted. -/
theorem acceptedFrom_of_room {texts : List Text} {total : Nat}
    (room : total + ((readable texts).map FoldedLine.samples).sum ≤ limit) :
    acceptedFrom total texts = readable texts := by
  induction texts generalizing total with
  | nil => rfl
  | cons text rest inductionHypothesis =>
    have split : readable (text :: rest) =
        (FoldedLine.read (trim text)).toOption.toList ++ readable rest := by
      rw [readable, List.filterMap_cons]
      cases (FoldedLine.read (trim text)).toOption <;> rfl
    rw [split] at room ⊢
    cases read : FoldedLine.read (trim text) with
    | error message =>
      rw [acceptedFrom_of_none (by rw [accepts, read])]
      rw [read] at room
      exact inductionHypothesis room
    | ok line =>
      rw [read, List.map_append, List.sum_append] at room
      have here : total + line.samples + ((readable rest).map FoldedLine.samples).sum ≤ limit := by
        rwa [Nat.add_assoc]
      have taken : accepts total (trim text) = some line := by
        rw [accepts, read]
        exact if_pos (by omega)
      rw [acceptedFrom_of_some taken, inductionHypothesis here]
      rfl

/-- What the counters of a profile add up to and stay below. -/
structure Accounts (accepted : List FoldedLine) (profile : FoldedProfile) : Prop where
  total : profile.totalSamples.toNat = (accepted.map FoldedLine.samples).sum
  stackSum : profile.stackSamples.whole = profile.totalSamples.toNat
  selfSum : profile.selfSamples.whole = profile.totalSamples.toNat
  threadSum : profile.threadSamples.whole = profile.totalSamples.toNat
  kernel : profile.kernelSamples ≤ profile.totalSamples
  unresolvedLeaf : profile.unresolvedLeafSamples ≤ profile.unresolvedStackSamples
  unresolvedStack : profile.unresolvedStackSamples ≤ profile.totalSamples
  inclusive : ∀ frame, (profile.inclusiveSamples.count frame).toNat =
    ((accepted.filter (FoldedLine.includes frame)).map FoldedLine.samples).sum
  selfWithin : ∀ frame, profile.selfSamples.count frame ≤ profile.inclusiveSamples.count frame
  inclusiveWithin : ∀ frame, profile.inclusiveSamples.count frame ≤ profile.totalSamples

/-- A balanced profile accounts for its lines: what is balanced also adds up. -/
theorem Balanced.accounts (balanced : Balanced accepted profile) : Accounts accepted profile := by
  have inclusive (frame : Text) : (profile.inclusiveSamples.count frame).toNat =
      tally FoldedLine.samples (FoldedLine.includes frame) accepted := by
    have same : belongs FoldedLine.inclusiveFrames frame = FoldedLine.includes frame :=
      funext (fun line => by
        rw [Bool.eq_iff_iff, belongs_iff, line.mem_inclusiveFrames_iff])
    rw [balanced.inclusiveTally.count, same]
  refine ⟨balanced.total, balanced.stackSum, balanced.selfSum, balanced.threadSum, ?_, ?_, ?_,
    inclusive, fun frame => ?_, fun frame => ?_⟩
  · rw [UInt64.le_iff_toNat_le, balanced.kernel]
    exact balanced.tally_le _
  · rw [UInt64.le_iff_toNat_le, balanced.unresolvedLeaf, balanced.unresolvedStack]
    exact tally_mono (fun line _ leaf => List.any_eq_true.mpr ⟨line.leaf, line.leaf_mem, leaf⟩)
  · rw [UInt64.le_iff_toNat_le, balanced.unresolvedStack]
    exact balanced.tally_le _
  · rw [UInt64.le_iff_toNat_le, balanced.selfTally.count, inclusive]
    refine tally_mono (fun line _ leaf => ?_)
    obtain rfl : frame = line.leaf := List.mem_singleton.mp (belongs_iff.mp leaf)
    exact (line.mem_inclusiveFrames_iff _).mp line.leaf_mem_inclusiveFrames
  · rw [UInt64.le_iff_toNat_le]
    exact balanced.count_le balanced.inclusiveTally frame

/-- Profiles that count the same lines in another order are alike. -/
theorem Balanced.alike_of_perm {accepted' : List FoldedLine} {profile' : FoldedProfile}
    (balanced : Balanced accepted profile) (balanced' : Balanced accepted' profile')
    (perm : accepted.Perm accepted') : Alike profile profile' := by
  have counter {value value' : UInt64} {counted : FoldedLine → Bool}
      (tallied : value.toNat = tally FoldedLine.samples counted accepted)
      (tallied' : value'.toNat = tally FoldedLine.samples counted accepted') : value' = value := by
    rw [← UInt64.toNat_inj, tallied, tallied', tally_perm perm]
  have total : profile'.totalSamples = profile.totalSamples :=
    counter (balanced.total.trans tally_all.symm) (balanced'.total.trans tally_all.symm)
  rw [Alike, total, counter balanced.kernel balanced'.kernel,
    counter balanced.unresolvedLeaf balanced'.unresolvedLeaf,
    counter balanced.unresolvedStack balanced'.unresolvedStack,
    ← balanced.stackTally.unique balanced'.stackTally perm,
    ← balanced.selfTally.unique balanced'.selfTally perm,
    ← balanced.threadTally.unique balanced'.threadTally perm,
    ← balanced.inclusiveTally.unique balanced'.inclusiveTally perm]

/-- The rows of a table over a partition add up to the total. -/
theorem RankedTable.rows_sum {table : RankedTable} (partition : table.isPartition = true)
    (whole : table.values.whole = table.total.toNat) :
    (table.rows.map (fun row => row.count.toNat)).sum = table.total.toNat := by
  have shown_le : ((ranked table.values table.limit).map (fun entry => entry.2.toNat)).sum ≤
      table.total.toNat := by
    rw [← whole, Counts.whole, Counts.sum, ranked]
    refine le_trans (List.Sublist.sum_le_sum ((List.take_sublist _ _).map _) (by simp)) ?_
    exact (((List.mergeSort_perm _ _).map _).sum_eq).le
  have shown : (Saturating.total ((ranked table.values table.limit).map Prod.snd)).toNat =
      ((ranked table.values table.limit).map (fun entry => entry.2.toNat)).sum := by
    rw [total_toNat, List.map_map]
    exact Nat.min_eq_left (shown_le.trans (toNat_le_limit _))
  have listed : ((ranked table.values table.limit).zipIdx.map (fun entry => entry.1.2.toNat)).sum =
      ((ranked table.values table.limit).map (fun entry => entry.2.toNat)).sum := by
    have entries := congrArg (List.map (fun entry => entry.2.toNat))
      (List.zipIdx_map_fst 0 (ranked table.values table.limit))
    rw [List.map_map] at entries
    exact congrArg List.sum entries
  simp only [RankedTable.rows, partition, true_and, List.map_append, List.map_map,
    Function.comp_def, List.sum_append, listed]
  rw [← shown] at shown_le ⊢
  split
  · next less =>
    rw [List.map_singleton, List.sum_singleton, UInt64.toNat_sub_of_le _ _ (UInt64.le_of_lt less)]
    omega
  · next notLess =>
    rw [UInt64.lt_iff_toNat_lt] at notLess
    simp only [List.map_nil, List.sum_nil]
    omega

/-- Every ranking over a partition shows the whole of the samples. -/
theorem Balanced.partition_rows (balanced : Balanced accepted profile) :
    ∀ table ∈ profile.rankedTables, table.isPartition = true →
      (table.rows.map (fun row => row.count.toNat)).sum = profile.totalSamples.toNat := by
  intro table member partition
  rw [FoldedProfile.rankedTables] at member
  simp only [List.mem_cons, List.not_mem_nil, or_false] at member
  rcases member with rfl | rfl | rfl
  · exact RankedTable.rows_sum partition balanced.threadSum
  · exact RankedTable.rows_sum partition balanced.selfSum
  · cases partition

/-- Rearranged lines give the same counts when the total has room for all of them. -/
theorem afterLines_perm {texts texts' : List Text} (perm : texts.Perm texts')
    (room : ((readable texts).map FoldedLine.samples).sum ≤ limit) :
    Alike (afterLines texts) (afterLines texts') ∧
      (afterLines texts').malformedLines = (afterLines texts).malformedLines := by
  have lines : (readable texts).Perm (readable texts') := perm.filterMap _
  have room' : ((readable texts').map FoldedLine.samples).sum ≤ limit := by
    rwa [← (lines.map FoldedLine.samples).sum_eq]
  have all := @acceptedFrom_of_room texts 0 (by rwa [Nat.zero_add])
  have all' := @acceptedFrom_of_room texts' 0 (by rwa [Nat.zero_add])
  obtain ⟨balanced, rejected, account, malformed⟩ := Balanced.empty.takeLines texts 0
  obtain ⟨balanced', rejected', account', malformed'⟩ := Balanced.empty.takeLines texts' 0
  change rejected + (acceptedFrom 0 texts).length = _ at account
  change rejected' + (acceptedFrom 0 texts').length = _ at account'
  have same : rejected' = rejected := by
    rw [all, (perm.filter written).length_eq, lines.length_eq] at account
    rw [all'] at account'
    omega
  constructor
  · refine (afterLines_balanced texts).alike_of_perm (afterLines_balanced texts') ?_
    rwa [all, all']
  · exact (malformed' (Nat.zero_le _)).trans (same ▸ (malformed (Nat.zero_le _)).symm)

/-- A folded profile within the line limit is parsed. A line that cannot be added has
changed nothing but what is said of malformed lines. The counters count the accepted
lines: the partitions add up to the total and nothing exceeds it. The order of the
lines does not matter while the total has room for all of them, and the tables over a
partition show the whole of the samples. -/
theorem folded_profile_accounts (payload : Text)
    (bounded : (lines payload).length ≤ maxFoldedLines) :
    FoldedProfile.parse payload = .ok (afterLines (lines payload)) ∧
    (∀ before text after, lines payload = before ++ text :: after →
      ∀ message next,
        FoldedProfile.addLine (trim text) (afterLines before) = (.error message, next) →
        next = afterLines before ∧ Alike (afterLines before) (afterLines (before ++ [text]))) ∧
    Accounts (acceptedLines payload) (afterLines (lines payload)) ∧
    (∀ other, (lines payload).Perm (lines other) →
      ((readable (lines payload)).map FoldedLine.samples).sum ≤ limit →
      ∃ profile, FoldedProfile.parse other = .ok profile ∧
        Alike (afterLines (lines payload)) profile ∧
        profile.malformedLines = (afterLines (lines payload)).malformedLines) ∧
    ∀ table ∈ (afterLines (lines payload)).rankedTables, table.isPartition = true →
      (table.rows.map (fun row => row.count.toNat)).sum =
        (afterLines (lines payload)).totalSamples.toNat := by
  refine ⟨(parse_eq_ok _ _).mpr ⟨bounded, rfl⟩, ?_, (afterLines_balanced _).accounts, ?_,
    (afterLines_balanced _).partition_rows⟩
  · intro before text after _ message next failed
    have balanced := afterLines_balanced before
    rcases addLine_cases balanced (trim text) with ⟨_, _, _, added⟩ | ⟨taken, _, added⟩
    · rw [added] at failed
      cases failed
    · rw [added] at failed
      refine ⟨(congrArg Prod.snd failed).symm, ?_⟩
      rw [afterLines_append]
      rcases takeLine_cases balanced text before.length with ⟨_, other, _⟩ | ⟨_, _, result⟩ |
        ⟨_, _, _, alike⟩
      · rw [taken] at other
        cases other
      · rw [result]
        rfl
      · exact alike
  · intro other perm room
    obtain ⟨alike, malformed⟩ := afterLines_perm perm room
    exact ⟨_, (parse_eq_ok _ _).mpr ⟨perm.length_eq ▸ bounded, rfl⟩, alike, malformed⟩

/-- A stack that repeats a frame, a line without a number and a stack of one frame. -/
def recursiveStacks : Text := "rtc-loop;poll;poll;send 40\nmissing\nmain 2\n".toList

/-- A recursive frame counts once a line, and a line without a count is malformed. -/
theorem recursiveStacks_accounted :
    FoldedProfile.parse recursiveStacks = .ok (afterLines (lines recursiveStacks)) ∧
      Accounts (acceptedLines recursiveStacks) (afterLines (lines recursiveStacks)) ∧
      (afterLines (lines recursiveStacks)).inclusiveSamples.count "poll".toList = 40 ∧
      (afterLines (lines recursiveStacks)).malformedLines = 1 := by
  obtain ⟨parsed, -, accounts, -⟩ := folded_profile_accounts recursiveStacks (by decide)
  exact ⟨parsed, accounts, by decide +kernel, by decide +kernel⟩

end SfuLoad.Profile
