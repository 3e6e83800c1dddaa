import SfuLoad.Kit.Suffixes
import SfuLoad.Profile.Folded

/-!
# The hottest stacks

A stack is shown without its thread, root first. One that is too long keeps the frames
on the side of the leaf, as many as fit behind a mark, or the front of a leaf that does
not fit itself. Characters are counted in frames and bytes in the separators, which are
the same there.
-/

namespace SfuLoad.Profile

open Kit.Lines Kit.Suffixes
open Kit.Saturating (limit toNat_le_limit)

/-- How many stacks are shown. -/
def maxHotStacks : Nat := 10

/-- How long a shown stack may be. -/
def hotStackChars : UInt64 := 240

/-- The mark in front of a stack that was cut. -/
def omitted : String := "... -> "

/-- What stands between two frames. -/
def arrow : String := " -> "

/-- Frames with arrows between them. -/
def joined (frames : List Text) : Text := arrow.toList.intercalate frames

/-- Lengths add up to the largest word at most. -/
def addLength (length more : Nat) : Nat := min (length + more) limit

/-- The frames that fit, the leaf first, and those that were kept in front of them. -/
def keepFrames (available : Nat) : List Text → List Text → Nat → List Text
  | [], kept, _ => kept
  | frame :: rest, kept, length =>
    let separator := (!kept.isEmpty).toNat * arrow.utf8ByteSize
    let nextLength := addLength (addLength length separator) frame.length
    if available < nextLength then kept
    else keepFrames available rest (kept ++ [frame]) nextLength

/-- The thread of a stack and its frames within a number of characters. -/
def displayStack (stack : Text) (maxChars : UInt64) : Text × Text :=
  let parts := stack.splitOn ';'
  let thread := parts.head?.getD "n/a".toList
  let frames := parts.tail
  let full := joined frames
  if full.length ≤ maxChars.toNat then (thread, full)
  else
    let available := maxChars.toNat - omitted.utf8ByteSize
    let kept := (keepFrames available frames.reverse [] 0).reverse
    if kept.isEmpty then
      let leaf := frames.getLast?.getD "n/a".toList
      (thread, omitted.toList ++ leaf.take available)
    else (thread, omitted.toList ++ joined kept)

/-- A stack that is shown: its thread, its frames and its samples. -/
structure HotStack where
  thread : Text
  stack : Text
  count : UInt64

namespace FoldedProfile

/-- The stacks with the most samples, each shortened to be shown. -/
def hotStacks (profile : FoldedProfile) : List HotStack :=
  (ranked profile.stackSamples maxHotStacks).map (fun (stack, count) =>
    let (thread, stack) := displayStack stack hotStackChars
    ⟨thread, stack, count⟩)

/-- The table of the hottest stacks as it is written. -/
def renderHotStacks (profile : FoldedProfile) (output : String) : String :=
  output ++ "## Hottest stack paths\n\n" ++
    "| Rank | Thread | Leaf-side stack | Samples | Share |\n" ++
    "| ---: | --- | --- | ---: | ---: |\n" ++
    String.join (profile.hotStacks.zipIdx.map (fun (shown, index) =>
      s!"| {index + 1} | {Report.escapeTable (String.ofList shown.thread)} | " ++
        s!"{Report.escapeTable (String.ofList shown.stack)} | {grouped shown.count} | " ++
        s!"{formatPercent shown.count profile.totalSamples} |\n")) ++ "\n"

end FoldedProfile

/-! ## What is shown of the frames -/

section Shown

/-- The longest suffix of the frames whose text fits. -/
abbrev LongestWithin (budget : Nat) : List Text → List Text → Prop :=
  Longest (fun suffix => (joined suffix).length ≤ budget)

/-- The text of some frames within a number of characters. -/
inductive Displayed (maxChars : Nat) (frames : List Text) : Text → Prop
  | full (fits : (joined frames).length ≤ maxChars) : Displayed maxChars frames (joined frames)
  | suffix {kept : List Text} (long : maxChars < (joined frames).length)
      (longest : LongestWithin (maxChars - 7) frames kept) (some : kept ≠ []) :
      Displayed maxChars frames ("... -> ".toList ++ joined kept)
  | leaf {leaf : Text} (long : maxChars < (joined frames).length)
      (last : frames.getLast? = some leaf) (tooLong : maxChars - 7 < leaf.length) :
      Displayed maxChars frames ("... -> ".toList ++ leaf.take (maxChars - 7))

variable {available maxChars : Nat} {frames : List Text}

/-- In the separator, bytes and characters are the same number. -/
@[simp] theorem arrow_size : arrow.utf8ByteSize = 4 ∧ arrow.toList.length = 4 := by
  decide +kernel

/-- In the mark as well. -/
@[simp] theorem omitted_size : omitted.utf8ByteSize = 7 ∧ omitted.toList.length = 7 := by
  decide +kernel

/-- What the loop adds up is the length of the joined frames, unless it is too long. -/
theorem nextLength_eq {kept : List Text} (frame : Text) (bounded : available < limit)
    (fits : (joined kept).length ≤ available) :
    let nextLength := addLength (addLength (joined kept).length
      ((!kept.isEmpty).toNat * arrow.utf8ByteSize)) frame.length
    (available < nextLength ↔ available < (joined (frame :: kept)).length) ∧
      (nextLength ≤ available → nextLength = (joined (frame :: kept)).length) := by
  have separated : (!kept.isEmpty).toNat * arrow.utf8ByteSize =
      if kept = [] then 0 else arrow.toList.length := by
    cases kept <;> simp
  have whole : (joined (frame :: kept)).length = _ := length_intercalate_cons frame kept
  dsimp only [addLength]
  rw [separated, whole, joined]
  omega

/-- The loop keeps the longest suffix that fits. The induction is on the frames not yet
looked at, and those that are kept fit all along. -/
theorem keepFrames_longest (bounded : available < limit) (rest : List Text) {kept : List Text}
    (fits : (joined kept.reverse).length ≤ available) :
    LongestWithin available (rest.reverse ++ kept.reverse)
      (keepFrames available rest kept (joined kept.reverse).length).reverse := by
  induction rest generalizing kept with
  | nil => exact longest_of_qualified fits
  | cons frame rest inductionHypothesis =>
    obtain ⟨exceeds, sum⟩ := nextLength_eq frame bounded fits
    rw [List.isEmpty_reverse] at exceeds sum
    rw [keepFrames, List.reverse_cons, List.append_assoc, List.singleton_append]
    split
    · next tooLong =>
      exact longest_of_blocked (inherited_joined available) fits
        (Nat.not_le_of_lt (exceeds.mp tooLong)) rest.reverse
    · next within =>
      have later : (kept ++ [frame]).reverse = frame :: kept.reverse := by simp
      have further := sum (Nat.le_of_not_lt within)
      rw [further, ← later]
      refine inductionHypothesis ?_
      rw [later, ← further]
      exact Nat.le_of_not_lt within

/-- Nothing is kept exactly where the leaf does not fit. -/
theorem longestWithin_nil_iff {budget : Nat} {leaf : Text} (last : frames.getLast? = some leaf) :
    LongestWithin budget frames [] ↔ budget < leaf.length := by
  have alone : joined [leaf] = leaf := List.intercalate_singleton
  have behind : [leaf] <:+ frames := List.singleton_suffix_iff_getLast?_eq_some.mpr last
  constructor
  · intro longest
    by_contra short
    rw [← alone] at short
    have covered := longest.covers [leaf] behind (Nat.le_of_not_lt short)
    exact List.cons_ne_nil leaf [] (List.suffix_nil.mp covered)
  · intro tooLong
    rw [← alone] at tooLong
    refine ⟨List.nil_suffix, Nat.zero_le budget, fun other suffix fits => ?_⟩
    rcases List.suffix_or_suffix_of_suffix behind suffix with longer | shorter
    · have within := (inherited_joined budget).suffix longer fits
      exact absurd within (Nat.not_le_of_lt tooLong)
    · rcases List.suffix_cons_iff.mp shorter with rfl | empty
      · exact absurd fits (Nat.not_le_of_lt tooLong)
      · exact empty

/-- A displayed text is within the limit, if the mark is. -/
theorem Displayed.length_le {text : Text} (displayed : Displayed maxChars frames text)
    (room : 7 ≤ maxChars) : text.length ≤ maxChars := by
  have mark : "... -> ".toList.length = 7 := omitted_size.2
  cases displayed with
  | full fits => exact fits
  | suffix long longest _ =>
    have within := longest.qualified
    rw [List.length_append, mark]
    omega
  | leaf long last _ =>
    rw [List.length_append, mark, List.length_take]
    omega

/-- There is one text for some frames. -/
theorem Displayed.unique {text other : Text} (displayed : Displayed maxChars frames text)
    (also : Displayed maxChars frames other) : other = text := by
  have one {kept : List Text} (longest : LongestWithin (maxChars - 7) frames kept)
      (some : kept ≠ []) {leaf : Text} (last : frames.getLast? = .some leaf) :
      ¬maxChars - 7 < leaf.length :=
    fun tooLong => some (((longestWithin_nil_iff last).mpr tooLong).unique longest)
  cases displayed with
  | full fits =>
    cases also with
    | full _ => rfl
    | suffix long _ _ => exact absurd fits (Nat.not_le_of_lt long)
    | leaf long _ _ => exact absurd fits (Nat.not_le_of_lt long)
  | suffix long longest some =>
    cases also with
    | full fits => exact absurd fits (Nat.not_le_of_lt long)
    | suffix _ same _ => rw [longest.unique same]
    | leaf _ last tooLong => exact absurd tooLong (one longest some last)
  | leaf long last tooLong =>
    cases also with
    | full fits => exact absurd fits (Nat.not_le_of_lt long)
    | suffix _ longest some => exact absurd tooLong (one longest some last)
    | leaf _ same _ => rw [Option.some.inj (same.symm.trans last)]

/-- A stack is split at its thread, and what is shown is the text of the other frames. -/
theorem displayStack_displayed (stack : Text) {maxChars : UInt64} (room : 7 ≤ maxChars) :
    ∃ frames, stack.splitOn ';' =
        stack.takeWhile (fun character => character ≠ ';') :: frames ∧
      (displayStack stack maxChars).1 = stack.takeWhile (fun character => character ≠ ';') ∧
      Displayed maxChars.toNat frames (displayStack stack maxChars).2 := by
  obtain ⟨frames, split⟩ := exists_splitOn_eq ';' stack
  refine ⟨frames, split, ?_⟩
  have bounded : maxChars.toNat - 7 < limit := by
    have enough : 7 ≤ maxChars.toNat := room
    have most := toNat_le_limit maxChars
    omega
  have longest := @keepFrames_longest _ bounded frames.reverse [] (Nat.zero_le _)
  rw [List.reverse_reverse, List.reverse_nil, List.append_nil] at longest
  simp only [displayStack, split, List.head?_cons, List.tail_cons, Option.getD_some,
    omitted_size.1]
  by_cases fits : (joined frames).length ≤ maxChars.toNat
  · rw [if_pos fits]
    exact ⟨rfl, .full fits⟩
  · have long := Nat.lt_of_not_le fits
    rw [if_neg fits]
    by_cases none : (keepFrames (maxChars.toNat - 7) frames.reverse [] 0).reverse = []
    · rw [if_pos (List.isEmpty_iff.mpr none)]
      refine ⟨rfl, ?_⟩
      have some : frames ≠ [] := by
        rintro rfl
        exact absurd (Nat.zero_le maxChars.toNat) fits
      have last := List.getLast?_eq_some_getLast some
      rw [last, Option.getD_some]
      refine .leaf long last ((longestWithin_nil_iff last).mp ?_)
      exact none ▸ longest
    · rw [if_neg (mt List.isEmpty_iff.mp none)]
      exact ⟨rfl, .suffix long longest none⟩

/-- What the hottest stacks show is within its number of characters. -/
theorem hotStacks_displayed (profile : FoldedProfile) :
    ∀ shown ∈ profile.hotStacks, shown.stack.length ≤ 240 ∧
      ∃ stack frames, (stack, shown.count) ∈ profile.stackSamples.entries ∧
        stack.splitOn ';' = shown.thread :: frames ∧ Displayed 240 frames shown.stack := by
  intro shown member
  obtain ⟨entry, among, rfl⟩ := List.mem_map.mp member
  have room : 7 ≤ hotStackChars := by decide
  obtain ⟨frames, split, thread, displayed⟩ := displayStack_displayed entry.1 room
  have counted : entry ∈ profile.stackSamples.entries :=
    List.mem_mergeSort.mp (List.mem_of_mem_take among)
  rw [← thread] at split
  exact ⟨displayed.length_le (by decide), entry.1, frames, counted, split, displayed⟩

/-- A displayed stack keeps its thread, and of the other frames the text that its number
of characters has room for, and no other text. -/
theorem displayed_stacks_keep_the_leaf_side (stack : Text) (maxChars : UInt64)
    (room : 7 ≤ maxChars) :
    ∃ frames, stack.splitOn ';' =
        stack.takeWhile (fun character => character ≠ ';') :: frames ∧
      (displayStack stack maxChars).1 = stack.takeWhile (fun character => character ≠ ';') ∧
      (displayStack stack maxChars).2.length ≤ maxChars.toNat ∧
      ∀ text, Displayed maxChars.toNat frames text ↔ text = (displayStack stack maxChars).2 := by
  obtain ⟨frames, split, thread, displayed⟩ := displayStack_displayed stack room
  refine ⟨frames, split, thread, displayed.length_le room, fun text => ⟨?_, ?_⟩⟩
  · exact displayed.unique
  · rintro rfl
    exact displayed

/-- A stack of a packet loop, whose root is too long for what is shown. -/
def packetLoopStack : Text :=
  "rtc-loop/1;very-long-runtime-root;packet-loop;source-policy;hot-leaf".toList

/-- A stack that is too long, cut on the side of its root. -/
theorem packetLoopStack_displayed :
    displayStack packetLoopStack 40 =
        ("rtc-loop/1".toList, "... -> source-policy -> hot-leaf".toList) ∧
      ∃ frames, packetLoopStack.splitOn ';' = "rtc-loop/1".toList :: frames ∧
        Displayed 40 frames "... -> source-policy -> hot-leaf".toList := by
  have shown : displayStack packetLoopStack 40 =
      ("rtc-loop/1".toList, "... -> source-policy -> hot-leaf".toList) := by decide +kernel
  obtain ⟨frames, split, thread, -, displayed⟩ :=
    displayed_stacks_keep_the_leaf_side packetLoopStack 40 (by decide)
  rw [shown] at thread displayed
  rw [← thread] at split
  exact ⟨shown, frames, split, (displayed _).mpr rfl⟩

end Shown

end SfuLoad.Profile
