import SfuLoad.Kit.Fallible
import SfuLoad.Kit.Fields
import SfuLoad.Kit.Numerals
import SfuLoad.Kit.Saturating
import SfuLoad.Telemetry.Records

/-!
# The stat line of a process

The kernel writes the command of a process in parentheses and as it is, spaces and
parentheses included, before the fields that are told apart by their position. The
fields hold no parenthesis, so that the last one in the line closes the command.
-/

namespace SfuLoad.Telemetry

open Kit.Fallible Kit.Fields Kit.Lines Kit.Numerals Kit.Saturating

/-- The numbers that have been read from a stat line. -/
structure StatFields where
  utime : Option UInt64
  stime : Option UInt64
  startTime : Option UInt64
  rssPages : Option Int

/-- One field after the command, the first of which is the third of the line. -/
def takeField (fields : StatFields) (indexed : Text × Nat) : Except String StatFields :=
  let value := indexed.1
  let number := indexed.2 + 3
  if number = 14 then do
    let utime ← context (parseU64 value) "invalid process utime"
    return { fields with utime := some utime }
  else if number = 15 then do
    let stime ← context (parseU64 value) "invalid process stime"
    return { fields with stime := some stime }
  else if number = 22 then do
    let startTime ← context (parseU64 value) "invalid process start time"
    return { fields with startTime := some startTime }
  else if number = 24 then do
    let rssPages ← context (parseI64 value) "invalid process RSS"
    return { fields with rssPages := some rssPages }
  else return fields

/-- An integer as an unsigned word. -/
def unsigned (value : Int) : Option UInt64 :=
  if 0 ≤ value ∧ value.toNat ≤ limit then some (UInt64.ofNat value.toNat) else none

/-- Finds the end of the command, reads the fields behind it, and makes of four of them what
is known of the process. The memory is counted in pages. -/
def parseProcessStat (stat : Text) (pageSize : UInt64) : Except String ProcessSample := do
  let commandEnd ← context (rfind [')', ' '] stat) "process stat has no command terminator"
  let text ← context (if commandEnd + 2 ≤ stat.length then some (stat.drop (commandEnd + 2))
    else none) "process stat command terminator is invalid"
  let fields ← (splitAsciiWhitespace text).zipIdx.foldlM takeField ⟨none, none, none, none⟩
  let utime ← context fields.utime "process stat is missing utime"
  let stime ← context fields.stime "process stat is missing stime"
  let cpuTicks ← context (checkedAdd utime stime) "process CPU ticks overflowed"
  let rssPages ← context fields.rssPages "process stat is missing RSS"
  let rssPages ← context (unsigned rssPages) "process stat reported a negative RSS"
  let rssBytes ← context (checkedMul rssPages pageSize) "process RSS byte count overflowed"
  let startTime ← context fields.startTime "process stat is missing start time"
  return ⟨cpuTicks, rssBytes, startTime⟩

/-- The line of a process, with a space between its fields. -/
def statLine (pid command : Text) (state : Text) (fields : List Text) : Text :=
  pid ++ " (".toList ++ command ++ ") ".toList ++ spaced (state :: fields)

/-- A field of the line by its number, from the state on, which is the third. -/
def statField (state : Text) (fields : List Text) (number : Nat) : Option Text :=
  (state :: fields)[number - 3]?

/-- The numbers among tokens, by position. -/
def fieldsOf (tokens : List Text) : StatFields where
  utime := tokens[11]?.bind parseU64
  stime := tokens[12]?.bind parseU64
  startTime := tokens[19]?.bind parseU64
  rssPages := tokens[21]?.bind parseI64

/-- A token at a position is read where there is one. -/
def ReadAt {β : Type} (parse : Text → Option β) (tokens : List Text) (index : Nat) : Prop :=
  ∀ token, tokens[index]? = some token → ∃ number, parse token = some number

/-- The four fields that are read are there and are numbers. Their places are counted from
the first field behind the command. -/
structure Legible (tokens : List Text) : Prop where
  utime : ReadAt parseU64 tokens 11
  stime : ReadAt parseU64 tokens 12
  startTime : ReadAt parseU64 tokens 19
  rssPages : ReadAt parseI64 tokens 21

section
variable {β : Type} {parse : Text → Option β} {tokens : List Text} {index : Nat}

/-- The last token stands at the place of the length. -/
theorem getElem?_concat (item : Text) : (tokens ++ [item])[index]? =
    if index = tokens.length then some item else tokens[index]? := by
  rcases Nat.lt_trichotomy index tokens.length with before | rfl | behind
  · rw [List.getElem?_append_left before, if_neg before.ne]
  · simp
  · rw [List.getElem?_eq_none (by simp only [List.length_append, List.length_singleton]; omega),
      if_neg behind.ne', List.getElem?_eq_none behind.le]

/-- A further token is read only where its own place is asked for. -/
theorem readAt_append_iff (read : ReadAt parse tokens index) (item : Text) :
    ReadAt parse (tokens ++ [item]) index ↔
      (index = tokens.length → ∃ number, parse item = some number) := by
  simp only [ReadAt, getElem?_concat]
  by_cases here : index = tokens.length
  · simp [here]
  · simp only [here, if_false, false_implies, iff_true]
    exact read

/-- What is legible with more tokens behind it is legible without. -/
theorem ReadAt.of_append {more : List Text} (read : ReadAt parse (tokens ++ more) index) :
    ReadAt parse tokens index := by
  intro token located
  refine read token ?_
  rw [List.getElem?_append_left (List.getElem?_eq_some_iff.mp located).1, located]

end

/-- One more token is read where its position asks for it. -/
theorem takeField_eq_ok {tokens : List Text} (legible : Legible tokens) (item : Text)
    (next : StatFields) : takeField (fieldsOf tokens) (item, tokens.length) = .ok next ↔
      Legible (tokens ++ [item]) ∧ next = fieldsOf (tokens ++ [item]) := by
  have split : Legible (tokens ++ [item]) ↔
      (11 = tokens.length → ∃ number, parseU64 item = some number) ∧
      (12 = tokens.length → ∃ number, parseU64 item = some number) ∧
      (19 = tokens.length → ∃ number, parseU64 item = some number) ∧
      (21 = tokens.length → ∃ number, parseI64 item = some number) := by
    rw [← readAt_append_iff legible.utime, ← readAt_append_iff legible.stime,
      ← readAt_append_iff legible.startTime, ← readAt_append_iff legible.rssPages]
    exact ⟨fun read => ⟨read.utime, read.stime, read.startTime, read.rssPages⟩,
      fun read => ⟨read.1, read.2.1, read.2.2.1, read.2.2.2⟩⟩
  rw [split]
  by_cases utime : tokens.length = 11
  · cases parsed : parseU64 item <;>
      simp [takeField, fieldsOf, utime, parsed, context, eq_comm]
  by_cases stime : tokens.length = 12
  · cases parsed : parseU64 item <;>
      simp [takeField, fieldsOf, stime, parsed, context, eq_comm]
  by_cases startTime : tokens.length = 19
  · cases parsed : parseU64 item <;>
      simp [takeField, fieldsOf, startTime, parsed, context, eq_comm]
  by_cases rssPages : tokens.length = 21
  · cases parsed : parseI64 item <;>
      simp [takeField, fieldsOf, rssPages, parsed, context, eq_comm]
  simp [takeField, fieldsOf, getElem?_concat, utime, stime, startTime, rssPages, pure, Except.pure,
    eq_comm]

/-- The loop over the fields reads the numbers it can find, or fails. -/
theorem takeFields_eq_ok (tokens : List Text) (fields : StatFields) :
    tokens.zipIdx.foldlM takeField ⟨none, none, none, none⟩ = .ok fields ↔
      Legible tokens ∧ fields = fieldsOf tokens := by
  have none_read {β : Type} (parse : Text → Option β) (index : Nat) : ReadAt parse [] index :=
    fun _ located => by simp at located
  exact @foldlM_zipIdx_iff _ _ _ takeField fieldsOf Legible
    (fun _ _ legible => ⟨legible.utime.of_append, legible.stime.of_append,
      legible.startTime.of_append, legible.rssPages.of_append⟩)
    (fun _ item next legible => takeField_eq_ok legible item next)
    [] ⟨none_read _ _, none_read _ _, none_read _ _, none_read _ _⟩ tokens fields

/-- A signed number becomes a word exactly when it is not negative, with its value. -/
theorem unsigned_eq_some_iff {value : Int} {word : UInt64} :
    unsigned value = some word ↔ 0 ≤ value ∧ value.toNat = word.toNat := by
  rw [unsigned]
  constructor
  · intro converted
    split at converted
    · next inside =>
      obtain rfl := Option.some.inj converted
      exact ⟨inside.1, (toNat_ofNat_of_fits inside.2).symm⟩
    · cases converted
  · rintro ⟨positive, same⟩
    have bounded := toNat_le_limit word
    rw [if_pos ⟨positive, by omega⟩, same, UInt64.ofNat_toNat]

section
variable {pid command state : Text} {fields : List Text} {pageSize : UInt64}

/-- The text after the command is found behind the last parenthesis of the line. -/
theorem statLine_split (plain : ∀ token ∈ state :: fields, ')' ∉ token) :
    rfind [')', ' '] (statLine pid command state fields) =
        some (pid ++ " (".toList ++ command).length ∧
      (pid ++ " (".toList ++ command).length + 2 ≤ (statLine pid command state fields).length ∧
      (statLine pid command state fields).drop ((pid ++ " (".toList ++ command).length + 2) =
        spaced (state :: fields) := by
  have shape : statLine pid command state fields =
      (pid ++ " (".toList ++ command) ++ ')' :: ' ' :: spaced (state :: fields) := by
    simp [statLine]
  have absent := not_mem_spaced plain (by decide)
  rw [shape]
  refine ⟨rfind_last (by decide) absent _, ?_, ?_⟩
  · simp only [List.length_append, List.length_cons]
    omega
  rw [List.drop_append, List.drop_of_length_le (Nat.le_add_right _ _), Nat.add_sub_cancel_left]
  rfl

/-- A number that was read tells that its field could be read. -/
theorem readAt_of_bind {β : Type} {parse : Text → Option β} {tokens : List Text} {index : Nat}
    {number : β} (found : tokens[index]?.bind parse = some number) :
    ReadAt parse tokens index := by
  intro token located
  rw [located] at found
  exact ⟨number, found⟩

/-- A line is parsed exactly when its four fields are numbers of their types, the
resident pages are not negative, and both results fit. -/
theorem parseProcessStat_eq_ok (plain : ∀ token ∈ state :: fields, IsToken token ∧ ')' ∉ token)
    (sample : ProcessSample) :
    parseProcessStat (statLine pid command state fields) pageSize = .ok sample ↔
      ∃ utime stime startTime rssPages,
        (statField state fields 14).bind parseU64 = some utime ∧
        (statField state fields 15).bind parseU64 = some stime ∧
        (statField state fields 22).bind parseU64 = some startTime ∧
        (statField state fields 24).bind parseI64 = some rssPages ∧ 0 ≤ rssPages ∧
        sample.cpuTicks.toNat = utime.toNat + stime.toNat ∧
        sample.rssBytes.toNat = rssPages.toNat * pageSize.toNat ∧
        sample.startTimeTicks = startTime := by
  obtain ⟨found, inside, behind⟩ :=
    @statLine_split pid command state fields (fun token member => (plain token member).2)
  have tokens := splitAsciiWhitespace_spaced (fun token member => (plain token member).1)
  simp only [parseProcessStat, found, inside, behind, tokens, context_some, ok_bind, if_true,
    bind_eq_ok, takeFields_eq_ok, context_eq_ok]
  constructor
  · rintro ⟨_, ⟨legible, rfl⟩, utime, hasUtime, stime, hasStime, cpuTicks, added, signed, hasRss,
      rssPages, converted, rssBytes, multiplied, startTime, hasStart, returned⟩
    obtain rfl := Except.ok.inj returned
    obtain ⟨positive, same⟩ := unsigned_eq_some_iff.mp converted
    refine ⟨utime, stime, startTime, signed, hasUtime, hasStime, hasStart, hasRss, positive,
      checkedAdd_eq_some added, ?_, rfl⟩
    rw [same]
    exact checkedMul_eq_some multiplied
  · rintro ⟨utime, stime, startTime, rssPages, hasUtime, hasStime, hasStart, hasRss, positive,
      added, multiplied, rfl⟩
    have legible : Legible (state :: fields) := ⟨readAt_of_bind hasUtime, readAt_of_bind hasStime,
      readAt_of_bind hasStart, readAt_of_bind hasRss⟩
    obtain ⟨_, _, parsed⟩ := Option.bind_eq_some_iff.mp hasRss
    have small : rssPages.toNat < 2 ^ 63 := by
      have range := (parseI64_range parsed).2
      omega
    have word : (UInt64.ofNat rssPages.toNat).toNat = rssPages.toNat :=
      UInt64.toNat_ofNat_of_lt' (by simp only [UInt64.size]; omega)
    have converted : unsigned rssPages = some (UInt64.ofNat rssPages.toNat) :=
      unsigned_eq_some_iff.mpr ⟨positive, word.symm⟩
    exact ⟨fieldsOf (state :: fields), ⟨legible, rfl⟩, utime, hasUtime, stime, hasStime,
      sample.cpuTicks, checkedAdd_of_exact added, rssPages, hasRss, UInt64.ofNat rssPages.toNat,
      converted, sample.rssBytes, checkedMul_of_exact (by rw [word, multiplied]),
      sample.startTimeTicks, hasStart, rfl⟩

end

/-- No sample holds the results where the pages are negative or a result outgrows a
word. -/
theorem no_sample_iff (utime stime startTime pageSize : UInt64) (rssPages : Int) :
    (∀ sample : ProcessSample, ¬(0 ≤ rssPages ∧
      sample.cpuTicks.toNat = utime.toNat + stime.toNat ∧
      sample.rssBytes.toNat = rssPages.toNat * pageSize.toNat ∧
      sample.startTimeTicks = startTime)) ↔
    (rssPages < 0 ∨ 2 ^ 64 ≤ rssPages.toNat * pageSize.toNat) ∨
      2 ^ 64 ≤ utime.toNat + stime.toNat := by
  constructor
  · intro none
    by_contra fits
    simp only [not_or, Int.not_lt, Nat.not_le] at fits
    obtain ⟨⟨positive, product⟩, sum⟩ := fits
    exact none ⟨UInt64.ofNat (utime.toNat + stime.toNat),
      UInt64.ofNat (rssPages.toNat * pageSize.toNat), startTime⟩
      ⟨positive, UInt64.toNat_ofNat_of_lt' sum, UInt64.toNat_ofNat_of_lt' product, rfl⟩
  · rintro excess sample ⟨positive, cpuTicks, rssBytes, _⟩
    have ticks := sample.cpuTicks.toNat_lt
    have bytes := sample.rssBytes.toNat_lt
    rw [cpuTicks] at ticks
    rw [rssBytes] at bytes
    omega

/-- Whatever the command of a process, its stat line is parsed by the fields behind
the command: processor ticks from fields 14 and 15, the start time from 22, memory
from 24. It fails exactly where one of them is missing or no number of its type, the
resident pages are negative, or one of the results outgrows a word. -/
theorem process_stat_of_line (pid command state : Text) (fields : List Text) (pageSize : UInt64)
    (plain : ∀ token ∈ state :: fields, IsToken token ∧ ')' ∉ token) :
    (∀ sample, parseProcessStat (statLine pid command state fields) pageSize = .ok sample ↔
      ∃ utime stime startTime rssPages,
        (statField state fields 14).bind parseU64 = some utime ∧
        (statField state fields 15).bind parseU64 = some stime ∧
        (statField state fields 22).bind parseU64 = some startTime ∧
        (statField state fields 24).bind parseI64 = some rssPages ∧ 0 ≤ rssPages ∧
        sample.cpuTicks.toNat = utime.toNat + stime.toNat ∧
        sample.rssBytes.toNat = rssPages.toNat * pageSize.toNat ∧
        sample.startTimeTicks = startTime) ∧
    ((∃ message, parseProcessStat (statLine pid command state fields) pageSize =
        .error message) ↔
      (statField state fields 14).bind parseU64 = none ∨
      (statField state fields 15).bind parseU64 = none ∨
      (statField state fields 22).bind parseU64 = none ∨
      (statField state fields 24).bind parseI64 = none ∨
      (∃ rssPages, (statField state fields 24).bind parseI64 = some rssPages ∧
        (rssPages < 0 ∨ 2 ^ 64 ≤ rssPages.toNat * pageSize.toNat)) ∨
      ∃ utime stime, (statField state fields 14).bind parseU64 = some utime ∧
        (statField state fields 15).bind parseU64 = some stime ∧
        2 ^ 64 ≤ utime.toNat + stime.toNat) := by
  have accepts (sample : ProcessSample) :=
    @parseProcessStat_eq_ok pid command state fields pageSize plain sample
  refine ⟨accepts, ?_⟩
  have failed : (∃ message, parseProcessStat (statLine pid command state fields) pageSize =
      .error message) ↔ ∀ sample,
        parseProcessStat (statLine pid command state fields) pageSize ≠ .ok sample := by
    cases parseProcessStat (statLine pid command state fields) pageSize <;> simp
  simp only [failed, ne_eq, accepts]
  cases (statField state fields 14).bind parseU64 with
  | none => simp
  | some utime =>
    cases (statField state fields 15).bind parseU64 with
    | none => simp
    | some stime =>
      cases (statField state fields 22).bind parseU64 with
      | none => simp
      | some startTime =>
        cases (statField state fields 24).bind parseI64 with
        | none => simp
        | some rssPages =>
          simp only [Option.some.injEq, reduceCtorEq, false_or, exists_and_left, exists_eq_left']
          exact no_sample_iff utime stime startTime pageSize rssPages

/-- A command that looks like the end of a command, and more. -/
def oddCommand : Text := "a) R (b) 1 2".toList

/-- The fields behind the command, each one its own number. -/
def oddFields : List Text :=
  ["1", "2", "3", "4", "5", "6", "7", "8", "9", "10", "11", "12", "13", "14", "15", "16", "17", "18",
    "19", "20", "21"].map String.toList

/-- The line of a process whose command imitates the end of the command, read. -/
theorem oddCommand_parsed : parseProcessStat
    (statLine "42".toList oddCommand "R".toList oddFields) 4096 = .ok ⟨23, 86016, 19⟩ := by
  refine ((process_stat_of_line "42".toList oddCommand "R".toList oddFields 4096 ?_).1 _).mpr
    ⟨11, 12, 19, 21, by decide, by decide, by decide, by decide, by decide, by decide, by decide,
      rfl⟩
  have apart : ("R".toList :: oddFields).all (fun token => !token.isEmpty &&
      token.all (fun character => !isAsciiWhitespace character && character != ')')) = true := by
    decide +kernel
  intro token member
  have alone := List.all_eq_true.mp apart token member
  simp only [Bool.and_eq_true, Bool.not_eq_true', List.isEmpty_eq_false_iff, List.all_eq_true,
    bne_iff_ne] at alone
  obtain ⟨nonempty, characters⟩ := alone
  exact ⟨⟨nonempty, fun character among => (characters character among).1⟩,
    fun closing => (characters ')' closing).2 rfl⟩

end SfuLoad.Telemetry
