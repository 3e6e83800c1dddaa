import SfuLoad.Kit.Escaping
import SfuLoad.Report.Comparison
import SfuLoad.Report.Labels

/-!
# Cells that stay cells

Text from outside is escaped before it becomes a cell. What is left has nothing in it
that a table or a markup could take for its own, and it can be read back. All other
cells are made of numbers and of words of the program, so that a row is one line with
the delimiters of its header.
-/

namespace SfuLoad.Report

open Kit.Checked Kit.Escaping
open Kit.Fallible (bind_eq_ok exists_of_mapM)
open Kit.Lines (Text forall_mem_spelled)
open Kit.Spelling (decimal)
open Model hiding checkedAdd checkedMul

section Escapes

/-- A numeric reference stands for the character of its number. -/
def numeric (code : Nat) : Char × Text :=
  (Char.ofNat code, s!"&#{code};".toList)

/-- The entities a cell may hold, and what a reader takes each of them for. -/
def entities : Table :=
  [('&', "&amp;".toList), ('<', "&lt;".toList), ('>', "&gt;".toList)] ++
    [124, 92, 91, 93, 40, 41, 33, 42, 95, 96, 126].map numeric

/-- A line end becomes a space. -/
def spaced (character : Char) : Char :=
  if character = '\r' ∨ character = '\n' then ' ' else character

/-- What no cell may hold. -/
def unsafeCharacters : List Char :=
  ['<', '>', '|', '\\', '[', ']', '(', ')', '!', '*', '_', Char.ofNat 96, '~', '\r', '\n']

/-- Each entity begins with the mark and none begins another, so that reading them back is
unambiguous. -/
theorem entities_reversible : Reversible '&' entities := by
  have marked : ∀ entry ∈ entities, entry.2 = '&' :: entry.2.tail ∧ '&' ∉ entry.2.tail := by
    decide +kernel
  exact ⟨fun entry member => ⟨_, marked entry member⟩, by decide +kernel, by decide +kernel⟩

/-- The escape of one character, once line ends have become spaces. -/
theorem escapeCharacter_toList (character : Char) :
    (escapeCharacter character).toList = escapeOne entities (spaced character) := by
  have known : ∀ entry ∈ tableEscapes,
      (escapeCharacter entry.1).toList = escapeOne entities (spaced entry.1) := by
    decide +kernel
  by_cases key : ∃ entry ∈ tableEscapes, entry.1 = character
  · obtain ⟨entry, member, rfl⟩ := key
    exact known entry member
  · have unlisted : tableEscapes.lookup character = none := by
      refine List.lookup_eq_none_iff.mpr (fun entry member => ?_)
      rw [bne_iff_ne]
      exact fun same => key ⟨entry, member, same.symm⟩
    have plain : spaced character = character := by
      refine if_neg (fun ends => ?_)
      rcases ends with rfl | rfl
      · exact key ⟨('\r', " "), by decide +kernel, rfl⟩
      · exact key ⟨('\n', " "), by decide +kernel, rfl⟩
    have unmarked : entities.lookup character = none := by
      refine List.lookup_eq_none_iff.mpr (fun entry member => ?_)
      have written : ∀ entry ∈ entities, ∃ listed ∈ tableEscapes, listed.1 = entry.1 := by
        decide +kernel
      obtain ⟨listed, among, same⟩ := written entry member
      rw [bne_iff_ne]
      exact fun other => key ⟨listed, among, same.trans other.symm⟩
    rw [escapeCharacter, unlisted, plain, escapeOne, unmarked]
    exact String.toList_singleton character

/-- And of a text, character by character. -/
theorem escapeTable_toList (value : String) :
    (escapeTable value).toList = escape entities (value.toList.map spaced) := by
  rw [escapeTable, String.toList_join, escape, List.flatMap_map, List.flatMap_map]
  exact List.flatMap_congr (fun character _ => escapeCharacter_toList character)

/-- An escaped text holds none of the characters that are escaped, and no line end. -/
theorem escapeTable_safe (value : String) :
    ∀ character ∈ (escapeTable value).toList, character ∉ unsafeCharacters := by
  have written : ∀ entry ∈ entities, ∀ character ∈ entry.2, character ∉ unsafeCharacters := by
    decide +kernel
  have covered : ∀ character ∈ unsafeCharacters,
      (entities.lookup character).isSome ∨ spaced character ≠ character := by
    decide +kernel
  intro character member
  rw [escapeTable_toList] at member
  rcases mem_escape member with ⟨plain, inText⟩ | ⟨entry, among, inside⟩
  · intro listed
    obtain ⟨original, -, rfl⟩ := List.mem_map.mp inText
    rcases covered _ listed with escaped | ended
    · rw [plain] at escaped
      cases escaped
    · refine ended ?_
      unfold spaced
      split <;> simp_all
  · exact written entry among character inside

end Escapes

section Quiet

/-- A text that neither ends a cell nor a line. -/
def Quiet (text : String) : Prop := ∀ character ∈ text.toList, character ∉ ['|', '\r', '\n']

/-- Two texts are quiet together when both are. -/
@[simp] theorem quiet_append (left right : String) :
    Quiet (left ++ right) ↔ Quiet left ∧ Quiet right := by
  simp only [Quiet, String.toList_append, List.forall_mem_append]

/-- A text that is spelled out is checked character by character. -/
theorem quiet_ofList {characters : List Char}
    (quiet : ∀ character ∈ characters, character ∉ ['|', '\r', '\n']) :
    Quiet (String.ofList characters) :=
  forall_mem_spelled quiet

/-- Digits and their separators are quiet. -/
theorem quiet_of_digits {text : String} (digits : ∀ character ∈ text.toList,
    character.isDigit = true ∨ character = ',') : Quiet text := by
  have marks : ∀ mark ∈ ['|', '\r', '\n'], mark.isDigit = false ∧ mark ≠ ',' := by decide
  intro character member listed
  obtain ⟨plain, apart⟩ := marks character listed
  rcases digits character member with digit | comma
  · rw [plain] at digit
    cases digit
  · exact apart comma

/-- A number is written in digits. -/
theorem digit_of_decimal {number : Nat} {character : Char} (member : character ∈ decimal number) :
    character.isDigit = true :=
  Nat.isDigit_of_mem_toDigits (by decide) (by decide) member

/-- A number is written in digits, so it is quiet. -/
@[simp] theorem quiet_natural (number : Nat) : Quiet (toString number) := by
  refine quiet_of_digits (fun character member => Or.inl (@digit_of_decimal number _ ?_))
  rwa [decimal, ← Nat.toList_repr]

/-- A number of 32 bits is quiet. -/
@[simp] theorem quiet_word (number : UInt32) : Quiet (toString number) :=
  quiet_natural number.toNat

/-- A number of 64 bits is quiet. -/
@[simp] theorem quiet_long (number : UInt64) : Quiet (toString number) :=
  quiet_natural number.toNat

/-- Whatever a text was, its escape is quiet. -/
@[simp] theorem quiet_escapeTable (value : String) : Quiet (escapeTable value) := by
  have marks : ∀ mark ∈ ['|', '\r', '\n'], mark ∈ unsafeCharacters := by decide +kernel
  intro character member listed
  exact escapeTable_safe value character member (marks character listed)

/-- A scenario's label has words and numbers only. -/
@[simp] theorem quiet_scenarioLabel (spec : ScenarioSpec) : Quiet (scenarioLabel spec) := by
  cases spec <;> unfold scenarioLabel <;>
    simp only [quiet_append, quiet_word, toString_text, and_true] <;> and_intros <;>
    exact quiet_ofList (by decide)

/-- So has the label of its publishers. -/
@[simp] theorem quiet_publisherLabel (spec : ScenarioSpec) : Quiet (publisherLabel spec) := by
  unfold publisherLabel
  dsimp only
  split
  · simp only [quiet_append, quiet_word, toString_text, true_and]
    exact quiet_ofList (by decide)
  · split <;> simp only [quiet_append, quiet_word, toString_text, true_and, and_true] <;>
      and_intros <;> exact quiet_ofList (by decide)

/-- So has the label of its pacing. -/
@[simp] theorem quiet_pacingLabel (result : ScenarioResult) : Quiet (pacingLabel result) := by
  unfold pacingLabel
  split <;> exact quiet_ofList (by decide)

/-- Both verdicts are quiet. -/
@[simp] theorem quiet_passFail (passed : Bool) : Quiet (passFail passed) := by
  cases passed <;> exact quiet_ofList (by decide)

end Quiet

section Computed

variable {mode : Mode}

/-- A computed text is quiet, if the computation returns. -/
def Quietly (computation : Machine String) : Prop :=
  ∀ text, computation = .ok text → Quiet text

/-- A returned text is quiet or not. -/
@[simp] theorem quietly_ok (text : String) : Quietly (.ok text) ↔ Quiet text :=
  ⟨fun whole => whole text rfl, fun quiet _ same => Except.ok.inj same ▸ quiet⟩

/-- The same in the notation of computations. -/
@[simp] theorem quietly_pure (text : String) : Quietly (pure text) ↔ Quiet text :=
  quietly_ok text

/-- A computation ends quietly when its last part does. -/
theorem Quietly.bind {α : Type} {first : Machine α} {rest : α → Machine String}
    (each : ∀ value, first = .ok value → Quietly (rest value)) : Quietly (first >>= rest) := by
  intro text returned
  obtain ⟨value, answered, finished⟩ := (bind_eq_ok _ _ _).mp returned
  exact each value answered text finished

/-- A suffix behind a computed text. -/
theorem Quietly.suffixed {computation : Machine String} (quietly : Quietly computation)
    {suffix : String} (quiet : Quiet suffix) :
    Quietly (computation >>= fun text => pure (toString text ++ toString suffix)) := by
  refine Quietly.bind (fun text answered => ?_)
  rw [quietly_pure, toString_text, toString_text, quiet_append]
  exact ⟨quietly text answered, quiet⟩

/-- Grouping digits adds separators only. -/
theorem groupedFrom_digits {length index : Nat} {digits result : List Char}
    (plain : ∀ character ∈ digits, character.isDigit = true)
    (returned : groupedFrom mode length index digits = .ok result) :
    ∀ character ∈ result, character.isDigit = true ∨ character = ',' := by
  induction digits generalizing index result with
  | nil =>
    obtain rfl := Except.ok.inj returned
    simp
  | cons digit rest inductionHypothesis =>
    rw [groupedFrom] at returned
    obtain ⟨isSeparated, -, returned⟩ := (bind_eq_ok _ _ _).mp returned
    obtain ⟨behind, further, returned⟩ := (bind_eq_ok _ _ _).mp returned
    have later := inductionHypothesis
      (fun character member => plain character (List.mem_cons_of_mem _ member)) further
    have first := plain digit List.mem_cons_self
    split at returned
    · obtain rfl := Except.ok.inj returned
      simpa [first] using later
    · obtain rfl := Except.ok.inj returned
      simpa [first] using later

/-- So a grouped number is quiet. -/
@[simp] theorem quietly_grouped (value : UInt64) : Quietly (grouped mode value) := by
  intro text returned
  obtain ⟨_, -, returned⟩ := (bind_eq_ok _ _ _).mp returned
  obtain ⟨characters, listed, returned⟩ := (bind_eq_ok _ _ _).mp returned
  obtain rfl := Except.ok.inj returned
  refine quiet_of_digits ?_
  rw [String.toList_ofList]
  refine groupedFrom_digits (fun character member => ?_) listed
  have digits : character ∈ decimal value.toNat := by
    rw [decimal, ← Nat.toList_repr]
    exact member
  exact digit_of_decimal digits

end Computed

section Rows

/-- A row of a table: one line, with the delimiters of the header. -/
structure Regular (header row : String) : Prop where
  unbroken : '\n' ∉ row.toList ∧ '\r' ∉ row.toList
  delimiters : row.toList.count '|' = header.toList.count '|'

/-- One line with a number of delimiters. -/
structure Ruled (text : String) (delimiters : Nat) : Prop where
  unbroken : '\n' ∉ text.toList ∧ '\r' ∉ text.toList
  counted : text.toList.count '|' = delimiters

/-- The delimiters of two texts add up. -/
theorem Ruled.append {left right : String} {first second : Nat} (front : Ruled left first)
    (back : Ruled right second) : Ruled (left ++ right) (first + second) := by
  constructor
  · simp [front.unbroken, back.unbroken]
  · rw [String.toList_append, List.count_append, front.counted, back.counted]

/-- A text that is spelled out is counted character by character. -/
theorem ruled_ofList {characters : List Char} {delimiters : Nat}
    (unbroken : '\n' ∉ characters ∧ '\r' ∉ characters)
    (counted : characters.count '|' = delimiters) :
    Ruled (String.ofList characters) delimiters := by
  constructor <;> rwa [String.toList_ofList]

/-- A quiet text has no delimiter. -/
theorem Quiet.ruled {text : String} (quiet : Quiet text) : Ruled text 0 := by
  have apart {mark : Char} (listed : mark ∈ ['|', '\r', '\n']) : mark ∉ text.toList :=
    fun inside => quiet mark inside listed
  exact ⟨⟨apart (by decide), apart (by decide)⟩, List.count_eq_zero.mpr (apart (by decide))⟩

/-- A row of as many delimiters as the header fits it. -/
theorem Ruled.regular {header row : String} {delimiters : Nat} (ruled : Ruled row delimiters)
    (headed : Ruled header delimiters) : Regular header row :=
  ⟨ruled.unbroken, ruled.counted.trans headed.counted.symm⟩

/-- Quiet texts that are put between delimiters. -/
theorem ruled_intercalate {texts : List String} (quiet : ∀ text ∈ texts, Quiet text) :
    Ruled (" | ".intercalate texts) (texts.length - 1) := by
  have between : Ruled " | " 1 := ruled_ofList (by decide) (by decide)
  induction texts with
  | nil => exact Quiet.ruled (quiet_ofList (by decide))
  | cons text rest inductionHypothesis =>
    have first := (quiet text List.mem_cons_self).ruled
    have later := inductionHypothesis (fun other member =>
      quiet other (List.mem_cons_of_mem _ member))
    cases rest with
    | nil => exact String.intercalate_singleton ▸ first
    | cons next rest =>
      have total : 0 + 1 + (next :: rest).length - 1 = (text :: next :: rest).length - 1 := by
        simp only [List.length_cons]
        omega
      rw [String.intercalate_cons_cons, ← total]
      exact (first.append between).append later

/-- Quiet cells make one line, with a delimiter around each. -/
theorem ruled_cells {texts : List String} (some : texts ≠ [])
    (quiet : ∀ text ∈ texts, Quiet text) : Ruled (cells texts) (texts.length + 1) := by
  have front : Ruled "| " 1 := ruled_ofList (by decide) (by decide)
  have back : Ruled " |" 1 := ruled_ofList (by decide) (by decide)
  have positive := List.length_pos_iff.mpr some
  have total : 1 + (texts.length - 1) + 1 = texts.length + 1 := by omega
  exact total ▸ (front.append (ruled_intercalate quiet)).append back

/-- A row of quiet cells has one delimiter more than cells, so it fits a header that has as
many. -/
theorem tableRow_regular {header row : String} {computations : List (Machine String)}
    (returned : tableRow computations = .ok row) (some : computations ≠ [])
    (quietly : ∀ computation ∈ computations, Quietly computation)
    (headed : Ruled header (computations.length + 1)) : Regular header row := by
  obtain ⟨texts, computed, returned⟩ := (bind_eq_ok _ _ _).mp returned
  obtain rfl := Except.ok.inj returned
  have same := length_of_mapM computed
  rw [← same] at headed
  refine (ruled_cells (fun empty => some ?_) (fun text among => ?_)).regular headed
  · rw [empty] at same
    exact List.length_eq_zero_iff.mp same.symm
  · obtain ⟨computation, member, answered⟩ := exists_of_mapM computed among
    exact quietly computation member text answered

end Rows

section Tables

variable {mode : Mode}

/-- The header of the failed inputs. -/
def failuresHeader : String := "| Input | Error |"

/-- The header of the workloads. -/
def workloadsHeader : String :=
  "| Exact | Scenario | Rooms | Peers/room | Publications/room | Streams | " ++
    "Total media consumers | Offered packets | Expected deliveries | Duration | " ++
    "Max send lag | Pacing | Profile | Validation |"

/-- The header of the telemetry issues. -/
def issuesHeader : String := "| Scenario | Input | Unavailable | Error |"

/-- The header of a comparison's exact work. -/
def deliveryHeader : String :=
  "| Scenario | Variant | Expected | Delivered | Missing | Duplicate | Out of order | " ++
    "Unexpected | Payload mismatch | Exact |"

/-- Two columns. -/
theorem failuresHeader_ruled : Ruled failuresHeader 3 := ruled_ofList (by decide) (by decide)

/-- Fourteen columns, counted over the parts it is written in. -/
theorem workloadsHeader_ruled : Ruled workloadsHeader (7 + 4 + 4) :=
  .append (.append (ruled_ofList (by decide) (by decide)) (ruled_ofList (by decide) (by decide)))
    (ruled_ofList (by decide) (by decide))

/-- Four columns. -/
theorem issuesHeader_ruled : Ruled issuesHeader 5 := ruled_ofList (by decide) (by decide)

/-- Ten columns, in two parts. -/
theorem deliveryHeader_ruled : Ruled deliveryHeader (8 + 3) :=
  .append (ruled_ofList (by decide) (by decide)) (ruled_ofList (by decide) (by decide))

/-- The verdict of a run is escaped where it quotes an error. -/
theorem validationLabel_quietly (run : RunData) : Quietly (validationLabel mode run) := by
  refine Quietly.bind (fun outcome _ => ?_)
  cases outcome with
  | error error => simp
  | ok done =>
    rw [quietly_pure]
    exact quiet_ofList (by decide)

/-- So is the one of a comparison. -/
theorem exactVerdict_quietly (run : RunData) :
    Quietly (Comparison.exactVerdict mode run) := by
  refine Quietly.bind (fun outcome _ => ?_)
  cases outcome with
  | error error => simp
  | ok done =>
    rw [quietly_pure]
    exact quiet_ofList (by decide)

/-- A workload's row fits its header. -/
theorem workloadRow_regular {run : RunData} {row : String}
    (returned : workloadRow mode run = .ok row) : Regular workloadsHeader row := by
  refine tableRow_regular returned (by simp) ?_ workloadsHeader_ruled
  have seconds : Quiet " s" := quiet_ofList (by decide)
  have milliseconds : Quiet " ms" := quiet_ofList (by decide)
  simp only [List.forall_mem_cons, quietly_pure, quietly_grouped, quiet_scenarioLabel, quiet_word,
    quiet_publisherLabel, quiet_pacingLabel, quiet_escapeTable, validationLabel_quietly, true_and]
  refine ⟨Quietly.bind (fun passed _ => by simp), Quietly.bind (fun peers _ => by simp),
    Quietly.bind (fun duration _ => ?_), (quietly_grouped _).suffixed milliseconds, by simp⟩
  rw [quietly_pure, quiet_append]
  exact ⟨quiet_word duration, seconds⟩

/-- So does each row of a comparison's exact work. -/
theorem exactRow_regular {role : String} (quiet : Quiet role) {run : RunData} {row : String}
    (returned : Comparison.renderExactRow mode role run = .ok row) :
    Regular deliveryHeader row := by
  refine tableRow_regular returned (by simp) ?_ deliveryHeader_ruled
  simp only [List.forall_mem_cons, quietly_pure, quietly_grouped, quiet_scenarioLabel, quiet,
    exactVerdict_quietly, true_and]
  simp

/-- And each row of a run's telemetry issues. -/
theorem issueRows_regular {run : RunData} {row : String} (member : row ∈ issueRows run) :
    Regular issuesHeader row := by
  have missing : Quiet "unavailable telemetry record" := quiet_ofList (by decide)
  have regular (unavailable : Nat) {error : String} (quiet : Quiet error) : Regular issuesHeader
      (cells [scenarioLabel run.result.scenario, escapeTable run.source, s!"{unavailable}", error]) :=
    (ruled_cells (by simp) (by
      simp only [List.forall_mem_cons, quiet_scenarioLabel, quiet_escapeTable, quiet_natural,
        quiet, true_and]
      simp)).regular issuesHeader_ruled
  unfold issueRows at member
  split at member
  · cases member
  · dsimp only at member
    split at member
    · rw [List.mem_singleton.mp member]
      exact regular _ missing
    · obtain ⟨error, -, rfl⟩ := List.mem_map.mp member
      exact regular _ (quiet_escapeTable error)

/-- Lines that end with a table whose rows, the rule among them, fit its header. -/
def Tabulated (front : List String) (header : String) (lines : List String) : Prop :=
  ∃ rows, lines = front ++ header :: rows ++ [""] ∧ ∀ row ∈ rows, Regular header row

/-- Rows that fit a header make a table with it. -/
theorem tabulated_of_rows {front rows : List String} {header rule : String} {delimiters : Nat}
    (headed : Ruled header delimiters) (ruled : Ruled rule delimiters)
    (regular : ∀ row ∈ rows, Regular header row) :
    Tabulated front header (front ++ [header, rule] ++ rows ++ [""]) :=
  ⟨rule :: rows, by simp, List.forall_mem_cons.mpr ⟨ruled.regular headed, regular⟩⟩

/-- Rows that are computed fit a header if each of them does. -/
theorem rows_regular_of_mapM {α : Type} {header : String} {render : α → Machine String}
    {inputs : List α} {rows : List String} (computed : inputs.mapM render = .ok rows)
    (each : ∀ input row, render input = .ok row → Regular header row) :
    ∀ row ∈ rows, Regular header row := by
  intro row member
  obtain ⟨input, -, answered⟩ := exists_of_mapM computed member
  exact each input row answered

/-- The section of the failed inputs is one table. -/
theorem renderFailures_tabulated (failures : List LoadFailure) :
    Tabulated (paragraph "## Input failures") failuresHeader (renderFailures failures) := by
  have rule : Ruled "| --- | --- |" 3 := ruled_ofList (by decide) (by decide)
  refine tabulated_of_rows failuresHeader_ruled rule (fun row member => ?_)
  obtain ⟨failure, -, rfl⟩ := List.mem_map.mp member
  exact (ruled_cells (by simp) (by simp)).regular failuresHeader_ruled

/-- So is that of the workloads. -/
theorem renderWorkloads_tabulated {runs : List RunData} {lines : List String}
    (returned : renderWorkloads mode runs = .ok lines) :
    Tabulated (paragraph "## Workloads" ++ renderConsumerContext) workloadsHeader lines := by
  obtain ⟨rows, computed, returned⟩ := (bind_eq_ok _ _ _).mp returned
  obtain rfl := Except.ok.inj returned
  have rule : Ruled ("| --- | --- | ---: | ---: | ---: | ---: | ---: | ---: | ---: | ---: | " ++
      "---: | --- | --- | --- |") (11 + 4) :=
    .append (ruled_ofList (by decide) (by decide)) (ruled_ofList (by decide) (by decide))
  exact tabulated_of_rows workloadsHeader_ruled rule
    (rows_regular_of_mapM computed (fun _ _ => workloadRow_regular))

/-- The one of the telemetry issues, where there are any. -/
theorem renderTelemetryIssues_tabulated {runs : List RunData}
    (some : renderTelemetryIssues runs ≠ []) :
    Tabulated (paragraph "## Telemetry issues") issuesHeader (renderTelemetryIssues runs) := by
  unfold renderTelemetryIssues at some ⊢
  dsimp only at some ⊢
  split
  · exact absurd (if_pos ‹_›) some
  · have rule : Ruled "| --- | --- | ---: | --- |" 5 := ruled_ofList (by decide) (by decide)
    refine tabulated_of_rows issuesHeader_ruled rule (fun row member => ?_)
    obtain ⟨run, -, among⟩ := List.mem_flatMap.mp member
    exact issueRows_regular among

/-- And that of a comparison's exact work. -/
theorem renderExactDelivery_tabulated {pairs : List RunPair} {lines : List String}
    (returned : Comparison.renderExactDelivery mode pairs = .ok lines) :
    Tabulated (paragraph "## Exact delivery correctness") deliveryHeader lines := by
  have roles : Quiet "Baseline" ∧ Quiet "Comparison" :=
    ⟨quiet_ofList (by decide), quiet_ofList (by decide)⟩
  have rule : Ruled "| --- | --- | ---: | ---: | ---: | ---: | ---: | ---: | ---: | --- |" 11 :=
    ruled_ofList (by decide) (by decide)
  obtain ⟨groups, computed, returned⟩ := (bind_eq_ok _ _ _).mp returned
  obtain rfl := Except.ok.inj returned
  refine tabulated_of_rows deliveryHeader_ruled rule (fun row member => ?_)
  obtain ⟨group, among, inGroup⟩ := List.mem_flatten.mp member
  obtain ⟨pair, -, answered⟩ := exists_of_mapM computed among
  obtain ⟨baseline, first, answered⟩ := (bind_eq_ok _ _ _).mp answered
  obtain ⟨comparison, second, answered⟩ := (bind_eq_ok _ _ _).mp answered
  obtain rfl := Except.ok.inj answered
  rcases List.mem_pair.mp inGroup with rfl | rfl
  · exact exactRow_regular roles.1 first
  · exact exactRow_regular roles.2 second

/-- Cells cannot be broken out of: an escaped text is inert and can be read back, and the
rows that hold escaped texts are lines with the delimiters of their header. -/
theorem cells_cannot_be_broken :
    (∀ value : String,
      (∀ character ∈ (escapeTable value).toList, character ∉ unsafeCharacters) ∧
      (∀ before after, (escapeTable value).toList = before ++ '&' :: after →
        ∃ front character back entity, value.toList.map spaced = front ++ character :: back ∧
          (character, entity) ∈ entities ∧ before = escape entities front ∧
          '&' :: after = entity ++ escape entities back) ∧
      unescape entities (escapeTable value).toList = value.toList.map spaced) ∧
    (∀ failures : List LoadFailure,
      Tabulated (paragraph "## Input failures") failuresHeader (renderFailures failures)) ∧
    (∀ (mode : Mode) (runs : List RunData) (lines : List String),
      renderWorkloads mode runs = .ok lines →
        Tabulated (paragraph "## Workloads" ++ renderConsumerContext) workloadsHeader lines) ∧
    (∀ runs : List RunData, renderTelemetryIssues runs = [] ∨
      Tabulated (paragraph "## Telemetry issues") issuesHeader (renderTelemetryIssues runs)) ∧
    (∀ (mode : Mode) (pairs : List RunPair) (lines : List String),
      Comparison.renderExactDelivery mode pairs = .ok lines →
        Tabulated (paragraph "## Exact delivery correctness") deliveryHeader lines) := by
  refine ⟨fun value => ⟨escapeTable_safe value, fun before after opens => ?_, ?_⟩,
    renderFailures_tabulated, fun _ _ _ => renderWorkloads_tabulated, fun runs => ?_,
    fun _ _ _ => renderExactDelivery_tabulated⟩
  · rw [escapeTable_toList] at opens
    exact marker_opens entities_reversible opens
  · rw [escapeTable_toList]
    exact unescape_escape entities_reversible _
  · by_cases empty : renderTelemetryIssues runs = []
    · exact Or.inl empty
    · exact Or.inr (renderTelemetryIssues_tabulated empty)

end Tables

end SfuLoad.Report
