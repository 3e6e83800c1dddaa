import SfuLoad.Kit.Lines
import Mathlib.Data.List.Basic

/-!
# Escaped text

Characters of a table are written as entities, all of which open with one marker. The
marker is escaped itself and no entity opens with another, so that an escaped text can
be read in one way only: a marker opens an entity that was written for a character, and
reading the entities back gives the text.
-/

namespace Kit.Escaping

open Kit.Lines

/-- The characters that are escaped, each with its entity. -/
abbrev Table := List (Char × Text)

/-- The entity of a character, or the character. -/
def escapeOne (table : Table) (character : Char) : Text :=
  (table.lookup character).getD [character]

/-- The text with every character of the table written as its entity. -/
def escape (table : Table) (text : Text) : Text := text.flatMap (escapeOne table)

/-- Entities are replaced by their characters, from left to right. -/
def unescape (table : Table) : Text → Text
  | [] => []
  | character :: rest =>
    match table.find? (fun entry => entry.2.isPrefixOf (character :: rest)) with
    | some entry => entry.1 :: unescape table (rest.drop (entry.2.length - 1))
    | none => character :: unescape table rest
termination_by text => text.length
decreasing_by
  · simp only [List.length_drop, List.length_cons]
    omega
  · simp

/-- A table whose entities can be told apart, and apart from plain text. -/
structure Reversible (marker : Char) (table : Table) : Prop where
  marked : ∀ entry ∈ table, ∃ body, entry.2 = marker :: body ∧ marker ∉ body
  escaped : table.lookup marker ≠ none
  apart : ∀ first ∈ table, ∀ second ∈ table, first.2.isPrefixOf second.2 = true → first = second

variable {marker : Char} {table : Table}

/-- A text is escaped character by character. -/
theorem escape_cons (character : Char) (rest : Text) :
    escape table (character :: rest) = escapeOne table character ++ escape table rest := rfl

/-- What is looked up is in the table. -/
theorem mem_of_lookup {character : Char} {entity : Text}
    (found : table.lookup character = some entity) : (character, entity) ∈ table := by
  obtain ⟨front, back, rfl, -⟩ := List.lookup_eq_some_iff.mp found
  simp

/-- A character is left as it is, or there is an entity for it. -/
theorem escapeOne_cases (character : Char) :
    (table.lookup character = none ∧ escapeOne table character = [character]) ∨
      (character, escapeOne table character) ∈ table := by
  cases found : table.lookup character with
  | none => exact Or.inl ⟨rfl, by rw [escapeOne, found]; rfl⟩
  | some entity =>
    refine Or.inr ?_
    rw [escapeOne, found]
    exact mem_of_lookup found

/-- What an escaped text holds is a plain character of the text or of an entity. -/
theorem mem_escape {text : Text} {character : Char} (member : character ∈ escape table text) :
    table.lookup character = none ∧ character ∈ text ∨ ∃ entry ∈ table, character ∈ entry.2 := by
  obtain ⟨original, inText, written⟩ := List.mem_flatMap.mp member
  rcases @escapeOne_cases table original with ⟨plain, same⟩ | entry
  · rw [same, List.mem_singleton] at written
    exact Or.inl ⟨written ▸ plain, written ▸ inText⟩
  · exact Or.inr ⟨_, entry, written⟩

/-- An entity at the front is found, whatever follows it. -/
theorem find_entity (reversible : Reversible marker table) {entry : Char × Text}
    (member : entry ∈ table) (rest : Text) :
    table.find? (fun other => other.2.isPrefixOf (entry.2 ++ rest)) = some entry := by
  have matching : entry.2.isPrefixOf (entry.2 ++ rest) = true :=
    List.isPrefixOf_iff_prefix.mpr (List.prefix_append _ _)
  cases found : table.find? (fun other => other.2.isPrefixOf (entry.2 ++ rest)) with
  | none => exact absurd matching (List.find?_eq_none.mp found entry member)
  | some other =>
    have among := List.mem_of_find?_eq_some found
    have matched : other.2.isPrefixOf (entry.2 ++ rest) = true := by
      simpa using List.find?_some found
    have opens := List.isPrefixOf_iff_prefix.mp matched
    rcases List.prefix_or_prefix_of_prefix opens (List.prefix_append _ _) with shorter | longer
    · rw [reversible.apart other among entry member (List.isPrefixOf_iff_prefix.mpr shorter)]
    · rw [reversible.apart entry member other among (List.isPrefixOf_iff_prefix.mpr longer)]

/-- A character outside the table opens no entity: entities open with the marker, and the
marker is in the table. -/
theorem find_plain (reversible : Reversible marker table) {character : Char}
    (plain : table.lookup character = none) (rest : Text) :
    table.find? (fun other => other.2.isPrefixOf (character :: rest)) = none := by
  refine List.find?_eq_none.mpr (fun entry member opens => ?_)
  obtain ⟨body, same, -⟩ := reversible.marked entry member
  rw [same, List.isPrefixOf_iff_prefix, List.cons_prefix_cons] at opens
  exact reversible.escaped (opens.1 ▸ plain)

/-- Reading the entities back gives the text. -/
theorem unescape_escape (reversible : Reversible marker table) (text : Text) :
    unescape table (escape table text) = text := by
  induction text with
  | nil => rw [escape, List.flatMap_nil, unescape]
  | cons character rest inductionHypothesis =>
    rw [escape_cons]
    rcases @escapeOne_cases table character with ⟨plain, same⟩ | entry
    · rw [same, List.singleton_append, unescape, find_plain reversible plain]
      exact congrArg (character :: ·) inductionHypothesis
    · have found := find_entity reversible entry (escape table rest)
      obtain ⟨body, same, -⟩ := reversible.marked _ entry
      dsimp only at same found
      rw [same] at found ⊢
      rw [List.cons_append, unescape, ← List.cons_append, found]
      simp only [List.length_cons, Nat.add_sub_cancel, List.drop_left]
      rw [inductionHypothesis]

/-- A marker in an escaped text opens the entity of a character of the text. -/
theorem marker_opens (reversible : Reversible marker table) {text before after : Text}
    (split : escape table text = before ++ marker :: after) :
    ∃ front character back entity, text = front ++ character :: back ∧
      (character, entity) ∈ table ∧ before = escape table front ∧
      marker :: after = entity ++ escape table back := by
  induction text generalizing before with
  | nil => simp [escape] at split
  | cons character rest inductionHypothesis =>
    rw [escape_cons] at split
    -- The marker stands where the text goes on, or it opens the entity at the front.
    have later {opening further : Text} (here : escapeOne table character = opening)
        (behind : before = opening ++ further)
        (rested : escape table rest = further ++ marker :: after) :
        ∃ front other back entity, character :: rest = front ++ other :: back ∧
          (other, entity) ∈ table ∧ before = escape table front ∧
          marker :: after = entity ++ escape table back := by
      obtain ⟨front, other, back, entity, rfl, among, rfl, opened⟩ := inductionHypothesis rested
      exact ⟨character :: front, other, back, entity, rfl, among,
        by rw [behind, escape_cons, here], opened⟩
    rcases @escapeOne_cases table character with ⟨plain, same⟩ | entry
    · rw [same, List.singleton_append] at split
      cases before with
      | nil =>
        obtain ⟨rfl, -⟩ := List.cons.inj split
        exact absurd plain reversible.escaped
      | cons first further =>
        obtain ⟨rfl, rested⟩ := List.cons.inj split
        exact later same rfl rested
    · obtain ⟨body, same, unmarked⟩ := reversible.marked _ entry
      dsimp only at same
      cases before with
      | nil => exact ⟨[], character, rest, _, rfl, entry, rfl, split.symm⟩
      | cons first further =>
        rw [same, List.cons_append, List.cons_append] at split
        obtain ⟨rfl, tails⟩ := List.cons.inj split
        rcases List.append_eq_append_iff.mp tails with ⟨more, rfl, rested⟩ | ⟨more, rfl, opened⟩
        · exact later same rfl rested
        · cases more with
          | nil =>
            rw [List.append_nil] at same
            exact later same (List.append_nil _).symm opened.symm
          | cons next more =>
            obtain ⟨rfl, -⟩ := List.cons.inj opened
            exact absurd (List.mem_append_right further List.mem_cons_self) unmarked

end Kit.Escaping
