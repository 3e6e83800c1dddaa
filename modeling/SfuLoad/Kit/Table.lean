import Mathlib.Data.List.Basic
import Mathlib.Data.List.Pairwise
import Mathlib.Order.Lattice

/-!
# Ordered tables

A table keeps one value for each of its keys, in the order of the keys. Its least entry
is the one with the least value, and of several such the first: the one with the least
key.
-/

universe u v

namespace Kit.Table

section Entries

variable {κ : Type u} {ν : Type v} [LinearOrder κ]

/-- Give a key a value, in its place. -/
def place (key : κ) (value : ν) : List (κ × ν) → List (κ × ν)
  | [] => [(key, value)]
  | entry :: rest =>
    if key < entry.1 then (key, value) :: entry :: rest
    else if key = entry.1 then (key, value) :: rest
    else entry :: place key value rest

/-- The keys ascend, so every key has at most one entry. -/
def Ordered (entries : List (κ × ν)) : Prop :=
  entries.Pairwise (fun left right => left.1 < right.1)

variable {entries : List (κ × ν)} {key : κ} {value : ν}

/-- Only the placed entry is new. -/
theorem mem_place {entry : κ × ν} (member : entry ∈ place key value entries) :
    entry = (key, value) ∨ entry ∈ entries := by
  induction entries with
  | nil => exact .inl (List.mem_singleton.mp member)
  | cons head rest inductionHypothesis =>
    rw [place] at member
    split at member
    · exact (List.mem_cons.mp member)
    · split at member
      · exact (List.mem_cons.mp member).imp_right (List.mem_cons_of_mem head)
      · rcases List.mem_cons.mp member with rfl | later
        · exact .inr List.mem_cons_self
        · exact (inductionHypothesis later).imp_right (List.mem_cons_of_mem head)

/-- Placing an entry keeps the order. -/
theorem place_ordered (ordered : Ordered entries) : Ordered (place key value entries) := by
  induction entries with
  | nil => exact List.pairwise_singleton _ _
  | cons head rest inductionHypothesis =>
    obtain ⟨above, later⟩ := List.pairwise_cons.mp ordered
    rw [place]
    split
    case isTrue below =>
      refine List.pairwise_cons.mpr ⟨?_, ordered⟩
      intro entry member
      rcases List.mem_cons.mp member with rfl | further
      · exact below
      · exact lt_trans below (above entry further)
    case isFalse notBelow =>
      split
      case isTrue same => exact List.pairwise_cons.mpr ⟨same ▸ above, later⟩
      case isFalse different =>
        refine List.pairwise_cons.mpr ⟨?_, inductionHypothesis later⟩
        intro entry member
        rcases mem_place member with rfl | further
        · exact lt_of_le_of_ne (not_lt.mp notBelow) (Ne.symm different)
        · exact above entry further

/-- What stands in a list in which a key has been placed. -/
theorem mem_place_iff (ordered : Ordered entries) {other : κ} {held : ν} :
    (other, held) ∈ place key value entries ↔
      other = key ∧ held = value ∨ other ≠ key ∧ (other, held) ∈ entries := by
  induction entries with
  | nil => simp [place]
  | cons head rest inductionHypothesis =>
    obtain ⟨above, later⟩ := List.pairwise_cons.mp ordered
    have distinct : (other, held) ∈ rest → head.1 < other := fun member => above _ member
    rw [place]
    split
    case isTrue below =>
      have apart : (other, held) ∈ head :: rest → other ≠ key := by
        intro member
        rcases List.mem_cons.mp member with rfl | further
        · exact (ne_of_gt below)
        · exact ne_of_gt (lt_trans below (distinct further))
      rw [List.mem_cons, Prod.mk.injEq]
      constructor
      · exact Or.imp_right fun member => ⟨apart member, member⟩
      · exact Or.imp_right And.right
    case isFalse notBelow =>
      split
      case isTrue same =>
        subst same
        have apart : (other, held) ∈ rest → other ≠ head.1 := fun member =>
          ne_of_gt (distinct member)
        rw [List.mem_cons, List.mem_cons, Prod.mk.injEq]
        constructor
        · exact Or.imp_right fun member => ⟨apart member, .inr member⟩
        · rintro (⟨rfl, rfl⟩ | ⟨different, rfl | member⟩)
          · exact .inl ⟨rfl, rfl⟩
          · exact (different rfl).elim
          · exact .inr member
      case isFalse different =>
        rw [List.mem_cons, List.mem_cons, inductionHypothesis later]
        constructor
        · rintro (rfl | ⟨rfl, rfl⟩ | ⟨apart, member⟩)
          · exact .inr ⟨fun same => different same.symm, .inl rfl⟩
          · exact .inl ⟨rfl, rfl⟩
          · exact .inr ⟨apart, .inr member⟩
        · rintro (⟨rfl, rfl⟩ | ⟨apart, rfl | member⟩)
          · exact .inr (.inl ⟨rfl, rfl⟩)
          · exact .inl rfl
          · exact .inr (.inr ⟨apart, member⟩)

/-- The first entry of those with the least value. -/
def leastOf [LinearOrder ν] : List (κ × ν) → Option (κ × ν)
  | [] => none
  | entry :: rest =>
    match leastOf rest with
    | none => some entry
    | some later => if later.2 < entry.2 then some later else some entry

/-- The least entry is there, none is less, and of those as little none has a lesser key. -/
theorem leastOf_eq_some [LinearOrder ν] (ordered : Ordered entries) {least : κ × ν}
    (found : leastOf entries = some least) :
    least ∈ entries ∧ ∀ entry ∈ entries,
      least.2 ≤ entry.2 ∧ (entry.2 = least.2 → least.1 ≤ entry.1) := by
  induction entries generalizing least with
  | nil => cases found
  | cons head rest inductionHypothesis =>
    obtain ⟨above, later⟩ := List.pairwise_cons.mp ordered
    cases further : leastOf rest with
    | none =>
      have empty : rest = [] := by
        cases rest with
        | nil => rfl
        | cons second others =>
          rw [leastOf] at further
          split at further
          · cases further
          · split at further <;> cases further
      subst empty
      obtain rfl : head = least := Option.some.inj found
      refine ⟨List.mem_cons_self, fun entry member => ?_⟩
      obtain rfl := List.mem_singleton.mp member
      exact ⟨le_refl _, fun _ => le_refl _⟩
    | some last =>
      obtain ⟨member, minimal⟩ := inductionHypothesis later further
      rw [leastOf, further] at found
      change (if last.2 < head.2 then some last else some head) = some least at found
      split at found
      case isTrue below =>
        obtain rfl := Option.some.inj found
        refine ⟨List.mem_cons_of_mem _ member, fun entry among => ?_⟩
        rcases List.mem_cons.mp among with rfl | among
        · exact ⟨le_of_lt below, fun same => (ne_of_gt below same).elim⟩
        · exact minimal entry among
      case isFalse notBelow =>
        obtain rfl := Option.some.inj found
        have least : head.2 ≤ last.2 := not_lt.mp notBelow
        refine ⟨List.mem_cons_self, fun entry among => ?_⟩
        rcases List.mem_cons.mp among with rfl | among
        · exact ⟨le_refl _, fun _ => le_refl _⟩
        · exact ⟨le_trans least (minimal entry among).1, fun _ => le_of_lt (above entry among)⟩

end Entries

end Kit.Table

namespace Kit

open Table

/-- A table with its entries in the order of their keys. -/
structure Table (κ : Type u) (ν : Type v) [LinearOrder κ] where
  entries : List (κ × ν)
  ordered : Table.Ordered entries

namespace Table

variable {κ : Type u} {ν : Type v} [LinearOrder κ]

/-- The key has the value. -/
def Holds (table : Table κ ν) (key : κ) (value : ν) : Prop := (key, value) ∈ table.entries

/-- The table without an entry. -/
def empty : Table κ ν := ⟨[], List.Pairwise.nil⟩

/-- Sets the value of a key. -/
def insert (table : Table κ ν) (key : κ) (value : ν) : Table κ ν :=
  ⟨place key value table.entries, place_ordered table.ordered⟩

/-- Removes the entry of a key, if there is one. -/
def erase (table : Table κ ν) (key : κ) : Table κ ν :=
  ⟨table.entries.filter (fun entry => entry.1 ≠ key), table.ordered.filter _⟩

/-- The first entry of those with the least value. -/
def least [LinearOrder ν] (table : Table κ ν) : Option (κ × ν) := leastOf table.entries

variable {table : Table κ ν} {key other : κ} {value held : ν}

/-- The empty table holds nothing. -/
@[simp] theorem holds_empty : ¬(empty : Table κ ν).Holds key value := List.not_mem_nil

/-- The key that was set has its new value; every other key has what it had. -/
@[simp] theorem holds_insert : (table.insert key value).Holds other held ↔
    other = key ∧ held = value ∨ other ≠ key ∧ table.Holds other held :=
  mem_place_iff table.ordered

/-- The erased key has no value; every other key has what it had. -/
@[simp] theorem holds_erase :
    (table.erase key).Holds other held ↔ other ≠ key ∧ table.Holds other held := by
  simp [Holds, erase, and_comm]

/-- The least value is held, no other is less, and no lesser key holds as little. -/
theorem least_eq_some [LinearOrder ν] (found : table.least = some (key, value)) :
    table.Holds key value ∧ ∀ other held, table.Holds other held →
      value ≤ held ∧ (held = value → key ≤ other) := by
  obtain ⟨member, minimal⟩ := leastOf_eq_some table.ordered found
  exact ⟨member, fun other held holds => minimal (other, held) holds⟩

end Table

end Kit
