import SfuLoad.Kit.Saturating
import Mathlib.Data.List.Sort
import Mathlib.Order.Defs.LinearOrder

/-!
# Counters by key

An ordered map from keys to counters is a list of entries in the order of their
keys. A map tallies items when every key that belongs to an item, and no other, has
a counter, and the counter is the weight of the items the key belongs to. A map
that tallies items is determined by them, whatever the order they came in.
-/

namespace Kit.Counts

open Kit.Saturating

section Tally

variable {ι : Type*} {weight : ι → Nat} {items : List ι}

/-- The weight of the items that count. -/
def tally (weight : ι → Nat) (counted : ι → Bool) (items : List ι) : Nat :=
  ((items.filter counted).map weight).sum

variable {counted : ι → Bool}

/-- One further item adds its weight where it counts. -/
theorem tally_append (item : ι) : tally weight counted (items ++ [item]) =
    tally weight counted items + if counted item then weight item else 0 := by
  cases counts : counted item <;> simp [tally, counts]

/-- Where every item counts, the tally is the weight of all items. -/
theorem tally_all : tally weight (fun _ => true) items = (items.map weight).sum := by
  rw [tally, List.filter_true]

/-- What counts more often weighs more. -/
theorem tally_mono {wider : ι → Bool} (within : ∀ item ∈ items, counted item → wider item) :
    tally weight counted items ≤ tally weight wider items := by
  induction items with
  | nil => exact Nat.le_refl _
  | cons item rest inductionHypothesis =>
    obtain ⟨here, later⟩ := List.forall_mem_cons.mp within
    have step := inductionHypothesis later
    cases counts : counted item with
    | true =>
      have wide := here counts
      simp only [tally, List.filter_cons, counts, wide, if_true, List.map_cons,
        List.sum_cons] at step ⊢
      omega
    | false =>
      cases wide : wider item <;>
        simp only [tally, List.filter_cons, counts, wide, if_true, if_false, Bool.false_eq_true,
          List.map_cons, List.sum_cons] at step ⊢ <;> omega

/-- The order of the items does not matter to a tally. -/
theorem tally_perm {items' : List ι} (perm : items.Perm items') :
    tally weight counted items = tally weight counted items' :=
  ((perm.filter counted).map weight).sum_eq

end Tally

section Entries

variable {κ : Type*} [LinearOrder κ]

/-- Give a key a counter. -/
def place (key : κ) (value : UInt64) : List (κ × UInt64) → List (κ × UInt64)
  | [] => [(key, value)]
  | (other, kept) :: rest =>
    if key < other then (key, value) :: (other, kept) :: rest
    else if key = other then (key, value) :: rest
    else (other, kept) :: place key value rest

/-- The counter of a key. -/
def find (key : κ) (entries : List (κ × UInt64)) : Option UInt64 :=
  (entries.find? (fun entry => entry.1 = key)).map Prod.snd

/-- What all counters add up to. -/
def sum (entries : List (κ × UInt64)) : Nat := (entries.map (fun entry => entry.2.toNat)).sum

variable {entries : List (κ × UInt64)} {key other : κ} {value : UInt64}

/-- The first entry is found under its own key. -/
theorem find_cons (entry : κ × UInt64) : find key (entry :: entries) =
    if entry.1 = key then some entry.2 else find key entries := by
  by_cases same : entry.1 = key <;> simp [find, same]

/-- After an entry is placed, its key has the new value and every other key the old one. -/
theorem find_place : find other (place key value entries) =
    if key = other then some value else find other entries := by
  induction entries with
  | nil => exact find_cons _
  | cons entry rest inductionHypothesis =>
    obtain ⟨first, kept⟩ := entry
    rw [place]
    split
    · exact find_cons _
    · split
      · next _ same =>
        subst same
        rw [find_cons, find_cons]
        split <;> rfl
      · next _ different =>
        rw [find_cons, find_cons, inductionHypothesis]
        by_cases here : first = other
        · subst here
          simp [different]
        · simp [here]

/-- Only the placed entry is new. -/
theorem mem_place {entry : κ × UInt64} (member : entry ∈ place key value entries) :
    entry = (key, value) ∨ entry ∈ entries := by
  induction entries with
  | nil => exact Or.inl (List.mem_singleton.mp member)
  | cons first rest inductionHypothesis =>
    rw [place] at member
    split at member
    · exact List.mem_cons.mp member
    · split at member
      · rcases List.mem_cons.mp member with new | old
        · exact Or.inl new
        · exact Or.inr (List.mem_cons_of_mem _ old)
      · rcases List.mem_cons.mp member with same | later
        · exact Or.inr (same ▸ List.mem_cons_self)
        · exact (inductionHypothesis later).imp_right (List.mem_cons_of_mem _)

/-- Placing an entry keeps the entries in the order of their keys. -/
theorem place_ordered (ordered : entries.Pairwise (fun left right => left.1 < right.1)) :
    (place key value entries).Pairwise (fun left right => left.1 < right.1) := by
  induction entries with
  | nil => exact List.pairwise_singleton _ _
  | cons first rest inductionHypothesis =>
    obtain ⟨below, later⟩ := List.pairwise_cons.mp ordered
    rw [place]
    split
    · next less =>
      refine List.pairwise_cons.mpr ⟨fun entry member => ?_, ordered⟩
      rcases List.mem_cons.mp member with rfl | behind
      · exact less
      · exact less.trans (below entry behind)
    · next notLess =>
      split
      · next same =>
        subst same
        exact List.pairwise_cons.mpr ⟨below, later⟩
      · next different =>
        refine List.pairwise_cons.mpr ⟨fun entry member => ?_, inductionHypothesis later⟩
        rcases mem_place member with rfl | behind
        · exact lt_of_le_of_ne (not_lt.mp notLess) (Ne.symm different)
        · exact below entry behind

/-- A counter is part of the sum; putting another in its place replaces that part. -/
theorem sum_place (ordered : entries.Pairwise (fun left right => left.1 < right.1)) :
    sum (place key value entries) + ((find key entries).getD 0).toNat =
      sum entries + value.toNat := by
  induction entries with
  | nil => simp [place, sum, find]
  | cons first rest inductionHypothesis =>
    obtain ⟨below, later⟩ := List.pairwise_cons.mp ordered
    have step := inductionHypothesis later
    rw [place, find_cons]
    split
    · next less =>
      have absent : find key rest = none := by
        rw [find, Option.map_eq_none_iff, List.find?_eq_none]
        intro entry member
        simpa using (less.trans (below entry member)).ne'
      rw [if_neg less.ne', absent]
      simp only [sum, List.map_cons, List.sum_cons, Option.getD_none, UInt64.toNat_zero]
      omega
    · split
      · next same =>
        subst same
        simp only [sum, List.map_cons, List.sum_cons, if_true, Option.getD_some]
        omega
      · next different =>
        rw [if_neg (Ne.symm different)]
        simp only [sum, List.map_cons, List.sum_cons] at step ⊢
        omega

/-- In an ordered list of entries a key has one entry, which is what is found under it. -/
theorem mem_iff_find (ordered : entries.Pairwise (fun left right => left.1 < right.1)) :
    (key, value) ∈ entries ↔ find key entries = some value := by
  induction entries with
  | nil => simp [find]
  | cons first rest inductionHypothesis =>
    obtain ⟨below, later⟩ := List.pairwise_cons.mp ordered
    rw [find_cons, List.mem_cons, inductionHypothesis later]
    by_cases here : first.1 = key
    · subst here
      rw [if_pos rfl, Option.some.injEq, ← inductionHypothesis later]
      constructor
      · rintro (same | behind)
        · exact congrArg Prod.snd same.symm
        · exact absurd (below _ behind) (lt_irrefl _)
      · rintro rfl
        exact Or.inl rfl
    · rw [if_neg here]
      constructor
      · rintro (same | behind)
        · exact absurd (congrArg Prod.fst same).symm here
        · exact behind
      · exact Or.inr

end Entries

end Kit.Counts

/-- An ordered map from keys to counters. -/
structure Kit.Counts (κ : Type*) [LinearOrder κ] where
  entries : List (κ × UInt64)
  ordered : entries.Pairwise (fun left right => left.1 < right.1)
deriving DecidableEq

namespace Kit.Counts

open Kit.Saturating

variable {κ : Type*} [LinearOrder κ] {values : Counts κ} {key other : κ} {value : UInt64}

/-- The map without an entry. -/
def empty : Counts κ := ⟨[], List.Pairwise.nil⟩

/-- The counter of a key, where it has one. -/
def get (values : Counts κ) (key : κ) : Option UInt64 := find key values.entries

/-- The counters of the keys that are kept. -/
def filter (values : Counts κ) (keep : κ → Bool) : Counts κ :=
  ⟨values.entries.filter (fun entry => keep entry.1), values.ordered.filter _⟩

/-- The counter of a key, zero where there is none. -/
def count (values : Counts κ) (key : κ) : UInt64 := (values.get key).getD 0

/-- Sets the counter of a key. -/
def put (values : Counts κ) (key : κ) (value : UInt64) : Counts κ :=
  ⟨place key value values.entries, place_ordered values.ordered⟩

/-- What all counters add up to. -/
def whole (values : Counts κ) : Nat := sum values.entries

/-- A counter that is set is read back, and no other changes. -/
theorem get_put : (values.put key value).get other =
    if key = other then some value else values.get other := find_place

/-- The empty map has no counter. -/
@[simp] theorem get_empty : (empty : Counts κ).get key = none := rfl

/-- Setting one counter leaves the count of another key. -/
theorem count_put_of_ne (different : key ≠ other) :
    (values.put key value).count other = values.count other := by
  rw [count, get_put, if_neg different]
  rfl

/-- What the old counter was worth is replaced by the new one in the sum over all counters.
-/
theorem whole_put : (values.put key value).whole + (values.count key).toNat =
    values.whole + value.toNat := sum_place values.ordered

/-- Maps that answer alike are the same. -/
theorem ext_get {values' : Counts κ} (same : ∀ key, values.get key = values'.get key) :
    values = values' := by
  obtain ⟨entries, ordered⟩ := values
  obtain ⟨entries', ordered'⟩ := values'
  have alike (entry : κ × UInt64) : entry ∈ entries ↔ entry ∈ entries' := by
    rw [mem_iff_find ordered, mem_iff_find ordered']
    exact Eq.congr (same entry.1) rfl
  have rearranged : entries.Perm entries' :=
    (List.perm_ext_iff_of_nodup (ordered.imp (fun less => fun same => less.ne (congrArg _ same)))
      (ordered'.imp (fun less => fun same => less.ne (congrArg _ same)))).mpr alike
  obtain rfl : entries = entries' := rearranged.eq_of_pairwise
    (fun _ _ _ _ less more => absurd less (lt_asymm more)) ordered ordered'
  rfl

variable {ι : Type*} {weight : ι → Nat} {keys : ι → List κ} {items : List ι}

/-- A key belongs to an item. -/
def belongs (keys : ι → List κ) (key : κ) (item : ι) : Bool := key ∈ keys item

/-- An item belongs to the keys it lists. -/
theorem belongs_iff {key : κ} {item : ι} : belongs keys key item = true ↔ key ∈ keys item :=
  decide_eq_true_iff

/-- A map counts for every key the weight of the items it belongs to. -/
def Tallies (weight : ι → Nat) (keys : ι → List κ) (items : List ι) (values : Counts κ) : Prop :=
  ∀ key, (values.get key).map UInt64.toNat =
    if items.any (belongs keys key) then some (tally weight (belongs keys key) items) else none

/-- The empty map tallies no items. -/
theorem Tallies.empty : Tallies weight keys [] (empty : Counts κ) := fun _ => rfl

/-- A counter, read as zero where it is absent, is the tally of its key. -/
theorem Tallies.count (tallied : Tallies weight keys items values) (key : κ) :
    (values.count key).toNat = tally weight (belongs keys key) items := by
  have here := tallied key
  rw [Counts.count]
  split at here
  · obtain ⟨value, found, exact_value⟩ := Option.map_eq_some_iff.mp here
    rw [found]
    exact exact_value
  · next absent =>
    rw [Option.map_eq_none_iff.mp here, tally, List.filter_eq_nil_iff.mpr]
    · rfl
    · simpa using absent

/-- More for a key. -/
def bump (amount : UInt64) (values : Counts κ) (key : κ) : Counts κ :=
  values.put key (values.count key + amount)

/-- Bumping raises the counter of its key and makes it if need be. -/
theorem get_bump (amount : UInt64) : (values.bump amount key).get other =
    if key = other then some (values.count other + amount) else values.get other := by
  rw [bump, get_put]
  split
  · next same => rw [same]
  · rfl

/-- Bumping one key leaves the count of another. -/
theorem count_bump_of_ne (amount : UInt64) (different : key ≠ other) :
    (values.bump amount key).count other = values.count other :=
  count_put_of_ne different

/-- More for each of several keys. -/
theorem get_foldl_bump (amount : UInt64) {several : List κ} (distinct : several.Nodup) :
    (several.foldl (bump amount) values).get key =
      if key ∈ several then some (values.count key + amount) else values.get key := by
  induction several generalizing values with
  | nil => simp
  | cons first rest inductionHypothesis =>
    obtain ⟨fresh, later⟩ := List.nodup_cons.mp distinct
    rw [List.foldl_cons, inductionHypothesis later, get_bump]
    by_cases here : first = key
    · subst here
      simp [fresh]
    · simp [here, Ne.symm here, count_bump_of_ne amount here]

/-- Where the counter has room, bumping adds the amount to the sum over all counters. -/
theorem whole_bump {amount : UInt64} (room : (values.count key).toNat + amount.toNat ≤ limit) :
    (values.bump amount key).whole = values.whole + amount.toNat := by
  have exact_sum := toNat_add_of_room room
  have moved := @whole_put _ _ values key (values.count key + amount)
  rw [exact_sum] at moved
  rw [bump]
  omega

/-- One more item: more for each of its keys. -/
theorem Tallies.step (tallied : Tallies weight keys items values) {item : ι} {amount : UInt64}
    (worth : amount.toNat = weight item) (distinct : (keys item).Nodup)
    (room : ∀ key ∈ keys item, (values.count key).toNat + amount.toNat ≤ limit) :
    Tallies weight keys (items ++ [item]) ((keys item).foldl (bump amount) values) := by
  intro key
  rw [get_foldl_bump amount distinct, List.any_append, tally_append]
  by_cases own : key ∈ keys item
  · have mine : belongs keys key item = true := decide_eq_true own
    rw [if_pos own, Option.map_some, toNat_add_of_room (room key own), tallied.count, worth]
    simp [mine]
  · have other : belongs keys key item = false := decide_eq_false own
    rw [if_neg own, tallied key]
    simp [other]

/-- Rearranged items are tallied by the same map. -/
theorem Tallies.unique {items' : List ι} {values' : Counts κ}
    (tallied : Tallies weight keys items values)
    (tallied' : Tallies weight keys items' values') (perm : items.Perm items') :
    values = values' := by
  refine ext_get (fun key => ?_)
  have same : (values.get key).map UInt64.toNat = (values'.get key).map UInt64.toNat := by
    rw [tallied key, tallied' key, perm.any_eq, tally_perm perm]
  exact Option.map_injective (fun _ _ => UInt64.toNat_inj.mp) same

end Kit.Counts
