import Mathlib.Data.List.Induction

/-!
# Histories of events

A history is a list of events, the earliest first. It is lawful when every event is
allowed by those before it. A register is set, cleared or left alone by each event; its
latest value is what the last event that touched it left. What was declared stands until
the register is set to something else.
-/

namespace Kit.Histories

universe u v
variable {ε : Type u} {α : Type v}

/-- The last event is the one at which a history is split, or stands after it. -/
theorem concat_eq_split {history before after : List ε} {last event : ε}
    (split : history ++ [last] = before ++ event :: after) :
    (after = [] ∧ history = before ∧ last = event) ∨
      ∃ middle, after = middle ++ [last] ∧ history = before ++ event :: middle := by
  rcases List.eq_nil_or_concat after with rfl | ⟨middle, final, rfl⟩
  · obtain ⟨same, ends⟩ := List.append_inj' split rfl
    exact .inl ⟨rfl, same, List.singleton_inj.mp ends⟩
  · rw [List.concat_eq_append, ← List.cons_append, ← List.append_assoc] at split
    obtain ⟨same, ends⟩ := List.append_inj' split rfl
    exact .inr ⟨middle, by rw [List.concat_eq_append, ends], same⟩

/-- Every event of a history is allowed by those before it. -/
def Lawful (allowed : List ε → ε → Prop) (history : List ε) : Prop :=
  ∀ before event after, history = before ++ event :: after → allowed before event

/-- Nothing has happened yet, so nothing was forbidden. -/
theorem lawful_nil (allowed : List ε → ε → Prop) : Lawful allowed [] := by
  intro before event after split
  cases before <;> cases split

/-- A lawful history goes on with an event it allows. -/
theorem Lawful.concat {allowed : List ε → ε → Prop} {history : List ε} {event : ε}
    (lawful : Lawful allowed history) (next : allowed history event) :
    Lawful allowed (history ++ [event]) := by
  intro before other after split
  rcases concat_eq_split split with ⟨-, rfl, rfl⟩ | ⟨middle, -, rfl⟩
  · exact next
  · exact lawful before other middle rfl

/-- What a register holds after a history. An event that touches it sets or clears it. -/
def latest (effect : ε → Option (Option α)) (history : List ε) : Option α :=
  history.foldl (fun held event => (effect event).getD held) none

variable {effect : ε → Option (Option α)} {history : List ε} {event : ε} {value : α}

/-- Nothing has touched the register yet. -/
@[simp] theorem latest_nil : latest effect [] = none := rfl

/-- The last event decides, where it touches the register at all. -/
@[simp] theorem latest_concat :
    latest effect (history ++ [event]) = (effect event).getD (latest effect history) := by
  rw [latest, List.foldl_append, List.foldl_cons, List.foldl_nil, latest]

/-- A register holds what the last event to touch it has set. -/
theorem latest_eq_some : latest effect history = some value ↔
    ∃ before event after, history = before ++ event :: after ∧
      effect event = some (some value) ∧ ∀ later ∈ after, effect later = none := by
  induction history using List.reverseRecOn with
  | nil => simp
  | append_singleton history last inductionHypothesis =>
    rw [latest_concat]
    cases touched : effect last with
    | some held =>
      constructor
      · intro found
        exact ⟨history, last, [], rfl, touched.trans (congrArg some found), by simp⟩
      · rintro ⟨before, event, after, split, set, untouched⟩
        rcases concat_eq_split split with ⟨-, -, rfl⟩ | ⟨middle, rfl, -⟩
        · exact Option.some.inj (touched.symm.trans set)
        · rw [untouched last (by simp)] at touched
          cases touched
    | none =>
      refine inductionHypothesis.trans ⟨?_, ?_⟩
      · rintro ⟨before, event, after, rfl, set, untouched⟩
        refine ⟨before, event, after ++ [last], by simp, set, fun later member => ?_⟩
        rcases List.mem_append.mp member with earlier | final
        · exact untouched later earlier
        · rw [List.mem_singleton.mp final, touched]
      · rintro ⟨before, event, after, split, set, untouched⟩
        rcases concat_eq_split split with ⟨-, -, rfl⟩ | ⟨middle, rfl, rfl⟩
        · rw [touched] at set
          cases set
        · exact ⟨before, event, middle, rfl, set, fun later member =>
            untouched later (by simp [member])⟩

section Standing

variable {ι : Type*} {effect : ε → Option (Option α)} {declares : ε → Option ι} {item : ι}
  {history : List ε} {event : ε}

/-- An item has been declared, and the register has been set to nothing else since. -/
def Standing (effect : ε → Option (Option α)) (declares : ε → Option ι) (item : ι)
    (history : List ε) : Prop :=
  ∃ before declaration after, history = before ++ declaration :: after ∧
    declares declaration = some item ∧
    ∀ later ∈ after, ∀ value, effect later = some value → value = latest effect before

/-- A register that is set to nothing else holds what it held. -/
theorem latest_append_of_kept {before after : List ε}
    (kept : ∀ later ∈ after, ∀ value, effect later = some value → value = latest effect before) :
    latest effect (before ++ after) = latest effect before := by
  induction after using List.reverseRecOn with
  | nil => rw [List.append_nil]
  | append_singleton after last inductionHypothesis =>
    have earlier := inductionHypothesis fun later member => kept later (by simp [member])
    rw [← List.append_assoc, latest_concat, earlier]
    cases touched : effect last with
    | none => rfl
    | some value => exact kept last (by simp) value touched

/-- What has just been declared stands. -/
theorem standing_declared (declared : declares event = some item) :
    Standing effect declares item (history ++ [event]) :=
  ⟨history, event, [], rfl, declared, by simp⟩

/-- After another event a declaration stands if it stood and the register holds the same. -/
theorem standing_concat_iff (apart : ∀ event item, declares event = some item → effect event = none)
    (other : declares event ≠ some item) :
    Standing effect declares item (history ++ [event]) ↔ Standing effect declares item history ∧
      ∀ value, effect event = some value → value = latest effect history := by
  have holds {before after : List ε} {declaration : ε} (declared : declares declaration = some item)
      (kept : ∀ later ∈ after, ∀ value, effect later = some value → value = latest effect before) :
      latest effect (before ++ declaration :: after) = latest effect before := by
    refine latest_append_of_kept fun later member value touched => ?_
    rcases List.mem_cons.mp member with rfl | behind
    · rw [apart _ _ declared] at touched
      cases touched
    · exact kept later behind value touched
  constructor
  · rintro ⟨before, declaration, after, split, declared, kept⟩
    rcases concat_eq_split split with ⟨-, -, rfl⟩ | ⟨middle, rfl, rfl⟩
    · exact absurd declared other
    · have earlier : ∀ later ∈ middle, ∀ value, effect later = some value →
          value = latest effect before := fun later member => kept later (by simp [member])
      refine ⟨⟨before, declaration, middle, rfl, declared, earlier⟩, fun value touched => ?_⟩
      rw [holds declared earlier]
      exact kept event (by simp) value touched
  · rintro ⟨⟨before, declaration, after, rfl, declared, kept⟩, same⟩
    rw [holds declared kept] at same
    refine ⟨before, declaration, after ++ [event], by simp, declared, fun later member => ?_⟩
    rcases List.mem_append.mp member with earlier | last
    · exact kept later earlier
    · rw [List.mem_singleton.mp last]
      exact same

end Standing

end Kit.Histories
