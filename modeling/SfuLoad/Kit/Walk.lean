import Mathlib.Algebra.Ring.Nat
import Mathlib.Data.List.Induction

/-!
# Maps with a memory

A closure mapped over a list may keep something from one element for the next.
The output at a position is then the step's output on the memory that the
elements before it leave. Where the memory is the last thing of a kind, it is the
last such thing among the elements before.
-/

namespace Kit.Walk

variable {α β γ σ : Type*}

/-- Map over a list, each output made from the memory so far. -/
def walk (step : σ → α → σ × β) : σ → List α → List β
  | _, [] => []
  | memory, item :: rest => (step memory item).2 :: walk step (step memory item).1 rest

/-- The memory a list leaves. -/
def left (step : σ → α → σ × β) (memory : σ) (items : List α) : σ :=
  items.foldl (fun memory item => (step memory item).1) memory

/-- There is one output for each element. -/
@[simp] theorem length_walk (step : σ → α → σ × β) (memory : σ) (items : List α) :
    (walk step memory items).length = items.length := by
  induction items generalizing memory with
  | nil => rfl
  | cons item rest inductionHypothesis => simp [walk, inductionHypothesis]

/-- An output is the step's on its element and the memory of those before it. -/
theorem walk_getElem? (step : σ → α → σ × β) (memory : σ) (items : List α) (index : Nat) :
    (walk step memory items)[index]? =
      items[index]?.map (fun item => (step (left step memory (items.take index)) item).2) := by
  induction items generalizing memory index with
  | nil => simp [walk]
  | cons item rest inductionHypothesis =>
    cases index with
    | zero => simp [walk, left]
    | succ index => simp [walk, left, inductionHypothesis]

/-- The second half of a list is walked with the memory that the first half leaves. -/
theorem walk_append (step : σ → α → σ × β) (memory : σ) (first second : List α) :
    walk step memory (first ++ second) =
      walk step memory first ++ walk step (left step memory first) second := by
  induction first generalizing memory with
  | nil => rfl
  | cons item rest inductionHypothesis => simp [walk, left, inductionHypothesis]

/-- A memory that every element replaces is the last element's. -/
theorem left_of_replaced {step : Option γ → α → Option γ × β} {hit : α → Option γ}
    (replaces : ∀ memory item, (step memory item).1 = hit item) (items : List α) :
    left step none items = items.getLast?.bind hit := by
  induction items using List.reverseRecOn with
  | nil => rfl
  | append_singleton items item _ => simp [left, replaces]

/-- A memory that only hits replace is the last hit. -/
theorem left_of_kept {step : Option γ → α → Option γ × β} {hit : α → Option γ}
    (keeps : ∀ memory item, (step memory item).1 = (hit item).or memory) (items : List α) :
    left step none items = (items.filterMap hit).getLast? := by
  induction items using List.reverseRecOn with
  | nil => rfl
  | append_singleton items item inductionHypothesis =>
    have last : left step none (items ++ [item]) = (hit item).or (left step none items) := by
      rw [left, List.foldl_append, List.foldl_cons, List.foldl_nil, keeps]
      rfl
    rw [last, inductionHypothesis, List.filterMap_append]
    cases here : hit item <;> simp [here]

/-- Outputs that are lists of known lengths, put end to end. -/
theorem length_flatMap_walk {step : σ → α → σ × β} (outputs : β → List γ) (weight : α → Nat)
    (weighs : ∀ memory item, (outputs (step memory item).2).length = weight item) (memory : σ)
    (items : List α) :
    ((walk step memory items).flatMap outputs).length = (items.map weight).sum := by
  induction items generalizing memory with
  | nil => rfl
  | cons item rest inductionHypothesis =>
    simp [walk, weighs, inductionHypothesis]

/-- End to end, the outputs from a position on come after those before it. -/
theorem flatMap_walk_split (step : σ → α → σ × β) (outputs : β → List γ) (memory : σ)
    {items : List α} {index : Nat} {item : α} (located : items[index]? = some item) :
    (walk step memory items).flatMap outputs =
      (walk step memory (items.take index)).flatMap outputs ++
        (outputs (step (left step memory (items.take index)) item).2 ++
          (walk step (left step memory (items.take (index + 1))) (items.drop (index + 1))).flatMap
            outputs) := by
  obtain ⟨inside, rfl⟩ := List.getElem?_eq_some_iff.mp located
  have cut : items = items.take index ++ items[index] :: items.drop (index + 1) := by
    rw [List.getElem_cons_drop, List.take_append_drop]
  have next : left step memory (items.take (index + 1)) =
      (step (left step memory (items.take index)) items[index]).1 := by
    rw [List.take_succ_eq_append_getElem inside, left, List.foldl_append]
    rfl
  conv_lhs => rw [cut, walk_append, List.flatMap_append, walk, List.flatMap_cons]
  rw [next]

end Kit.Walk
