import Mathlib.Data.List.Basic
import Mathlib.Data.List.Forall2

/-!
# Computations that answer or fail with a message

Fallible code returns a value or a message. A sequence of fallible steps
succeeds exactly when each step does, so a completed sequence can be peeled into
its steps' results without unfolding any of them.
-/

namespace Kit.Fallible

universe u v
variable {α : Type u} {β : Type v}

/-- Continue when the condition holds; otherwise fail with the message. -/
def ensure (condition : Prop) [Decidable condition] (message : String) : Except String Unit :=
  if condition then .ok () else .error message

/-- The present value, or a failure with the message. -/
def context (value : Option α) (message : String) : Except String α :=
  match value with
  | some present => .ok present
  | none => .error message

/-- A completed sequence is a completed first step and a completed rest. -/
theorem bind_eq_ok {ε : Type v} {γ : Type u} {δ : Type u} (first : Except ε γ)
    (rest : γ → Except ε δ) (result : δ) :
    (first >>= rest) = .ok result ↔ ∃ value, first = .ok value ∧ rest value = .ok result := by
  cases first with
  | error failure => simp [bind, Except.bind]
  | ok value => simp [bind, Except.bind]

/-- A step that has answered hands its answer on. -/
@[simp] theorem ok_bind {ε : Type v} {γ : Type u} {δ : Type u} (value : γ)
    (rest : γ → Except ε δ) : ((.ok value : Except ε γ) >>= rest) = rest value := rfl

/-- After a step that has failed nothing is run. -/
@[simp] theorem error_bind {ε : Type v} {γ : Type u} {δ : Type u} (failure : ε)
    (rest : γ → Except ε δ) : ((.error failure : Except ε γ) >>= rest) = .error failure := rfl

/-- A check passes exactly when its condition holds. -/
@[simp] theorem ensure_eq_ok (condition : Prop) [Decidable condition] (message : String)
    (result : Unit) : ensure condition message = .ok result ↔ condition := by
  by_cases holds : condition <;> simp [ensure, holds]

/-- A condition that holds passes its check, whatever the message. -/
theorem ensure_of_holds {condition : Prop} [Decidable condition] (message : String)
    (holds : condition) : ensure condition message = .ok () := by
  simp [ensure, holds]

/-- A missing value is a failure; a present one is the answer. -/
@[simp] theorem context_eq_ok (value : Option α) (message : String) (result : α) :
    context value message = .ok result ↔ value = some result := by
  cases value <;> simp [context]

/-- A present value passes, whatever the message. -/
@[simp] theorem context_some (value : α) (message : String) :
    context (some value) message = .ok value := rfl

/-- A loop whose passes all answer answers with all their results, in order. -/
theorem mapM_of_each {ε : Type v} {answer : α → β → Prop} {step : α → Except ε β} {items : List α}
    (each : ∀ item ∈ items, ∃ result, step item = .ok result ∧ answer item result) :
    ∃ results, items.mapM step = .ok results ∧ List.Forall₂ answer items results := by
  induction items with
  | nil => exact ⟨[], rfl, .nil⟩
  | cons item rest inductionHypothesis =>
    obtain ⟨result, answered, fits⟩ := each item (by simp)
    obtain ⟨results, looped, allFit⟩ :=
      inductionHypothesis (fun other member => each other (by simp [member]))
    refine ⟨result :: results, ?_, .cons fits allFit⟩
    rw [List.mapM_cons, answered, ok_bind, looped]
    rfl

/-- Of two related lists, the second has a match for each element of the first. -/
theorem exists_of_forall₂ {related : α → β → Prop} {items : List α} {results : List β}
    (pairs : List.Forall₂ related items results) {item : α} (member : item ∈ items) :
    ∃ result ∈ results, related item result := by
  induction pairs with
  | nil => exact absurd member (by simp)
  | cons head rest inductionHypothesis =>
    rcases List.mem_cons.mp member with rfl | later
    · exact ⟨_, by simp, head⟩
    · obtain ⟨result, among, fits⟩ := inductionHypothesis later
      exact ⟨result, by simp [among], fits⟩

/-- A completed loop answered every pass. -/
theorem forall₂_of_mapM {ε : Type v} {step : α → Except ε β} {items : List α} {results : List β}
    (looped : items.mapM step = .ok results) :
    List.Forall₂ (fun item result => step item = .ok result) items results := by
  induction items generalizing results with
  | nil =>
    obtain rfl : [] = results := by simpa [pure, Except.pure] using looped
    exact .nil
  | cons item rest inductionHypothesis =>
    rw [List.mapM_cons, bind_eq_ok] at looped
    obtain ⟨result, answered, looped⟩ := looped
    obtain ⟨later, rested, kept⟩ := (bind_eq_ok _ _ _).mp looped
    obtain rfl : result :: later = results := by simpa [pure, Except.pure] using kept
    exact .cons answered (inductionHypothesis rested)

/-- What a completed loop collected is the answer to one of the items. -/
theorem exists_of_mapM {ε : Type v} {step : α → Except ε β} {items : List α} {results : List β}
    (looped : items.mapM step = .ok results) {result : β} (member : result ∈ results) :
    ∃ item ∈ items, step item = .ok result :=
  exists_of_forall₂ (forall₂_of_mapM looped).flip member

/-- What the items determine about their results can be read off the items. -/
theorem map_eq_of_forall₂ {α β γ : Type*} {related : α → β → Prop} {items : List α}
    {results : List β} (left : α → γ) (right : β → γ) (pairs : List.Forall₂ related items results)
    (same : ∀ item ∈ items, ∀ result, related item result → right result = left item) :
    results.map right = items.map left := by
  induction pairs with
  | nil => rfl
  | cons first rest inductionHypothesis =>
    have tail := inductionHypothesis (fun item member => same item (by simp [member]))
    rw [List.map_cons, List.map_cons, same _ (by simp) _ first, tail]

/-- The results of numbered items, looked up by number. -/
theorem forall₂_range_getElem? {related : Nat → β → Prop} {count : Nat} {results : List β}
    (pairs : List.Forall₂ related (List.range count) results) {index : Nat} {result : β}
    (located : results[index]? = some result) : index < count ∧ related index result := by
  obtain ⟨sizes, each⟩ := List.forall₂_iff_get.mp pairs
  obtain ⟨inside, rfl⟩ := List.getElem?_eq_some_iff.mp located
  rw [List.length_range] at sizes
  have here := each index (by rw [List.length_range]; omega) inside
  rw [List.get_eq_getElem, List.getElem_range] at here
  exact ⟨by omega, here⟩

/-- A loop that pushes at most one result per pass, when every pass answers. -/
theorem filterMapM_of_each {ε : Type v} {step : α → Except ε (Option β)} {result : α → Option β}
    {items : List α} (each : ∀ item ∈ items, step item = .ok (result item)) :
    items.filterMapM step = .ok (items.filterMap result) := by
  induction items with
  | nil => rfl
  | cons item rest inductionHypothesis =>
    have looped := inductionHypothesis (fun other member => each other (by simp [member]))
    rw [List.filterMapM_cons, each item (by simp), ok_bind, looped]
    cases pushed : result item with
    | none => simp [pushed]
    | some value => simp [pushed]

/-- What every pass keeps, a loop keeps. -/
theorem foldlM_keeps {ε : Type v} {σ : Type u} {step : σ → α → Except ε σ} {kept : σ → Prop}
    (each : ∀ state item next, kept state → step state item = .ok next → kept next) {state : σ}
    (begun : kept state) {items : List α} {final : σ}
    (looped : items.foldlM step state = .ok final) : kept final := by
  induction items generalizing state with
  | nil => exact Except.ok.inj looped ▸ begun
  | cons item rest inductionHypothesis =>
    rw [List.foldlM_cons] at looped
    obtain ⟨next, stepped, rested⟩ := (bind_eq_ok _ _ _).mp looped
    exact inductionHypothesis (each state item next begun stepped) rested

/-- A loop over numbered items whose state is a function of the items it has
passed completes exactly on the lists it accepts. -/
theorem foldlM_zipIdx_iff {ε : Type v} {σ : Type u} {step : σ → α × Nat → Except ε σ}
    {state : List α → σ} {accepted : List α → Prop}
    (closed : ∀ passed more, accepted (passed ++ more) → accepted passed)
    (each : ∀ passed item next, accepted passed →
      (step (state passed) (item, passed.length) = .ok next ↔
        accepted (passed ++ [item]) ∧ next = state (passed ++ [item])))
    {passed : List α} (begun : accepted passed) (items : List α) (final : σ) :
    (items.zipIdx passed.length).foldlM step (state passed) = .ok final ↔
      accepted (passed ++ items) ∧ final = state (passed ++ items) := by
  induction items generalizing passed with
  | nil =>
    rw [List.append_nil]
    exact ⟨fun done => ⟨begun, (Except.ok.inj done).symm⟩, fun done => congrArg _ done.2.symm⟩
  | cons item rest inductionHypothesis =>
    have shape : passed ++ item :: rest = (passed ++ [item]) ++ rest := by simp
    have count : passed.length + 1 = (passed ++ [item]).length := by simp
    rw [List.zipIdx_cons, List.foldlM_cons, bind_eq_ok, shape, count]
    constructor
    · rintro ⟨next, stepped, rested⟩
      obtain ⟨further, rfl⟩ := (each passed item next begun).mp stepped
      exact (inductionHypothesis further).mp rested
    · rintro ⟨whole, rfl⟩
      have further := closed _ _ whole
      exact ⟨_, (each passed item _ begun).mpr ⟨further, rfl⟩,
        (inductionHypothesis further).mpr ⟨whole, rfl⟩⟩

/-- A loop whose state is a function of the items passed runs through exactly when the items
are accepted, and then ends in the state of all of them. Acceptance has to hold of every
prefix, since the loop stops at the first item it refuses. -/
theorem foldlM_iff {ε : Type v} {σ : Type u} {step : σ → α → Except ε σ}
    {state : List α → σ} {accepted : List α → Prop}
    (closed : ∀ passed more, accepted (passed ++ more) → accepted passed)
    (each : ∀ passed item next, accepted passed →
      (step (state passed) item = .ok next ↔
        accepted (passed ++ [item]) ∧ next = state (passed ++ [item])))
    (begun : accepted []) (items : List α) (final : σ) :
    items.foldlM step (state []) = .ok final ↔ accepted items ∧ final = state items := by
  have numbered := @foldlM_zipIdx_iff _ _ _ (fun state item => step state item.1) _ _ closed each
    [] begun items final
  rwa [← @List.foldlM_map, List.zipIdx_map_fst] at numbered

end Kit.Fallible
