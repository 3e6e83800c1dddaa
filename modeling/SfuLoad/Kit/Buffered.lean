import Mathlib.Data.List.Basic

/-!
# Buffered readers

A buffered reader hands out what it has in buffers of any size but zero, and takes
back how much of a buffer was used. When nothing is left it reports the end of the
stream or a failure. What it still has to hand out does not depend on how it is cut
into buffers.
-/

namespace Kit.Buffered

variable {α : Type}

/-- What a reader comes to after its last item. -/
inductive Ending where
  | closed
  | failed
deriving DecidableEq

/-- A reader that is still to be read: its buffers, none of them empty, and how it ends. -/
structure Reader (α : Type) where
  buffers : List (List α)
  filled : ∀ buffer ∈ buffers, buffer ≠ []
  ending : Ending

namespace Reader

/-- All that is left. -/
def content (reader : Reader α) : List α := reader.buffers.flatten

/-- The buffer in hand; an empty one at the end of the stream. -/
def fillBuf (reader : Reader α) : Option (List α) :=
  match reader.buffers with
  | available :: _ => some available
  | [] =>
    match reader.ending with
    | .closed => some []
    | .failed => none

/-- Take items off the buffer in hand. -/
def consume (reader : Reader α) (amount : Nat) : Reader α where
  buffers :=
    match reader.buffers with
    | [] => []
    | available :: rest =>
      if amount < available.length then available.drop amount :: rest else rest
  filled := by
    obtain ⟨buffers, filled, _⟩ := reader
    cases buffers with
    | nil => exact filled
    | cons available rest =>
      have later := fun buffer member => filled buffer (List.mem_cons_of_mem available member)
      intro buffer member
      dsimp only at member
      split at member
      · next less =>
        rcases List.mem_cons.mp member with rfl | behind
        · simpa using less
        · exact later buffer behind
      · exact later buffer member
  ending := reader.ending

/-- Taking bytes leaves the end of the stream as it is. -/
@[simp] theorem consume_ending (reader : Reader α) (amount : Nat) :
    (reader.consume amount).ending = reader.ending := rfl

/-- Without a buffer left the reader has no content and says how it ends. -/
theorem fillBuf_of_empty {reader : Reader α} (done : reader.buffers = []) :
    reader.content = [] ∧
      reader.fillBuf = if reader.ending = .closed then some [] else none := by
  refine ⟨by rw [content, done]; rfl, ?_⟩
  rw [fillBuf, done]
  cases reader.ending <;> rfl

/-- A buffer is the next part of what is left, and what is used of it is taken off
the front. -/
theorem fillBuf_of_cons {reader : Reader α} {available : List α} {rest : List (List α)}
    (held : reader.buffers = available :: rest) :
    reader.fillBuf = some available ∧ available ≠ [] ∧
      reader.content = available ++ rest.flatten ∧
      ∀ amount ≤ available.length,
        (reader.consume amount).content = available.drop amount ++ rest.flatten := by
  refine ⟨by rw [fillBuf, held], ?_, by rw [content, held]; rfl, fun amount bounded => ?_⟩
  · exact reader.filled available (by rw [held]; exact List.mem_cons_self)
  · simp only [content, consume, held]
    split
    · rfl
    · next all => rw [List.drop_eq_nil_of_le (Nat.not_lt.mp all), List.nil_append]

/-- A buffer that is used up is followed by the next. -/
theorem consume_all {reader : Reader α} {available : List α} {rest : List (List α)}
    (held : reader.buffers = available :: rest) :
    (reader.consume available.length).buffers = rest := by
  simp only [consume, held, Nat.lt_irrefl, if_false]

/-- Taking items off the buffer in hand leaves less. -/
theorem consume_lt {reader : Reader α} {available : List α} {amount : Nat}
    (handed : reader.fillBuf = some available) (used : 0 < amount)
    (bounded : amount ≤ available.length) :
    (reader.consume amount).content.length < reader.content.length := by
  cases held : reader.buffers with
  | nil =>
    rw [(fillBuf_of_empty held).2] at handed
    split at handed
    · obtain rfl := Option.some.inj handed
      exact absurd bounded (Nat.not_le.mpr used)
    · cases handed
  | cons first rest =>
    obtain ⟨filled, _, whole, left⟩ := fillBuf_of_cons held
    obtain rfl : first = available := Option.some.inj (filled.symm.trans handed)
    rw [left amount bounded, whole, List.length_append, List.length_append, List.length_drop]
    omega

end Reader

section Runs

variable [DecidableEq α] {terminator : α} {items : List α}

/-- How far the first run goes: through the terminator, or to the end. -/
def reach (terminator : α) (items : List α) : Nat :=
  (items.idxOf? terminator).elim items.length (fun index => index + 1)

/-- The terminator is reached at once where it comes first, and one item later otherwise. -/
theorem reach_cons (item : α) : reach terminator (item :: items) =
    if item = terminator then 1 else reach terminator items + 1 := by
  rw [reach, List.idxOf?_cons, reach]
  by_cases same : item = terminator
  · simp [same]
  · cases items.idxOf? terminator <;> simp [same]

/-- Of a buffer that holds something at least one item is taken, so a loop over buffers makes
progress. -/
theorem reach_pos (some : items ≠ []) : 0 < reach terminator items := by
  cases items with
  | nil => exact absurd rfl some
  | cons item rest =>
    rw [reach_cons]
    split <;> exact Nat.succ_pos _

/-- No more is taken than the buffer holds. -/
theorem reach_le_length : reach terminator items ≤ items.length := by
  induction items with
  | nil => exact Nat.le_refl _
  | cons item rest inductionHypothesis =>
    rw [reach_cons, List.length_cons]
    split <;> omega

/-- Without a terminator the whole buffer is taken. -/
theorem reach_of_not_mem (absent : terminator ∉ items) :
    reach terminator items = items.length := by
  rw [reach, List.idxOf?_eq_none_iff.mpr absent]
  rfl

/-- A run without a terminator is part of a longer one. -/
theorem reach_append (absent : terminator ∉ items) (more : List α) :
    reach terminator (items ++ more) = items.length + reach terminator more := by
  induction items with
  | nil => simp
  | cons item rest inductionHypothesis =>
    have different := List.ne_of_not_mem_cons absent
    have later := List.not_mem_of_not_mem_cons absent
    rw [List.cons_append, reach_cons, if_neg different.symm, inductionHypothesis later,
      List.length_cons]
    omega

/-- The first terminator is taken along with what stands before it. -/
theorem reach_terminated {body : List α} (absent : terminator ∉ body) (rest : List α) :
    reach terminator (body ++ terminator :: rest) = body.length + 1 := by
  rw [reach_append absent, reach_cons, if_pos rfl]

omit [DecidableEq α] in

/-- What is taken of a terminated text is its first line with the terminator. -/
theorem take_terminated (body rest : List α) :
    (body ++ terminator :: rest).take (body.length + 1) = body ++ [terminator] := by
  rw [List.take_append, List.take_of_length_le (Nat.le_succ _), Nat.add_sub_cancel_left]
  rfl

omit [DecidableEq α] in

/-- What is left of a terminated text is what stands behind the terminator. -/
theorem drop_terminated (body rest : List α) :
    (body ++ terminator :: rest).drop (body.length + 1) = rest := by
  rw [List.drop_append, List.drop_of_length_le (Nat.le_succ _), Nat.add_sub_cancel_left]
  rfl

end Runs

end Kit.Buffered
