import Mathlib.Logic.Basic

/-!
# Results of parts, and the one result made of them

A computation with several parts that can each fail ends with one result. The
combined result succeeds exactly when every part does, and where a part failed the
final failure still shows that part's own. Which failures show which is a relation of
the caller's, with the join that keeps both sides.
-/

namespace Kit.Outcomes

universe u
variable {ε α β γ : Type u}

/-- Both results, with the first one's value. Two failures are joined. -/
def combine (join : ε → ε → ε) : Except ε α → Except ε β → Except ε α
  | .ok value, .ok _ => .ok value
  | .error failure, .ok _ => .error failure
  | .ok _, .error failure => .error failure
  | .error first, .error second => .error (join first second)

/-- The combined result is a value exactly when both parts succeed. -/
theorem combine_eq_ok {join : ε → ε → ε} {first : Except ε α} {second : Except ε β} {value : α} :
    combine join first second = .ok value ↔
      first = .ok value ∧ ∃ other, second = .ok other := by
  cases first <;> cases second <;> simp [combine]

/-- A second part that succeeds changes nothing. -/
@[simp] theorem combine_ok (join : ε → ε → ε) (first : Except ε α) (other : β) :
    combine join first (.ok other) = first := by
  cases first <;> rfl

/-- A relation between failures under which a joined failure shows both its sides. -/
structure Keeps (join : ε → ε → ε) (shows : ε → ε → Prop) : Prop where
  refl : ∀ failure, shows failure failure
  trans : ∀ {final middle part}, shows final middle → shows middle part → shows final part
  left : ∀ first second, shows (join first second) first
  right : ∀ first second, shows (join first second) second

/-- When the part failed, the final result failed too and shows the part's failure. -/
def Reports (shows : ε → ε → Prop) (final : Except ε α) (part : Except ε β) : Prop :=
  ∀ failure, part = .error failure → ∃ shown, final = .error shown ∧ shows shown failure

section

variable {join : ε → ε → ε} {shows : ε → ε → Prop}

/-- A result that succeeded reports only parts that succeeded. -/
theorem Reports.ok {final : Except ε α} {part : Except ε β} {value : α}
    (reports : Reports shows final part) (succeeded : final = .ok value) :
    ∃ other, part = .ok other := by
  cases part with
  | ok other => exact ⟨other, rfl⟩
  | error failure =>
    obtain ⟨shown, failed, -⟩ := reports failure rfl
    rw [failed] at succeeded
    cases succeeded

/-- Of a part that succeeded there is nothing to show. -/
theorem Reports.of_ok (final : Except ε α) (other : β) :
    Reports shows final (.ok other : Except ε β) := by
  intro failure failed
  cases failed

/-- A failure reports the same failure of another computation. -/
theorem Reports.of_error (keeps : Keeps join shows) (failure : ε) :
    Reports shows (.error failure : Except ε α) (.error failure : Except ε β) := by
  intro same failed
  obtain rfl := Except.error.inj failed
  exact ⟨failure, rfl, keeps.refl failure⟩

/-- What is shown of a part in the middle is shown in the end, since showing is kept. -/
theorem Reports.trans (keeps : Keeps join shows) {final : Except ε α} {middle : Except ε β}
    {part : Except ε γ} (outer : Reports shows final middle) (inner : Reports shows middle part) :
    Reports shows final part := by
  intro failure failed
  obtain ⟨between, middleFailed, shown⟩ := inner failure failed
  obtain ⟨last, finalFailed, last_shows⟩ := outer between middleFailed
  exact ⟨last, finalFailed, keeps.trans last_shows shown⟩

/-- The combination shows a failure of its first part. -/
theorem combine_reports_first (keeps : Keeps join shows) (first : Except ε α)
    (second : Except ε β) : Reports shows (combine join first second) first := by
  intro failure failed
  subst failed
  cases second with
  | ok other => exact ⟨failure, rfl, keeps.refl failure⟩
  | error also => exact ⟨join failure also, rfl, keeps.left failure also⟩

/-- It shows a failure of its second part as well, alone or joined. -/
theorem combine_reports_second (keeps : Keeps join shows) (first : Except ε α)
    (second : Except ε β) : Reports shows (combine join first second) second := by
  intro failure failed
  subst failed
  cases first with
  | ok value => exact ⟨failure, rfl, keeps.refl failure⟩
  | error run => exact ⟨join run failure, rfl, keeps.right run failure⟩

end

end Kit.Outcomes
