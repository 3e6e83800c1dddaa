import Mathlib.Algebra.BigOperators.Group.Finset.Basic
import Mathlib.Algebra.BigOperators.Ring.Finset
import Mathlib.Algebra.BigOperators.Ring.List
import Mathlib.Algebra.Group.Action.Defs
import Mathlib.Algebra.Order.BigOperators.Group.Finset
import Mathlib.Data.List.Nodup

/-!
# Everyone but oneself

Members of a group are numbered from zero and the first few of them offer
something to all others. Each member may choose one of the offers it sees. The
double counts below add up, over all members, the offers seen and the offers
chosen.
-/

namespace Kit.Others

/-- The first `count` numbers without one's own. -/
def others (count self : Nat) : List Nat := (List.range count).filter (· ≠ self)

/-- The others are the members that are not oneself. -/
theorem mem_others (count self other : Nat) : other ∈ others count self ↔
    other < count ∧ other ≠ self := by
  simp [others]

/-- Nobody is listed twice. -/
theorem others_nodup (count self : Nat) : (others count self).Nodup :=
  List.nodup_range.filter _

/-- Only members among the first `count` leave themselves out. -/
theorem length_others (count self : Nat) :
    (others count self).length + (if self < count then 1 else 0) = count := by
  induction count with
  | zero => simp [others]
  | succ count inductionHypothesis =>
    have grown : others (count + 1) self =
        others count self ++ if count = self then [] else [count] := by
      by_cases own : count = self <;> simp [others, List.range_succ, own]
    rw [grown, List.length_append]
    split at inductionHypothesis <;> split <;> split <;> simp <;> omega

/-- A value for each of the first `count` members adds up `count` times. -/
theorem sum_first {members count : Nat} (inside : count ≤ members) (value : Nat) :
    ∑ self ∈ Finset.range members, (if self < count then value else 0) = count * value := by
  have initial : (Finset.range members).filter (· < count) = Finset.range count := by
    ext self
    simp only [Finset.mem_filter, Finset.mem_range]
    omega
  rw [← Finset.sum_filter, initial, Finset.sum_const, Finset.card_range, smul_eq_mul]

/-- All offers seen by all members: each of `count` offers is seen by everyone
but its owner. -/
theorem sum_length_others {members count : Nat} (inside : count ≤ members) :
    ((List.range members).map (fun self => (others count self).length)).sum =
      count * (members - 1) := by
  have owners := sum_first inside 1
  have total : ∑ self ∈ Finset.range members,
      ((others count self).length + if self < count then 1 else 0) = members * count := by
    simp only [length_others, Finset.sum_const, Finset.card_range, smul_eq_mul]
  rw [Finset.sum_add_distrib, owners] at total
  change ∑ self ∈ Finset.range members, (others count self).length = _
  rw [Nat.mul_sub, Nat.mul_one, Nat.mul_comm count members]
  omega

/-- Weigh the chosen offer differently from the rest. -/
theorem sum_chosen {seen : List Nat} (distinct : seen.Nodup) {chosen : Option Nat}
    (among : ∀ offer, chosen = some offer → offer ∈ seen) (chosenWeight otherWeight : Nat) :
    (seen.map (fun offer => if chosen = some offer then chosenWeight else otherWeight)).sum =
      chosen.toList.length * chosenWeight + (seen.length - chosen.toList.length) * otherWeight := by
  cases chosen with
  | none => simp
  | some offer =>
    have member := among offer rfl
    obtain ⟨front, back, rfl⟩ := List.append_of_mem member
    have absent : offer ∉ front ∧ offer ∉ back := by
      rw [List.nodup_append] at distinct
      refine ⟨fun inside => ?_, ?_⟩
      · exact distinct.2.2 offer inside offer (by simp) rfl
      · exact (List.nodup_cons.mp distinct.2.1).1
    have plain (part : List Nat) (missing : offer ∉ part) :
        (part.map (fun other => if some offer = some other then chosenWeight else otherWeight)).sum =
          part.length * otherWeight := by
      have constant : part.map
          (fun other => if some offer = some other then chosenWeight else otherWeight) =
            part.map (fun _ => otherWeight) := by
        refine List.map_congr_left (fun other inside => if_neg fun same => ?_)
        exact missing (Option.some.inj same ▸ inside)
      rw [constant, List.map_const', List.sum_replicate, smul_eq_mul]
    simp only [List.map_append, List.map_cons, List.sum_append, List.sum_cons, plain front absent.1,
      plain back absent.2, if_true, List.length_append, List.length_cons, Option.toList_some,
      List.length_nil]
    rw [show front.length + (back.length + 1) - (0 + 1) = front.length + back.length by omega,
      Nat.add_mul front.length]
    omega

/-- Summed over all members, chosen and unchosen offers separate. -/
theorem sum_sum_chosen {members count : Nat} (inside : count ≤ members)
    (chosen : Nat → Option Nat)
    (among : ∀ self offer, chosen self = some offer → offer ∈ others count self)
    (chosenWeight otherWeight : Nat) :
    ((List.range members).map (fun self => ((others count self).map
      (fun offer => if chosen self = some offer then chosenWeight else otherWeight)).sum)).sum =
      ((List.range members).map (fun self => (chosen self).toList.length)).sum * chosenWeight +
      (count * (members - 1) -
        ((List.range members).map (fun self => (chosen self).toList.length)).sum) * otherWeight := by
  have each (self : Nat) : ((others count self).map
      (fun offer => if chosen self = some offer then chosenWeight else otherWeight)).sum =
        (chosen self).toList.length * chosenWeight +
          ((others count self).length - (chosen self).toList.length) * otherWeight :=
    sum_chosen (others_nodup count self) (among self) _ _
  have within (self : Nat) : (chosen self).toList.length ≤ (others count self).length := by
    cases picked : chosen self with
    | none => simp
    | some offer => exact List.length_pos_of_mem (among self offer picked)
  have seen := sum_length_others inside
  change ∑ self ∈ Finset.range members, _ = (∑ self ∈ Finset.range members, _) * _ +
    (_ - ∑ self ∈ Finset.range members, _) * _
  change ∑ self ∈ Finset.range members, _ = _ at seen
  simp only [each]
  rw [Finset.sum_add_distrib, ← Finset.sum_mul, ← Finset.sum_mul,
    Finset.sum_tsub_distrib _ (fun self _ => within self), seen]

end Kit.Others
