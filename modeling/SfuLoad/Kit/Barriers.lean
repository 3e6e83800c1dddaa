import Mathlib.Data.Fintype.Basic
import Mathlib.Data.Finset.Insert

/-!
# Reusable barriers

A barrier releases one generation after the other, each only once every party has
arrived at it, and elects one leader in each. A party that waits again and again
enters its waits and leaves them in turn. Who keeps to that stays in step with the
barrier, so leaving a wait means that every party has entered it.
-/

namespace Kit.Barriers

/-- The leaders of the generations that were released, and who has arrived at the
present one. -/
structure Barrier (Party : Type*) where
  leaders : List Party
  arrived : Finset Party

variable {Party : Type*}

namespace Barrier

/-- A fresh barrier: no generation has been released and nobody has arrived. -/
def new : Barrier Party := ⟨[], ∅⟩

/-- The generation an arrival now counts for. -/
def generation (self : Barrier Party) : Nat := self.leaders.length

/-- Whether a party was elected in a generation. -/
def Elects (self : Barrier Party) (generation : Nat) (party : Party) : Prop :=
  self.leaders[generation]? = some party

/-- Whether a party leads a generation can be decided, so that a run can be evaluated. -/
instance [DecidableEq Party] (self : Barrier Party) (generation : Nat) (party : Party) :
    Decidable (self.Elects generation party) :=
  inferInstanceAs (Decidable (self.leaders[generation]? = some party))

/-- A party arrives. Arriving twice in one generation changes nothing. -/
def arrive [DecidableEq Party] (self : Barrier Party) (party : Party) : Barrier Party :=
  { self with arrived := insert party self.arrived }

/-- Release the present generation, once everyone is there. -/
def release [DecidableEq Party] [Fintype Party] (self : Barrier Party) (leader : Party) :
    Option (Barrier Party) :=
  if self.arrived = Finset.univ then some ⟨self.leaders ++ [leader], ∅⟩ else none

end Barrier

/-- Somebody was elected in a released generation. -/
theorem exists_elected {barrier : Barrier Party} {generation : Nat}
    (released : generation < barrier.generation) :
    ∃ leader, barrier.Elects generation leader :=
  ⟨barrier.leaders.get ⟨generation, released⟩, List.getElem?_eq_getElem released⟩

variable [DecidableEq Party] {barrier next : Barrier Party} {party other : Party}
  {entered left : Nat}

/-- A party that has entered and left so many waits: it has entered those of the
generations before, and the present one if it has arrived. -/
structure InStep (barrier : Barrier Party) (party : Party) (entered left : Nat) : Prop where
  entered : entered = barrier.generation + if party ∈ barrier.arrived then 1 else 0
  left : left ≤ barrier.generation

/-- An arrival releases nothing. -/
@[simp] theorem arrive_generation : (barrier.arrive party).generation = barrier.generation := rfl

/-- An arrival elects nobody. -/
@[simp] theorem arrive_elects {generation : Nat} :
    (barrier.arrive party).Elects generation other ↔ barrier.Elects generation other := Iff.rfl

namespace InStep

/-- Nobody has entered or left a fresh barrier, so everybody is in step with it. -/
theorem new : InStep (Barrier.new : Barrier Party) party 0 0 :=
  ⟨by simp [Barrier.new, Barrier.generation], Nat.zero_le _⟩

/-- Nobody is a generation behind. -/
theorem reached (inStep : InStep barrier party entered left) : barrier.generation ≤ entered := by
  rw [inStep.entered]
  exact Nat.le_add_right _ _

/-- A party that has left all its waits has not arrived at the present generation,
which its next wait is for. -/
theorem present (inStep : InStep barrier party entered entered) :
    party ∉ barrier.arrived ∧ barrier.generation = entered := by
  have generation := inStep.entered
  have left := inStep.left
  split_ifs at generation with arrived
  · omega
  · exact ⟨arrived, generation.symm⟩

/-- A wait that one party has left, every party has entered. -/
theorem rendezvous {otherEntered otherLeft : Nat} (inStep : InStep barrier party entered left)
    (others : InStep barrier other otherEntered otherLeft) : left ≤ otherEntered :=
  Nat.le_trans inStep.left others.reached

/-- A party that has left all it entered may enter once more. -/
theorem arrive (inStep : InStep barrier party entered entered) :
    InStep (barrier.arrive party) party (entered + 1) entered := by
  obtain ⟨_, generation⟩ := inStep.present
  constructor
  · simp only [Barrier.arrive, Finset.mem_insert_self, if_true, Barrier.generation]
    rw [← generation, Barrier.generation]
  · exact Nat.le_of_eq generation.symm

/-- The arrival of one party moves no other. -/
theorem arrive_other (inStep : InStep barrier other entered left) (distinct : other ≠ party) :
    InStep (barrier.arrive party) other entered left := by
  constructor
  · rw [inStep.entered]
    simp only [Barrier.arrive, Finset.mem_insert, distinct, false_or, Barrier.generation]
  · exact inStep.left

/-- What is released may be left. -/
theorem leave (inStep : InStep barrier party entered left) {later : Nat}
    (released : later ≤ barrier.generation) : InStep barrier party entered later :=
  ⟨inStep.entered, released⟩

variable [Fintype Party]

/-- A release takes everyone to have arrived. -/
theorem everyone_arrived (inStep : InStep barrier party entered left)
    (released : barrier.release other = some next) : entered = barrier.generation + 1 := by
  unfold Barrier.release at released
  split_ifs at released with everyone
  simpa [everyone] using inStep.entered

/-- A release that another party leads keeps a party in step, whether it has already left the
wait or is still inside. -/
theorem release (inStep : InStep barrier party entered left)
    (released : barrier.release other = some next) : InStep next party entered left := by
  have generation := inStep.everyone_arrived released
  unfold Barrier.release at released
  split_ifs at released
  obtain rfl := Option.some.inj released
  constructor
  · simpa [Barrier.generation] using generation
  · exact Nat.le_trans inStep.left (by simp [Barrier.generation])

end InStep

section
variable [Fintype Party]

/-- Each release counts one generation up. -/
theorem release_generation (released : barrier.release party = some next) :
    next.generation = barrier.generation + 1 := by
  unfold Barrier.release at released
  split_ifs at released
  obtain rfl := Option.some.inj released
  simp [Barrier.generation]

/-- An election is for the released generation, and leaves those before alone. -/
theorem release_elects (released : barrier.release party = some next) {generation : Nat} :
    next.Elects generation other ↔
      barrier.Elects generation other ∨ generation = barrier.generation ∧ other = party := by
  unfold Barrier.release at released
  split_ifs at released
  obtain rfl := Option.some.inj released
  simp only [Barrier.Elects, Barrier.generation]
  rcases Nat.lt_trichotomy generation barrier.leaders.length with before | rfl | after
  · rw [List.getElem?_append_left before]
    constructor
    · exact Or.inl
    · rintro (elected | ⟨same, _⟩)
      · exact elected
      · omega
  · simp [eq_comm]
  · simp only [List.getElem?_append_right (Nat.le_of_lt after),
      List.getElem?_eq_none (Nat.le_of_lt after)]
    constructor
    · intro elected
      have bound := (List.getElem?_eq_some_iff.mp elected).1
      simp only [List.length_singleton] at bound
      omega
    · rintro (elected | ⟨same, _⟩)
      · cases elected
      · omega

end

end Kit.Barriers
