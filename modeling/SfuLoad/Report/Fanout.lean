import SfuLoad.Report.Crossing

/-!
# The fanout series and the counter series

Both closures walk the samples with the previous reading in memory. The counter
closure forgets it at a sample without its counter, and notes a start for every
sample. The fanout closure leaves early at such a sample: it keeps the older
reading and notes nothing. The two are in step exactly when no sample lacks a
fanout counter and no quotient outgrows its 64 bits.
-/

namespace SfuLoad.Report

open Kit.Saturating Kit.Walk

/-- The readings of a sample and of the one immediately before it. -/
def adjacentReadings (samples : List TelemetrySample) :
    Nat → Option (FanoutReading × FanoutReading)
  | 0 => none
  | previous + 1 => do
      let prior ← samples[previous]? >>= fanoutReading
      let current ← samples[previous + 1]? >>= fanoutReading
      return (prior, current)

/-- Time and ingress grow between two readings, and nothing was forwarded back. -/
def Grows (prior current : FanoutReading) : Prop :=
  prior.elapsedMs < current.elapsedMs ∧ prior.ingress < current.ingress ∧
    prior.forwarded ≤ current.forwarded

/-- The exact multiplier between two readings, in thousandths. -/
def exactFanout (prior current : FanoutReading) : Nat :=
  1000 * (current.forwarded.toNat - prior.forwarded.toNat) /
    (current.ingress.toNat - prior.ingress.toNat)

/-- The fanout series takes each value from its own sample and the one before,
and notes one start for every sample. -/
structure InStep (samples : List TelemetrySample) : Prop where
  values : ∀ index point, (fanoutSeries samples).values[index]? = some (some point) ↔
    ∃ prior current, adjacentReadings samples index = some (prior, current) ∧
      Grows prior current ∧ point.1 = current.elapsedMs ∧
      point.2.toNat = exactFanout prior current
  counters : ∀ name color scale (index : Nat),
    (counterSeries name color samples TelemetrySample.ingressPackets scale).values[index]? =
        some none ∨
      (counterSeries name color samples TelemetrySample.forwardedPackets scale).values[index]? =
        some none →
    (fanoutSeries samples).values[index]? = some none
  starts : ∃ starts, (fanoutSeries samples).intervalStartsMs = some starts ∧
    starts.length = samples.length ∧
    ∀ index startMs, starts[index]? = some (some startMs) ↔
      (∃ point, (fanoutSeries samples).values[index]? = some (some point)) ∧
        precedingTime samples index = some startMs

/-- Every sample carries both counters. -/
def Counted (samples : List TelemetrySample) : Prop :=
  ∀ sample ∈ samples, (fanoutReading sample).isSome

/-- The multiplier of every growing adjacent pair fits its 64 bits. -/
def Representable (samples : List TelemetrySample) : Prop :=
  ∀ index prior current, adjacentReadings samples index = some (prior, current) →
    Grows prior current → exactFanout prior current < 2 ^ 64

variable {samples : List TelemetrySample}

/-- A clamped quotient is the lesser of itself and the greatest word. -/
theorem clamped_toNat (quotient : Nat) : (clamped quotient).toNat = min quotient limit := by
  rw [clamped]
  exact toNat_ofNat_of_fits (Nat.min_le_right _ _)

/-- Two readings make a value when they grow, and it is their clamped multiplier. -/
theorem fanoutPoint_eq_some_iff (prior current : FanoutReading) (point : UInt64 × UInt64) :
    fanoutPoint prior current = some point ↔ Grows prior current ∧
      point = (current.elapsedMs, clamped (exactFanout prior current)) := by
  have made := fanoutPoint_isSome_iff prior current
  by_cases grows : Grows prior current
  · obtain ⟨later, more, kept⟩ := grows
    obtain ⟨value, present⟩ := Option.isSome_iff_exists.mp (made.mpr ⟨later, more, kept⟩)
    have shape : value = (current.elapsedMs, clamped (exactFanout prior current)) := by
      simp only [fanoutPoint, bind, Option.bind_eq_some_iff] at present
      obtain ⟨_, _, ingress, fewer, forwarded, less, returned⟩ := present
      obtain ⟨_, subtracted⟩ := Option.ite_none_right_eq_some.mp fewer
      obtain ⟨_, alsoSubtracted⟩ := Option.ite_none_right_eq_some.mp less
      obtain ⟨_, same⟩ := Option.ite_none_right_eq_some.mp returned
      rw [← Option.some.inj same, ← Option.some.inj subtracted,
        ← Option.some.inj alsoSubtracted, exactFanout, Nat.mul_comm,
        UInt64.toNat_sub_of_le _ _ (UInt64.le_of_lt more), UInt64.toNat_sub_of_le _ _ kept]
    rw [present, ← shape, Option.some_inj]
    exact ⟨fun same => ⟨⟨later, more, kept⟩, same.symm⟩, fun both => both.2.symm⟩
  · have nothing : fanoutPoint prior current = none := by
      rw [← Option.not_isSome_iff_eq_none]
      exact fun present => grows (made.mp present)
    simp [nothing, grows]

/-- A sample and the one before it, both with their counters. -/
theorem adjacentReadings_succ_iff {previous : Nat} {prior current : FanoutReading} :
    adjacentReadings samples (previous + 1) = some (prior, current) ↔
      ∃ before sample, samples[previous]? = some before ∧ fanoutReading before = some prior ∧
        samples[previous + 1]? = some sample ∧ fanoutReading sample = some current := by
  simp only [adjacentReadings, bind, Option.bind_eq_some_iff, pure, Option.some_inj,
    Prod.mk.injEq]
  constructor
  · rintro ⟨_, ⟨before, located, reads⟩, _, ⟨sample, next, found⟩, rfl, rfl⟩
    exact ⟨before, sample, located, reads, next, found⟩
  · rintro ⟨before, sample, located, reads, next, found⟩
    exact ⟨prior, ⟨before, located, reads⟩, current, ⟨sample, next, found⟩, rfl, rfl⟩

/-- A sample's own reading is the one kept behind it. -/
theorem precedingReading_succ {previous : Nat} {before : TelemetrySample} {prior : FanoutReading}
    (located : samples[previous]? = some before) (reads : fanoutReading before = some prior) :
    precedingReading samples (previous + 1) = some prior := by
  obtain ⟨inside, rfl⟩ := List.getElem?_eq_some_iff.mp located
  rw [precedingReading, List.take_succ_eq_append_getElem inside, List.filterMap_append]
  simp [reads]

/-- Adjacent readings that grow always make a value. -/
theorem value_of_adjacent {index : Nat} {prior current : FanoutReading}
    (adjacent : adjacentReadings samples index = some (prior, current))
    (grows : Grows prior current) :
    (fanoutSeries samples).values[index]? =
      some (some (current.elapsedMs, clamped (exactFanout prior current))) := by
  cases index with
  | zero => cases adjacent
  | succ previous =>
    obtain ⟨before, sample, located, reads, next, found⟩ :=
      adjacentReadings_succ_iff.mp adjacent
    exact fanoutSeries_value_iff.mpr ⟨sample, current, prior, next, found,
      precedingReading_succ located reads, (fanoutPoint_eq_some_iff _ _ _).mpr ⟨grows, rfl⟩⟩

/-- Where every sample is counted, a value comes from an adjacent pair. -/
theorem adjacent_of_value (counted : Counted samples) {index : Nat} {point : UInt64 × UInt64}
    (here : (fanoutSeries samples).values[index]? = some (some point)) :
    ∃ prior current, adjacentReadings samples index = some (prior, current) ∧
      Grows prior current ∧ point = (current.elapsedMs, clamped (exactFanout prior current)) := by
  obtain ⟨sample, current, prior, next, found, kept, made⟩ := fanoutSeries_value_iff.mp here
  cases index with
  | zero => cases kept
  | succ previous =>
    obtain ⟨inside, _⟩ := List.getElem?_eq_some_iff.mp next
    have located : samples[previous]? = some samples[previous] :=
      List.getElem?_eq_getElem (by omega)
    obtain ⟨reading, reads⟩ := Option.isSome_iff_exists.mp
      (counted _ (List.mem_of_getElem? located))
    obtain rfl : prior = reading :=
      Option.some.inj (kept.symm.trans (precedingReading_succ located reads))
    have pair := adjacentReadings_succ_iff.mpr ⟨_, sample, located, reads, next, found⟩
    exact ⟨prior, current, pair, (fanoutPoint_eq_some_iff _ _ _).mp made⟩

/-- A counter series has a value wherever adjacent readings of its counter grow. -/
theorem counterSeries_value (name : String) (color : RGBColor) (scale : UInt64)
    {value : TelemetrySample → Option UInt64} {previous : Nat} {before sample : TelemetrySample}
    {prior current : UInt64} (located : samples[previous]? = some before)
    (next : samples[previous + 1]? = some sample) (reads : value before = some prior)
    (found : value sample = some current) (later : before.elapsedMs < sample.elapsedMs)
    (kept : prior ≤ current) :
    ∃ point, (counterSeries name color samples value scale).values[previous + 1]? =
      some (some point) := by
  obtain ⟨inside, rfl⟩ := List.getElem?_eq_some_iff.mp located
  have positive : 0 < sample.elapsedMs - samples[previous].elapsedMs := by
    rw [UInt64.lt_iff_toNat_lt, UInt64.toNat_sub_of_le _ _ (UInt64.le_of_lt later),
      UInt64.toNat_zero]
    rw [UInt64.lt_iff_toNat_lt] at later
    omega
  rw [counterSeries, walkedSeries_values, left_of_replaced (counterStep_replaces value scale),
    List.take_succ_eq_append_getElem inside, List.getLast?_append, next]
  simp [counterStep, reads, found, ratePoint, positiveElapsed, checkedSub,
    UInt64.le_of_lt later, kept, Option.filter_some, positive]

/-- A reading has the time and both counters of its sample. -/
theorem fanoutReading_eq_some_iff {sample : TelemetrySample} {reading : FanoutReading} :
    fanoutReading sample = some reading ↔ reading.elapsedMs = sample.elapsedMs ∧
      sample.ingressPackets = some reading.ingress ∧
      sample.forwardedPackets = some reading.forwarded := by
  obtain ⟨elapsedMs, ingress, forwarded⟩ := reading
  simp only [fanoutReading, bind, Option.bind_eq_some_iff, pure, Option.some_inj,
    FanoutReading.mk.injEq]
  constructor
  · rintro ⟨_, has, _, also, rfl, rfl, rfl⟩
    exact ⟨rfl, has, also⟩
  · rintro ⟨rfl, has, also⟩
    exact ⟨ingress, has, forwarded, also, rfl, rfl, rfl⟩

/-- Where either counter series has nothing, a value made of adjacent readings is
nothing too. -/
theorem none_of_counter_none
    (adjacent : ∀ index point, (fanoutSeries samples).values[index]? = some (some point) →
      ∃ prior current, adjacentReadings samples index = some (prior, current) ∧
        Grows prior current)
    (name : String) (color : RGBColor) (scale : UInt64) (index : Nat)
    (missing : (counterSeries name color samples TelemetrySample.ingressPackets
        scale).values[index]? = some none ∨
      (counterSeries name color samples TelemetrySample.forwardedPackets scale).values[index]? =
        some none) :
    (fanoutSeries samples).values[index]? = some none := by
  have inside : index < samples.length := by
    rcases missing with gone | gone <;>
    · obtain ⟨bound, _⟩ := List.getElem?_eq_some_iff.mp gone
      simpa [counterSeries, walkedSeries] using bound
  have some : ∃ value, (fanoutSeries samples).values[index]? = some value := by
    refine ⟨_, List.getElem?_eq_getElem ?_⟩
    simpa [fanoutSeries, walkedSeries] using inside
  obtain ⟨value, here⟩ := some
  cases value with
  | none => exact here
  | some point =>
    obtain ⟨prior, current, pair, later, more, kept⟩ := adjacent index point here
    cases index with
    | zero => cases pair
    | succ previous =>
      obtain ⟨before, sample, located, reads, next, found⟩ := adjacentReadings_succ_iff.mp pair
      obtain ⟨beforeTime, beforeIngress, beforeForwarded⟩ := fanoutReading_eq_some_iff.mp reads
      obtain ⟨time, ingress, forwarded⟩ := fanoutReading_eq_some_iff.mp found
      rw [beforeTime, time] at later
      rcases missing with gone | gone
      · obtain ⟨_, present⟩ := counterSeries_value name color scale located next beforeIngress
          ingress later (UInt64.le_of_lt more)
        rw [present] at gone
        cases gone
      · obtain ⟨_, present⟩ := counterSeries_value name color scale located next
          beforeForwarded forwarded later kept
        rw [present] at gone
        cases gone

/-- One start is pushed for each counted sample, and no other. -/
theorem starts_full_iff :
    ((walk fanoutStep none samples).flatMap Prod.snd).length = samples.length ↔
      Counted samples := by
  have size : ((walk fanoutStep none samples).flatMap Prod.snd).length =
      (samples.filterMap fanoutReading).length := by
    rw [length_flatMap_walk Prod.snd (fun sample => (fanoutReading sample).toList.length)
      fanoutStep_pushes, List.filterMap_eq_flatMap_toList, List.length_flatMap]
  have most := List.length_filterMap_le fanoutReading samples
  have fewer : (samples.filterMap fanoutReading).length < samples.length ↔
      ∃ sample, ∃ (_ : sample ∈ samples), fanoutReading sample = none :=
    List.length_filterMap_lt_length_iff_exists
  rw [size, Counted]
  constructor
  · intro full sample member
    rw [Option.isSome_iff_ne_none]
    intro absent
    have short := fewer.mpr ⟨sample, member, absent⟩
    omega
  · intro counted
    by_contra short
    obtain ⟨sample, member, absent⟩ := fewer.mp (by omega)
    have has := counted sample member
    rw [absent] at has
    cases has

/-- A call with a reading pushes the kept reading's time where it has a value. -/
theorem fanoutStep_start (previous : Option FanoutReading) {sample : TelemetrySample}
    {reading : FanoutReading} (present : fanoutReading sample = some reading) :
    (fanoutStep previous sample).2.2 = [(fanoutStep previous sample).2.1.bind
      (fun _ => previous.map FanoutReading.elapsedMs)] := by
  simp only [fanoutStep, present]
  cases previous with
  | none => rfl
  | some prior =>
    dsimp only
    cases fanoutPoint prior reading <;> rfl

/-- Where every sample is counted, the start at a place belongs to the value there. -/
theorem start_of_counted (counted : Counted samples) {index : Nat} {sample : TelemetrySample}
    (located : samples[index]? = some sample) :
    ((walk fanoutStep none samples).flatMap Prod.snd)[index]? =
      some (((fanoutSeries samples).values[index]?.join).bind
        (fun _ => precedingTime samples index)) := by
  have full : ∀ earlier ∈ samples.take index, fanoutReading earlier ≠ none := by
    intro earlier member none
    have has := counted earlier (List.mem_of_mem_take member)
    rw [none] at has
    cases has
  obtain ⟨reading, present⟩ := Option.isSome_iff_exists.mp
    (counted sample (List.mem_of_getElem? located))
  obtain ⟨starts, recorded, here⟩ := walkedSeries_start "Observed" colorGreen
    (fun sample => (fanoutReading sample).toList.length) fanoutStep_pushes located
    (fun earlier member => by
      obtain ⟨_, has⟩ := Option.ne_none_iff_exists'.mp (full earlier member)
      rw [has]
      rfl) (fanoutStep_start _ present)
  obtain rfl := Option.some.inj recorded
  rw [here, precedingTime_agrees index full, precedingReadingTime, precedingReading,
    ← left_of_kept fanoutStep_keeps, fanoutSeries, walkedSeries_values, located]
  rfl

/-- Where no counter is missing and no quotient is too large, every sample gives a value to
each closure, so they stay in step. -/
theorem inStep_of_counted (counted : Counted samples) (representable : Representable samples) :
    InStep samples := by
  have adjacent (index : Nat) (point : UInt64 × UInt64)
      (here : (fanoutSeries samples).values[index]? = some (some point)) :=
    adjacent_of_value counted here
  constructor
  · intro index point
    constructor
    · intro here
      obtain ⟨prior, current, pair, grows, rfl⟩ := adjacent index point here
      refine ⟨prior, current, pair, grows, rfl, ?_⟩
      have fits := representable index prior current pair grows
      rw [clamped_toNat, limit]
      omega
    · rintro ⟨prior, current, pair, grows, time, value⟩
      have exact : point.2 = clamped (exactFanout prior current) := by
        have fits := representable index prior current pair grows
        rw [← UInt64.toNat_inj, value, clamped_toNat, limit]
        omega
      rw [value_of_adjacent pair grows, ← time, ← exact]
  · intro name color scale index missing
    refine none_of_counter_none (fun index point here => ?_) name color scale index missing
    obtain ⟨prior, current, pair, grows, _⟩ := adjacent index point here
    exact ⟨prior, current, pair, grows⟩
  · have full := starts_full_iff.mpr counted
    refine ⟨_, rfl, full, fun index startMs => ?_⟩
    cases located : samples[index]? with
    | none =>
      have outside := List.getElem?_eq_none_iff.mp located
      have noStart : ((walk fanoutStep none samples).flatMap Prod.snd)[index]? = none :=
        List.getElem?_eq_none_iff.mpr (by omega)
      have noValue : (fanoutSeries samples).values[index]? = none := by
        rw [fanoutSeries, walkedSeries_values, located]
        rfl
      simp [noStart, noValue]
    | some sample =>
      rw [start_of_counted counted located]
      cases value : (fanoutSeries samples).values[index]?.join with
      | none =>
        have absent : ¬ ∃ point, (fanoutSeries samples).values[index]? = some (some point) := by
          rintro ⟨point, here⟩
          rw [here] at value
          cases value
        simp [absent]
      | some point =>
        rw [Option.join_eq_some_iff] at value
        simp [value]

/-- Every start needs its own sample's reading. -/
theorem InStep.counted (inStep : InStep samples) : Counted samples := by
  obtain ⟨starts, recorded, full, _⟩ := inStep.starts
  obtain rfl := Option.some.inj recorded
  exact starts_full_iff.mp full

/-- The fanout series is in step with the counter series exactly when every sample
carries both counters and the multiplier of every growing adjacent pair fits its
64 bits.

Proof: a sample without a reading pushes no start, so the starts would be one
short; a multiplier that does not fit is clamped. Conversely, with a reading
everywhere the one kept is the one immediately before. -/
theorem fanout_in_step_iff (samples : List TelemetrySample) :
    InStep samples ↔ Counted samples ∧ Representable samples := by
  constructor
  · intro inStep
    constructor
    · exact inStep.counted
    · intro index prior current pair grows
      obtain ⟨other, reading, same, _, _, exact⟩ := (inStep.values index _).mp
        (value_of_adjacent pair grows)
      obtain ⟨rfl, rfl⟩ := Prod.mk.inj (Option.some.inj (pair.symm.trans same))
      rw [← exact]
      exact UInt64.toNat_lt _
  · rintro ⟨counted, representable⟩
    exact inStep_of_counted counted representable

/-- A sample with both fanout counters. -/
def countedSample (elapsedMs ingress forwarded : UInt64) : TelemetrySample :=
  { TelemetrySample.default with
    elapsedMs, ingressPackets := some ingress, forwardedPackets := some forwarded }

/-- A failed scrape between two readings: the value behind it spans the gap, and
the starts are one short. -/
theorem gap_breaks_step :
    ¬ ∀ samples : List TelemetrySample,
      samples.Pairwise (fun earlier later => earlier.elapsedMs ≤ later.elapsedMs) →
      InStep samples := by
  intro claim
  have inStep := claim [countedSample 0 0 0, .gap 1000 none none, countedSample 2000 100 300]
    (by decide)
  have counted := inStep.counted (.gap 1000 none none) (by simp)
  cases counted

end SfuLoad.Report
