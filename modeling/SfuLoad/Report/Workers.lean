import SfuLoad.Report.Dashboard
import Mathlib.Data.List.Nodup

/-!
# The series of the media workers

The loop over the samples keeps one slot for each worker the policy allows. A slot
is filled where a worker is first seen, with empty places for the samples before;
every slot that is filled gets an empty place at each further sample. After any
number of samples the slots are a function of the samples alone, whatever the order
in which workers came, went and returned.
-/

namespace SfuLoad.Report

open Kit.Fallible

/-- The place of a worker at a sample: what the sample reports for it. -/
def reported (workerId : Nat) (sample : TelemetrySample) : Point :=
  (sample.workers.find? (fun worker => worker.mediaWorkerId.toNat == workerId)).map
    (fun worker => (sample.elapsedMs, worker.egressBitrateBps))

/-- Some sample reports a worker. -/
def appears (samples : List TelemetrySample) (workerId : Nat) : Bool :=
  samples.any (fun sample => (reported workerId sample).isSome)

/-- The places of a worker at all samples, once it has appeared. -/
def workerLine (samples : List TelemetrySample) (workerId : Nat) : Option WorkerValues :=
  if appears samples workerId then some (samples.map (reported workerId)) else none

/-- The slots after samples. -/
def slotsAfter (mediaWorkers : Nat) (samples : List TelemetrySample) :
    List (Option WorkerValues) :=
  (List.range mediaWorkers).map (workerLine samples)

/-- Workers that the policy allows, each listed once. -/
structure Listed (mediaWorkers : Nat) (workers : List WorkerTelemetry) : Prop where
  allowed : ∀ worker ∈ workers, worker.mediaWorkerId.toNat < mediaWorkers
  distinct : (workers.map WorkerTelemetry.mediaWorkerId).Nodup

/-- A sample within the policy of a result. -/
structure WithinPolicy (mediaWorkers : Nat) (sample : TelemetrySample) : Prop where
  few : sample.workers.length ≤ mediaWorkers
  listed : Listed mediaWorkers sample.workers

variable {samples : List TelemetrySample} {sample : TelemetrySample} {mediaWorkers workerId : Nat}

/-- A sample reports nothing of a worker that it does not list. -/
theorem reported_eq_none_iff : reported workerId sample = none ↔
    ∀ worker ∈ sample.workers, worker.mediaWorkerId.toNat ≠ workerId := by
  simp [reported]

/-- In a sample without repetitions a place holds the entry of its worker. -/
theorem reported_eq_some_iff (distinct : (sample.workers.map WorkerTelemetry.mediaWorkerId).Nodup)
    (point : UInt64 × UInt64) : reported workerId sample = some point ↔
      ∃ worker ∈ sample.workers, worker.mediaWorkerId.toNat = workerId ∧
        point = (sample.elapsedMs, worker.egressBitrateBps) := by
  rw [reported, Option.map_eq_some_iff]
  constructor
  · rintro ⟨worker, found, rfl⟩
    exact ⟨worker, List.mem_of_find?_eq_some found,
      by simpa using List.find?_some found, rfl⟩
  · rintro ⟨worker, member, rfl, rfl⟩
    have hit : (sample.workers.find? (fun other =>
        other.mediaWorkerId.toNat == worker.mediaWorkerId.toNat)).isSome :=
      List.find?_isSome.mpr ⟨worker, member, by simp⟩
    obtain ⟨other, found⟩ := Option.isSome_iff_exists.mp hit
    have same : other.mediaWorkerId = worker.mediaWorkerId :=
      UInt64.toNat_inj.mp (by simpa using List.find?_some found)
    have unique : other = worker :=
      List.inj_on_of_nodup_map distinct (List.mem_of_find?_eq_some found) member same
    exact ⟨other, found, by rw [unique]⟩

/-- One more worker of a sample fills its own place. -/
theorem reported_append (listed : List WorkerTelemetry) (worker : WorkerTelemetry)
    (workerId : Nat) : reported workerId { sample with workers := listed ++ [worker] } =
      (reported workerId { sample with workers := listed }).or
        (if worker.mediaWorkerId.toNat = workerId then
          some (sample.elapsedMs, worker.egressBitrateBps) else none) := by
  simp only [reported, List.find?_append]
  cases List.find? (fun worker => worker.mediaWorkerId.toNat == workerId) listed with
  | some found => rfl
  | none =>
    by_cases own : worker.mediaWorkerId.toNat = workerId <;> simp [own]

/-- One more sample: a worker that has been seen gets a value or an empty place. -/
theorem workerLine_append : workerLine (samples ++ [sample]) workerId =
    if appears samples workerId || (reported workerId sample).isSome then
      some (samples.map (reported workerId) ++ [reported workerId sample]) else none := by
  simp [workerLine, appears]

/-- A slot, or the empty places a new one is given, holds a place for each sample. -/
theorem workerLine_getD : (workerLine samples workerId).getD
    (List.replicate samples.length none) = samples.map (reported workerId) := by
  rw [workerLine]
  split
  · rfl
  · next absent =>
    refine (List.map_eq_replicate_iff.mpr (fun sample member => ?_)).symm
    simp only [appears, Bool.not_eq_true, List.any_eq_false] at absent
    exact Option.not_isSome_iff_eq_none.mp (by simpa using absent sample member)

/-- The slot of a worker is its line, as long as the policy allows it. -/
@[simp] theorem slotsAfter_getElem? (index : Nat) : (slotsAfter mediaWorkers samples)[index]? =
    if index < mediaWorkers then some (workerLine samples index) else none := by
  rw [slotsAfter, List.getElem?_map]
  split
  · next inside => rw [List.getElem?_range inside, Option.map_some]
  · next outside => rw [List.getElem?_eq_none (by simpa using outside), Option.map_none]

/-- Before the first sample no slot is filled. -/
theorem slotsAfter_nil : slotsAfter mediaWorkers [] = List.replicate mediaWorkers none := by
  exact List.map_eq_replicate_iff.mpr (fun _ _ => rfl) |>.trans (by rw [List.length_range])

/-- At the start of a sample every filled slot gets an empty place. -/
theorem slotsAfter_pad (sample : TelemetrySample) : (slotsAfter mediaWorkers samples).map
    (fun slot => slot.map (fun values => values ++ [none])) =
      slotsAfter mediaWorkers (samples ++ [{ sample with workers := [] }]) := by
  rw [slotsAfter, slotsAfter, List.map_map]
  refine List.map_congr_left (fun workerId _ => ?_)
  have empty : reported workerId { sample with workers := [] } = none := rfl
  rw [workerLine_append, empty, Function.comp_apply, workerLine]
  cases appears samples workerId <;> simp

/-- One more worker is listed if it is allowed and not yet there. -/
theorem listed_append_iff (listed : List WorkerTelemetry) (worker : WorkerTelemetry) :
    Listed mediaWorkers (listed ++ [worker]) ↔ Listed mediaWorkers listed ∧
      worker.mediaWorkerId.toNat < mediaWorkers ∧
      ∀ other ∈ listed, other.mediaWorkerId.toNat ≠ worker.mediaWorkerId.toNat := by
  have differ (other : WorkerTelemetry) : other.mediaWorkerId.toNat ≠ worker.mediaWorkerId.toNat ↔
      other.mediaWorkerId ≠ worker.mediaWorkerId := not_congr UInt64.toNat_inj
  constructor
  · rintro ⟨allowed, distinct⟩
    rw [List.map_append, List.nodup_append] at distinct
    obtain ⟨before, _, apart⟩ := distinct
    refine ⟨⟨fun other member => allowed other (by simp [member]), before⟩,
      allowed worker (by simp), fun other member => (differ other).mpr ?_⟩
    exact apart _ (List.mem_map_of_mem member) _ (by simp)
  · rintro ⟨⟨allowed, distinct⟩, inside, apart⟩
    refine ⟨?_, ?_⟩
    · simp only [List.mem_append, List.mem_singleton]
      rintro other (member | rfl)
      · exact allowed other member
      · exact inside
    · rw [List.map_append, List.nodup_append]
      refine ⟨distinct, List.nodup_singleton _, ?_⟩
      simp only [List.mem_map, List.mem_singleton]
      rintro _ ⟨other, member, rfl⟩ _ ⟨_, rfl, rfl⟩
      exact (differ other).mp (apart other member)

/-- The front of a list of workers is one. -/
theorem Listed.of_append {passed more : List WorkerTelemetry}
    (whole : Listed mediaWorkers (passed ++ more)) : Listed mediaWorkers passed := by
  obtain ⟨allowed, distinct⟩ := whole
  rw [List.map_append] at distinct
  exact ⟨fun worker member => allowed worker (by simp [member]), distinct.of_append_left⟩

/-- The slots with one more entry of the last sample in its place. -/
theorem slotsAfter_set {listed : List WorkerTelemetry} {worker : WorkerTelemetry}
    (fresh : reported worker.mediaWorkerId.toNat { sample with workers := listed } = none) :
    (slotsAfter mediaWorkers (samples ++ [{ sample with workers := listed }])).set
        worker.mediaWorkerId.toNat
        (some (samples.map (reported worker.mediaWorkerId.toNat) ++
          [some (sample.elapsedMs, worker.egressBitrateBps)])) =
      slotsAfter mediaWorkers (samples ++ [{ sample with workers := listed ++ [worker] }]) := by
  refine List.ext_getElem? (fun index => ?_)
  rw [List.getElem?_set, slotsAfter_getElem?, slotsAfter_getElem?, workerLine_append,
    workerLine_append, reported_append]
  by_cases own : worker.mediaWorkerId.toNat = index
  · subst own
    simp only [fresh, slotsAfter, List.length_map, List.length_range, if_true, Option.none_or,
      Option.isSome_some, Bool.or_true]
  · simp only [if_neg own, Option.or_none]

/-- One entry of a sample fills the place of its worker. -/
theorem pushWorker_eq_ok {listed : List WorkerTelemetry} (accepted : Listed mediaWorkers listed)
    (worker : WorkerTelemetry) (next : List (Option WorkerValues)) :
    pushWorker samples.length sample mediaWorkers
        (slotsAfter mediaWorkers (samples ++ [{ sample with workers := listed }])) worker =
          .ok next ↔
      Listed mediaWorkers (listed ++ [worker]) ∧
        next = slotsAfter mediaWorkers
          (samples ++ [{ sample with workers := listed ++ [worker] }]) := by
  have values := @workerLine_getD (samples ++ [{ sample with workers := listed }])
    worker.mediaWorkerId.toNat
  rw [List.length_append, List.length_singleton, List.map_append, List.map_singleton] at values
  have fresh_iff := @reported_eq_none_iff { sample with workers := listed }
    worker.mediaWorkerId.toNat
  rw [listed_append_iff]
  simp only [pushWorker, bind_eq_ok, context_eq_ok, ensure_eq_ok, slotsAfter_getElem?]
  constructor
  · rintro ⟨slot, located, current, last, _, empty, returned⟩
    split at located
    · next inside =>
      obtain rfl := Option.some.inj located
      rw [values] at last returned
      rw [List.getLast?_concat, Option.some.injEq, empty] at last
      rw [List.dropLast_concat, slotsAfter_set last] at returned
      exact ⟨⟨accepted, inside, fresh_iff.mp last⟩, (Except.ok.inj returned).symm⟩
    · cases located
  · rintro ⟨⟨_, inside, apart⟩, rfl⟩
    have fresh := fresh_iff.mpr apart
    refine ⟨_, if_pos inside, none, ?_, (), rfl, ?_⟩
    · rw [values, List.getLast?_concat, fresh]
    · rw [values, List.dropLast_concat, slotsAfter_set fresh]
      rfl

/-- One sample adds a place to every worker that has appeared. -/
theorem pushSample_eq_ok (sample : TelemetrySample) (next : List (Option WorkerValues)) :
    pushSample mediaWorkers (slotsAfter mediaWorkers samples) (sample, samples.length) = .ok next ↔
      WithinPolicy mediaWorkers sample ∧
        next = slotsAfter mediaWorkers (samples ++ [sample]) := by
  have begun : Listed mediaWorkers [] := ⟨by simp, List.nodup_nil⟩
  have walked := @foldlM_iff _ _ _ (pushWorker samples.length sample mediaWorkers)
    (fun listed => slotsAfter mediaWorkers (samples ++ [{ sample with workers := listed }]))
    (Listed mediaWorkers)
    (fun passed more whole => whole.of_append)
    (fun listed worker next accepted => pushWorker_eq_ok accepted worker next) begun
    sample.workers next
  simp only [pushSample, bind_eq_ok, ensure_eq_ok, slotsAfter_pad sample, walked]
  constructor
  · rintro ⟨_, few, listed, rfl⟩
    exact ⟨⟨few, listed⟩, rfl⟩
  · rintro ⟨⟨few, listed⟩, rfl⟩
    exact ⟨(), few, listed, rfl⟩

/-- The series of a worker, by its number. -/
def numberedSeries (workerId : Nat) (values : WorkerValues) : Series where
  name := s!"Worker {workerId}"
  color := workerColor workerId
  rawValues := none
  values := values
  intervalStartsMs := some (previousValueStarts values)
  pointsOnly := false
  smooth := true

/-- The workers that appear in samples, in order of their numbers. -/
def appearing (mediaWorkers : Nat) (samples : List TelemetrySample) : List Nat :=
  (List.range mediaWorkers).filter (appears samples)

/-- The series are drawn exactly from samples within the policy, one for each worker
that appears. -/
theorem workerSeries_eq_ok (samples : List TelemetrySample) (mediaWorkers : UInt32)
    (series : List Series) : workerSeries samples mediaWorkers = .ok series ↔
      (0 < mediaWorkers.toNat ∧ mediaWorkers.toNat ≤ maxTelemetryWorkers) ∧
      (∀ sample ∈ samples, WithinPolicy mediaWorkers.toNat sample) ∧
      series = (appearing mediaWorkers.toNat samples).map (fun workerId =>
        numberedSeries workerId (samples.map (reported workerId))) := by
  have walked (slots : List (Option WorkerValues)) :=
    @foldlM_zipIdx_iff _ _ _ (pushSample mediaWorkers.toNat) (slotsAfter mediaWorkers.toNat)
    (fun passed => ∀ sample ∈ passed, WithinPolicy mediaWorkers.toNat sample)
    (fun passed more whole sample member => whole sample (by simp [member]))
    (fun passed sample next accepted => by
      rw [pushSample_eq_ok, List.forall_mem_append, List.forall_mem_singleton,
        and_iff_right accepted])
    [] (by simp) samples slots
  have drawn : (slotsAfter mediaWorkers.toNat samples).zipIdx.filterMap
      (fun numbered => numbered.1.map (numberedSeries numbered.2)) =
      (appearing mediaWorkers.toNat samples).map (fun workerId =>
        numberedSeries workerId (samples.map (reported workerId))) := by
    have numbered : (slotsAfter mediaWorkers.toNat samples).zipIdx =
        (List.range mediaWorkers.toNat).map (fun index => (workerLine samples index, index)) := by
      refine List.ext_getElem? (fun index => ?_)
      rw [List.getElem?_zipIdx, Nat.zero_add, slotsAfter, List.getElem?_map, List.getElem?_map,
        Option.map_map]
      cases located : (List.range mediaWorkers.toNat)[index]? with
      | none => rfl
      | some found =>
        obtain ⟨_, rfl⟩ := List.getElem?_eq_some_iff.mp located
        simp
    rw [numbered, List.filterMap_map, appearing, ← List.filterMap_eq_map, List.filterMap_filter]
    refine List.filterMap_congr (fun workerId _ => ?_)
    simp only [Function.comp_apply, workerLine]
    split <;> rfl
  rw [slotsAfter_nil] at walked
  simp only [workerSeries, bind_eq_ok, ensure_eq_ok]
  constructor
  · rintro ⟨_, positive, _, bounded, slots, looped, returned⟩
    obtain ⟨within, rfl⟩ := (walked slots).mp looped
    refine ⟨⟨positive, bounded⟩, within, ?_⟩
    rw [← drawn]
    exact (Except.ok.inj returned).symm
  · rintro ⟨⟨positive, bounded⟩, within, rfl⟩
    refine ⟨(), positive, (), bounded, _, (walked _).mpr ⟨within, rfl⟩, ?_⟩
    rw [← drawn]
    rfl

/-- A series is a worker's: it has one place for each sample, holding what the
sample reports for the worker. -/
structure Aligned (samples : List TelemetrySample) (workerId : Nat) (series : Series) : Prop where
  name : series.name = s!"Worker {workerId}"
  length : series.values.length = samples.length
  places : ∀ (index : Nat) sample, samples[index]? = some sample → ∀ point,
    series.values[index]? = some (some point) ↔ ∃ worker ∈ sample.workers,
      worker.mediaWorkerId.toNat = workerId ∧
        point = (sample.elapsedMs, worker.egressBitrateBps)

/-- The workers that appear are those that some sample lists. -/
theorem mem_appearing_iff (within : ∀ sample ∈ samples, WithinPolicy mediaWorkers sample) :
    workerId ∈ appearing mediaWorkers samples ↔ ∃ sample ∈ samples,
      ∃ worker ∈ sample.workers, worker.mediaWorkerId.toNat = workerId := by
  have seen (sample : TelemetrySample) : (reported workerId sample).isSome = true ↔
      ∃ worker ∈ sample.workers, worker.mediaWorkerId.toNat = workerId := by
    rw [← Option.ne_none_iff_isSome, ne_eq, reported_eq_none_iff]
    simp
  simp only [appearing, appears, List.mem_filter, List.mem_range, List.any_eq_true, seen]
  constructor
  · rintro ⟨_, found⟩
    exact found
  · rintro ⟨sample, member, worker, listed, rfl⟩
    exact ⟨(within sample member).listed.allowed worker listed,
      sample, member, worker, listed, rfl⟩

/-- The series of a worker has the value of each sample in its place. -/
theorem numberedSeries_aligned (within : ∀ sample ∈ samples, WithinPolicy mediaWorkers sample)
    (workerId : Nat) :
    Aligned samples workerId (numberedSeries workerId (samples.map (reported workerId))) := by
  refine ⟨rfl, List.length_map _, fun index sample located point => ?_⟩
  have distinct := (within sample (List.mem_of_getElem? located)).listed.distinct
  rw [← reported_eq_some_iff distinct, numberedSeries, List.getElem?_map, located,
    Option.map_some, Option.some.injEq]

/-- Worker series are drawn exactly from samples that list few enough workers, all of
them allowed and none twice. There is one for each worker that ever appears, in the
order of their numbers, and each has at every sample what that sample reports. -/
theorem worker_series_aligned (samples : List TelemetrySample) (mediaWorkers : UInt32)
    (positive : 1 ≤ mediaWorkers.toNat) (bounded : mediaWorkers.toNat ≤ 64) :
    ((∃ series, workerSeries samples mediaWorkers = .ok series) ↔
      ∀ sample ∈ samples, sample.workers.length ≤ mediaWorkers.toNat ∧
        (∀ worker ∈ sample.workers, worker.mediaWorkerId.toNat < mediaWorkers.toNat) ∧
        (sample.workers.map WorkerTelemetry.mediaWorkerId).Nodup) ∧
    ∀ series, workerSeries samples mediaWorkers = .ok series →
      ∃ workerIds : List Nat, workerIds.Pairwise (· < ·) ∧
        (∀ workerId, workerId ∈ workerIds ↔ ∃ sample ∈ samples,
          ∃ worker ∈ sample.workers, worker.mediaWorkerId.toNat = workerId) ∧
        List.Forall₂ (Aligned samples) workerIds series := by
  constructor
  · constructor
    · rintro ⟨series, drawn⟩ sample member
      obtain ⟨_, within, _⟩ := (workerSeries_eq_ok samples mediaWorkers series).mp drawn
      obtain ⟨few, allowed, distinct⟩ := within sample member
      exact ⟨few, allowed, distinct⟩
    · intro policy
      refine ⟨_, (workerSeries_eq_ok samples mediaWorkers _).mpr
        ⟨⟨positive, bounded⟩, fun sample member => ?_, rfl⟩⟩
      obtain ⟨few, allowed, distinct⟩ := policy sample member
      exact ⟨few, allowed, distinct⟩
  · intro series drawn
    obtain ⟨_, within, rfl⟩ := (workerSeries_eq_ok samples mediaWorkers series).mp drawn
    refine ⟨appearing mediaWorkers.toNat samples, List.pairwise_lt_range.filter _,
      fun workerId => mem_appearing_iff within, ?_⟩
    rw [List.forall₂_map_right_iff, List.forall₂_same]
    exact fun workerId _ => numberedSeries_aligned within workerId

/-- Worker one is there at first, goes, and returns next to a newcomer. -/
def returningWorker : List TelemetrySample :=
  [{ TelemetrySample.default with elapsedMs := 0, workers := [⟨1, 500, 0, 0, 0⟩] },
    { TelemetrySample.default with elapsedMs := 1000 },
    { TelemetrySample.default with
        elapsedMs := 2000, workers := [⟨1, 700, 0, 0, 0⟩, ⟨0, 300, 0, 0, 0⟩] }]

/-- A worker that goes and comes back, beside another one. -/
theorem returningWorker_drawn :
    ∃ series, workerSeries returningWorker 2 = .ok series ∧
      ∃ workerIds : List Nat, workerIds.Pairwise (· < ·) ∧
        List.Forall₂ (Aligned returningWorker) workerIds series := by
  obtain ⟨accepts, aligns⟩ := worker_series_aligned returningWorker 2 (by decide) (by decide)
  obtain ⟨series, drawn⟩ := accepts.mpr (by decide)
  obtain ⟨workerIds, ordered, _, aligned⟩ := aligns series drawn
  exact ⟨series, drawn, workerIds, ordered, aligned⟩

end SfuLoad.Report
