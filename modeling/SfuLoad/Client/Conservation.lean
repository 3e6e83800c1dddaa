import SfuLoad.Client.Ledger
import Mathlib.Algebra.Order.BigOperators.Group.List
import Mathlib.Algebra.Group.Action.Defs

/-!
# Ledger conservation

Every observed payload is accounted for exactly once: delivered, duplicate,
unexpected or warmup. Delivered and missing packets add up to the expected ones.
None of these four counts depends on the order of observation, because they are
functions of the set of arrived items; only the mismatch and out-of-order counts
see the order.
-/

namespace SfuLoad.Conservation

open Kit Kit.Fallible Kit.Saturating Identity Model Ledger

/-- The payload is an intact identity of the warmup phase. -/
def decodesAsWarmup (payload : Payload) : Bool :=
  match inspectPayload payload with
  | .ok inspection => inspection.identity.phase == .warmup
  | .error _ => false

/-- Total packets the streams expect. -/
def expectedPackets (streams : List ExpectedStream) : Nat :=
  (streams.map (fun stream => stream.seen.length)).sum

/-- Total gaps left in the bitmaps. -/
def gaps (streams : List ExpectedStream) : Nat :=
  (streams.map (fun stream => stream.seen.count false)).sum

/-- A payload is warmup exactly when it decodes as warmup. -/
theorem classify_warmup_iff (lanes : List (StreamKey × Nat)) (payload : Payload) :
    classify lanes payload = .warmup ↔ decodesAsWarmup payload = true := by
  unfold classify decodesAsWarmup
  cases inspectPayload payload with
  | error message => simp
  | ok inspection =>
    by_cases warmup : inspection.identity.phase = .warmup
    · simp [warmup]
    · simp only [warmup, if_false, beq_iff_eq, iff_false]
      split
      · simp
      · split <;> simp

/-- Warmups leave the whole ledger alone. -/
theorem observe_warmup (ledger : PacketLedger) {payload : Payload}
    (warmup : decodesAsWarmup payload = true) : ledger.observe payload = ledger := by
  have verdict := (classify_warmup_iff (shape ledger.streams) payload).mpr warmup
  obtain ⟨_, effect⟩ | ⟨other, _⟩ | ⟨_, _, _, _, other, _⟩ | ⟨_, _, _, _, other, _⟩ :=
    observe_cases ledger payload
  · exact effect
  all_goals
    rw [verdict] at other
    cases other

/-- Verdicts partition a history. -/
theorem events_partition (events : List Event) :
    events.length = (arrivals events).length + events.count .unexpected + events.count .warmup := by
  induction events with
  | nil => rfl
  | cons event rest inductionHypothesis =>
    have split : arrivals (event :: rest) = event.item.toList ++ arrivals rest := by
      cases event <;> rfl
    cases event <;> simp [split, Event.item, inductionHypothesis] <;> omega

/-- Marks and gaps fill the bitmaps. -/
theorem marks_and_gaps (streams : List ExpectedStream) :
    (streams.map (fun stream => stream.seen.count true)).sum + gaps streams =
      expectedPackets streams := by
  induction streams with
  | nil => rfl
  | cons stream rest inductionHypothesis =>
    have filled := Bitmap.marks_and_gaps stream.seen
    simp only [gaps, expectedPackets, List.map_cons, List.sum_cons] at inductionHypothesis ⊢
    omega

/-- The packets to expect depend on the streams' keys and sizes alone. -/
theorem expectedPackets_of_shape {left right : List ExpectedStream}
    (same : shape left = shape right) : expectedPackets left = expectedPackets right := by
  have sizes := congrArg (List.map Prod.snd) same
  simp only [shape, List.map_map, Function.comp_def] at sizes
  rw [expectedPackets, expectedPackets, sizes]

/-- The reported missing packets are the clamped number of gaps. -/
theorem finish_missing_toNat (ledger : PacketLedger) :
    ledger.finish.missingPackets.toNat = min (gaps ledger.streams) limit := by
  have counted : ∀ bits : List Bool, bits.countP (fun seen => !seen) = bits.count false := by
    intro bits
    rw [List.count]
    congr 1
    funext bit
    cases bit <;> rfl
  have clamped := foldl_clamped_toNat
    (ledger.streams.map (fun stream => stream.seen.count false)) 0
  simp only [List.map_map, Function.comp_def, UInt64.toNat_zero, Nat.zero_add] at clamped
  simpa only [PacketLedger.finish, counted, gaps] using clamped

/-- With exact cursors, completeness is the absence of gaps. -/
theorem isComplete_iff_gaps {ledger : PacketLedger}
    (cursor : ∀ stream ∈ ledger.streams, stream.nextOrdinal = Bitmap.truePrefix stream.seen) :
    ledger.isComplete = true ↔ gaps ledger.streams = 0 := by
  have each : ∀ stream ∈ ledger.streams,
      (stream.isComplete = true ↔ stream.seen.count false = 0) := by
    intro stream member
    rw [ExpectedStream.isComplete, beq_iff_eq, cursor stream member,
      Bitmap.truePrefix_eq_length_iff]
  rw [PacketLedger.isComplete, List.all_eq_true, gaps]
  generalize ledger.streams = streams at each
  induction streams with
  | nil => simp
  | cons stream rest inductionHypothesis =>
    have tail := inductionHypothesis (fun other member => each other (by simp [member]))
    simp only [List.mem_cons, forall_eq_or_imp, each stream (by simp), tail, List.map_cons,
      List.sum_cons]
    omega

/-- Number of different stream keys. -/
def keySpace : Nat := 2 ^ 16 * 6

/-- A dense number for a stream key. -/
def keyNumber (key : StreamKey) : Nat :=
  key.1.toNat * 6 + (if key.2.1 = .audio then 0 else 3) +
    (match key.2.2 with | none => 0 | some .low => 1 | some .high => 2)

/-- There are fewer keys than a counter can hold. -/
theorem keyNumber_lt (key : StreamKey) : keyNumber key < keySpace := by
  obtain ⟨source, kind, layer⟩ := key
  have bound := source.toNat_lt
  rcases kind with _ | _ <;> rcases layer with _ | ⟨_ | _⟩ <;>
    simp [keyNumber, keySpace] <;> omega

/-- Keys that are numbered alike are the same. -/
theorem keyNumber_injective : Function.Injective keyNumber := by
  rintro ⟨source, kind, layer⟩ ⟨otherSource, otherKind, otherLayer⟩ same
  have digits : source.toNat = otherSource.toNat ∧ kind = otherKind ∧ layer = otherLayer := by
    rcases kind with _ | _ <;> rcases layer with _ | ⟨_ | _⟩ <;>
      rcases otherKind with _ | _ <;> rcases otherLayer with _ | ⟨_ | _⟩ <;>
      simp [keyNumber] at same ⊢ <;> omega
  obtain ⟨sources, rfl, rfl⟩ := digits
  rw [UInt16.toNat_inj.mp sources]

/-- Distinct keys bound the number of streams by the number of keys. -/
theorem streams_bounded {streams : List ExpectedStream}
    (distinctKeys : (streams.map ExpectedStream.key).Nodup) : streams.length ≤ keySpace := by
  have numbers : ((streams.map ExpectedStream.key).map keyNumber).Nodup :=
    distinctKeys.map keyNumber_injective
  have inside : ((streams.map ExpectedStream.key).map keyNumber).toFinset ⊆
      Finset.range keySpace := by
    intro number member
    obtain ⟨key, _, rfl⟩ := List.mem_map.mp (List.mem_toFinset.mp member)
    exact Finset.mem_range.mpr (keyNumber_lt key)
  have bound := Finset.card_le_card inside
  rw [List.toFinset_card_of_nodup numbers, Finset.card_range] at bound
  simpa using bound

/-- Built streams with distinct keys expect far fewer packets than a counter holds. -/
theorem expectedPackets_bounded {streams : List ExpectedStream}
    (built : ∀ stream ∈ streams, stream.Built)
    (distinctKeys : (streams.map ExpectedStream.key).Nodup) : expectedPackets streams ≤ limit := by
  have each : ∀ size ∈ streams.map (fun stream => stream.seen.length), size ≤ 2 ^ 32 := by
    intro size member
    obtain ⟨stream, inside, rfl⟩ := List.mem_map.mp member
    obtain ⟨packets, constructed⟩ := built stream inside
    simp only [ExpectedStream.new, bind_eq_ok] at constructed
    obtain ⟨_, _, returned⟩ := constructed
    have seen := congrArg ExpectedStream.seen (Except.ok.inj returned)
    have bound := packets.toNat_lt
    rw [← seen, List.length_replicate]
    exact Nat.le_of_lt bound
  have total := List.sum_le_card_nsmul _ _ each
  have count := streams_bounded distinctKeys
  rw [List.length_map, smul_eq_mul] at total
  calc expectedPackets streams ≤ streams.length * 2 ^ 32 := total
    _ ≤ keySpace * 2 ^ 32 := Nat.mul_le_mul_right _ count
    _ ≤ limit := by decide

/-- What a tracked ledger would report missing: the expected packets less the
distinct arrivals. -/
theorem tracked_gaps {initial : List ExpectedStream} {events : List Event} {ledger : PacketLedger}
    (tracked : Tracks initial events ledger) :
    Arrivals.distinct (arrivals events) + gaps ledger.streams = expectedPackets initial := by
  rw [← tracked.marked, marks_and_gaps, expectedPackets_of_shape tracked.shape]

/-- Two tracked ledgers over permuted histories report the same four counts. -/
theorem tracked_counts_perm {initial : List ExpectedStream} {events reordered : List Event}
    {ledger other : PacketLedger} (same : events.Perm reordered)
    (tracked : Tracks initial events ledger) (otherTracked : Tracks initial reordered other) :
    other.deliveredPackets = ledger.deliveredPackets ∧
      other.correctness.duplicatePackets = ledger.correctness.duplicatePackets ∧
      other.correctness.unexpectedPackets = ledger.correctness.unexpectedPackets ∧
      other.finish.missingPackets = ledger.finish.missingPackets := by
  have sameArrivals : (arrivals events).Perm (arrivals reordered) := same.filterMap _
  have items := Arrivals.distinct_perm sameArrivals
  have total := tracked_gaps tracked
  have otherTotal := tracked_gaps otherTracked
  simp only [← UInt64.toNat_inj, tracked.delivered, otherTracked.delivered, tracked.duplicates,
    otherTracked.duplicates, tracked.unexpected, otherTracked.unexpected, finish_missing_toNat,
    items, sameArrivals.length_eq, same.count_eq, true_and]
  omega

/-- Conservation over any finite run of a ledger with distinct stream keys: exact
cursors, exact delivery and missing counts, one account for every observed
payload, inert warmups, and order-independent totals. -/
theorem ledger_conservation {streams : List ExpectedStream}
    (built : ∀ stream ∈ streams, stream.Built)
    (distinctKeys : (streams.map ExpectedStream.key).Nodup) (payloads : List Payload)
    (few : payloads.length < 2 ^ 64) :
    let ledger := (PacketLedger.new streams).observeAll payloads
    (∀ stream ∈ ledger.streams, stream.nextOrdinal = Bitmap.truePrefix stream.seen) ∧
    ledger.deliveredPackets.toNat =
      (ledger.streams.map (fun stream => stream.seen.count true)).sum ∧
    payloads.length = ledger.deliveredPackets.toNat + ledger.correctness.duplicatePackets.toNat +
      ledger.correctness.unexpectedPackets.toNat + payloads.countP decodesAsWarmup ∧
    (ledger.isComplete = true ↔ ledger.finish.missingPackets = 0) ∧
    ledger.deliveredPackets.toNat + ledger.finish.missingPackets.toNat =
      expectedPackets streams ∧
    (∀ payload, decodesAsWarmup payload = true → ledger.observe payload = ledger) ∧
    ∀ reordered, payloads.Perm reordered →
      let other := (PacketLedger.new streams).observeAll reordered
      other.deliveredPackets = ledger.deliveredPackets ∧
        other.correctness.duplicatePackets = ledger.correctness.duplicatePackets ∧
        other.correctness.unexpectedPackets = ledger.correctness.unexpectedPackets ∧
        other.finish.missingPackets = ledger.finish.missingPackets := by
  intro ledger
  have tracked : Tracks streams (payloads.map (classify (shape streams))) ledger := by
    simpa using tracks_observeAll (tracks_new built) payloads
  generalize history : payloads.map (classify (shape streams)) = events at tracked
  have size : events.length = payloads.length := by rw [← history, List.length_map]
  have partition := events_partition events
  have items := Arrivals.distinct_le_length (arrivals events)
  have total := tracked_gaps tracked
  have bounded := expectedPackets_bounded built distinctKeys
  have delivered := tracked.delivered
  have duplicates := tracked.duplicates
  have unexpected := tracked.unexpected
  have missing := finish_missing_toNat ledger
  have room : payloads.length ≤ limit := by
    simp only [limit]
    omega
  refine ⟨tracked.cursor, ?_, ?_, ?_, ?_, ?_, ?_⟩
  · rw [tracked.marked]
    omega
  · have warmups : events.count .warmup = payloads.countP decodesAsWarmup := by
      rw [← history, List.count, List.countP_map]
      refine List.countP_congr (fun payload _ => ?_)
      simp [classify_warmup_iff]
    omega
  · rw [isComplete_iff_gaps tracked.cursor, ← UInt64.toNat_inj, missing, UInt64.toNat_zero]
    simp only [limit]
    omega
  · omega
  · exact fun _ => observe_warmup ledger
  · intro reordered same
    have otherTracked : Tracks streams (reordered.map (classify (shape streams)))
        ((PacketLedger.new streams).observeAll reordered) := by
      simpa using tracks_observeAll (tracks_new built) reordered
    exact tracked_counts_perm (history ▸ same.map _) tracked otherTracked

/-- One stream of two packets whose first packet arrives twice: one delivery, one
duplicate, one gap. -/
theorem repeated_packet_is_conserved :
    let stream : ExpectedStream := ⟨0, .audio, none, [false, false], 0⟩
    let payload := encodedPayload ⟨.audio, .measured, none, 0, 0, 0, 0, 1⟩ 80 [0x78]
    let ledger := (PacketLedger.new [stream]).observeAll [payload, payload]
    ledger.deliveredPackets.toNat + ledger.finish.missingPackets.toNat = 2 := by
  intro stream payload
  have built : ∀ other ∈ [stream], other.Built := by
    intro other member
    obtain rfl := List.mem_singleton.mp member
    exact ⟨2, rfl⟩
  exact (ledger_conservation built (by simp) [payload, payload] (by simp)).2.2.2.2.1

end SfuLoad.Conservation
