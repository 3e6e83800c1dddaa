import SfuLoad.Client.Conservation
import SfuLoad.Client.Generated

/-!
# The exact-delivery gate of one receiver

A ledger finishes without discrepancies exactly when every payload is a decodable
identity, every measured one names an expected stream and matches its body, and
every stream's ordinals arrive as 0, 1, …, n-1. Interleaving between streams and
warmup traffic play no part. The induction runs along the arrivals and carries
the tracked bitmaps: while nothing has gone wrong, each stream's cursor is the
number of its arrivals.
-/

namespace SfuLoad.Gate

open Kit Kit.Fallible Kit.Saturating Identity Model Ledger Conservation

/-- No counter has moved that observing can move. -/
def Clean (ledger : PacketLedger) : Prop :=
  ledger.correctness.duplicatePackets = 0 ∧ ledger.correctness.outOfOrderPackets = 0 ∧
    ledger.correctness.unexpectedPackets = 0 ∧ ledger.correctness.payloadMismatches = 0

/-- A verdict that can belong to a flawless run. -/
def Event.Sound : Event → Prop
  | .warmup => True
  | .unexpected => False
  | .arrival _ _ payloadMatches => payloadMatches = true

/-- The arrival is the next number of its lane; other verdicts are no arrivals. -/
def Next (events : List Event) : Event → Prop
  | .arrival index ordinal _ => ordinal = (Arrivals.lane (arrivals events) index).length
  | _ => True

/-- A history is in order exactly when it was before its last event and this event is the
next one of its lane. -/
theorem inOrder_arrivals_append (events : List Event) (event : Event) :
    Arrivals.InOrder (arrivals (events ++ [event])) ↔
      Arrivals.InOrder (arrivals events) ∧ Next events event := by
  cases event with
  | warmup => simp [arrivals_append, Event.item, Next]
  | unexpected => simp [arrivals_append, Event.item, Next]
  | arrival index ordinal payloadMatches =>
    simpa [arrivals_append, Event.item, Next] using
      Arrivals.inOrder_append_iff (arrivals events) (index, ordinal)

/-- While a history is in order, a stream's cursor is the number of its arrivals,
as long as one of its gaps remains. -/
theorem cursor_of_inOrder {initial : List ExpectedStream} {events : List Event}
    {ledger : PacketLedger} (tracked : Tracks initial events ledger)
    (ordered : Arrivals.InOrder (arrivals events)) {index ordinal : Nat} {stream : ExpectedStream}
    (located : ledger.streams[index]? = some stream) (gap : stream.seen[ordinal]? = some false) :
    stream.nextOrdinal = (Arrivals.lane (arrivals events) index).length := by
  have present (position : Nat) (inside : position < stream.seen.length) :
      stream.seen[position]? =
        some (decide (position < (Arrivals.lane (arrivals events) index).length)) := by
    have read := List.getElem?_eq_getElem inside
    rw [read, tracked.seen index stream located position _ read]
    simp only [Arrivals.mem_of_inOrder ordered]
  obtain ⟨inside, _⟩ := List.getElem?_eq_some_iff.mp gap
  have beyond : (Arrivals.lane (arrivals events) index).length ≤ ordinal := by
    rw [present ordinal inside] at gap
    simpa using gap
  rw [tracked.cursor stream (List.mem_of_getElem? located), Bitmap.truePrefix_eq_iff]
  refine ⟨fun position below => ?_, ?_⟩
  · rw [present position (by omega)]
    simp [below]
  · rw [present _ (by omega)]
    simp

/-- One payload leaves an in-order ledger clean exactly when its verdict is sound
and, if it is an arrival, the next number of its lane. -/
theorem clean_observe_iff {initial : List ExpectedStream} {events : List Event}
    {ledger : PacketLedger} (tracked : Tracks initial events ledger)
    (ordered : Arrivals.InOrder (arrivals events)) (payload : Payload) :
    Clean (ledger.observe payload) ↔ Clean ledger ∧
      Event.Sound (classify (shape initial) payload) ∧
      Next events (classify (shape initial) payload) := by
  rw [← tracked.shape]
  obtain ⟨verdict, effect⟩ | ⟨verdict, effect⟩ |
      ⟨index, stream, ordinal, payloadMatches, verdict, located, bit, effect⟩ |
      ⟨index, stream, ordinal, payloadMatches, verdict, located, bit, effect⟩ :=
    observe_cases ledger payload <;> rw [verdict, effect]
  · simp [Event.Sound, Next]
  · simp [Clean, PacketLedger.countUnexpected, Event.Sound]
  · -- a repeat is counted, and its ordinal is below the lane's length
    have old : (index, ordinal) ∈ arrivals events :=
      of_decide_eq_true (tracked.seen index stream located ordinal true bit).symm
    have below := (Arrivals.mem_of_inOrder ordered index ordinal).mp old
    simp only [Clean, PacketLedger.countDuplicate, saturatingAdd_eq_zero, Event.Sound, Next]
    constructor
    · rintro ⟨⟨_, one⟩, _⟩
      cases one
    · rintro ⟨_, _, next⟩
      omega
  · have cursor := cursor_of_inOrder tracked ordered located bit
    by_cases body : payloadMatches = true <;> by_cases next : ordinal = stream.nextOrdinal <;>
      simp [Clean, PacketLedger.deliver, Event.Sound, Next, body, next, ← cursor]

/-- Counters never go back: a clean ledger was clean before. -/
theorem clean_of_observe {ledger : PacketLedger} {payload : Payload}
    (clean : Clean (ledger.observe payload)) : Clean ledger := by
  obtain ⟨_, effect⟩ | ⟨_, effect⟩ | ⟨_, _, _, _, _, _, _, effect⟩ |
      ⟨_, stream, ordinal, payloadMatches, _, _, _, effect⟩ :=
    observe_cases ledger payload <;> rw [effect] at clean
  · exact clean
  · simp [Clean, PacketLedger.countUnexpected] at clean
  · simp [Clean, PacketLedger.countDuplicate] at clean
  · by_cases body : payloadMatches = true <;> by_cases next : ordinal = stream.nextOrdinal <;>
      simp [Clean, PacketLedger.deliver, body, next] at clean
    exact clean

/-- A run is clean exactly when all its verdicts are sound and every lane counts
up from zero. -/
theorem clean_run_iff {streams : List ExpectedStream} (built : ∀ stream ∈ streams, stream.Built)
    (payloads : List Payload) :
    Clean ((PacketLedger.new streams).observeAll payloads) ↔
      (∀ payload ∈ payloads, Event.Sound (classify (shape streams) payload)) ∧
      Arrivals.InOrder (arrivals (payloads.map (classify (shape streams)))) := by
  induction payloads using List.reverseRecOn with
  | nil => simp [Clean, PacketLedger.observeAll, PacketLedger.new, CorrectnessSummary.zero,
      arrivals, Arrivals.inOrder_nil]
  | append_singleton payloads payload inductionHypothesis =>
    have tracked : Tracks streams (payloads.map (classify (shape streams)))
        ((PacketLedger.new streams).observeAll payloads) := by
      simpa using tracks_observeAll (tracks_new built) payloads
    have last : (PacketLedger.new streams).observeAll (payloads ++ [payload]) =
        ((PacketLedger.new streams).observeAll payloads).observe payload := by
      simp [PacketLedger.observeAll]
    rw [last, List.map_append, List.map_singleton, inOrder_arrivals_append, List.forall_mem_append,
      List.forall_mem_singleton]
    constructor
    · intro clean
      obtain ⟨sound, ordered⟩ := inductionHypothesis.mp (clean_of_observe clean)
      obtain ⟨_, soundLast, next⟩ := (clean_observe_iff tracked ordered payload).mp clean
      exact ⟨⟨sound, soundLast⟩, ordered, next⟩
    · rintro ⟨⟨sound, soundLast⟩, ordered, next⟩
      exact (clean_observe_iff tracked ordered payload).mpr
        ⟨inductionHypothesis.mpr ⟨sound, ordered⟩, soundLast, next⟩

/-- What a receiver reports after a whole run. -/
def discrepancies (streams : List ExpectedStream) (payloads : List Payload) : UInt64 :=
  ((PacketLedger.new streams).observeAll payloads).finish.discrepancyCount

/-- The stream ordinal a payload carries, if it is measured and of this stream. -/
def measuredOrdinal (key : StreamKey) (payload : Payload) : Option Nat :=
  match inspectPayload payload with
  | .error _ => none
  | .ok inspection =>
    if inspection.identity.phase = .measured ∧ identityKey inspection.identity = key then
      some inspection.identity.ordinal.toNat
    else none

/-- The ordinals of a stream's measured payloads, in arrival order. -/
def measuredOrdinals (payloads : List Payload) (key : StreamKey) : List Nat :=
  payloads.filterMap (measuredOrdinal key)

/-- Every payload decodes. -/
def AllDecode (payloads : List Payload) : Prop :=
  ∀ payload ∈ payloads, ∃ inspection, inspectPayload payload = .ok inspection

/-- Every measured payload names one of the streams and matches its body. -/
def MeasuredNamed (streams : List ExpectedStream) (payloads : List Payload) : Prop :=
  ∀ payload ∈ payloads, ∀ inspection, inspectPayload payload = .ok inspection →
    inspection.identity.phase = .measured →
    (∃ stream ∈ streams, stream.key = identityKey inspection.identity) ∧
      inspection.payloadMatches = true

/-- Every stream's measured ordinals are 0, 1, …, n-1. -/
def OrdinalsExact (streams : List ExpectedStream) (payloads : List Payload) : Prop :=
  ∀ stream ∈ streams, measuredOrdinals payloads stream.key = List.range stream.seen.length

/-- With distinct keys, a key belongs to the stream at one position only. -/
theorem index_of_key {streams : List ExpectedStream}
    (distinctKeys : (streams.map ExpectedStream.key).Nodup) {first second : Nat}
    {stream other : ExpectedStream} (located : streams[first]? = some stream)
    (otherLocated : streams[second]? = some other) (same : stream.key = other.key) :
    first = second := by
  have firstKey : (streams.map ExpectedStream.key)[first]? = some stream.key := by simp [located]
  have secondKey : (streams.map ExpectedStream.key)[second]? = some stream.key := by
    simp [otherLocated, same]
  obtain ⟨inside, _⟩ := List.getElem?_eq_some_iff.mp firstKey
  exact (List.getElem?_inj inside distinctKeys).mp (firstKey.trans secondKey.symm)

/-- The verdict on a payload, read off its inspection. -/
theorem classify_cases (streams : List ExpectedStream) (payload : Payload) :
    (∃ message, inspectPayload payload = .error message ∧
      classify (shape streams) payload = .unexpected) ∨
    ∃ inspection, inspectPayload payload = .ok inspection ∧
      ((inspection.identity.phase = .warmup ∧ classify (shape streams) payload = .warmup) ∨
      (inspection.identity.phase = .measured ∧
        ((∀ stream ∈ streams, stream.key ≠ identityKey inspection.identity) ∧
          classify (shape streams) payload = .unexpected ∨
        ∃ index stream, streams[index]? = some stream ∧
          stream.key = identityKey inspection.identity ∧
          classify (shape streams) payload =
            if inspection.identity.ordinal.toNat < stream.seen.length then
              .arrival index inspection.identity.ordinal.toNat inspection.payloadMatches
            else .unexpected))) := by
  unfold classify
  cases inspectPayload payload with
  | error message => exact Or.inl ⟨message, rfl, rfl⟩
  | ok inspection =>
    refine Or.inr ⟨inspection, rfl, ?_⟩
    cases phase : inspection.identity.phase with
    | warmup => exact Or.inl ⟨rfl, by simp [phase]⟩
    | measured =>
      refine Or.inr ⟨rfl, ?_⟩
      simp only [phase, reduceCtorEq, if_false, shape, List.findIdx?_map, Function.comp_def]
      cases found : streams.findIdx?
          (fun stream => stream.key == identityKey inspection.identity) with
      | none =>
        refine Or.inl ⟨fun stream member => ?_, rfl⟩
        simpa using List.findIdx?_eq_none_iff.mp found stream member
      | some index =>
        obtain ⟨inside, matched, _⟩ := List.findIdx?_eq_some_iff_getElem.mp found
        have located : streams[index]? = some streams[index] := List.getElem?_eq_getElem inside
        refine Or.inr ⟨index, streams[index], located, by simpa using matched, ?_⟩
        simp only [List.getElem?_map, located, Option.map_some, Option.getD_some]

/-- A verdict's contribution to one lane. -/
def laneItem (index : Nat) : Event → Option Nat
  | .arrival other ordinal _ => if other = index then some ordinal else none
  | _ => none

/-- The lane of a stream is what its own events carry. -/
theorem lane_arrivals (events : List Event) (index : Nat) :
    Arrivals.lane (arrivals events) index = events.filterMap (laneItem index) := by
  induction events with
  | nil => rfl
  | cons event rest inductionHypothesis =>
    have front : arrivals (event :: rest) = event.item.toList ++ arrivals rest := by
      cases event <;> rfl
    rw [front, Arrivals.lane_append, inductionHypothesis]
    cases event with
    | warmup => rfl
    | unexpected => rfl
    | arrival other ordinal payloadMatches =>
      by_cases same : other = index <;>
        simp [Event.item, Arrivals.lane_single, laneItem, same]

/-- While no verdict is unexpected, a stream's measured ordinals are its lane. -/
theorem measuredOrdinals_eq_lane {streams : List ExpectedStream}
    (distinctKeys : (streams.map ExpectedStream.key).Nodup) {payloads : List Payload}
    (sound : ∀ payload ∈ payloads, Event.Sound (classify (shape streams) payload))
    {index : Nat} {stream : ExpectedStream} (located : streams[index]? = some stream) :
    measuredOrdinals payloads stream.key =
      Arrivals.lane (arrivals (payloads.map (classify (shape streams)))) index := by
  rw [lane_arrivals, List.filterMap_map, measuredOrdinals]
  refine List.filterMap_congr (fun payload member => ?_)
  have soundHere := sound payload member
  rw [Function.comp_apply, measuredOrdinal]
  obtain ⟨_, inspected, verdict⟩ | ⟨inspection, inspected, ⟨phase, verdict⟩ |
      ⟨phase, ⟨absent, verdict⟩ | ⟨other, otherStream, otherLocated, named, verdict⟩⟩⟩ :=
    classify_cases streams payload <;> rw [verdict] at soundHere ⊢
  · exact soundHere.elim
  · simp [inspected, phase, laneItem]
  · exact soundHere.elim
  · by_cases inRange : inspection.identity.ordinal.toNat < otherStream.seen.length
    · have sameLane : other = index ↔ identityKey inspection.identity = stream.key := by
        constructor
        · rintro rfl
          rw [otherLocated] at located
          rw [← named, Option.some.inj located]
        · intro same
          exact index_of_key distinctKeys otherLocated located (named.trans same)
      simp only [inspected, phase, if_pos inRange, laneItem, true_and, sameLane]
    · rw [if_neg inRange] at soundHere
      exact soundHere.elim

/-- Sound verdicts come from decodable payloads whose measured ones are named and
intact. -/
theorem decode_of_sound {streams : List ExpectedStream} {payloads : List Payload}
    (sound : ∀ payload ∈ payloads, Event.Sound (classify (shape streams) payload)) :
    AllDecode payloads ∧ MeasuredNamed streams payloads := by
  have each : ∀ payload ∈ payloads, ∃ inspection, inspectPayload payload = .ok inspection ∧
      (inspection.identity.phase = .measured →
        (∃ stream ∈ streams, stream.key = identityKey inspection.identity) ∧
          inspection.payloadMatches = true) := by
    intro payload member
    have soundHere := sound payload member
    obtain ⟨_, _, verdict⟩ | ⟨inspection, inspected, ⟨phase, _⟩ |
        ⟨_, ⟨_, verdict⟩ | ⟨_, stream, located, named, verdict⟩⟩⟩ :=
      classify_cases streams payload
    · exact (verdict ▸ soundHere : Event.Sound .unexpected).elim
    · refine ⟨inspection, inspected, fun measured => ?_⟩
      rw [phase] at measured
      cases measured
    · exact (verdict ▸ soundHere : Event.Sound .unexpected).elim
    · refine ⟨inspection, inspected, fun _ => ⟨⟨stream, List.mem_of_getElem? located, named⟩, ?_⟩⟩
      rw [verdict] at soundHere
      split at soundHere
      · exact soundHere
      · exact soundHere.elim
  constructor
  · intro payload member
    obtain ⟨inspection, inspected, _⟩ := each payload member
    exact ⟨inspection, inspected⟩
  · intro payload member inspection inspected measured
    obtain ⟨same, sameInspected, named⟩ := each payload member
    obtain rfl := Except.ok.inj (sameInspected.symm.trans inspected)
    exact named measured

/-- Conversely, named and intact payloads whose ordinals are exact have sound
verdicts: exactness keeps every ordinal in range. -/
theorem sound_of_decode {streams : List ExpectedStream} {payloads : List Payload}
    (decode : AllDecode payloads) (measuredNamed : MeasuredNamed streams payloads)
    (exactOrdinals : OrdinalsExact streams payloads) :
    ∀ payload ∈ payloads, Event.Sound (classify (shape streams) payload) := by
  intro payload member
  obtain ⟨_, inspected, _⟩ | ⟨inspection, inspected, ⟨_, verdict⟩ |
      ⟨phase, ⟨absent, _⟩ | ⟨_, stream, located, named, verdict⟩⟩⟩ :=
    classify_cases streams payload
  · obtain ⟨_, decoded⟩ := decode payload member
    rw [inspected] at decoded
    cases decoded
  · rw [verdict]
    trivial
  · obtain ⟨⟨stream, inside, named⟩, _⟩ := measuredNamed payload member inspection inspected phase
    exact absurd named (absent stream inside)
  · have carried : inspection.identity.ordinal.toNat ∈ measuredOrdinals payloads stream.key := by
      refine List.mem_filterMap.mpr ⟨payload, member, ?_⟩
      simp [measuredOrdinal, inspected, phase, named]
    rw [exactOrdinals stream (List.mem_of_getElem? located), List.mem_range] at carried
    rw [verdict, if_pos carried]
    exact (measuredNamed payload member inspection inspected phase).2

/-- No gap is left exactly when every bit is set. -/
theorem gaps_eq_zero_iff (streams : List ExpectedStream) :
    gaps streams = 0 ↔
      ∀ (index : Nat) (stream : ExpectedStream), streams[index]? = some stream →
        ∀ ordinal < stream.seen.length, stream.seen[ordinal]? = some true := by
  simp only [gaps, List.sum_eq_zero_iff_forall_eq_nat, List.forall_mem_map, List.count_eq_zero]
  constructor
  · intro noGap index stream located ordinal inside
    rw [List.getElem?_eq_getElem inside]
    cases bit : stream.seen[ordinal] with
    | true => rfl
    | false =>
      exact absurd (bit ▸ List.getElem_mem inside) (noGap stream (List.mem_of_getElem? located))
  · intro full stream member gap
    obtain ⟨index, located⟩ := List.mem_iff_getElem?.mp member
    obtain ⟨ordinal, read⟩ := List.mem_iff_getElem?.mp gap
    obtain ⟨inside, _⟩ := List.getElem?_eq_some_iff.mp read
    rw [full index stream located ordinal inside] at read
    cases read

/-- The arrivals of a history stay inside the streams' sizes. -/
theorem arrival_in_range {streams : List ExpectedStream} {payloads : List Payload}
    {index ordinal : Nat}
    (arrived : (index, ordinal) ∈ arrivals (payloads.map (classify (shape streams)))) :
    ∃ stream, streams[index]? = some stream ∧ ordinal < stream.seen.length := by
  obtain ⟨event, member, item⟩ := List.mem_filterMap.mp arrived
  obtain ⟨payload, _, rfl⟩ := List.mem_map.mp member
  obtain ⟨_, _, verdict⟩ | ⟨inspection, _, ⟨_, verdict⟩ |
      ⟨_, ⟨_, verdict⟩ | ⟨other, stream, located, _, verdict⟩⟩⟩ :=
    classify_cases streams payload <;> rw [verdict] at item
  · cases item
  · cases item
  · cases item
  · split at item
    · next inRange =>
      obtain ⟨rfl, rfl⟩ := Prod.mk.inj (Option.some.inj item)
      exact ⟨stream, located, inRange⟩
    · cases item

/-- A tracked run leaves no gap exactly when every item below the sizes arrived. -/
theorem gaps_iff_arrived {streams : List ExpectedStream} {events : List Event}
    {ledger : PacketLedger} (tracked : Tracks streams events ledger) :
    gaps ledger.streams = 0 ↔
      ∀ (index : Nat) (stream : ExpectedStream), streams[index]? = some stream →
        ∀ ordinal < stream.seen.length, (index, ordinal) ∈ arrivals events := by
  have sameShape (index : Nat) : (ledger.streams[index]?).map (fun stream => stream.seen.length) =
      (streams[index]?).map (fun stream => stream.seen.length) := by
    have entry := congrArg (fun lanes => (lanes[index]?).map Prod.snd) tracked.shape
    simpa [shape, Function.comp_def] using entry
  rw [gaps_eq_zero_iff]
  constructor
  · intro full index stream located ordinal inside
    have size := sameShape index
    rw [located, Option.map_some] at size
    obtain ⟨current, currentLocated, currentSize⟩ := Option.map_eq_some_iff.mp size
    have bit := full index current currentLocated ordinal (by omega)
    simpa using tracked.seen index current currentLocated ordinal true bit
  · intro arrived index current currentLocated ordinal inside
    have size := sameShape index
    rw [currentLocated, Option.map_some] at size
    obtain ⟨stream, located, streamSize⟩ := Option.map_eq_some_iff.mp size.symm
    have item := arrived index stream located ordinal (by omega)
    have read := List.getElem?_eq_getElem inside
    rw [read, tracked.seen index current currentLocated ordinal _ read]
    simpa using item

/-- A ledger finishes clean exactly when no fault was counted and nothing is missing. -/
theorem finish_discrepancyCount_eq_zero (ledger : PacketLedger) :
    ledger.finish.discrepancyCount = 0 ↔ Clean ledger ∧ gaps ledger.streams = 0 := by
  have missing := finish_missing_toNat ledger
  have noGap : ledger.finish.missingPackets = 0 ↔ gaps ledger.streams = 0 := by
    rw [← UInt64.toNat_inj, missing, UInt64.toNat_zero]
    simp only [limit]
    omega
  rw [CorrectnessSummary.discrepancyCount_eq_zero, noGap]
  simp only [PacketLedger.finish, Clean]
  tauto

/-- The gate in terms of what was sent to the receiver.

Proof: a clean run has sound verdicts and lanes that count up from zero, so every
lane is a range; the absence of gaps makes it at least as long as its stream, and
in-range arrivals make it at most as long. Conversely exact ordinals keep every
verdict sound, every lane in order and every bit set. -/
theorem finish_clean_iff {streams : List ExpectedStream}
    (built : ∀ stream ∈ streams, stream.Built)
    (distinctKeys : (streams.map ExpectedStream.key).Nodup) (payloads : List Payload) :
    discrepancies streams payloads = 0 ↔
      AllDecode payloads ∧ MeasuredNamed streams payloads ∧ OrdinalsExact streams payloads := by
  unfold discrepancies
  have tracked : Tracks streams (payloads.map (classify (shape streams)))
      ((PacketLedger.new streams).observeAll payloads) := by
    simpa using tracks_observeAll (tracks_new built) payloads
  rw [finish_discrepancyCount_eq_zero, clean_run_iff built, gaps_iff_arrived tracked]
  constructor
  · rintro ⟨⟨sound, ordered⟩, arrived⟩
    obtain ⟨decode, measuredNamed⟩ := decode_of_sound sound
    refine ⟨decode, measuredNamed, fun stream member => ?_⟩
    obtain ⟨index, located⟩ := List.mem_iff_getElem?.mp member
    rw [measuredOrdinals_eq_lane distinctKeys sound located, ordered index]
    congr 1
    have long (ordinal : Nat) (inside : ordinal < stream.seen.length) :=
      (Arrivals.mem_of_inOrder ordered index ordinal).mp
        (arrived index stream located ordinal inside)
    have short (ordinal : Nat)
        (inside : ordinal <
          (Arrivals.lane (arrivals (payloads.map (classify (shape streams)))) index).length) :
        ordinal < stream.seen.length := by
      obtain ⟨same, sameLocated, inRange⟩ :=
        arrival_in_range ((Arrivals.mem_of_inOrder ordered index ordinal).mpr inside)
      rw [located] at sameLocated
      exact Option.some.inj sameLocated ▸ inRange
    refine Nat.le_antisymm (Nat.not_lt.mp fun more => ?_) (Nat.not_lt.mp fun fewer => ?_)
    · exact absurd (short _ more) (Nat.lt_irrefl _)
    · exact absurd (long _ fewer) (Nat.lt_irrefl _)
  · rintro ⟨decode, measuredNamed, exactOrdinals⟩
    have sound := sound_of_decode decode measuredNamed exactOrdinals
    have lanes (index : Nat) (stream : ExpectedStream) (located : streams[index]? = some stream) :
        Arrivals.lane (arrivals (payloads.map (classify (shape streams)))) index =
          List.range stream.seen.length := by
      rw [← measuredOrdinals_eq_lane distinctKeys sound located]
      exact exactOrdinals stream (List.mem_of_getElem? located)
    refine ⟨⟨sound, fun index => ?_⟩, fun index stream located ordinal inside => ?_⟩
    · cases located : streams[index]? with
      | some stream => rw [lanes index stream located, List.length_range]
      | none =>
        -- no verdict names a lane without a stream
        have empty : Arrivals.lane (arrivals (payloads.map (classify (shape streams)))) index =
            [] := by
          refine List.eq_nil_iff_forall_not_mem.mpr fun ordinal member => ?_
          obtain ⟨_, other, _⟩ := arrival_in_range ((Arrivals.mem_lane _ _ _).mp member)
          rw [located] at other
          cases other
        rw [empty]
        rfl
    · rw [← Arrivals.mem_lane, lanes index stream located, List.mem_range]
      exact inside

/-- The exact-delivery gate: no discrepancy remains exactly when every payload
decodes, every measured payload is named and intact, and every expected stream's
ordinals arrive as 0, 1, …, n-1. Reordering that keeps each stream's own order
does not matter, and neither does an extra warmup anywhere. -/
theorem exact_delivery_gate {streams : List ExpectedStream}
    (built : ∀ stream ∈ streams, stream.Built)
    (distinctKeys : (streams.map ExpectedStream.key).Nodup) (payloads : List Payload) :
    (discrepancies streams payloads = 0 ↔
      AllDecode payloads ∧ MeasuredNamed streams payloads ∧ OrdinalsExact streams payloads) ∧
    (∀ interleaved, payloads.Perm interleaved →
      (∀ key, measuredOrdinals interleaved key = measuredOrdinals payloads key) →
      (discrepancies streams interleaved = 0 ↔ discrepancies streams payloads = 0)) ∧
    ∀ before after warmup, payloads = before ++ after → decodesAsWarmup warmup = true →
      discrepancies streams (before ++ warmup :: after) = discrepancies streams payloads := by
  refine ⟨finish_clean_iff built distinctKeys payloads, ?_, ?_⟩
  · intro interleaved same sameOrders
    have decode : AllDecode interleaved ↔ AllDecode payloads := by
      simp only [AllDecode, same.mem_iff]
    have named : MeasuredNamed streams interleaved ↔ MeasuredNamed streams payloads := by
      simp only [MeasuredNamed, same.mem_iff]
    have ordinals : OrdinalsExact streams interleaved ↔ OrdinalsExact streams payloads := by
      simp only [OrdinalsExact, sameOrders]
    rw [finish_clean_iff built distinctKeys, finish_clean_iff built distinctKeys, decode, named,
      ordinals]
  · rintro before after warmup rfl decoded
    have inert (ledger : PacketLedger) : ledger.observe warmup = ledger :=
      observe_warmup ledger decoded
    simp [discrepancies, PacketLedger.observeAll, inert]

/-- A voice packet as it is named. -/
def voice (phase : PacketPhase) (source : UInt16) (ordinal : UInt32) : PacketIdentity :=
  ⟨.audio, phase, none, source, ordinal, 0, 0, 1⟩

/-- A voice packet as it is sent, behind the byte that opens an Opus payload. -/
def voicePayload (identity : PacketIdentity) : Payload :=
  encodedPayload identity audioPacketPayloadBytes [0x78]

/-- A payload of a voice decodes to its identity, with the body it predicts. -/
theorem inspect_voicePayload (phase : PacketPhase) (source : UInt16) (ordinal : UInt32) :
    inspectPayload (voicePayload (voice phase source ordinal)) =
      .ok ⟨voice phase source ordinal, true⟩ :=
  inspect_encoded _ _ _ rfl (by decide) (Generated.toc_noEarlyMagic 0x78)

/-- Two voices of two packets each. -/
def twoVoices : List ExpectedStream :=
  [⟨0, .audio, none, [false, false], 0⟩, ⟨1, .audio, none, [false, false], 0⟩]

/-- Their packets in turn, with a packet of the warmup between them. -/
def inTurn : List PacketIdentity :=
  [voice .measured 0 0, voice .warmup 1 7, voice .measured 1 0, voice .measured 0 1,
    voice .measured 1 1]

/-- Two voices that take turns, with a warmup packet between them, pass the gate. -/
theorem voices_in_turn_pass : discrepancies twoVoices (inTurn.map voicePayload) = 0 := by
  have built : ∀ stream ∈ twoVoices, stream.Built := by
    intro stream member
    simp only [twoVoices, List.mem_cons, List.not_mem_nil, or_false] at member
    rcases member with rfl | rfl <;> exact ⟨2, rfl⟩
  have spoken : ∀ identity ∈ inTurn, inspectPayload (voicePayload identity) = .ok ⟨identity, true⟩ := by
    intro identity member
    simp only [inTurn, List.mem_cons, List.not_mem_nil, or_false] at member
    rcases member with rfl | rfl | rfl | rfl | rfl <;> exact inspect_voicePayload _ _ _
  refine (exact_delivery_gate built (by decide) (inTurn.map voicePayload)).1.mpr ⟨?_, ?_, ?_⟩
  · intro payload member
    obtain ⟨identity, among, rfl⟩ := List.mem_map.mp member
    exact ⟨_, spoken identity among⟩
  · intro payload member inspection decoded measured
    obtain ⟨identity, among, rfl⟩ := List.mem_map.mp member
    obtain rfl := Except.ok.inj ((spoken identity among).symm.trans decoded)
    exact ⟨(by decide : ∀ identity ∈ inTurn, ∃ stream ∈ twoVoices,
      stream.key = identityKey identity) identity among, rfl⟩
  · intro stream member
    have read (identity : PacketIdentity) (among : identity ∈ inTurn) :
        (measuredOrdinal stream.key ∘ voicePayload) identity =
          if identity.phase = .measured ∧ identityKey identity = stream.key then
            some identity.ordinal.toNat
          else none := by
      rw [Function.comp_apply, measuredOrdinal, spoken identity among]
    rw [measuredOrdinals, List.filterMap_map, List.filterMap_congr read]
    exact (by decide : ∀ stream ∈ twoVoices, inTurn.filterMap (fun identity =>
      if identity.phase = .measured ∧ identityKey identity = stream.key then
        some identity.ordinal.toNat
      else none) = List.range stream.seen.length) stream member

end SfuLoad.Gate
