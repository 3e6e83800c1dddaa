import SfuLoad.Client.Agreement
import SfuLoad.Client.Gate
import SfuLoad.Model.Result
import Mathlib.Algebra.BigOperators.Group.List.Basic

/-!
# Collecting peer observations

Tasks finish in any order, and rooms in any order. Merging is a commutative
monoid, so the collected observation does not depend on either. Its counters are
saturating sums, hence zero only when every contribution is: no peer's shortage
is cancelled by another's surplus, and a clean run has delivered exactly what
its plan expects.
-/

namespace SfuLoad.Collect

open Kit Kit.Fallible Kit.Saturating Identity Ledger Conservation Gate Model Rooms Agreement

/-- Observations may be merged in any order. -/
theorem merge_comm (left right : RunObservation) : left.merge right = right.merge left := by
  simp only [RunObservation.merge, saturatingAdd_comm, CorrectnessSummary.merge_comm,
    larger_comm]

/-- And in any grouping. -/
theorem merge_assoc (first second third : RunObservation) :
    (first.merge second).merge third = first.merge (second.merge third) := by
  simp only [RunObservation.merge, saturatingAdd_assoc, CorrectnessSummary.merge_assoc,
    larger_assoc]

/-- An observation of nothing changes nothing. -/
theorem default_merge (observation : RunObservation) :
    RunObservation.default.merge observation = observation := by
  simp [RunObservation.merge, RunObservation.default, CorrectnessSummary.zero_merge, zero_larger]

/-- Merging, written as a sum. -/
instance : Add RunObservation := ⟨RunObservation.merge⟩

/-- Nothing observed, written as zero. -/
instance : Zero RunObservation := ⟨RunObservation.default⟩

/-- Merging is a commutative monoid, so the lemmas about sums over lists apply. -/
instance : AddCommMonoid RunObservation where
  add_assoc := merge_assoc
  add_comm := merge_comm
  zero_add := default_merge
  add_zero observation := (merge_comm _ _).trans (default_merge observation)
  nsmul := nsmulRec

/-- Merge the observations of a room's peer tasks in the order they finish. -/
def collectPeerObservations (finished : List RunObservation) : RunObservation :=
  finished.foldl RunObservation.merge RunObservation.default

/-- Merge the rooms of a run in the order they finish, each from its own peers. -/
def collectRooms (finished : List (List RunObservation)) : RunObservation :=
  (finished.map collectPeerObservations).foldl RunObservation.merge RunObservation.default

/-- What is collected is the sum of what was finished. -/
theorem collectPeerObservations_eq_sum (finished : List RunObservation) :
    collectPeerObservations finished = finished.sum :=
  List.sum_eq_foldl.symm

/-- However the observations are grouped into rooms, collecting adds them up. -/
theorem collectRooms_eq_sum (finished : List (List RunObservation)) :
    collectRooms finished = finished.flatten.sum := by
  have each : finished.map collectPeerObservations = finished.map List.sum :=
    List.map_congr_left (fun room _ => collectPeerObservations_eq_sum room)
  rw [List.sum_flatten, ← each]
  exact List.sum_eq_foldl.symm

/-- A saturating field of a collected observation is the clamped sum of the field. -/
theorem sum_field (field : RunObservation → UInt64)
    (zero : field RunObservation.default = 0)
    (merged : ∀ left right, field (left.merge right) = saturatingAdd (field left) (field right))
    (observations : List RunObservation) :
    (field observations.sum).toNat =
      min ((observations.map (fun observation => (field observation).toNat)).sum) limit := by
  induction observations with
  | nil =>
    change (field RunObservation.default).toNat = _
    rw [zero]
    rfl
  | cons observation rest inductionHypothesis =>
    rw [List.sum_cons, List.map_cons, List.sum_cons]
    change (field (observation.merge rest.sum)).toNat = _
    rw [merged, saturatingAdd_toNat, inductionHypothesis]
    omega

/-- Collected discrepancies vanish only together. -/
theorem sum_clean_iff (observations : List RunObservation) :
    observations.sum.correctness.discrepancyCount = 0 ↔
      ∀ observation ∈ observations, observation.correctness.discrepancyCount = 0 := by
  induction observations with
  | nil => simp; rfl
  | cons observation rest inductionHypothesis =>
    rw [List.sum_cons, List.forall_mem_cons, ← inductionHypothesis]
    exact CorrectnessSummary.merge_discrepancyCount_eq_zero _ _

/-- Bytes of the marked packets, each at its stream's length. -/
def markedBytes (streams : List ExpectedStream) : Nat :=
  (streams.map (fun stream => stream.seen.count true * packetBytes stream)).sum

/-- A matching body has its stream's packet length. -/
theorem length_of_matches {payload : Payload} {inspection : PayloadInspection}
    (inspected : inspectPayload payload = .ok inspection)
    (intact : inspection.payloadMatches = true) {stream : ExpectedStream}
    (named : stream.key = identityKey inspection.identity) :
    payload.length = packetBytes stream := by
  obtain ⟨_, expected, _, _, _, length, verdict⟩ := inspect_eq_ok inspected
  rw [verdict, Bool.and_eq_true, beq_iff_eq] at intact
  rw [intact.1]
  have kinds : stream.kind = inspection.identity.kind := congrArg (fun key => key.2.1) named
  have layers : stream.layer = inspection.identity.layer := congrArg (fun key => key.2.2) named
  unfold expectedLen at length
  rw [packetBytes, layers]
  split at length <;> simp_all

/-- One payload of a clean run adds its stream's packet length, as it marks one
packet of it. -/
theorem observe_bytes {ledger : PacketLedger} {payload : Payload}
    (clean : Clean (ledger.observe payload))
    (counted : ledger.deliveredPayloadBytes.toNat = min (markedBytes ledger.streams) limit) :
    (ledger.observe payload).deliveredPayloadBytes.toNat =
      min (markedBytes (ledger.observe payload).streams) limit := by
  obtain ⟨_, effect⟩ | ⟨_, effect⟩ | ⟨_, _, _, _, _, _, _, effect⟩ |
      ⟨index, stream, ordinal, payloadMatches, verdict, located, bit, effect⟩ :=
    observe_cases ledger payload <;> rw [effect] at clean ⊢
  · exact counted
  · simp [Clean, PacketLedger.countUnexpected] at clean
  · simp [Clean, PacketLedger.countDuplicate] at clean
  · have intact : payloadMatches = true := by
      by_contra mismatch
      simp [Clean, PacketLedger.deliver, mismatch] at clean
    have length : payload.length = packetBytes stream := by
      obtain ⟨_, _, other⟩ | ⟨inspection, inspected, ⟨_, other⟩ |
          ⟨_, ⟨_, other⟩ | ⟨position, named, namedLocated, key, other⟩⟩⟩ :=
        classify_cases ledger.streams payload <;> rw [verdict] at other
      · cases other
      · cases other
      · cases other
      · split at other
        · obtain ⟨rfl, _, sameVerdict⟩ := Event.arrival.inj other
          rw [located] at namedLocated
          rw [Option.some.inj namedLocated] at *
          exact length_of_matches inspected (sameVerdict ▸ intact) key
        · cases other
    have moved := Bitmap.sum_map_set
      (fun stream => stream.seen.count true * packetBytes stream) (stream.mark ordinal) located
    have grown : (stream.mark ordinal).seen.count true * packetBytes (stream.mark ordinal) =
        stream.seen.count true * packetBytes stream + packetBytes stream := by
      rw [mark_seen, Bitmap.count_mark bit, Nat.add_mul, Nat.one_mul]
      rfl
    have small : packetBytes stream ≤ 1100 := by
      unfold packetBytes
      split
      · decide
      · next layer _ => cases layer <;> decide
    have added : (UInt64.ofNat (min payload.length limit)).toNat = packetBytes stream := by
      rw [length, UInt64.toNat_ofNat']
      simp only [limit]
      omega
    simp only [PacketLedger.deliver, saturatingAdd_toNat, counted, added, markedBytes] at *
    omega

/-- Over a clean run the delivered bytes are those of the marked packets. -/
theorem clean_run_bytes {streams : List ExpectedStream}
    (built : ∀ stream ∈ streams, stream.Built) (payloads : List Payload)
    (clean : Clean ((PacketLedger.new streams).observeAll payloads)) :
    ((PacketLedger.new streams).observeAll payloads).deliveredPayloadBytes.toNat =
      min (markedBytes ((PacketLedger.new streams).observeAll payloads).streams) limit := by
  induction payloads using List.reverseRecOn with
  | nil =>
    have unmarked : streams.map (fun stream => stream.seen.count true * packetBytes stream) =
        streams.map (fun _ => 0) := by
      refine List.map_congr_left (fun stream member => ?_)
      obtain ⟨packets, constructed⟩ := built stream member
      simp only [ExpectedStream.new, bind_eq_ok] at constructed
      obtain ⟨_, _, returned⟩ := constructed
      have seen := congrArg ExpectedStream.seen (Except.ok.inj returned)
      simp only at seen
      simp [← seen, List.count_replicate]
    simp [PacketLedger.observeAll, PacketLedger.new, markedBytes, unmarked]
  | append_singleton payloads payload inductionHypothesis =>
    have last : (PacketLedger.new streams).observeAll (payloads ++ [payload]) =
        ((PacketLedger.new streams).observeAll payloads).observe payload := by
      simp [PacketLedger.observeAll]
    rw [last] at clean ⊢
    exact observe_bytes clean (inductionHypothesis (clean_of_observe clean))

/-- Bytes the streams expect. -/
def expectedBytes (streams : List ExpectedStream) : Nat :=
  (streams.map (fun stream => stream.seen.length * packetBytes stream)).sum

/-- The bytes to expect depend on the streams' keys and sizes alone. -/
theorem expectedBytes_of_shape {left right : List ExpectedStream}
    (same : shape left = shape right) : expectedBytes left = expectedBytes right := by
  have sizes := congrArg (List.map (fun lane : StreamKey × Nat =>
    lane.2 * lane.1.2.2.elim audioPacketPayloadBytes VideoLayer.packetPayloadLen)) same
  simp only [shape, List.map_map, Function.comp_def, ExpectedStream.key] at sizes
  have lengths : ∀ stream : ExpectedStream,
      stream.layer.elim audioPacketPayloadBytes VideoLayer.packetPayloadLen =
        packetBytes stream := by
    intro stream
    cases layer : stream.layer <;> simp [packetBytes, layer]
  simp only [lengths] at sizes
  exact congrArg List.sum sizes

/-- Without gaps everything is marked. -/
theorem markedBytes_of_no_gaps {streams : List ExpectedStream} (full : gaps streams = 0) :
    markedBytes streams = expectedBytes streams := by
  rw [gaps, List.sum_eq_zero_iff_forall_eq_nat, List.forall_mem_map] at full
  refine congrArg List.sum (List.map_congr_left (fun stream member => ?_))
  have filled := Bitmap.marks_and_gaps stream.seen
  rw [full stream member, Nat.add_zero] at filled
  rw [filled]

/-- A ledger without discrepancies has delivered exactly what its streams expect. -/
theorem clean_delivers {streams : List ExpectedStream}
    (built : ∀ stream ∈ streams, stream.Built)
    (distinctKeys : (streams.map ExpectedStream.key).Nodup) {payloads : List Payload}
    (clean : discrepancies streams payloads = 0) :
    ((PacketLedger.new streams).observeAll payloads).deliveredPackets.toNat =
      expectedPackets streams ∧
    ((PacketLedger.new streams).observeAll payloads).deliveredPayloadBytes.toNat =
      min (expectedBytes streams) limit := by
  obtain ⟨spotless, full⟩ := (finish_discrepancyCount_eq_zero _).mp clean
  have tracked : Tracks streams (payloads.map (classify (shape streams)))
      ((PacketLedger.new streams).observeAll payloads) := by
    simpa using tracks_observeAll (tracks_new built) payloads
  have total := tracked_gaps tracked
  have bounded := expectedPackets_bounded built distinctKeys
  refine ⟨?_, ?_⟩
  · rw [tracked.delivered]
    omega
  · rw [clean_run_bytes built payloads spotless, markedBytes_of_no_gaps full,
      expectedBytes_of_shape tracked.shape]

/-- What a peer task reports besides its ledger, and the payloads its ledger saw. -/
structure PeerReport where
  offeredPackets : UInt64
  offeredPayloadBytes : UInt64
  elapsedMs : UInt64
  maxSendLagMs : UInt64
  payloads : List Payload

/-- The observation a peer task returns. -/
def PeerReport.observation (report : PeerReport) (task : PeerTask) : RunObservation :=
  let ledger := (PacketLedger.new task.expected).observeAll report.payloads
  { offeredPackets := report.offeredPackets
    offeredPayloadBytes := report.offeredPayloadBytes
    deliveredPackets := ledger.deliveredPackets
    deliveredPayloadBytes := ledger.deliveredPayloadBytes
    correctness := ledger.finish
    elapsedMs := report.elapsedMs
    maxSendLagMs := report.maxSendLagMs }

/-- All peers' observations of a run, room by room. -/
def observations (rooms : List Room) (reports : Nat → Nat → PeerReport) :
    List (List RunObservation) :=
  rooms.mapIdx (fun roomIndex room => room.tasks.mapIdx (fun peer task =>
    (reports roomIndex peer).observation task))

section
variable {rooms : List Room} {reports : Nat → Nat → PeerReport}

/-- What holds of every peer's observation. -/
theorem forall_observations (claim : RunObservation → Prop) :
    (∀ observation ∈ (observations rooms reports).flatten, claim observation) ↔
      ∀ (roomIndex : Nat) (room : Room), rooms[roomIndex]? = some room →
        ∀ (peer : Nat) (task : PeerTask), room.tasks[peer]? = some task →
          claim ((reports roomIndex peer).observation task) := by
  constructor
  · intro every roomIndex room roomLocated peer task taskLocated
    refine every _ (List.mem_flatten.mpr
      ⟨room.tasks.mapIdx (fun peer task => (reports roomIndex peer).observation task), ?_, ?_⟩)
    · refine List.mem_iff_getElem?.mpr ⟨roomIndex, ?_⟩
      rw [observations, List.getElem?_mapIdx, roomLocated, Option.map_some]
    · refine List.mem_iff_getElem?.mpr ⟨peer, ?_⟩
      rw [List.getElem?_mapIdx, taskLocated, Option.map_some]
  · intro every observation member
    obtain ⟨group, groupMember, inside⟩ := List.mem_flatten.mp member
    obtain ⟨roomIndex, groupLocated⟩ := List.mem_iff_getElem?.mp groupMember
    rw [observations, List.getElem?_mapIdx, Option.map_eq_some_iff] at groupLocated
    obtain ⟨room, roomLocated, rfl⟩ := groupLocated
    obtain ⟨peer, located⟩ := List.mem_iff_getElem?.mp inside
    rw [List.getElem?_mapIdx, Option.map_eq_some_iff] at located
    obtain ⟨task, taskLocated, rfl⟩ := located
    exact every roomIndex room roomLocated peer task taskLocated

/-- A field that the tasks determine adds up over the tasks. -/
theorem observed_total (field : RunObservation → Nat) (share : PeerTask → Nat)
    (same : ∀ (roomIndex : Nat) (room : Room), rooms[roomIndex]? = some room →
      ∀ (peer : Nat) (task : PeerTask), room.tasks[peer]? = some task →
        field ((reports roomIndex peer).observation task) = share task) :
    ((observations rooms reports).flatten.map field).sum =
      (rooms.map (fun room => (room.tasks.map share).sum)).sum := by
  rw [List.map_flatten, List.sum_flatten, List.map_map]
  refine congrArg List.sum (List.ext_getElem? (fun roomIndex => ?_))
  rw [observations, List.getElem?_map, List.getElem?_mapIdx, List.getElem?_map, Option.map_map]
  cases roomLocated : rooms[roomIndex]? with
  | none => rfl
  | some room =>
    refine congrArg some (congrArg List.sum (List.ext_getElem? (fun peer => ?_)))
    rw [List.getElem?_map, List.getElem?_mapIdx, List.getElem?_map, Option.map_map]
    cases taskLocated : room.tasks[peer]? with
    | none => rfl
    | some task => exact congrArg some (same roomIndex room roomLocated peer task taskLocated)

/-- Collected counters are what the plan asks for exactly when their sum is. -/
theorem collected_eq_iff (field : RunObservation → UInt64)
    (zero : field RunObservation.default = 0)
    (merged : ∀ left right, field (left.merge right) = saturatingAdd (field left) (field right))
    (collected : List RunObservation) {target : UInt64} (below : target.toNat < limit) :
    field collected.sum = target ↔
      (collected.map (fun observation => (field observation).toNat)).sum = target.toNat := by
  rw [← UInt64.toNat_inj, sum_field field zero merged]
  omega

/-- Peers whose ledgers are clean have together delivered the plan. -/
theorem clean_run_delivers (work : Workload) {plan : WorkloadPlan}
    (furnished : List.Forall₂ work.Furnished (List.range work.rooms) rooms)
    (counted : work.Counted plan)
    (clean : ∀ (roomIndex : Nat) (room : Room), rooms[roomIndex]? = some room →
      ∀ (peer : Nat) (task : PeerTask), room.tasks[peer]? = some task →
        discrepancies task.expected (reports roomIndex peer).payloads = 0) :
    ((observations rooms reports).flatten.map
      (fun observation => observation.deliveredPackets.toNat)).sum =
        plan.expectedDeliveries.toNat ∧
    ((observations rooms reports).flatten.map
      (fun observation => observation.deliveredPayloadBytes.toNat)).sum =
        plan.expectedDeliveryPayloadBytes.toNat := by
  have bytesTotal := delivery_bytes_total work furnished counted
  have delivers : ∀ (roomIndex : Nat) (room : Room), rooms[roomIndex]? = some room →
      ∀ (peer : Nat) (task : PeerTask), room.tasks[peer]? = some task →
      ((reports roomIndex peer).observation task).deliveredPackets.toNat =
        expectedPackets task.expected ∧
      ((reports roomIndex peer).observation task).deliveredPayloadBytes.toNat =
        expectedBytes task.expected := by
    intro roomIndex room roomLocated peer task taskLocated
    obtain ⟨roomInside, _, _, assigned⟩ :=
      Workload.furnished_task furnished roomLocated taskLocated
    obtain ⟨built, distinctKeys⟩ := expected_of_assigned work roomInside assigned
    obtain ⟨packets, bytes⟩ :=
      clean_delivers built distinctKeys (clean roomIndex room roomLocated peer task taskLocated)
    refine ⟨packets, bytes.trans (Nat.min_eq_left ?_)⟩
    -- one peer's bytes are among the plan's, which fit the counter
    calc expectedBytes task.expected
        ≤ (room.tasks.map (fun task => expectedBytes task.expected)).sum :=
          List.le_sum_of_mem (List.mem_map.mpr ⟨task, List.mem_of_getElem? taskLocated, rfl⟩)
      _ ≤ (rooms.map (fun room =>
            (room.tasks.map (fun task => expectedBytes task.expected)).sum)).sum :=
          List.le_sum_of_mem (List.mem_map.mpr ⟨room, List.mem_of_getElem? roomLocated, rfl⟩)
      _ = plan.expectedDeliveryPayloadBytes.toNat := bytesTotal
      _ ≤ limit := toNat_le_limit _
  constructor
  · rw [observed_total _ (fun task => expectedPackets task.expected)
      (fun roomIndex room roomLocated peer task taskLocated =>
        (delivers roomIndex room roomLocated peer task taskLocated).1)]
    exact deliveries_total work furnished counted
  · rw [observed_total _ (fun task => expectedBytes task.expected)
      (fun roomIndex room roomLocated peer task taskLocated =>
        (delivers roomIndex room roomLocated peer task taskLocated).2)]
    exact bytesTotal

end

/-- The merged gate. In whatever order and grouping the peers' observations are
collected, the collected observation is the same, and its completed result is
valid exactly when the offered packets and bytes add up to the plan and every
single peer's ledger finished clean. -/
theorem merged_gate (revision : String) (spec : ScenarioSpec) (valid : spec.validate = .ok ())
    (reports : Nat → Nat → PeerReport) :
    ∃ plan rooms, spec.plan = .ok plan ∧ run spec = .ok rooms ∧
    ∀ grouped : List (List RunObservation),
      grouped.flatten.Perm (observations rooms reports).flatten →
      collectRooms grouped = collectRooms (observations rooms reports) ∧
      ∃ result, ScenarioResult.completed revision spec (collectRooms grouped) = .ok result ∧
      (result.validate spec = .ok () ↔
        ((observations rooms reports).flatten.map
          (fun observation => observation.offeredPackets.toNat)).sum =
            plan.offeredPackets.toNat ∧
        ((observations rooms reports).flatten.map
          (fun observation => observation.offeredPayloadBytes.toNat)).sum =
            plan.offeredPayloadBytes.toNat ∧
        ∀ (roomIndex : Nat) (room : Room), rooms[roomIndex]? = some room →
          ∀ (peer : Nat) (task : PeerTask), room.tasks[peer]? = some task →
            discrepancies task.expected (reports roomIndex peer).payloads = 0) := by
  obtain ⟨plan, planned, counted, fewOffered, fewDelivered⟩ := spec.plan_counted valid
  obtain ⟨rooms, ran, furnished⟩ := run_furnished spec valid
  refine ⟨plan, rooms, planned, ran, fun grouped same => ?_⟩
  have collected : collectRooms grouped = (observations rooms reports).flatten.sum := by
    rw [collectRooms_eq_sum, same.sum_eq]
  refine ⟨by rw [collected, collectRooms_eq_sum], _,
    ScenarioResult.completed_of_planned revision planned _, ?_⟩
  rw [ScenarioResult.completed_validate_iff valid planned
    (ScenarioResult.completed_of_planned revision planned _), collected, sum_clean_iff,
    forall_observations]
  have fewBytes := (spec.workload valid).offeredPayloadBytes_le
  rw [← counted.offeredPackets, ← counted.offeredPayloadBytes] at fewBytes
  have packets := collected_eq_iff (fun observation => observation.offeredPackets) rfl
    (fun _ _ => rfl) (observations rooms reports).flatten
    (show plan.offeredPackets.toNat < limit by simp only [limit]; omega)
  have bytes := collected_eq_iff (fun observation => observation.offeredPayloadBytes) rfl
    (fun _ _ => rfl) (observations rooms reports).flatten
    (show plan.offeredPayloadBytes.toNat < limit by simp only [limit]; omega)
  constructor
  · rintro ⟨packetsEqual, bytesEqual, _, _, clean⟩
    exact ⟨packets.mp packetsEqual, bytes.mp bytesEqual, clean⟩
  · rintro ⟨packetsTotal, bytesTotal, clean⟩
    obtain ⟨deliveredPackets, deliveredBytes⟩ :=
      clean_run_delivers (spec.workload valid) furnished counted clean
    refine ⟨packets.mpr packetsTotal, bytes.mpr bytesTotal, ?_, ?_, clean⟩
    · rw [← UInt64.toNat_inj, sum_field (fun observation => observation.deliveredPackets) rfl
        (fun _ _ => rfl), deliveredPackets]
      exact Nat.min_eq_left (toNat_le_limit _)
    · rw [← UInt64.toNat_inj, sum_field (fun observation => observation.deliveredPayloadBytes) rfl
        (fun _ _ => rfl), deliveredBytes]
      exact Nat.min_eq_left (toNat_le_limit _)

/-- What the peers of a smoke report: one offers two packets, and two receive them,
one of these behind a warmup packet. -/
def smokeReport : Nat → PeerReport
  | 0 => ⟨2, 160, 40, 3, []⟩
  | 1 => ⟨0, 0, 41, 0, [voicePayload (voice .measured 0 0), voicePayload (voice .measured 0 1)]⟩
  | _ => ⟨0, 0, 45, 0, [voicePayload (voice .warmup 0 5), voicePayload (voice .measured 0 0),
      voicePayload (voice .measured 0 1)]⟩

/-- The speaker's task. -/
def speaker : PeerTask := ⟨⟨some (Media.AudioSource.new 0), 2, none, 0⟩, []⟩

/-- The task of either listener. -/
def listener : PeerTask := ⟨⟨none, 2, none, 0⟩, [⟨0, .audio, none, [false, false], 0⟩]⟩

/-- The room of a smoke with two receivers. -/
theorem run_smoke_pair : run (.smoke 2 2) = .ok [⟨[], [speaker, listener, listener]⟩] := by
  decide

/-- The listeners' observations come in before the speaker's, as two groups. -/
def listenersFirst : List (List RunObservation) :=
  [[(smokeReport 2).observation listener],
    [(smokeReport 1).observation listener, (smokeReport 0).observation speaker]]

/-- The reports of all peers, in another order and grouping. -/
theorem listenersFirst_perm : listenersFirst.flatten.Perm
    (observations [⟨[], [speaker, listener, listener]⟩] (fun _ peer => smokeReport peer)).flatten :=
  List.reverse_perm [(smokeReport 0).observation speaker, (smokeReport 1).observation listener,
    (smokeReport 2).observation listener]

/-- Every peer of the smoke has a clean ledger. -/
theorem smoke_delivered (peer : Nat) (task : PeerTask)
    (located : [speaker, listener, listener][peer]? = some task) :
    discrepancies task.expected (smokeReport peer).payloads = 0 := by
  match peer with
  | 0 | 1 | 2 =>
    obtain rfl := Option.some.inj located
    decide +kernel
  | _ + 3 => cases located

/-- Collected in another order and grouping, the smoke's observations make a valid
result. -/
theorem listeners_first_validates :
    ∃ result, ScenarioResult.completed "" (.smoke 2 2) (collectRooms listenersFirst) = .ok result ∧
      result.validate (.smoke 2 2) = .ok () := by
  obtain ⟨plan, rooms, planned, ran, gate⟩ :=
    merged_gate "" (.smoke 2 2) (by decide) (fun _ peer => smokeReport peer)
  obtain rfl := Except.ok.inj (run_smoke_pair.symm.trans ran)
  obtain ⟨_, result, completed, accepted⟩ := gate listenersFirst listenersFirst_perm
  obtain rfl : _ = plan := Except.ok.inj planned
  refine ⟨result, completed, accepted.mpr ⟨by decide, by decide, ?_⟩⟩
  intro roomIndex room roomLocated peer task taskLocated
  match roomIndex with
  | 0 =>
    obtain rfl := Option.some.inj roomLocated
    exact smoke_delivered peer task taskLocated
  | _ + 1 => cases roomLocated

end SfuLoad.Collect
