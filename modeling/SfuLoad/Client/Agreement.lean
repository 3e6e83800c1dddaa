import SfuLoad.Client.Assignment

/-!
# Receivers expect what the plan counts

Added up over all rooms and peers, the streams the room functions hand to their
ledgers are the plan's routes, their packets its expected deliveries and their
bytes its expected delivery bytes. The closed-form route counts meet the modular
featured-source rule through a double count of the offers each peer sees and the
one it features.
-/

namespace SfuLoad.Agreement

open Kit Kit.Fallible Kit.Others Identity Ledger Media Model Rooms

/-- A weight added up over everything expected anywhere in a run. -/
def expectedTotal (rooms : List Room) (weight : ExpectedStream → Nat) : Nat :=
  (rooms.map (fun room =>
    (room.tasks.map (fun task => (task.expected.map weight).sum)).sum)).sum

/-- Bytes of one packet of a stream. -/
def packetBytes (stream : ExpectedStream) : Nat :=
  match stream.layer with
  | none => audioPacketPayloadBytes
  | some layer => layer.packetPayloadLen

/-- The room functions count publishers in a word. -/
theorem videoPublishers_toNat (work : Workload) :
    (UInt32.ofNat work.videoPublishers).toNat = work.videoPublishers := by
  have inside := work.videoInside
  have few := work.peersBound
  rw [UInt32.toNat_ofNat']
  omega

section
variable (work : Workload) (weight : ExpectedStream → Nat)

/-- A weight that sees nothing of a stream but its kind and layer, added up over
one room: every publisher is heard by all others, and the video routes split
into featured and plain ones. -/
theorem room_total {room audioWeight : Nat} {layerWeight : VideoLayer → Nat}
    (audio : ∀ source, weight (work.audioStream room source) = audioWeight)
    (video : ∀ source layer, weight (work.videoStream room source layer) = layerWeight layer) :
    ((List.range work.peers).map (fun peer => ((work.expectedOf room peer).map weight).sum)).sum =
      work.audioPublishers * (work.peers - 1) * audioWeight +
        (work.highRoutes * layerWeight .high + work.lowRoutes * layerWeight .low) := by
  have split (peer : Nat) : ((work.expectedOf room peer).map weight).sum =
      (others work.audioPublishers peer).length * audioWeight +
        ((others work.videoPublishers peer).map (fun source =>
          if work.featured peer = some source then layerWeight .high
          else layerWeight .low)).sum := by
    have audioSum : ((others work.audioPublishers peer).map
        (fun source => weight (work.audioStream room source))).sum =
          (others work.audioPublishers peer).length * audioWeight := by
      simp only [audio, List.map_const', List.sum_replicate, smul_eq_mul]
    have videoSum : (others work.videoPublishers peer).map
        (fun source => weight (work.videoStream room source (work.layerOf peer source))) =
          (others work.videoPublishers peer).map (fun source =>
            if work.featured peer = some source then layerWeight .high else layerWeight .low) := by
      refine List.map_congr_left (fun source _ => ?_)
      rw [video, Workload.layerOf]
      split <;> rfl
    rw [Workload.expectedOf, List.map_append, List.sum_append, List.map_map, List.map_map]
    simp only [Function.comp_def, audioSum, videoSum]
  have publishers := videoPublishers_toNat work
  have routed : ((List.range work.peers).map
      (fun peer => (work.featured peer).toList.length)).sum = work.highRoutes :=
    sum_featured work publishers
  have offered := sum_sum_chosen work.videoInside work.featured
    (fun peer source featured => publishers ▸ mem_of_featured featured)
    (layerWeight .high) (layerWeight .low)
  have heard : ((List.range work.peers).map
      (fun peer => (others work.audioPublishers peer).length * audioWeight)).sum =
        work.audioPublishers * (work.peers - 1) * audioWeight := by
    rw [List.sum_map_mul_right, sum_length_others work.audioInside]
  simp only [split, List.sum_map_add, heard, offered, routed, Workload.lowRoutes]

/-- The same weight over all rooms. -/
theorem run_total (audioWeight : Nat) (layerWeight : VideoLayer → Nat) {rooms : List Room}
    (furnished : List.Forall₂ work.Furnished (List.range work.rooms) rooms)
    (audio : ∀ room source, weight (work.audioStream room source) = audioWeight)
    (video : ∀ room source layer,
      weight (work.videoStream room source layer) = layerWeight layer) :
    expectedTotal rooms weight = work.rooms *
      (work.audioPublishers * (work.peers - 1) * audioWeight +
        (work.highRoutes * layerWeight .high + work.lowRoutes * layerWeight .low)) := by
  have each := map_eq_of_forall₂
    (fun _ => work.audioPublishers * (work.peers - 1) * audioWeight +
      (work.highRoutes * layerWeight .high + work.lowRoutes * layerWeight .low))
    (fun room => (room.tasks.map (fun task => (task.expected.map weight).sum)).sum) furnished (by
    intro index _ room whole
    have tasks := map_eq_of_forall₂
      (fun peer => ((work.expectedOf index peer).map weight).sum)
      (fun task => (task.expected.map weight).sum) whole.tasks
      (fun peer _ task assigned => by rw [assigned.expected])
    rw [tasks, room_total work weight (audio index) (video index)])
  rw [expectedTotal, each, List.map_const', List.sum_replicate, smul_eq_mul, List.length_range]

end

section
variable (work : Workload)

/-- The key of an expected audio stream. -/
theorem audioStream_key (room source : Nat) :
    (work.audioStream room source).key = (work.sourceOf room source, .audio, none) := rfl

/-- The key of an expected video stream. -/
theorem videoStream_key (room source : Nat) (layer : VideoLayer) :
    (work.videoStream room source layer).key = (work.sourceOf room source, .video, some layer) :=
  rfl

/-- Publishers seen by a peer are peers of its room. -/
theorem inside_of_others {count peer source : Nat} (inside : count ≤ work.peers)
    (member : source ∈ others count peer) : source < work.peers :=
  Nat.lt_of_lt_of_le ((mem_others _ _ _).mp member).1 inside

/-- A peer expects no stream twice. -/
theorem expectedOf_keys_nodup {room : Nat} (roomInside : room < work.rooms) (peer : Nat) :
    ((work.expectedOf room peer).map ExpectedStream.key).Nodup := by
  have audioKeys : ((others work.audioPublishers peer).map
      (fun source => (work.audioStream room source).key)).Nodup := by
    refine List.Nodup.map_on (fun source member other otherMember same => ?_)
      (others_nodup _ _)
    exact (work.sourceOf_injective roomInside (inside_of_others work work.audioInside member)
      roomInside (inside_of_others work work.audioInside otherMember) (congrArg Prod.fst same)).2
  have videoKeys : ((others work.videoPublishers peer).map
      (fun source => (work.videoStream room source (work.layerOf peer source)).key)).Nodup := by
    refine List.Nodup.map_on (fun source member other otherMember same => ?_)
      (others_nodup _ _)
    exact (work.sourceOf_injective roomInside (inside_of_others work work.videoInside member)
      roomInside (inside_of_others work work.videoInside otherMember) (congrArg Prod.fst same)).2
  rw [Workload.expectedOf, List.map_append, List.map_map, List.map_map, List.nodup_append]
  refine ⟨audioKeys, videoKeys, fun audioKey audioMember videoKey videoMember same => ?_⟩
  obtain ⟨_, _, rfl⟩ := List.mem_map.mp audioMember
  obtain ⟨_, _, rfl⟩ := List.mem_map.mp videoMember
  -- the kinds tell audio from video
  cases congrArg (fun key => key.2.1) same

/-- Every expected stream comes from its constructor. -/
theorem expectedOf_built {room peer : Nat} :
    ∀ stream ∈ work.expectedOf room peer, stream.Built := by
  have constructed (source : UInt16) (kind : PayloadKind) (layer : Option VideoLayer)
      (packets : Nat) (positive : 0 < packets) (bounded : packets < 2 ^ 32) :
      (⟨source, kind, layer, List.replicate packets false, 0⟩ : ExpectedStream).Built := by
    have count : (UInt32.ofNat packets).toNat = packets := by
      rw [UInt32.toNat_ofNat']
      exact Nat.mod_eq_of_lt bounded
    have nonempty : 0 < UInt32.ofNat packets := by
      rw [UInt32.lt_iff_toNat_lt, count]
      exact positive
    refine ⟨UInt32.ofNat packets, ?_⟩
    rw [ExpectedStream.new, ensure_of_holds _ nonempty, ok_bind, count]
    rfl
  intro stream member
  rw [Workload.expectedOf, List.mem_append, List.mem_map, List.mem_map] at member
  rcases member with ⟨source, heard, rfl⟩ | ⟨source, seen, rfl⟩
  · have publishing := ((mem_others _ _ _).mp heard).1
    have bounded := work.audioBound
    exact constructed _ _ _ _ (work.audioWork (by omega)) (by omega)
  · have publishing := ((mem_others _ _ _).mp seen).1
    obtain ⟨positive, bounded⟩ := work.layerPackets_bound (work.layerOf peer source) (by omega)
    exact constructed _ _ _ _ positive bounded

/-- A peer expects a layer of a publisher exactly when it is another peer's and
the layer is the one its featured choice selects. -/
theorem expects_layer_iff {room peer source : Nat} (roomInside : room < work.rooms)
    (sourceInside : source < work.peers) (layer : VideoLayer) :
    (work.sourceOf room source, PayloadKind.video, some layer) ∈
        (work.expectedOf room peer).map ExpectedStream.key ↔
      source ∈ others work.videoPublishers peer ∧ layer = work.layerOf peer source := by
  rw [Workload.expectedOf, List.map_append, List.mem_append, List.map_map, List.map_map,
    List.mem_map, List.mem_map]
  simp only [Function.comp_apply, audioStream_key, videoStream_key]
  constructor
  · rintro (⟨_, _, same⟩ | ⟨other, seen, same⟩)
    · cases congrArg (fun key => key.2.1) same
    · obtain ⟨_, rfl⟩ := work.sourceOf_injective roomInside
        (inside_of_others work work.videoInside seen) roomInside sourceInside
        (congrArg Prod.fst same)
      exact ⟨seen, (Option.some.inj (congrArg (fun key => key.2.2) same)).symm⟩
  · rintro ⟨seen, rfl⟩
    exact Or.inr ⟨source, seen, rfl⟩

/-- The layout asked for a publisher. -/
theorem mem_cameraLayouts (peer source : Nat) (publishers : UInt32) (intent : VideoLayoutIntent) :
    (userId source, intent) ∈ cameraLayouts peer publishers ↔
      source ∈ others publishers.toNat peer ∧
      intent = if featuredSource peer publishers = some source then .featured
        else .visibleThumbnail := by
  have pushed : cameraLayouts peer publishers = (others publishers.toNat peer).map (fun index =>
      (userId index, if featuredSource peer publishers = some index then .featured
        else .visibleThumbnail)) := filterMap_others _ _ _
  rw [pushed, List.mem_map]
  constructor
  · rintro ⟨index, seen, same⟩
    have users : index = source := by
      have numbers : userId index = userId source := congrArg Prod.fst same
      simp only [userId] at numbers
      omega
    subst users
    exact ⟨seen, (congrArg Prod.snd same).symm⟩
  · rintro ⟨seen, rfl⟩
    exact ⟨source, seen, rfl⟩

/-- What a task expects is built, and told apart by its keys. -/
theorem expected_of_assigned {room peer : Nat} {task : PeerTask} (roomInside : room < work.rooms)
    (assigned : work.Assigned room peer task) :
    (∀ stream ∈ task.expected, stream.Built) ∧ (task.expected.map ExpectedStream.key).Nodup := by
  rw [assigned.expected]
  exact ⟨expectedOf_built work, expectedOf_keys_nodup work roomInside peer⟩

/-- A layer is expected exactly where its layout is asked for. -/
theorem layer_iff_layout {room peer source : Nat} (roomInside : room < work.rooms)
    (sourceInside : source < work.peers) {layer : VideoLayer} {intent : VideoLayoutIntent}
    (matching : layer = .high ↔ intent = .featured) :
    (work.sourceOf room source, PayloadKind.video, some layer) ∈
        (work.expectedOf room peer).map ExpectedStream.key ↔
      (userId source, intent) ∈ cameraLayouts peer (UInt32.ofNat work.videoPublishers) := by
  have publishers := videoPublishers_toNat work
  rw [expects_layer_iff work roomInside sourceInside, mem_cameraLayouts, publishers,
    Workload.layerOf, Workload.featured]
  by_cases featured : featuredSource peer (UInt32.ofNat work.videoPublishers) = some source <;>
    cases layer <;> cases intent <;> simp_all

/-- No peer expects itself. -/
theorem never_expects_itself {room peer : Nat} (roomInside : room < work.rooms)
    (peerInside : peer < work.peers) :
    ∀ stream ∈ work.expectedOf room peer, stream.source ≠ work.sourceOf room peer := by
  intro stream member same
  have other {source : Nat} (inside : source < work.peers) (apart : source ≠ peer) :
      work.sourceOf room source ≠ work.sourceOf room peer := fun equal =>
    apart (work.sourceOf_injective roomInside inside roomInside peerInside equal).2
  rw [Workload.expectedOf, List.mem_append, List.mem_map, List.mem_map] at member
  rcases member with ⟨source, heard, rfl⟩ | ⟨source, seen, rfl⟩
  · exact other (inside_of_others work work.audioInside heard)
      ((mem_others _ _ _).mp heard).2 same
  · exact other (inside_of_others work work.videoInside seen)
      ((mem_others _ _ _).mp seen).2 same

end

section
variable (work : Workload) {rooms : List Room} {plan : WorkloadPlan}

/-- Counted over all peers, the expected streams are the routes of the plan. -/
theorem routes_total (furnished : List.Forall₂ work.Furnished (List.range work.rooms) rooms)
    (counted : work.Counted plan) : expectedTotal rooms (fun _ => 1) = plan.routes.toNat := by
  rw [counted.routes, run_total work _ 1 (fun _ => 1) furnished (fun _ _ => rfl)
    (fun _ _ _ => rfl), Workload.routes]
  have within := work.highRoutes_le
  simp only [Workload.lowRoutes, Nat.mul_one, Nat.add_mul]
  congr 2
  omega

/-- Their packets are the expected deliveries of the plan. -/
theorem deliveries_total (furnished : List.Forall₂ work.Furnished (List.range work.rooms) rooms)
    (counted : work.Counted plan) :
    expectedTotal rooms (fun stream => stream.seen.length) = plan.expectedDeliveries.toNat := by
  rw [counted.expectedDeliveries, run_total work _ work.audioPackets work.layerPackets furnished
    (fun _ _ => List.length_replicate) (fun _ _ _ => List.length_replicate)]
  rfl

/-- Their bytes are the expected delivery bytes of the plan. -/
theorem delivery_bytes_total
    (furnished : List.Forall₂ work.Furnished (List.range work.rooms) rooms)
    (counted : work.Counted plan) :
    expectedTotal rooms (fun stream => stream.seen.length * packetBytes stream) =
      plan.expectedDeliveryPayloadBytes.toNat := by
  rw [counted.expectedDeliveryPayloadBytes, run_total work _ (work.audioPackets * 80)
    (fun layer => work.layerPackets layer * layer.packetPayloadLen) furnished
    (fun _ _ => by rw [Workload.audioStream, List.length_replicate]; rfl)
    (fun _ _ _ => by rw [Workload.videoStream, List.length_replicate]; rfl)]
  rfl

end

/-- Receivers agree with the plan. Every room function succeeds for a validated
scenario; ids are unique, keys distinct, totals the plan's, and layers follow the
configured layouts. -/
theorem receivers_agree_with_plan (spec : ScenarioSpec) (valid : spec.validate = .ok ()) :
    ∃ plan rooms, spec.plan = .ok plan ∧ run spec = .ok rooms ∧
    (rooms.length = spec.roomCount.toNat ∧
      ∀ room ∈ rooms, room.tasks.length = spec.peersPerRoom.toNat) ∧
    (∀ room < spec.roomCount.toNat, ∀ peer < spec.peersPerRoom.toNat,
      ∃ id, sourceId (UInt32.ofNat room) spec.peersPerRoom peer = .ok id ∧
      ∀ otherRoom < spec.roomCount.toNat, ∀ otherPeer < spec.peersPerRoom.toNat,
        sourceId (UInt32.ofNat otherRoom) spec.peersPerRoom otherPeer = .ok id →
          otherRoom = room ∧ otherPeer = peer) ∧
    expectedTotal rooms (fun _ => 1) = plan.routes.toNat ∧
    expectedTotal rooms (fun stream => stream.seen.length) = plan.expectedDeliveries.toNat ∧
    expectedTotal rooms (fun stream => stream.seen.length * packetBytes stream) =
      plan.expectedDeliveryPayloadBytes.toNat ∧
    ∀ roomIndex room, rooms[roomIndex]? = some room →
      ∀ peer task, room.tasks[peer]? = some task →
      (task.expected.map ExpectedStream.key).Nodup ∧
      (∀ id, sourceId (UInt32.ofNat roomIndex) spec.peersPerRoom peer = .ok id →
        ∀ stream ∈ task.expected, stream.source ≠ id) ∧
      ∀ source < spec.peersPerRoom.toNat, ∀ id,
        sourceId (UInt32.ofNat roomIndex) spec.peersPerRoom source = .ok id →
        ((id, PayloadKind.video, some VideoLayer.high) ∈ task.expected.map ExpectedStream.key ↔
          (userId source, VideoLayoutIntent.featured) ∈ (room.layouts[peer]?).getD []) ∧
        ((id, PayloadKind.video, some VideoLayer.low) ∈ task.expected.map ExpectedStream.key ↔
          (userId source, VideoLayoutIntent.visibleThumbnail) ∈
            (room.layouts[peer]?).getD []) := by
  obtain ⟨plan, planned, counted, _⟩ := spec.plan_counted valid
  obtain ⟨rooms, ran, furnished⟩ := run_furnished spec valid
  have roomCount : spec.roomCount.toNat = (spec.workload valid).rooms := spec.workload_rooms valid
  have peerCount : spec.peersPerRoom.toNat = (spec.workload valid).peers :=
    spec.workload_peers valid
  generalize spec.workload valid = work at counted furnished roomCount peerCount
  rw [roomCount, peerCount]
  have roomsLength := furnished.length_eq
  rw [List.length_range] at roomsLength
  refine ⟨plan, rooms, planned, ran, ⟨roomsLength.symm, ?_⟩, ?_, ?_, ?_, ?_, ?_⟩
  · intro room member
    obtain ⟨index, located⟩ := List.mem_iff_getElem?.mp member
    obtain ⟨_, whole⟩ := forall₂_range_getElem? furnished located
    rw [← whole.tasks.length_eq, List.length_range]
  · intro room roomInside peer peerInside
    refine ⟨work.sourceOf room peer, work.sourceId_eq roomInside peerInside peerCount, ?_⟩
    intro otherRoom otherRoomInside otherPeer otherPeerInside same
    rw [work.sourceId_eq otherRoomInside otherPeerInside peerCount] at same
    exact work.sourceOf_injective otherRoomInside otherPeerInside roomInside peerInside
      (Except.ok.inj same)
  · exact routes_total work furnished counted
  · exact deliveries_total work furnished counted
  · exact delivery_bytes_total work furnished counted
  · intro roomIndex room roomLocated peer task taskLocated
    obtain ⟨roomInside, whole, peerInside, assigned⟩ :=
      Workload.furnished_task furnished roomLocated taskLocated
    rw [assigned.expected, whole.layouts peer peerInside]
    refine ⟨expectedOf_keys_nodup work roomInside peer, ?_, ?_⟩
    · intro id identified
      rw [work.sourceId_eq roomInside peerInside peerCount] at identified
      rw [← Except.ok.inj identified]
      exact never_expects_itself work roomInside peerInside
    · intro source sourceInside id identified
      rw [work.sourceId_eq roomInside sourceInside peerCount] at identified
      rw [← Except.ok.inj identified]
      exact ⟨layer_iff_layout work roomInside sourceInside (by simp),
        layer_iff_layout work roomInside sourceInside (by simp)⟩

/-- A mixed conference of three peers, two of them on camera. -/
theorem small_conference_agrees :
    ∃ plan rooms, (ScenarioSpec.mixedConference 1 3 2 2 1).plan = .ok plan ∧
      run (ScenarioSpec.mixedConference 1 3 2 2 1) = .ok rooms ∧
      expectedTotal rooms (fun _ => 1) = plan.routes.toNat := by
  obtain ⟨plan, rooms, planned, ran, _, _, routes, _⟩ :=
    receivers_agree_with_plan (ScenarioSpec.mixedConference 1 3 2 2 1) (by decide)
  exact ⟨plan, rooms, planned, ran, routes⟩

end SfuLoad.Agreement
