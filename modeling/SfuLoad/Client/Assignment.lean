import SfuLoad.Client.Rooms

/-!
# What every peer of a workload is given

The four room functions differ in how they reach their tasks, not in what a task
is. Peer p of room r publishes as source r·peers + p, expects every publisher
but itself, and takes the high layer only from the publisher it features.
-/

namespace SfuLoad.Rooms

open Kit Kit.Fallible Kit.Others Identity Ledger Media Model

/-- The featured source is one of the others. -/
theorem mem_of_featured {peer : Nat} {publishers : UInt32} {source : Nat}
    (featured : featuredSource peer publishers = some source) :
    source ∈ others publishers.toNat peer := by
  rw [mem_others]
  simp only [featuredSource] at featured
  split at featured
  · cases featured
  · next publishing =>
    have wrapped (index : Nat) : index % publishers.toNat < publishers.toNat :=
      Nat.mod_lt _ (by omega)
    split at featured
    · next own =>
      split at featured
      · next several =>
        obtain rfl := Option.some.inj featured
        refine ⟨wrapped _, fun same => ?_⟩
        -- the next publisher is oneself only if there is just one
        have below := wrapped peer
        rw [own] at below same
        by_cases last : peer + 1 = publishers.toNat
        · rw [last, Nat.mod_self] at same
          omega
        · rw [Nat.mod_eq_of_lt (by omega)] at same
          omega
      · cases featured
    · next other =>
      obtain rfl := Option.some.inj featured
      exact ⟨wrapped peer, other⟩

/-- Everyone features somebody, except a lone publisher. -/
theorem featured_count (peer : Nat) {publishers : UInt32} (publishing : publishers.toNat ≠ 0) :
    (featuredSource peer publishers).toList.length =
      if publishers.toNat = 1 ∧ peer = 0 then 0 else 1 := by
  simp only [featuredSource, publishing, if_false]
  by_cases lone : publishers.toNat = 1
  · by_cases first : peer = 0 <;> simp [lone, first, Nat.mod_one]
    simp [show ¬ 0 = peer by omega]
  · have several : 1 < publishers.toNat := by omega
    simp only [lone, several, if_true, false_and, if_false]
    split <;> rfl

/-- The featured offers of one room are its high-layer routes. -/
theorem sum_featured (work : Workload) {publishers : UInt32}
    (same : publishers.toNat = work.videoPublishers) :
    ((List.range work.peers).map
      (fun peer => (featuredSource peer publishers).toList.length)).sum = work.highRoutes := by
  unfold Workload.highRoutes
  rw [← same]
  by_cases absent : publishers.toNat = 0
  · simp [featuredSource, absent]
  · simp only [featured_count _ absent, absent, if_false]
    by_cases lone : publishers.toNat = 1
    · simp only [lone, true_and, if_true]
      obtain ⟨rest, size⟩ : ∃ rest, work.peers = rest + 1 :=
        ⟨work.peers - 1, by have := work.peersPresent; omega⟩
      simp [size, List.range_succ_eq_map, Function.comp_def]
    · simp [lone]

/-- The first `count` numbers without one's own, as a loop that skips itself. -/
theorem filterMap_others {α : Type} (count self : Nat) (pushed : Nat → α) :
    (List.range count).filterMap (fun index => if index ≠ self then some (pushed index) else none) =
      (others count self).map pushed := by
  rw [others, ← List.filterMap_eq_map, List.filterMap_filter]
  refine List.filterMap_congr (fun index _ => ?_)
  by_cases own : index = self <;> simp [own]

/-- A product that fits is answered, and it is exact. -/
theorem checkedMul32_of_fits (left right : UInt32) (fits : left.toNat * right.toNat < 2 ^ 32) :
    ∃ product, checkedMul32 left right = some product ∧
      product.toNat = left.toNat * right.toNat := by
  refine ⟨left * right, if_pos fits, ?_⟩
  rw [UInt32.toNat_mul]
  exact Nat.mod_eq_of_lt fits

end SfuLoad.Rooms

namespace SfuLoad.Model.Workload

open Kit Kit.Others Identity Ledger Media Rooms

variable (work : Workload)

/-- The source id of a peer. -/
def sourceOf (room peer : Nat) : UInt16 := UInt16.ofNat (room * work.peers + peer)

/-- The publisher a peer features. -/
def featured (peer : Nat) : Option Nat := featuredSource peer (UInt32.ofNat work.videoPublishers)

/-- The layer a peer is sent of a source: the high one of the source it features. -/
def layerOf (peer source : Nat) : VideoLayer :=
  if work.featured peer = some source then .high else .low

/-- The packets of a layer. -/
def layerPackets : VideoLayer → Nat
  | .low => work.lowPackets
  | .high => work.highPackets

/-- The stream of an audio source, of which nothing has been received. -/
def audioStream (room source : Nat) : ExpectedStream :=
  ⟨work.sourceOf room source, .audio, none, List.replicate work.audioPackets false, 0⟩

/-- The stream of a layer of a video source, of which nothing has been received. -/
def videoStream (room source : Nat) (layer : VideoLayer) : ExpectedStream :=
  ⟨work.sourceOf room source, .video, some layer,
    List.replicate (work.layerPackets layer) false, 0⟩

/-- Everything a peer expects, audio first. -/
def expectedOf (room peer : Nat) : List ExpectedStream :=
  (others work.audioPublishers peer).map (work.audioStream room) ++
    (others work.videoPublishers peer).map
      (fun source => work.videoStream room source (work.layerOf peer source))

/-- What a peer's task is given. The timelines depend on the scenario's shape. -/
structure Assigned (room peer : Nat) (task : PeerTask) : Prop where
  expected : task.expected = work.expectedOf room peer
  audioPacketCount : task.media.audioPacketCount.toNat = work.audioPackets
  videoFrameCount : task.media.videoFrameCount.toNat = work.frames
  audio : ∃ timeline, task.media.audio = if peer < work.audioPublishers then
    some { AudioSource.new (work.sourceOf room peer) with timeline := timeline } else none
  video : ∃ timeline, task.media.video = if peer < work.videoPublishers then
    some { VideoSource.new (work.sourceOf room peer) with timeline := timeline } else none

/-- A room of the workload: one task per peer, and the layouts each peer asked for. -/
structure Furnished (index : Nat) (room : Room) : Prop where
  layouts : ∀ peer < work.peers, (room.layouts[peer]?).getD [] =
    cameraLayouts peer (UInt32.ofNat work.videoPublishers)
  tasks : List.Forall₂ (work.Assigned index) (List.range work.peers) room.tasks

variable {work} in
/-- A task of a run, found by its room and its peer. -/
theorem furnished_task {rooms : List Room} {index peer : Nat} {room : Room} {task : PeerTask}
    (furnished : List.Forall₂ work.Furnished (List.range work.rooms) rooms)
    (roomLocated : rooms[index]? = some room) (taskLocated : room.tasks[peer]? = some task) :
    index < work.rooms ∧ work.Furnished index room ∧ peer < work.peers ∧
      work.Assigned index peer task := by
  obtain ⟨roomInside, whole⟩ := Fallible.forall₂_range_getElem? furnished roomLocated
  obtain ⟨peerInside, assigned⟩ := Fallible.forall₂_range_getElem? whole.tasks taskLocated
  exact ⟨roomInside, whole, peerInside, assigned⟩

/-- Source ids stay far below 16 bits. -/
theorem sourceIndex_lt {room peer : Nat} (roomInside : room < work.rooms)
    (peerInside : peer < work.peers) : room * work.peers + peer < work.rooms * work.peers ∧
      work.rooms * work.peers ≤ 6400 := by
  have grid : (room + 1) * work.peers ≤ work.rooms * work.peers :=
    Nat.mul_le_mul_right _ roomInside
  have area : work.rooms * work.peers ≤ 64 * 100 :=
    Nat.mul_le_mul work.roomsBound work.peersBound
  rw [Nat.succ_mul] at grid
  omega

/-- The number of a source counts the peers of the rooms before it. -/
theorem sourceOf_toNat {room peer : Nat} (roomInside : room < work.rooms)
    (peerInside : peer < work.peers) :
    (work.sourceOf room peer).toNat = room * work.peers + peer := by
  have inside := work.sourceIndex_lt roomInside peerInside
  rw [sourceOf, UInt16.toNat_ofNat']
  omega

/-- The source's function computes this number, without an overflow. -/
theorem sourceId_eq {room peer : Nat} {peerCount : UInt32} (roomInside : room < work.rooms)
    (peerInside : peer < work.peers) (peers : peerCount.toNat = work.peers) :
    sourceId (UInt32.ofNat room) peerCount peer = .ok (work.sourceOf room peer) := by
  have inside := work.sourceIndex_lt roomInside peerInside
  have small := work.roomsBound
  have roomNat : (UInt32.ofNat room).toNat = room := by
    rw [UInt32.toNat_ofNat']
    omega
  simp only [sourceId, roomNat, peers]
  rw [Fallible.ensure_of_holds _ (by omega), Fallible.ok_bind,
    Fallible.ensure_of_holds _ (by omega), Fallible.ok_bind,
    Fallible.ensure_of_holds _ (by omega), Fallible.ok_bind]
  rfl

/-- Distinct peers have distinct source ids. -/
theorem sourceOf_injective {room otherRoom peer otherPeer : Nat} (roomInside : room < work.rooms)
    (peerInside : peer < work.peers) (otherRoomInside : otherRoom < work.rooms)
    (otherPeerInside : otherPeer < work.peers)
    (same : work.sourceOf room peer = work.sourceOf otherRoom otherPeer) :
    room = otherRoom ∧ peer = otherPeer := by
  have numbers := congrArg UInt16.toNat same
  rw [work.sourceOf_toNat roomInside peerInside,
    work.sourceOf_toNat otherRoomInside otherPeerInside] at numbers
  have peers : peer = otherPeer := by
    have residues := congrArg (· % work.peers) numbers
    simpa [Nat.mul_add_mod', Nat.mod_eq_of_lt peerInside, Nat.mod_eq_of_lt otherPeerInside]
      using residues
  subst peers
  refine ⟨?_, rfl⟩
  have positive := work.peersPresent
  exact Nat.eq_of_mul_eq_mul_right (by omega) (Nat.add_right_cancel numbers)

/-- The streams an audio loop pushes. -/
theorem expectedAudioStreams_eq {room peer : Nat} {peerCount publisherCount packetCount : UInt32}
    (roomInside : room < work.rooms) (peers : peerCount.toNat = work.peers)
    (publishers : publisherCount.toNat = work.audioPublishers)
    (packets : packetCount.toNat = work.audioPackets) :
    expectedAudioStreams (UInt32.ofNat room) peerCount publisherCount peer packetCount =
      .ok ((others work.audioPublishers peer).map (work.audioStream room)) := by
  rw [← publishers, ← filterMap_others]
  refine Fallible.filterMapM_of_each (fun source member => ?_)
  rw [List.mem_range, publishers] at member
  by_cases own : source = peer
  · simp only [own, ne_eq, not_true, if_false]
    rfl
  · have inside : source < work.peers := Nat.lt_of_lt_of_le member work.audioInside
    have working := work.audioWork (by omega)
    have positive : 0 < packetCount := by
      rw [UInt32.lt_iff_toNat_lt, packets]
      exact working
    rw [if_pos own, if_pos own, work.sourceId_eq roomInside inside peers, Fallible.ok_bind,
      ExpectedStream.audio, ExpectedStream.new, Fallible.ensure_of_holds _ positive,
      Fallible.ok_bind, packets]
    rfl

/-- A layer that is published has packets, and their number fits its type. -/
theorem layerPackets_bound (layer : VideoLayer) (publishing : 0 < work.videoPublishers) :
    0 < work.layerPackets layer ∧ work.layerPackets layer < 2 ^ 32 := by
  have positive := work.videoWork publishing
  have bounded := work.secondsBound
  cases layer <;>
    simp only [layerPackets, lowPackets, highPackets, keyframes, frames] <;> omega

/-- The source's function builds this stream. -/
theorem expectedVideoStream_eq {room source : Nat} {peerCount : UInt32} {layer : VideoLayer}
    {packetCount : UInt64} (roomInside : room < work.rooms)
    (publishing : source < work.videoPublishers) (peers : peerCount.toNat = work.peers)
    (packets : packetCount.toNat = work.layerPackets layer) :
    expectedVideoStream (UInt32.ofNat room) peerCount source layer packetCount =
      .ok (work.videoStream room source layer) := by
  have inside : source < work.peers := Nat.lt_of_lt_of_le publishing work.videoInside
  obtain ⟨positive, bounded⟩ := work.layerPackets_bound layer (by omega)
  have countNat : packetCount.toUInt32.toNat = work.layerPackets layer := by
    rw [UInt64.toNat_toUInt32, packets]
    exact Nat.mod_eq_of_lt bounded
  have nonempty : 0 < packetCount.toUInt32 := by
    rw [UInt32.lt_iff_toNat_lt, countNat]
    exact positive
  rw [expectedVideoStream, work.sourceId_eq roomInside inside peers, Fallible.ok_bind,
    Fallible.ensure_of_holds _ (packets ▸ bounded), Fallible.ok_bind, ExpectedStream.video,
    ExpectedStream.new, Fallible.ensure_of_holds _ nonempty, Fallible.ok_bind, countNat]
  rfl

/-- The streams a video loop pushes. -/
theorem expectedVideoStreams_eq {room peer : Nat} {peerCount publisherCount : UInt32}
    {low high : UInt64} (roomInside : room < work.rooms) (peers : peerCount.toNat = work.peers)
    (publishers : publisherCount.toNat = work.videoPublishers)
    (lowCount : low.toNat = work.lowPackets) (highCount : high.toNat = work.highPackets) :
    expectedVideoStreams (UInt32.ofNat room) peerCount publisherCount peer low high =
      .ok ((others work.videoPublishers peer).map
        (fun source => work.videoStream room source (work.layerOf peer source))) := by
  have samePublishers : UInt32.ofNat work.videoPublishers = publisherCount := by
    rw [← publishers, UInt32.ofNat_toNat]
  rw [← publishers, ← filterMap_others]
  refine Fallible.filterMapM_of_each (fun source member => ?_)
  rw [List.mem_range, publishers] at member
  by_cases own : source = peer
  · simp only [own, ne_eq, not_true, if_false, if_true]
    rfl
  · have stream (layer : VideoLayer) : expectedVideoStream (UInt32.ofNat room) peerCount source
        layer (packetCountOf low high layer) = .ok (work.videoStream room source layer) := by
      apply work.expectedVideoStream_eq roomInside member peers
      cases layer
      · exact lowCount
      · exact highCount
    rw [if_neg own, if_pos own, layerOf, featured, samePublishers]
    simp only [stream]
    rfl

/-- Without video publishers only audio is expected. -/
theorem videoStreams_absent (room peer : Nat) (absent : work.videoPublishers = 0) :
    work.expectedOf room peer =
      (others work.audioPublishers peer).map (work.audioStream room) := by
  simp [expectedOf, absent, others]

/-- Without audio publishers only video is expected. -/
theorem audioStreams_absent (room peer : Nat) (absent : work.audioPublishers = 0) :
    work.expectedOf room peer = (others work.videoPublishers peer).map
      (fun source => work.videoStream room source (work.layerOf peer source)) := by
  simp [expectedOf, absent, others]

/-- Without video publishers there is no layout. -/
theorem cameraLayouts_absent (peer : Nat) (absent : work.videoPublishers = 0) :
    cameraLayouts peer (UInt32.ofNat work.videoPublishers) = [] := by
  simp [cameraLayouts, absent]

/-- The layouts a video or mixed room configured for a peer. -/
theorem configured_layouts {peerCount publisherCount : UInt32}
    (peers : peerCount.toNat = work.peers)
    (publishers : publisherCount.toNat = work.videoPublishers) {peer : Nat}
    (inside : peer < work.peers) :
    ((configureVideoLayouts peerCount publisherCount)[peer]?).getD [] =
      cameraLayouts peer (UInt32.ofNat work.videoPublishers) := by
  rw [← publishers, UInt32.ofNat_toNat, configureVideoLayouts, List.getElem?_map,
    List.getElem?_range (peers ▸ inside)]
  rfl

/-- An audio room gives every peer what the workload says. -/
theorem furnished_audio {room : Nat} {peerCount publisherCount packetCount : UInt32}
    (roomInside : room < work.rooms) (peers : peerCount.toNat = work.peers)
    (publishers : publisherCount.toNat = work.audioPublishers)
    (packets : packetCount.toNat = work.audioPackets) (noVideo : work.videoPublishers = 0)
    (noSeconds : work.seconds = 0) :
    ∃ furnished, runAudioRoom peerCount publisherCount packetCount (UInt32.ofNat room) =
      .ok furnished ∧ work.Furnished room furnished := by
  have each : ∀ peer ∈ List.range peerCount.toNat, ∃ task,
      audioTask peerCount publisherCount packetCount (UInt32.ofNat room) peer = .ok task ∧
        work.Assigned room peer task := by
    intro peer member
    rw [List.mem_range, peers] at member
    rw [audioTask, work.sourceId_eq roomInside member peers, Fallible.ok_bind,
      work.expectedAudioStreams_eq roomInside peers publishers packets, Fallible.ok_bind]
    refine ⟨_, rfl, ⟨(work.videoStreams_absent room peer noVideo).symm, packets, ?_,
      ⟨MediaTimeline.new audioFrameInterval, ?_⟩, ⟨MediaTimeline.new videoFrameInterval, ?_⟩⟩⟩
    · simp [PeerMedia.audioOnly, PeerMedia.mixed, frames, noSeconds]
    · simp only [PeerMedia.audioOnly, PeerMedia.mixed, publishers]
      rfl
    · simp [PeerMedia.audioOnly, PeerMedia.mixed, noVideo]
  obtain ⟨tasks, spawned, assigned⟩ := Fallible.mapM_of_each each
  rw [peers] at assigned
  refine ⟨⟨[], tasks⟩, ?_, ?_, assigned⟩
  · rw [runAudioRoom, spawned]
    rfl
  · intro peer _
    rw [work.cameraLayouts_absent peer noVideo]
    rfl

/-- A duration's audio packets fit 32 bits. -/
theorem audioPackets_counted (seconds : UInt32) (bounded : seconds.toNat ≤ 3600) :
    ∃ packetCount, checkedMul32 seconds audioPacketsPerSecond = some packetCount ∧
      packetCount.toNat = seconds.toNat * 50 :=
  checkedMul32_of_fits seconds audioPacketsPerSecond (by
    simp only [audioPacketsPerSecond, UInt32.reduceToNat]
    omega)

/-- A duration's frames fit 32 bits. -/
theorem frames_counted {seconds : UInt32} (duration : work.seconds = seconds.toNat) :
    ∃ frameCount, checkedMul32 seconds videoFramesPerSecond = some frameCount ∧
      frameCount.toNat = work.frames := by
  have bounded := work.secondsBound
  obtain ⟨frameCount, multiplied, frameNat⟩ :=
    checkedMul32_of_fits seconds videoFramesPerSecond (by
      simp only [videoFramesPerSecond, UInt32.reduceToNat]
      omega)
  refine ⟨frameCount, multiplied, ?_⟩
  rw [frameNat, frames, duration, Nat.mul_comm]
  rfl

/-- A video room does as well. The packets of each layer come from the plan's own count. -/
theorem furnished_video {room : Nat} {peerCount publisherCount seconds : UInt32}
    {low high : UInt64} (roomInside : room < work.rooms) (peers : peerCount.toNat = work.peers)
    (publishers : publisherCount.toNat = work.videoPublishers)
    (duration : work.seconds = seconds.toNat)
    (layers : videoPacketsPerLayer seconds = .ok (low, high)) (noAudio : work.audioPublishers = 0)
    (noPackets : work.audioPackets = 0) :
    ∃ furnished, runVideoRoom peerCount publisherCount seconds (UInt32.ofNat room) =
      .ok furnished ∧ work.Furnished room furnished := by
  obtain ⟨lowCount, highCount⟩ := layers_counted work layers duration
  obtain ⟨frameCount, multiplied, frameNat⟩ := work.frames_counted duration
  have each : ∀ peer ∈ List.range peerCount.toNat, ∃ task,
      videoTask peerCount publisherCount frameCount (UInt32.ofNat room) low high peer =
        .ok task ∧ work.Assigned room peer task := by
    intro peer member
    rw [List.mem_range, peers] at member
    rw [videoTask, work.sourceId_eq roomInside member peers, Fallible.ok_bind,
      work.expectedVideoStreams_eq roomInside peers publishers lowCount highCount,
      Fallible.ok_bind]
    refine ⟨_, rfl, ⟨(work.audioStreams_absent room peer noAudio).symm, noPackets.symm, frameNat,
      ⟨MediaTimeline.new audioFrameInterval, ?_⟩, ⟨MediaTimeline.new videoFrameInterval, ?_⟩⟩⟩
    · simp [PeerMedia.videoOnly, PeerMedia.mixed, noAudio]
    · simp only [PeerMedia.videoOnly, PeerMedia.mixed, publishers]
      rfl
  obtain ⟨tasks, spawned, assigned⟩ := Fallible.mapM_of_each each
  rw [peers] at assigned
  refine ⟨⟨configureVideoLayouts peerCount publisherCount, tasks⟩, ?_,
    fun _ inside => work.configured_layouts peers publishers inside, assigned⟩
  rw [runVideoRoom, layers, Fallible.ok_bind, multiplied, Fallible.context_some]
  simp only [Fallible.ok_bind, spawned]
  rfl

/-- So does a room with both, one kind after the other. -/
theorem furnished_mixed {room : Nat}
    {peerCount audioPublisherCount videoPublisherCount seconds : UInt32} {low high : UInt64}
    (roomInside : room < work.rooms) (peers : peerCount.toNat = work.peers)
    (audioPublishers : audioPublisherCount.toNat = work.audioPublishers)
    (videoPublishers : videoPublisherCount.toNat = work.videoPublishers)
    (packets : work.audioPackets = seconds.toNat * 50)
    (duration : work.seconds = seconds.toNat)
    (layers : videoPacketsPerLayer seconds = .ok (low, high)) :
    ∃ furnished, runMixedRoom peerCount audioPublisherCount videoPublisherCount seconds
      (UInt32.ofNat room) = .ok furnished ∧ work.Furnished room furnished := by
  obtain ⟨lowCount, highCount⟩ := layers_counted work layers duration
  obtain ⟨frameCount, multiplied, frameNat⟩ := work.frames_counted duration
  obtain ⟨packetCount, packetsMultiplied, packetNat⟩ := audioPackets_counted seconds (by
    have := work.audioBound
    omega)
  rw [← packets] at packetNat
  have each : ∀ peer ∈ List.range peerCount.toNat, ∃ task,
      mixedTask peerCount audioPublisherCount videoPublisherCount packetCount frameCount
        (UInt32.ofNat room) low high peer = .ok task ∧ work.Assigned room peer task := by
    intro peer member
    rw [List.mem_range, peers] at member
    have few := work.peersBound
    rw [mixedTask, work.sourceId_eq roomInside member peers, Fallible.ok_bind,
      Fallible.ensure_of_holds _ (by omega), Fallible.ok_bind,
      work.expectedAudioStreams_eq roomInside peers audioPublishers packetNat, Fallible.ok_bind,
      work.expectedVideoStreams_eq roomInside peers videoPublishers lowCount highCount,
      Fallible.ok_bind]
    refine ⟨_, rfl, ⟨rfl, packetNat, frameNat,
      ⟨MediaTimeline.staggered audioFrameInterval (UInt32.ofNat peer) audioPublisherCount, ?_⟩,
      ⟨MediaTimeline.staggered videoFrameInterval (UInt32.ofNat peer) videoPublisherCount, ?_⟩⟩⟩
    · simp only [PeerMedia.mixed, audioPublishers]
      rfl
    · simp only [PeerMedia.mixed, videoPublishers]
      rfl
  obtain ⟨tasks, spawned, assigned⟩ := Fallible.mapM_of_each each
  rw [peers] at assigned
  refine ⟨⟨configureVideoLayouts peerCount videoPublisherCount, tasks⟩, ?_,
    fun _ inside => work.configured_layouts peers videoPublishers inside, assigned⟩
  rw [runMixedRoom, packetsMultiplied, Fallible.context_some, Fallible.ok_bind, multiplied,
    Fallible.context_some, Fallible.ok_bind, layers]
  simp only [Fallible.ok_bind, spawned]
  rfl

end SfuLoad.Model.Workload

namespace SfuLoad.Rooms

open Kit Kit.Fallible Model

/-- Every validated scenario furnishes the rooms of its workload.

Proof: the shapes differ in the room function only, and each of these spawns the
assigned tasks once its packet counts are known to be the workload's. -/
theorem run_furnished (spec : ScenarioSpec) (valid : spec.validate = .ok ()) :
    ∃ rooms, run spec = .ok rooms ∧ List.Forall₂ (spec.workload valid).Furnished
      (List.range (spec.workload valid).rooms) rooms := by
  have each : ∀ index ∈ List.range spec.roomCount.toNat, ∃ room,
      runRoom spec (UInt32.ofNat index) = .ok room ∧
        (spec.workload valid).Furnished index room := by
    intro index member
    rw [List.mem_range] at member
    cases spec with
    | smoke receivers packets =>
      have bounds := ScenarioSpec.smoke_bounds valid
      have peers : (receivers + 1).toNat = receivers.toNat + 1 := by
        rw [UInt32.toNat_add, UInt32.toNat_one]
        omega
      exact Workload.furnished_audio _ member peers rfl rfl rfl rfl
    | audioMesh rooms peers seconds =>
      have bounds := ScenarioSpec.audioMesh_bounds valid
      obtain ⟨packetCount, multiplied, packetNat⟩ := Workload.audioPackets_counted seconds (by omega)
      rw [runRoom, multiplied, context_some, ok_bind]
      exact Workload.furnished_audio _ member rfl rfl packetNat rfl rfl
    | videoGallery rooms peers publishers seconds =>
      obtain ⟨_, _, _, _, sized⟩ := ScenarioSpec.videoGallery_bounds valid
      obtain ⟨plan, planned, _⟩ := ScenarioSpec.planned_of_size sized
      obtain ⟨low, high, layers, _⟩ := videoPlan_eq_ok planned
      exact Workload.furnished_video _ member rfl rfl rfl layers rfl rfl
    | mixedConference rooms peers audioPublishers videoPublishers seconds =>
      obtain ⟨_, _, _, _, _, sized⟩ := ScenarioSpec.mixedConference_bounds valid
      obtain ⟨plan, planned, _⟩ := ScenarioSpec.planned_of_size sized
      obtain ⟨_, _, _, videoPlanned, _⟩ := mixedPlan_eq_ok planned
      obtain ⟨low, high, layers, _⟩ := videoPlan_eq_ok videoPlanned
      exact Workload.furnished_mixed _ member rfl rfl rfl rfl rfl layers
  obtain ⟨rooms, looped, furnished⟩ := mapM_of_each each
  rw [spec.workload_rooms valid] at furnished
  refine ⟨rooms, ?_, furnished⟩
  rw [run, valid, ok_bind, looped]

end SfuLoad.Rooms
