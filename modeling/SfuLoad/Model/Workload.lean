import SfuLoad.Model.Scenario
import Mathlib.Tactic.Ring

/-!
# The work a validated scenario stands for

All four shapes are one kind of workload: rooms of equally many peers, the first
few of which publish audio, video or both, for a fixed number of packets and
frames. The counts are natural numbers here. A scenario's plan is this meaning
in checked 64-bit arithmetic.
-/

namespace SfuLoad.Model

open Kit Kit.Fallible

/-- Rooms, peers and publishers with the bounds validation guarantees. A scenario
without audio or without video has no publishers of that kind. -/
structure Workload where
  rooms : Nat
  peers : Nat
  audioPublishers : Nat
  audioPackets : Nat
  videoPublishers : Nat
  seconds : Nat
  roomsPresent : 1 ≤ rooms
  roomsBound : rooms ≤ 64
  peersPresent : 2 ≤ peers
  peersBound : peers ≤ 100
  audioInside : audioPublishers ≤ peers
  audioWork : 0 < audioPublishers → 0 < audioPackets
  audioBound : audioPackets ≤ 180000
  videoInside : videoPublishers ≤ peers
  videoWork : 0 < videoPublishers → 0 < seconds
  secondsBound : seconds ≤ 3600

namespace Workload

variable (work : Workload)

/-- The frames of each source. -/
def frames : Nat := 30 * work.seconds

/-- Every sixtieth frame, starting with the first. -/
def keyframes : Nat := (work.frames + 59) / 60

/-- A frame of the low layer is one packet, and a keyframe one more. -/
def lowPackets : Nat := work.frames + work.keyframes

/-- A frame of the high layer is fourteen packets, and a keyframe six more. -/
def highPackets : Nat := 14 * work.frames + 6 * work.keyframes

/-- High-layer routes of one room: every peer features one other publisher,
except that a lone publisher has none to feature. -/
def highRoutes : Nat :=
  if work.videoPublishers = 0 then 0
  else if work.videoPublishers = 1 then work.peers - 1
  else work.peers

/-- All routes of video that are not high. -/
def lowRoutes : Nat := work.videoPublishers * (work.peers - 1) - work.highRoutes

/-- One audio stream, or two video layers, of each source. -/
def streams : Nat := work.rooms * (work.audioPublishers + 2 * work.videoPublishers)

/-- From every source to every other peer of its room. -/
def routes : Nat :=
  work.rooms * ((work.audioPublishers + work.videoPublishers) * (work.peers - 1))

/-- What all sources send. -/
def offeredPackets : Nat :=
  work.rooms * (work.audioPublishers * work.audioPackets +
    work.videoPublishers * (work.lowPackets + work.highPackets))

/-- The bytes of what they send. -/
def offeredPayloadBytes : Nat :=
  work.rooms * (work.audioPublishers * (work.audioPackets * 80) +
    work.videoPublishers * (work.lowPackets * 600 + work.highPackets * 1100))

/-- What all receivers are to get: audio on every route, and of video the layer that is
routed. -/
def expectedDeliveries : Nat :=
  work.rooms * (work.audioPublishers * (work.peers - 1) * work.audioPackets +
    (work.highRoutes * work.highPackets + work.lowRoutes * work.lowPackets))

/-- The bytes of what they are to get. -/
def expectedDeliveryPayloadBytes : Nat :=
  work.rooms * (work.audioPublishers * (work.peers - 1) * (work.audioPackets * 80) +
    (work.highRoutes * (work.highPackets * 1100) + work.lowRoutes * (work.lowPackets * 600)))

/-- The number of high routes, as the plan computes it. -/
theorem highRoutes_of_publishing (publishing : work.videoPublishers ≠ 0) :
    work.highRoutes = if work.videoPublishers = 1 then work.peers - 1 else work.peers := by
  rw [highRoutes, if_neg publishing]

/-- High-layer routes are among a room's routes: with several publishers, two
already reach everyone. -/
theorem highRoutes_le : work.highRoutes ≤ work.videoPublishers * (work.peers - 1) := by
  have present := work.peersPresent
  unfold highRoutes
  split
  · omega
  · split
    · next lone => rw [lone, Nat.one_mul]
    · next several =>
      calc work.peers ≤ 2 * (work.peers - 1) := by omega
        _ ≤ work.videoPublishers * (work.peers - 1) := Nat.mul_le_mul_right _ (by omega)

/-- No packet is longer than a high-layer packet. -/
theorem offeredPayloadBytes_le : work.offeredPayloadBytes ≤ 1100 * work.offeredPackets := by
  have shares : work.audioPublishers * (work.audioPackets * 80) +
      work.videoPublishers * (work.lowPackets * 600 + work.highPackets * 1100) ≤
        1100 * (work.audioPublishers * work.audioPackets +
          work.videoPublishers * (work.lowPackets + work.highPackets)) := by
    have audio : work.audioPublishers * (work.audioPackets * 80) =
        80 * (work.audioPublishers * work.audioPackets) := by ring
    have video : work.videoPublishers * (work.lowPackets * 600 + work.highPackets * 1100) =
        600 * (work.videoPublishers * work.lowPackets) +
          1100 * (work.videoPublishers * work.highPackets) := by ring
    rw [audio, video, Nat.mul_add work.videoPublishers]
    omega
  calc work.offeredPayloadBytes
      ≤ work.rooms * (1100 * (work.audioPublishers * work.audioPackets +
          work.videoPublishers * (work.lowPackets + work.highPackets))) :=
        Nat.mul_le_mul_left _ shares
    _ = 1100 * work.offeredPackets := by
        rw [offeredPackets, Nat.mul_left_comm]

/-- The plan counts this workload. -/
structure Counted (plan : WorkloadPlan) : Prop where
  streams : plan.streams.toNat = work.streams
  routes : plan.routes.toNat = work.routes
  offeredPackets : plan.offeredPackets.toNat = work.offeredPackets
  offeredPayloadBytes : plan.offeredPayloadBytes.toNat = work.offeredPayloadBytes
  expectedDeliveries : plan.expectedDeliveries.toNat = work.expectedDeliveries
  expectedDeliveryPayloadBytes :
    plan.expectedDeliveryPayloadBytes.toNat = work.expectedDeliveryPayloadBytes

end Workload

/-- A product that was computed is exact. -/
theorem checkedMul_eq_ok {left right product : UInt64}
    (computed : checkedMul left right = .ok product) :
    product.toNat = left.toNat * right.toNat :=
  Saturating.checkedMul_eq_some ((context_eq_ok _ _ _).mp computed)

/-- A sum that was computed is exact. -/
theorem checkedAdd_eq_ok {left right sum : UInt64} (computed : checkedAdd left right = .ok sum) :
    sum.toNat = left.toNat + right.toNat :=
  Saturating.checkedAdd_eq_some ((context_eq_ok _ _ _).mp computed)

/-- A number of bytes that was converted is exact. -/
theorem byteCount_eq_ok {value : Nat} {count : UInt64} (computed : byteCount value = .ok count) :
    count.toNat = value := by
  unfold byteCount at computed
  split at computed
  · next fits =>
    rw [← Except.ok.inj computed, UInt64.toNat_ofNat']
    exact Nat.mod_eq_of_lt fits
  · cases computed

/-- A plan that was made has the six numbers it was given. -/
theorem plan_new_eq_ok {streams routes offeredPackets offeredPayloadBytes expectedDeliveries
    expectedDeliveryPayloadBytes : UInt64} {plan : WorkloadPlan}
    (constructed : WorkloadPlan.new streams routes offeredPackets offeredPayloadBytes
      expectedDeliveries expectedDeliveryPayloadBytes = .ok plan) :
    plan = ⟨streams, routes, offeredPackets, offeredPayloadBytes, expectedDeliveries,
      expectedDeliveryPayloadBytes⟩ := by
  simp only [WorkloadPlan.new, bind_eq_ok] at constructed
  obtain ⟨_, _, _, _, returned⟩ := constructed
  exact (Except.ok.inj returned).symm

/-- The numbers of an audio plan, exactly. The proof peels one checked operation after the
other and multiplies their exact results. -/
theorem audioPlan_eq_ok {rooms peers publishers seconds : UInt32} {plan : WorkloadPlan}
    (planned : audioPlan rooms peers publishers seconds = .ok plan) :
    plan.streams.toNat = rooms.toNat * publishers.toNat ∧
    plan.routes.toNat = rooms.toNat * publishers.toNat * (peers.toNat - 1) ∧
    plan.offeredPackets.toNat = rooms.toNat * publishers.toNat * (seconds.toNat * 50) ∧
    plan.offeredPayloadBytes.toNat =
      rooms.toNat * publishers.toNat * (seconds.toNat * 50) * 80 ∧
    plan.expectedDeliveries.toNat =
      rooms.toNat * publishers.toNat * (peers.toNat - 1) * (seconds.toNat * 50) ∧
    plan.expectedDeliveryPayloadBytes.toNat =
      rooms.toNat * publishers.toNat * (peers.toNat - 1) * (seconds.toNat * 50) * 80 := by
  simp only [audioPlan, bind_eq_ok, context_eq_ok] at planned
  obtain ⟨packetsPerPublisher, perPublisher, streams, streamCount, remotePeers, remote, routes,
    routeCount, offeredPackets, offered, deliveries, delivered, payloadBytes, bytes,
    offeredBytes, offeredByteCount, deliveryBytes, deliveryByteCount, constructed⟩ := planned
  obtain rfl := plan_new_eq_ok constructed
  have perPublisherNat := checkedMul_eq_ok perPublisher
  have streamsNat := checkedMul_eq_ok streamCount
  obtain ⟨_, remoteNat⟩ := Saturating.checkedSub_eq_some remote
  have routesNat := checkedMul_eq_ok routeCount
  have offeredNat := checkedMul_eq_ok offered
  have deliveriesNat := checkedMul_eq_ok delivered
  have bytesNat := byteCount_eq_ok bytes
  have offeredBytesNat := checkedMul_eq_ok offeredByteCount
  have deliveryBytesNat := checkedMul_eq_ok deliveryByteCount
  simp only [UInt32.toNat_toUInt64, UInt64.toNat_one, audioPacketPayloadBytes,
    audioPacketsPerSecond, UInt32.reduceToNat] at *
  simp only [deliveryBytesNat, offeredBytesNat, bytesNat, deliveriesNat, offeredNat, routesNat,
    remoteNat, streamsNat, perPublisherNat, and_self]

/-- Frames, keyframes and the two layers' packets, as the plan computes them. -/
theorem videoPacketsPerLayer_eq_ok {seconds : UInt32} {low high : UInt64}
    (computed : videoPacketsPerLayer seconds = .ok (low, high)) :
    low.toNat = seconds.toNat * 30 + (seconds.toNat * 30 + 59) / 60 ∧
    high.toNat = 14 * (seconds.toNat * 30) + 6 * ((seconds.toNat * 30 + 59) / 60) := by
  simp only [videoPacketsPerLayer, bind_eq_ok] at computed
  obtain ⟨frames, frameCount, lowDelta, lowDeltaCount, lowKey, lowKeyCount, lowSum, lowCount,
    highDelta, highDeltaCount, highKey, highKeyCount, highSum, highCount, returned⟩ := computed
  obtain ⟨rfl, rfl⟩ := Prod.mk.inj (Except.ok.inj returned)
  have framesNat := checkedMul_eq_ok frameCount
  have short := seconds.toNat_lt
  simp only [UInt32.toNat_toUInt64, videoFramesPerSecond, UInt32.reduceToNat] at framesNat
  have keyframesNat : (UInt64.ofNat
      ((frames.toNat + videoKeyframeInterval.toNat - 1) / videoKeyframeInterval.toNat)).toNat =
        (seconds.toNat * 30 + 59) / 60 := by
    simp only [framesNat, videoKeyframeInterval, UInt64.reduceToNat, UInt64.toNat_ofNat']
    omega
  generalize UInt64.ofNat
    ((frames.toNat + videoKeyframeInterval.toNat - 1) / videoKeyframeInterval.toNat) =
      keyframes at *
  have enough : keyframes ≤ frames := by
    rw [UInt64.le_iff_toNat_le]
    omega
  have deltaNat := UInt64.toNat_sub_of_le _ _ enough
  have lowDeltaNat := checkedMul_eq_ok lowDeltaCount
  have lowKeyNat := checkedMul_eq_ok lowKeyCount
  have highDeltaNat := checkedMul_eq_ok highDeltaCount
  have highKeyNat := checkedMul_eq_ok highKeyCount
  have lowNat := checkedAdd_eq_ok lowCount
  have highNat := checkedAdd_eq_ok highCount
  simp only [videoLowDeltaPackets, videoLowKeyframePackets, videoHighDeltaPackets,
    videoHighKeyframePackets, UInt64.reduceToNat] at *
  omega

/-- The numbers of a video plan, exactly, in terms of the packets of each layer. -/
theorem videoPlan_eq_ok {rooms peers publishers seconds : UInt32} {plan : WorkloadPlan}
    (planned : videoPlan rooms peers publishers seconds = .ok plan) :
    ∃ low high, videoPacketsPerLayer seconds = .ok (low, high) ∧
    (let highRoutes := if publishers.toNat = 1 then peers.toNat - 1 else peers.toNat
    let lowRoutes := publishers.toNat * (peers.toNat - 1) - highRoutes
    plan.streams.toNat = rooms.toNat * publishers.toNat * 2 ∧
    plan.routes.toNat = rooms.toNat * (publishers.toNat * (peers.toNat - 1)) ∧
    plan.offeredPackets.toNat = rooms.toNat * publishers.toNat * low.toNat +
      rooms.toNat * publishers.toNat * high.toNat ∧
    plan.offeredPayloadBytes.toNat = rooms.toNat * publishers.toNat * low.toNat * 600 +
      rooms.toNat * publishers.toNat * high.toNat * 1100 ∧
    plan.expectedDeliveries.toNat =
      rooms.toNat * highRoutes * high.toNat + rooms.toNat * lowRoutes * low.toNat ∧
    plan.expectedDeliveryPayloadBytes.toNat = rooms.toNat * highRoutes * high.toNat * 1100 +
      rooms.toNat * lowRoutes * low.toNat * 600) := by
  simp only [videoPlan, bind_eq_ok, context_eq_ok] at planned
  obtain ⟨⟨low, high⟩, layers, sources, sourceCount, streams, streamCount, offeredLow,
    offeredLowCount, offeredHigh, offeredHighCount, offered, offeredCount, lowBytes, lowByteCount,
    highBytes, highByteCount, offeredLowBytes, offeredLowByteCount, offeredHighBytes,
    offeredHighByteCount, offeredBytes, offeredByteCount, remotePeers, remote, routesPerRoom,
    roomRoutes, lowRoutesPerRoom, lowRoom, highRoutes, highRouteCount, lowRoutes, lowRouteCount,
    highDeliveries, highDelivered, lowDeliveries, lowDelivered, deliveries, delivered,
    highDeliveryBytes, highDeliveryByteCount, lowDeliveryBytes, lowDeliveryByteCount,
    deliveryBytes, deliveryByteCount, routes, routeCount, constructed⟩ := planned
  obtain rfl := plan_new_eq_ok constructed
  refine ⟨low, high, layers, ?_⟩
  have sourcesNat := checkedMul_eq_ok sourceCount
  have streamsNat := checkedMul_eq_ok streamCount
  have offeredLowNat := checkedMul_eq_ok offeredLowCount
  have offeredHighNat := checkedMul_eq_ok offeredHighCount
  have offeredNat := checkedAdd_eq_ok offeredCount
  have lowBytesNat := byteCount_eq_ok lowByteCount
  have highBytesNat := byteCount_eq_ok highByteCount
  have offeredLowBytesNat := checkedMul_eq_ok offeredLowByteCount
  have offeredHighBytesNat := checkedMul_eq_ok offeredHighByteCount
  have offeredBytesNat := checkedAdd_eq_ok offeredByteCount
  obtain ⟨_, remoteNat⟩ := Saturating.checkedSub_eq_some remote
  have roomRoutesNat := checkedMul_eq_ok roomRoutes
  obtain ⟨_, lowRoomNat⟩ := Saturating.checkedSub_eq_some lowRoom
  have highRoomNat : (if publishers.toUInt64 = 1 then remotePeers else peers.toUInt64).toNat =
      if publishers.toNat = 1 then peers.toNat - 1 else peers.toNat := by
    have lone : publishers.toUInt64 = 1 ↔ publishers.toNat = 1 := by
      rw [← UInt64.toNat_inj, UInt32.toNat_toUInt64, UInt64.toNat_one]
    simp only [lone, apply_ite UInt64.toNat, remoteNat, UInt32.toNat_toUInt64, UInt64.toNat_one]
  have highRoutesNat := checkedMul_eq_ok highRouteCount
  have lowRoutesNat := checkedMul_eq_ok lowRouteCount
  have highDeliveriesNat := checkedMul_eq_ok highDelivered
  have lowDeliveriesNat := checkedMul_eq_ok lowDelivered
  have deliveriesNat := checkedAdd_eq_ok delivered
  have highDeliveryBytesNat := checkedMul_eq_ok highDeliveryByteCount
  have lowDeliveryBytesNat := checkedMul_eq_ok lowDeliveryByteCount
  have deliveryBytesNat := checkedAdd_eq_ok deliveryByteCount
  have routesNat := checkedMul_eq_ok routeCount
  simp only [UInt32.toNat_toUInt64, UInt64.toNat_one, UInt64.reduceToNat,
    videoLowPacketPayloadBytes, videoHighPacketPayloadBytes] at *
  simp only [streamsNat, sourcesNat, routesNat, roomRoutesNat, remoteNat, offeredNat,
    offeredLowNat, offeredHighNat, offeredBytesNat, offeredLowBytesNat, offeredHighBytesNat,
    lowBytesNat, highBytesNat, deliveriesNat, highDeliveriesNat, lowDeliveriesNat, highRoutesNat,
    lowRoutesNat, lowRoomNat, highRoomNat, deliveryBytesNat, highDeliveryBytesNat,
    lowDeliveryBytesNat, and_self]

/-- A mixed plan is the exact sum of its two parts. -/
theorem mixedPlan_eq_ok {rooms peers audioPublishers videoPublishers seconds : UInt32}
    {plan : WorkloadPlan}
    (planned : mixedPlan rooms peers audioPublishers videoPublishers seconds = .ok plan) :
    ∃ audio video, audioPlan rooms peers audioPublishers seconds = .ok audio ∧
    videoPlan rooms peers videoPublishers seconds = .ok video ∧
    plan.streams.toNat = audio.streams.toNat + video.streams.toNat ∧
    plan.routes.toNat = audio.routes.toNat + video.routes.toNat ∧
    plan.offeredPackets.toNat = audio.offeredPackets.toNat + video.offeredPackets.toNat ∧
    plan.offeredPayloadBytes.toNat =
      audio.offeredPayloadBytes.toNat + video.offeredPayloadBytes.toNat ∧
    plan.expectedDeliveries.toNat =
      audio.expectedDeliveries.toNat + video.expectedDeliveries.toNat ∧
    plan.expectedDeliveryPayloadBytes.toNat =
      audio.expectedDeliveryPayloadBytes.toNat + video.expectedDeliveryPayloadBytes.toNat := by
  simp only [mixedPlan, bind_eq_ok] at planned
  obtain ⟨audio, audioPlanned, video, videoPlanned, streams, streamCount, routes, routeCount,
    offered, offeredCount, offeredBytes, offeredByteCount, deliveries, delivered, deliveryBytes,
    deliveryByteCount, constructed⟩ := planned
  obtain rfl := plan_new_eq_ok constructed
  exact ⟨audio, video, audioPlanned, videoPlanned, checkedAdd_eq_ok streamCount,
    checkedAdd_eq_ok routeCount, checkedAdd_eq_ok offeredCount, checkedAdd_eq_ok offeredByteCount,
    checkedAdd_eq_ok delivered, checkedAdd_eq_ok deliveryByteCount⟩

namespace ScenarioSpec

/-- What validation of a smoke checks. -/
theorem smoke_bounds {receivers packets : UInt32}
    (valid : (smoke receivers packets).validate = .ok ()) :
    1 ≤ receivers.toNat ∧ receivers.toNat ≤ 99 ∧ 1 ≤ packets.toNat ∧ packets.toNat ≤ 180000 := by
  simp only [validate, newSmoke, bind_eq_ok, ensure_eq_ok, UInt32.le_iff_toNat_le,
    UInt32.reduceToNat] at valid
  obtain ⟨_, ⟨_, receiverBounds, _, packetBounds, _⟩, _⟩ := valid
  exact ⟨receiverBounds.1, receiverBounds.2, packetBounds.1, packetBounds.2⟩

/-- A scenario of an allowed size has a plan, and the plan is within the limits. -/
theorem planned_of_size {spec : ScenarioSpec} (sized : spec.validatePlanSize = .ok ()) :
    ∃ plan, spec.plan = .ok plan ∧ plan.offeredPackets.toNat ≤ 100000000 ∧
      plan.expectedDeliveries.toNat ≤ 1000000000 := by
  simp only [validatePlanSize, bind_eq_ok, ensure_eq_ok, UInt64.le_iff_toNat_le, maxOfferedPackets,
    maxExpectedDeliveries, UInt64.reduceToNat] at sized
  obtain ⟨plan, planned, _, offered, delivered⟩ := sized
  exact ⟨plan, planned, offered, delivered⟩

/-- What validation has checked of an audio mesh. -/
theorem audioMesh_bounds {rooms peers seconds : UInt32}
    (valid : (audioMesh rooms peers seconds).validate = .ok ()) :
    (1 ≤ rooms.toNat ∧ rooms.toNat ≤ 64) ∧ (2 ≤ peers.toNat ∧ peers.toNat ≤ 100) ∧
    (1 ≤ seconds.toNat ∧ seconds.toNat ≤ 3600) ∧
    (audioMesh rooms peers seconds).validatePlanSize = .ok () := by
  simp only [validate, newAudioMesh, bind_eq_ok, ensure_eq_ok, UInt32.le_iff_toNat_le,
    UInt32.reduceToNat] at valid
  obtain ⟨_, ⟨_, roomBounds, _, peerBounds, _, secondBounds, _, sized, _⟩, _⟩ := valid
  exact ⟨roomBounds, peerBounds, secondBounds, sized⟩

/-- What validation has checked of a gallery. -/
theorem videoGallery_bounds {rooms peers publishers seconds : UInt32}
    (valid : (videoGallery rooms peers publishers seconds).validate = .ok ()) :
    (1 ≤ rooms.toNat ∧ rooms.toNat ≤ 64) ∧ (3 ≤ peers.toNat ∧ peers.toNat ≤ 100) ∧
    (0 < publishers.toNat ∧ publishers.toNat ≤ peers.toNat ∧ publishers.toNat ≤ 10) ∧
    (1 ≤ seconds.toNat ∧ seconds.toNat ≤ 3600) ∧
    (videoGallery rooms peers publishers seconds).validatePlanSize = .ok () := by
  simp only [validate, newVideoGallery, bind_eq_ok, ensure_eq_ok, UInt32.le_iff_toNat_le,
    UInt32.lt_iff_toNat_lt, UInt32.reduceToNat] at valid
  obtain ⟨_, ⟨_, roomBounds, _, peerBounds, _, some, _, inside, _, downloads, _, secondBounds, _,
    sized, _⟩, _⟩ := valid
  exact ⟨roomBounds, peerBounds, ⟨some, inside, downloads⟩, secondBounds, sized⟩

/-- What validation has checked of a mixed conference. -/
theorem mixedConference_bounds {rooms peers audioPublishers videoPublishers seconds : UInt32}
    (valid : (mixedConference rooms peers audioPublishers videoPublishers seconds).validate =
      .ok ()) :
    (1 ≤ rooms.toNat ∧ rooms.toNat ≤ 64) ∧ (3 ≤ peers.toNat ∧ peers.toNat ≤ 100) ∧
    (0 < audioPublishers.toNat ∧ audioPublishers.toNat ≤ peers.toNat) ∧
    (0 < videoPublishers.toNat ∧ videoPublishers.toNat ≤ audioPublishers.toNat ∧
      videoPublishers.toNat ≤ 10) ∧
    (1 ≤ seconds.toNat ∧ seconds.toNat ≤ 3600) ∧
    (mixedConference rooms peers audioPublishers videoPublishers seconds).validatePlanSize =
      .ok () := by
  simp only [validate, newMixedConference, bind_eq_ok, ensure_eq_ok, UInt32.le_iff_toNat_le,
    UInt32.lt_iff_toNat_lt, UInt32.reduceToNat] at valid
  obtain ⟨_, ⟨_, roomBounds, _, peerBounds, _, someAudio, _, audioInside, _, someVideo, _,
    videoInside, _, downloads, _, secondBounds, _, sized, _⟩, _⟩ := valid
  exact ⟨roomBounds, peerBounds, ⟨someAudio, audioInside⟩, ⟨someVideo, videoInside, downloads⟩,
    secondBounds, sized⟩

/-- The workload of a validated scenario. -/
def workload : (spec : ScenarioSpec) → spec.validate = .ok () → Workload
  | .smoke receivers packets, valid => {
      rooms := 1
      peers := receivers.toNat + 1
      audioPublishers := 1
      audioPackets := packets.toNat
      videoPublishers := 0
      seconds := 0
      roomsPresent := by decide
      roomsBound := by decide
      peersPresent := by have := smoke_bounds valid; omega
      peersBound := by have := smoke_bounds valid; omega
      audioInside := by omega
      audioWork := by have := smoke_bounds valid; omega
      audioBound := by have := smoke_bounds valid; omega
      videoInside := by omega
      videoWork := by omega
      secondsBound := by omega }
  | .audioMesh rooms peers seconds, valid => {
      rooms := rooms.toNat
      peers := peers.toNat
      audioPublishers := peers.toNat
      audioPackets := seconds.toNat * 50
      videoPublishers := 0
      seconds := 0
      roomsPresent := by have := audioMesh_bounds valid; omega
      roomsBound := by have := audioMesh_bounds valid; omega
      peersPresent := by have := audioMesh_bounds valid; omega
      peersBound := by have := audioMesh_bounds valid; omega
      audioInside := by omega
      audioWork := by have := audioMesh_bounds valid; omega
      audioBound := by have := audioMesh_bounds valid; omega
      videoInside := by omega
      videoWork := by omega
      secondsBound := by omega }
  | .videoGallery rooms peers publishers seconds, valid => {
      rooms := rooms.toNat
      peers := peers.toNat
      audioPublishers := 0
      audioPackets := 0
      videoPublishers := publishers.toNat
      seconds := seconds.toNat
      roomsPresent := by have := videoGallery_bounds valid; omega
      roomsBound := by have := videoGallery_bounds valid; omega
      peersPresent := by have := videoGallery_bounds valid; omega
      peersBound := by have := videoGallery_bounds valid; omega
      audioInside := by omega
      audioWork := by omega
      audioBound := by omega
      videoInside := by have := videoGallery_bounds valid; omega
      videoWork := by have := videoGallery_bounds valid; omega
      secondsBound := by have := videoGallery_bounds valid; omega }
  | .mixedConference rooms peers audioPublishers videoPublishers seconds, valid => {
      rooms := rooms.toNat
      peers := peers.toNat
      audioPublishers := audioPublishers.toNat
      audioPackets := seconds.toNat * 50
      videoPublishers := videoPublishers.toNat
      seconds := seconds.toNat
      roomsPresent := by have := mixedConference_bounds valid; omega
      roomsBound := by have := mixedConference_bounds valid; omega
      peersPresent := by have := mixedConference_bounds valid; omega
      peersBound := by have := mixedConference_bounds valid; omega
      audioInside := by have := mixedConference_bounds valid; omega
      audioWork := by have := mixedConference_bounds valid; omega
      audioBound := by have := mixedConference_bounds valid; omega
      videoInside := by have := mixedConference_bounds valid; omega
      videoWork := by have := mixedConference_bounds valid; omega
      secondsBound := by have := mixedConference_bounds valid; omega }

end ScenarioSpec

/-- The layers' packet counts are the workload's. -/
theorem layers_counted (work : Workload) {seconds : UInt32} {low high : UInt64}
    (computed : videoPacketsPerLayer seconds = .ok (low, high)) (same : work.seconds = seconds.toNat) :
    low.toNat = work.lowPackets ∧ high.toNat = work.highPackets := by
  obtain ⟨lowNat, highNat⟩ := videoPacketsPerLayer_eq_ok computed
  simp only [Workload.lowPackets, Workload.highPackets, Workload.keyframes, Workload.frames, same,
    lowNat, highNat, Nat.mul_comm 30, and_self]

namespace ScenarioSpec

/-- The workload has the rooms of the scenario. -/
theorem workload_rooms (spec : ScenarioSpec) (valid : spec.validate = .ok ()) :
    spec.roomCount.toNat = (spec.workload valid).rooms := by
  cases spec <;> rfl

/-- The workload has the peers of the scenario in each room. -/
theorem workload_peers (spec : ScenarioSpec) (valid : spec.validate = .ok ()) :
    spec.peersPerRoom.toNat = (spec.workload valid).peers := by
  cases spec with
  | smoke receivers packets =>
    have bounds := smoke_bounds valid
    simp only [peersPerRoom, workload, UInt32.toNat_add, UInt32.toNat_one]
    omega
  | audioMesh => rfl
  | videoGallery => rfl
  | mixedConference => rfl

/-- A smoke with receivers has a plan as long as its delivered bytes can be counted. -/
theorem smoke_planned {receivers packets : UInt32} (present : 1 ≤ receivers.toNat)
    (fits : receivers.toNat * packets.toNat * 80 < 2 ^ 64) :
    ∃ plan, (smoke receivers packets).plan = .ok plan ∧ plan.streams.toNat = 1 ∧
    plan.routes.toNat = receivers.toNat ∧ plan.offeredPackets.toNat = packets.toNat ∧
    plan.offeredPayloadBytes.toNat = packets.toNat * 80 ∧
    plan.expectedDeliveries.toNat = receivers.toNat * packets.toNat ∧
    plan.expectedDeliveryPayloadBytes.toNat = receivers.toNat * packets.toNat * 80 := by
  have packetBound := packets.toNat_lt
  have bytes : byteCount audioPacketPayloadBytes = .ok 80 := by decide
  have bytesNat : (80 : UInt64).toNat = 80 := rfl
  obtain ⟨offeredBytes, offeredByteCount, offeredBytesNat⟩ :=
    Saturating.checkedMul_of_fits packets.toUInt64 80 (by
      simp only [UInt32.toNat_toUInt64, bytesNat, Saturating.limit]
      omega)
  obtain ⟨deliveries, delivered, deliveriesNat⟩ :=
    Saturating.checkedMul_of_fits receivers.toUInt64 packets.toUInt64 (by
      simp only [UInt32.toNat_toUInt64, Saturating.limit]
      omega)
  simp only [UInt32.toNat_toUInt64, bytesNat] at offeredBytesNat deliveriesNat
  obtain ⟨deliveryBytes, deliveryByteCount, deliveryBytesNat⟩ :=
    Saturating.checkedMul_of_fits deliveries 80 (by
      simp only [deliveriesNat, bytesNat, Saturating.limit]
      omega)
  have receiversPresent : 0 < receivers.toUInt64 := by
    rw [UInt64.lt_iff_toNat_lt, UInt32.toNat_toUInt64]
    exact present
  refine ⟨⟨1, receivers.toUInt64, packets.toUInt64, offeredBytes, deliveries, deliveryBytes⟩, ?_,
    rfl, UInt32.toNat_toUInt64 _, UInt32.toNat_toUInt64 _, offeredBytesNat, deliveriesNat, ?_⟩
  · simp [plan, bytes, checkedMul, offeredByteCount, delivered, deliveryByteCount,
      WorkloadPlan.new, ensure_of_holds, receiversPresent]
  · rw [deliveryBytesNat, deliveriesNat]
    rfl

/-- A smoke that has a plan has a receiver, and its bytes are a word. -/
theorem smoke_fits {receivers packets : UInt32} {plan : WorkloadPlan}
    (planned : (smoke receivers packets).plan = .ok plan) :
    1 ≤ receivers.toNat ∧ receivers.toNat * packets.toNat * 80 < 2 ^ 64 := by
  simp only [ScenarioSpec.plan, WorkloadPlan.new, bind_eq_ok, ensure_eq_ok] at planned
  obtain ⟨bytes, counted, _, _, _, _, deliveries, delivered, deliveryBytes, deliveryByteCount,
    _, _, _, present, _⟩ := planned
  rw [UInt64.lt_iff_toNat_lt, UInt32.toNat_toUInt64] at present
  have total := checkedMul_eq_ok deliveryByteCount
  rw [byteCount_eq_ok counted, checkedMul_eq_ok delivered, UInt32.toNat_toUInt64,
    UInt32.toNat_toUInt64] at total
  have bound := deliveryBytes.toNat_lt
  rw [total] at bound
  exact ⟨present, bound⟩

/-- A validated scenario has a plan, and the plan counts its workload. -/
theorem plan_counted (spec : ScenarioSpec) (valid : spec.validate = .ok ()) :
    ∃ plan, spec.plan = .ok plan ∧ (spec.workload valid).Counted plan ∧
      plan.offeredPackets.toNat ≤ 100000000 ∧ plan.expectedDeliveries.toNat ≤ 1000000000 := by
  cases spec with
  | smoke receivers packets =>
    have bounds := smoke_bounds valid
    have area : receivers.toNat * packets.toNat ≤ 99 * 180000 :=
      Nat.mul_le_mul bounds.2.1 bounds.2.2.2
    obtain ⟨plan, planned, streams, routes, offered, offeredBytes, deliveries, deliveryBytes⟩ :=
      @smoke_planned receivers packets bounds.1 (by omega)
    refine ⟨plan, planned, ?_, by omega, by omega⟩
    constructor
    · simpa [workload, Workload.streams] using streams
    · simpa [workload, Workload.routes] using routes
    · simpa [workload, Workload.offeredPackets] using offered
    · simpa [workload, Workload.offeredPayloadBytes] using offeredBytes
    · simpa [workload, Workload.expectedDeliveries, Workload.highRoutes, Workload.lowRoutes]
        using deliveries
    · simpa [workload, Workload.expectedDeliveryPayloadBytes, Workload.highRoutes,
        Workload.lowRoutes, Nat.mul_assoc] using deliveryBytes
  | audioMesh rooms peers seconds =>
    obtain ⟨_, _, _, sized⟩ := audioMesh_bounds valid
    obtain ⟨plan, planned, small⟩ := planned_of_size sized
    obtain ⟨streams, routes, offered, offeredBytes, deliveries, deliveryBytes⟩ :=
      audioPlan_eq_ok planned
    refine ⟨plan, planned, ?_, small⟩
    constructor
    · simpa [workload, Workload.streams] using streams
    · simpa [workload, Workload.routes, Nat.mul_assoc] using routes
    · simpa [workload, Workload.offeredPackets, Nat.mul_assoc] using offered
    · simpa [workload, Workload.offeredPayloadBytes, Nat.mul_assoc] using offeredBytes
    · simpa [workload, Workload.expectedDeliveries, Workload.highRoutes, Workload.lowRoutes,
        Nat.mul_assoc] using deliveries
    · simpa [workload, Workload.expectedDeliveryPayloadBytes, Workload.highRoutes,
        Workload.lowRoutes, Nat.mul_assoc] using deliveryBytes
  | videoGallery rooms peers publishers seconds =>
    obtain ⟨_, _, publisherBounds, _, sized⟩ := videoGallery_bounds valid
    obtain ⟨plan, planned, small⟩ := planned_of_size sized
    obtain ⟨low, high, layers, streams, routes, offered, offeredBytes, deliveries,
      deliveryBytes⟩ := videoPlan_eq_ok planned
    have publishing : publishers.toNat ≠ 0 := by omega
    obtain ⟨lowNat, highNat⟩ :=
      layers_counted ((videoGallery rooms peers publishers seconds).workload valid) layers rfl
    have routesNat : ((videoGallery rooms peers publishers seconds).workload valid).highRoutes =
        if publishers.toNat = 1 then peers.toNat - 1 else peers.toNat :=
      Workload.highRoutes_of_publishing _ publishing
    rw [lowNat, highNat] at offered offeredBytes deliveries deliveryBytes
    rw [← routesNat] at deliveries deliveryBytes
    refine ⟨plan, planned, ?_, small⟩
    constructor
    · rw [streams]
      simp only [workload, Workload.streams]
      ring
    · rw [routes]
      simp only [workload, Workload.routes]
      ring
    · rw [offered]
      simp only [workload, Workload.offeredPackets]
      ring
    · rw [offeredBytes]
      simp only [workload, Workload.offeredPayloadBytes]
      ring
    · rw [deliveries]
      simp only [workload, Workload.expectedDeliveries, Workload.lowRoutes]
      ring
    · rw [deliveryBytes]
      simp only [workload, Workload.expectedDeliveryPayloadBytes, Workload.lowRoutes]
      ring
  | mixedConference rooms peers audioPublishers videoPublishers seconds =>
    obtain ⟨_, _, _, publisherBounds, _, sized⟩ := mixedConference_bounds valid
    obtain ⟨plan, planned, small⟩ := planned_of_size sized
    obtain ⟨audio, video, audioPlanned, videoPlanned, streams, routes, offered, offeredBytes,
      deliveries, deliveryBytes⟩ := mixedPlan_eq_ok planned
    obtain ⟨audioStreams, audioRoutes, audioOffered, audioOfferedBytes, audioDeliveries,
      audioDeliveryBytes⟩ := audioPlan_eq_ok audioPlanned
    obtain ⟨low, high, layers, videoStreams, videoRoutes, videoOffered, videoOfferedBytes,
      videoDeliveries, videoDeliveryBytes⟩ := videoPlan_eq_ok videoPlanned
    have publishing : videoPublishers.toNat ≠ 0 := by omega
    obtain ⟨lowNat, highNat⟩ := layers_counted
      ((mixedConference rooms peers audioPublishers videoPublishers seconds).workload valid)
      layers rfl
    have routesNat : ((mixedConference rooms peers audioPublishers videoPublishers
          seconds).workload valid).highRoutes =
        if videoPublishers.toNat = 1 then peers.toNat - 1 else peers.toNat :=
      Workload.highRoutes_of_publishing _ publishing
    rw [lowNat, highNat] at videoOffered videoOfferedBytes videoDeliveries videoDeliveryBytes
    rw [← routesNat] at videoDeliveries videoDeliveryBytes
    refine ⟨plan, planned, ?_, small⟩
    constructor
    · rw [streams, audioStreams, videoStreams]
      simp only [workload, Workload.streams]
      ring
    · rw [routes, audioRoutes, videoRoutes]
      simp only [workload, Workload.routes]
      ring
    · rw [offered, audioOffered, videoOffered]
      simp only [workload, Workload.offeredPackets]
      ring
    · rw [offeredBytes, audioOfferedBytes, videoOfferedBytes]
      simp only [workload, Workload.offeredPayloadBytes]
      ring
    · rw [deliveries, audioDeliveries, videoDeliveries]
      simp only [workload, Workload.expectedDeliveries, Workload.lowRoutes]
      ring
    · rw [deliveryBytes, audioDeliveryBytes, videoDeliveryBytes]
      simp only [workload, Workload.expectedDeliveryPayloadBytes, Workload.lowRoutes]
      ring

end ScenarioSpec

end SfuLoad.Model
