import SfuLoad.Kit.Saturating
import SfuLoad.Kit.Fallible

/-!
# Workloads and their fixed-work plans

A scenario is one of four shapes with 32-bit coordinates. Validation re-applies
the constructor's bounds and, except for the smoke, the size limits of its plan.
A plan counts streams, routes, offered packets and deliveries in closed form,
with checked 64-bit arithmetic throughout.
-/

namespace SfuLoad.Model

open Kit Kit.Fallible

/-- One Opus packet each twenty milliseconds. -/
def audioPacketsPerSecond : UInt32 := 50

/-- The payload of every Opus packet. -/
def audioPacketPayloadBytes : Nat := 80

/-- The frame rate of both layers. -/
def videoFramesPerSecond : UInt32 := 30

/-- Every so many frames are opened by a keyframe. -/
def videoKeyframeInterval : UInt64 := 60

/-- The packets of an ordinary frame of the low layer. -/
def videoLowDeltaPackets : UInt64 := 1

/-- The packets of a keyframe of the low layer. -/
def videoLowKeyframePackets : UInt64 := 2

/-- The payload of every packet of the low layer. -/
def videoLowPacketPayloadBytes : Nat := 600

/-- The packets of an ordinary frame of the high layer. -/
def videoHighDeltaPackets : UInt64 := 14

/-- The packets of a keyframe of the high layer. -/
def videoHighKeyframePackets : UInt64 := 20

/-- The payload of every packet of the high layer. -/
def videoHighPacketPayloadBytes : Nat := 1100

/-- The most packets that a plan may offer. -/
def maxOfferedPackets : UInt64 := 100000000

/-- The most deliveries that a plan may expect. -/
def maxExpectedDeliveries : UInt64 := 1000000000

/-- The four shapes of a scenario with their coordinates, not yet validated. -/
inductive ScenarioSpec where
  | smoke (receivers packets : UInt32)
  | audioMesh (rooms peers seconds : UInt32)
  | videoGallery (rooms peers publishers seconds : UInt32)
  | mixedConference (rooms peers audioPublishers videoPublishers seconds : UInt32)
deriving DecidableEq

/-- The exact work of a scenario. A run is judged by it. -/
structure WorkloadPlan where
  streams : UInt64
  routes : UInt64
  offeredPackets : UInt64
  offeredPayloadBytes : UInt64
  expectedDeliveries : UInt64
  expectedDeliveryPayloadBytes : UInt64
deriving DecidableEq

/-- A plan must contain work. -/
def WorkloadPlan.new (streams routes offeredPackets offeredPayloadBytes expectedDeliveries
    expectedDeliveryPayloadBytes : UInt64) : Except String WorkloadPlan := do
  ensure (0 < streams) "workload must contain a stream"
  ensure (0 < routes) "workload must contain a route"
  return ⟨streams, routes, offeredPackets, offeredPayloadBytes, expectedDeliveries,
    expectedDeliveryPayloadBytes⟩

/-- A sum of counts, unless it overflows. -/
def checkedAdd (left right : UInt64) : Except String UInt64 :=
  context (Saturating.checkedAdd left right) "workload cardinality overflowed"

/-- A product of counts, unless it overflows. -/
def checkedMul (left right : UInt64) : Except String UInt64 :=
  context (Saturating.checkedMul left right) "workload cardinality overflowed"

/-- A number of bytes as a count. -/
def byteCount (value : Nat) : Except String UInt64 :=
  if value < 2 ^ 64 then .ok (UInt64.ofNat value) else .error "payload byte count exceeds u64"

/-- Low and high VP8 packet counts of one publisher over a duration. -/
def videoPacketsPerLayer (seconds : UInt32) : Except String (UInt64 × UInt64) := do
  let frames ← checkedMul seconds.toUInt64 videoFramesPerSecond.toUInt64
  let keyframes := UInt64.ofNat
    ((frames.toNat + videoKeyframeInterval.toNat - 1) / videoKeyframeInterval.toNat)
  let lowPackets ← checkedAdd (← checkedMul (frames - keyframes) videoLowDeltaPackets)
    (← checkedMul keyframes videoLowKeyframePackets)
  let highPackets ← checkedAdd (← checkedMul (frames - keyframes) videoHighDeltaPackets)
    (← checkedMul keyframes videoHighKeyframePackets)
  return (lowPackets, highPackets)

/-- Every publisher sends its audio to all other peers of its room. -/
def audioPlan (rooms peers publishers seconds : UInt32) : Except String WorkloadPlan := do
  let rooms := rooms.toUInt64
  let peers := peers.toUInt64
  let publishers := publishers.toUInt64
  let packetsPerPublisher ← checkedMul seconds.toUInt64 audioPacketsPerSecond.toUInt64
  let streams ← checkedMul rooms publishers
  let remotePeers ← context (Saturating.checkedSub peers 1)
    "audio workload requires at least two peers"
  let routes ← checkedMul streams remotePeers
  let offeredPackets ← checkedMul streams packetsPerPublisher
  let expectedDeliveries ← checkedMul routes packetsPerPublisher
  let payloadBytes ← byteCount audioPacketPayloadBytes
  WorkloadPlan.new streams routes offeredPackets (← checkedMul offeredPackets payloadBytes)
    expectedDeliveries (← checkedMul expectedDeliveries payloadBytes)

/-- Every publisher sends two layers. Each receiver is routed one of them: high for the
source it features, low for the others. -/
def videoPlan (rooms peers publishers seconds : UInt32) : Except String WorkloadPlan := do
  let rooms := rooms.toUInt64
  let peers := peers.toUInt64
  let publishers := publishers.toUInt64
  let (lowPackets, highPackets) ← videoPacketsPerLayer seconds
  let sources ← checkedMul rooms publishers
  let streams ← checkedMul sources 2
  let offeredLowPackets ← checkedMul sources lowPackets
  let offeredHighPackets ← checkedMul sources highPackets
  let offeredPackets ← checkedAdd offeredLowPackets offeredHighPackets
  let lowPayloadBytes ← byteCount videoLowPacketPayloadBytes
  let highPayloadBytes ← byteCount videoHighPacketPayloadBytes
  let offeredPayloadBytes ← checkedAdd (← checkedMul offeredLowPackets lowPayloadBytes)
    (← checkedMul offeredHighPackets highPayloadBytes)
  let remotePeers ← context (Saturating.checkedSub peers 1)
    "video gallery requires at least two peers"
  let routesPerRoom ← checkedMul publishers remotePeers
  let highRoutesPerRoom := if publishers = 1 then remotePeers else peers
  let lowRoutesPerRoom ← context (Saturating.checkedSub routesPerRoom highRoutesPerRoom)
    "video route count underflowed"
  let highRoutes ← checkedMul rooms highRoutesPerRoom
  let lowRoutes ← checkedMul rooms lowRoutesPerRoom
  let expectedHighDeliveries ← checkedMul highRoutes highPackets
  let expectedLowDeliveries ← checkedMul lowRoutes lowPackets
  let expectedDeliveries ← checkedAdd expectedHighDeliveries expectedLowDeliveries
  let expectedDeliveryPayloadBytes ← checkedAdd
    (← checkedMul expectedHighDeliveries highPayloadBytes)
    (← checkedMul expectedLowDeliveries lowPayloadBytes)
  WorkloadPlan.new streams (← checkedMul rooms routesPerRoom) offeredPackets offeredPayloadBytes
    expectedDeliveries expectedDeliveryPayloadBytes

/-- Audio and video of the same rooms, added up. -/
def mixedPlan (rooms peers audioPublishers videoPublishers seconds : UInt32) :
    Except String WorkloadPlan := do
  let audio ← audioPlan rooms peers audioPublishers seconds
  let video ← videoPlan rooms peers videoPublishers seconds
  WorkloadPlan.new (← checkedAdd audio.streams video.streams)
    (← checkedAdd audio.routes video.routes)
    (← checkedAdd audio.offeredPackets video.offeredPackets)
    (← checkedAdd audio.offeredPayloadBytes video.offeredPayloadBytes)
    (← checkedAdd audio.expectedDeliveries video.expectedDeliveries)
    (← checkedAdd audio.expectedDeliveryPayloadBytes video.expectedDeliveryPayloadBytes)

namespace ScenarioSpec

/-- The smoke has one room. -/
def roomCount : ScenarioSpec → UInt32
  | .smoke _ _ => 1
  | .audioMesh rooms _ _ => rooms
  | .videoGallery rooms _ _ _ => rooms
  | .mixedConference rooms _ _ _ _ => rooms

/-- The smoke's `receivers + 1` wraps in the release build at `u32::MAX`, which
validation excludes. -/
def peersPerRoom : ScenarioSpec → UInt32
  | .smoke receivers _ => receivers + 1
  | .audioMesh _ peers _ => peers
  | .videoGallery _ peers _ _ => peers
  | .mixedConference _ peers _ _ _ => peers

/-- The peers of a room that send audio, counted from the first. -/
def audioPublishersPerRoom : ScenarioSpec → UInt32
  | .smoke _ _ => 1
  | .audioMesh _ peers _ => peers
  | .videoGallery _ _ _ _ => 0
  | .mixedConference _ _ audioPublishers _ _ => audioPublishers

/-- The peers of a room that send video, counted from the first. -/
def videoPublishersPerRoom : ScenarioSpec → UInt32
  | .smoke _ _ => 0
  | .audioMesh _ _ _ => 0
  | .videoGallery _ _ publishers _ => publishers
  | .mixedConference _ _ _ videoPublishers _ => videoPublishers

/-- The smoke runs for its packets, rounded up to whole seconds. -/
def durationSeconds : ScenarioSpec → UInt32
  | .smoke _ packets => UInt32.ofNat
      ((packets.toNat + audioPacketsPerSecond.toNat - 1) / audioPacketsPerSecond.toNat)
  | .audioMesh _ _ seconds => seconds
  | .videoGallery _ _ _ seconds => seconds
  | .mixedConference _ _ _ _ seconds => seconds

/-- How many audio sources the server is to forward at a time. -/
def activeAudioSpeakers : ScenarioSpec → UInt32
  | .audioMesh _ peers _ => peers
  | .mixedConference _ _ audioPublishers _ _ => audioPublishers
  | .smoke _ _ => 4
  | .videoGallery _ _ _ _ => 4

/-- The name and version of the scenario's shape. -/
def profile : ScenarioSpec → String
  | .smoke _ _ => "opus-fanout-smoke-v3"
  | .audioMesh _ _ _ => "opus-20ms-audio-mesh-v2"
  | .videoGallery _ _ _ _ => "vp8-simulcast-gallery-v2"
  | .mixedConference _ _ _ _ _ => "opus-vp8-mixed-conference-v2"

/-- The plan of a scenario, or the overflow that keeps it from having one. -/
def plan : ScenarioSpec → Except String WorkloadPlan
  | .smoke receivers packets => do
      let offeredPackets := packets.toUInt64
      let routes := receivers.toUInt64
      let payloadBytes ← byteCount audioPacketPayloadBytes
      WorkloadPlan.new 1 routes offeredPackets (← checkedMul offeredPackets payloadBytes)
        (← checkedMul routes offeredPackets)
        (← checkedMul (← checkedMul routes offeredPackets) payloadBytes)
  | .audioMesh rooms peers seconds => audioPlan rooms peers peers seconds
  | .videoGallery rooms peers publishers seconds => videoPlan rooms peers publishers seconds
  | .mixedConference rooms peers audioPublishers videoPublishers seconds =>
      mixedPlan rooms peers audioPublishers videoPublishers seconds

/-- A scenario whose plan is too large is refused. -/
def validatePlanSize (spec : ScenarioSpec) : Except String Unit := do
  let plan ← spec.plan
  ensure (plan.offeredPackets ≤ maxOfferedPackets) "workload exceeds the offered packet limit"
  ensure (plan.expectedDeliveries ≤ maxExpectedDeliveries) "workload exceeds the delivery limit"

/-- One sender of audio. Its bounds keep the plan small, so the size is not checked. -/
def newSmoke (receivers packets : UInt32) : Except String ScenarioSpec := do
  ensure (1 ≤ receivers ∧ receivers ≤ 99) "receivers must be between 1 and 99"
  ensure (1 ≤ packets ∧ packets ≤ 180000) "packets must be between 1 and 180000"
  return .smoke receivers packets

/-- Every peer sends audio to every other of its room. -/
def newAudioMesh (rooms peers seconds : UInt32) : Except String ScenarioSpec := do
  ensure (1 ≤ rooms ∧ rooms ≤ 64) "rooms must be between 1 and 64"
  ensure (2 ≤ peers ∧ peers ≤ 100) "peers must be between 2 and 100"
  ensure (1 ≤ seconds ∧ seconds ≤ 3600) "seconds must be between 1 and 3600"
  let spec := ScenarioSpec.audioMesh rooms peers seconds
  spec.validatePlanSize
  return spec

/-- The first peers of a room send video, and all peers receive it. -/
def newVideoGallery (rooms peers publishers seconds : UInt32) : Except String ScenarioSpec := do
  ensure (1 ≤ rooms ∧ rooms ≤ 64) "rooms must be between 1 and 64"
  ensure (3 ≤ peers ∧ peers ≤ 100) "peers must be between 3 and 100"
  ensure (0 < publishers) "publishers must be greater than zero"
  ensure (publishers ≤ peers) "publishers cannot exceed peers"
  ensure (publishers ≤ 10) "publishers cannot exceed ten video downloads"
  ensure (1 ≤ seconds ∧ seconds ≤ 3600) "seconds must be between 1 and 3600"
  let spec := ScenarioSpec.videoGallery rooms peers publishers seconds
  spec.validatePlanSize
  return spec

/-- The peers that send video are among those that send audio. -/
def newMixedConference (rooms peers audioPublishers videoPublishers seconds : UInt32) :
    Except String ScenarioSpec := do
  ensure (1 ≤ rooms ∧ rooms ≤ 64) "rooms must be between 1 and 64"
  ensure (3 ≤ peers ∧ peers ≤ 100) "peers must be between 3 and 100"
  ensure (0 < audioPublishers) "audio publishers must be greater than zero"
  ensure (audioPublishers ≤ peers) "audio publishers cannot exceed peers"
  ensure (0 < videoPublishers) "video publishers must be greater than zero"
  ensure (videoPublishers ≤ audioPublishers)
    "video publishers must be a subset of audio publishers"
  ensure (videoPublishers ≤ 10) "video publishers cannot exceed ten video downloads"
  ensure (1 ≤ seconds ∧ seconds ≤ 3600) "seconds must be between 1 and 3600"
  let spec := ScenarioSpec.mixedConference rooms peers audioPublishers videoPublishers seconds
  spec.validatePlanSize
  return spec

/-- Reapply the constructor's contract to a decoded scenario. -/
def validate (spec : ScenarioSpec) : Except String Unit := do
  let _ ← match spec with
    | .smoke receivers packets => newSmoke receivers packets
    | .audioMesh rooms peers seconds => newAudioMesh rooms peers seconds
    | .videoGallery rooms peers publishers seconds =>
        newVideoGallery rooms peers publishers seconds
    | .mixedConference rooms peers audioPublishers videoPublishers seconds =>
        newMixedConference rooms peers audioPublishers videoPublishers seconds
  return ()

end ScenarioSpec

end SfuLoad.Model
