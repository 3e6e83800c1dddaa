import SfuLoad.Client.Ledger
import SfuLoad.Client.Media
import SfuLoad.Kit.Others
import SfuLoad.Model.Workload

/-!
# Rooms and the tasks of their peers

Every room gives each of its peers the media it publishes, the streams it
expects and the camera layouts it asks for. Connecting, negotiating and the
transport itself are outside the model; the peers' tasks are what a room hands
over after them.
-/

namespace SfuLoad.Rooms

open Kit Kit.Fallible Identity Ledger Media Model

/-- What a peer publishes: a source of either kind, if it has one, and how much of it. -/
structure PeerMedia where
  audio : Option AudioSource
  audioPacketCount : UInt32
  video : Option VideoSource
  videoFrameCount : UInt32
deriving DecidableEq

namespace PeerMedia

/-- Media of both kinds. -/
def mixed (audio : Option AudioSource) (audioPacketCount : UInt32) (video : Option VideoSource)
    (videoFrameCount : UInt32) : PeerMedia :=
  ⟨audio, audioPacketCount, video, videoFrameCount⟩

/-- Media of a peer that publishes no video. -/
def audioOnly (source : Option AudioSource) (packetCount : UInt32) : PeerMedia :=
  mixed source packetCount none 0

/-- Media of a peer that publishes no audio. -/
def videoOnly (source : Option VideoSource) (frameCount : UInt32) : PeerMedia :=
  mixed none 0 source frameCount

/-- The time the longer of both sources needs. -/
def targetDuration (self : PeerMedia) : Duration :=
  max (Duration.saturatingMul audioFrameInterval self.audioPacketCount)
    (Duration.saturatingMul videoFrameInterval self.videoFrameCount)

end PeerMedia

/-- What a spawned peer task starts from. -/
structure PeerTask where
  media : PeerMedia
  expected : List ExpectedStream
deriving DecidableEq

/-- How large a receiver shows a camera, which decides the layer it is sent. -/
inductive VideoLayoutIntent where
  | featured
  | visibleThumbnail
deriving DecidableEq

/-- The layouts each peer asked for, and the peers' tasks. -/
structure Room where
  layouts : List (List (Int × VideoLayoutIntent))
  tasks : List PeerTask
deriving DecidableEq

/-- The user a peer connects as. -/
def userId (peerIndex : Nat) : Int := peerIndex + 1

/-- A product of 32-bit counts, unless it overflows. -/
def checkedMul32 (left right : UInt32) : Option UInt32 :=
  if left.toNat * right.toNat < 2 ^ 32 then some (left * right) else none

/-- Globally unique index of a peer, in 16 bits. -/
def sourceId (roomIndex peersPerRoom : UInt32) (peerIndex : Nat) : Except String UInt16 := do
  ensure (peerIndex < 2 ^ 32) "peer index exceeds u32"
  let offset := roomIndex.toNat * peersPerRoom.toNat
  ensure (offset < 2 ^ 32 ∧ offset + peerIndex < 2 ^ 32) "global source index overflowed"
  ensure (offset + peerIndex < 2 ^ 16) "global source index exceeds u16"
  return UInt16.ofNat (offset + peerIndex)

/-- The publisher a peer features: its own index modulo the publishers, or the
next publisher where that is itself. Indices are natural numbers; the featured
one is below a 32-bit count. -/
def featuredSource (peerIndex : Nat) (publisherCount : UInt32) : Option Nat :=
  let publisherCount := publisherCount.toNat
  if publisherCount = 0 then none
  else
    let candidate := peerIndex % publisherCount
    if candidate = peerIndex then
      if 1 < publisherCount then some ((candidate + 1) % publisherCount) else none
    else some candidate

/-- The layouts one peer asks for, a publisher at a time. -/
def cameraLayouts (peerIndex : Nat) (publisherCount : UInt32) : List (Int × VideoLayoutIntent) :=
  let featured := featuredSource peerIndex publisherCount
  (List.range publisherCount.toNat).filterMap (fun sourceIndex =>
    if sourceIndex ≠ peerIndex then
      some (userId sourceIndex,
        if featured = some sourceIndex then .featured else .visibleThumbnail)
    else none)

/-- Every peer's layouts of the cameras it receives. -/
def configureVideoLayouts (peerCount publisherCount : UInt32) :
    List (List (Int × VideoLayoutIntent)) :=
  (List.range peerCount.toNat).map (fun peerIndex => cameraLayouts peerIndex publisherCount)

/-- A peer expects every audio source of its room but its own. -/
def expectedAudioStreams (roomIndex peerCount publisherCount : UInt32) (peerIndex : Nat)
    (packetCount : UInt32) : Except String (List ExpectedStream) :=
  (List.range publisherCount.toNat).filterMapM (fun sourceIndex =>
    if sourceIndex ≠ peerIndex then do
      let source ← sourceId roomIndex peerCount sourceIndex
      return some (← ExpectedStream.audio source packetCount)
    else return none)

/-- How many packets a layer has. -/
def packetCountOf (lowPackets highPackets : UInt64) : VideoLayer → UInt64
  | .low => lowPackets
  | .high => highPackets

/-- One pass of the video loop that does not skip. -/
def expectedVideoStream (roomIndex peerCount : UInt32) (sourceIndex : Nat) (layer : VideoLayer)
    (packetCount : UInt64) : Except String ExpectedStream := do
  let source ← sourceId roomIndex peerCount sourceIndex
  ensure (packetCount.toNat < 2 ^ 32) "video packet count exceeds u32"
  ExpectedStream.video source layer packetCount.toUInt32

/-- A peer expects every video source of its room but its own, the featured one on its high
layer. -/
def expectedVideoStreams (roomIndex peerCount publisherCount : UInt32) (peerIndex : Nat)
    (lowPackets highPackets : UInt64) : Except String (List ExpectedStream) :=
  let featured := featuredSource peerIndex publisherCount
  (List.range publisherCount.toNat).filterMapM (fun sourceIndex =>
    if sourceIndex = peerIndex then return none
    else do
      let layer : VideoLayer := if featured = some sourceIndex then .high else .low
      let packetCount := packetCountOf lowPackets highPackets layer
      return some (← expectedVideoStream roomIndex peerCount sourceIndex layer packetCount))

/-- The task an audio room spawns for one peer. -/
def audioTask (peerCount publisherCount packetCount roomIndex : UInt32) (peerIndex : Nat) :
    Except String PeerTask := do
  let peerSource ← sourceId roomIndex peerCount peerIndex
  let source :=
    if peerIndex < publisherCount.toNat then some (AudioSource.new peerSource) else none
  let expected ← expectedAudioStreams roomIndex peerCount publisherCount peerIndex packetCount
  return ⟨PeerMedia.audioOnly source packetCount, expected⟩

/-- The tasks of a room without video. -/
def runAudioRoom (peerCount publisherCount packetCount roomIndex : UInt32) :
    Except String Room := do
  let tasks ← (List.range peerCount.toNat).mapM
    (audioTask peerCount publisherCount packetCount roomIndex)
  return ⟨[], tasks⟩

/-- The task a video room spawns for one peer. -/
def videoTask (peerCount publisherCount frameCount roomIndex : UInt32)
    (lowPackets highPackets : UInt64) (peerIndex : Nat) : Except String PeerTask := do
  let peerSource ← sourceId roomIndex peerCount peerIndex
  let source :=
    if peerIndex < publisherCount.toNat then some (VideoSource.new peerSource) else none
  let expected ←
    expectedVideoStreams roomIndex peerCount publisherCount peerIndex lowPackets highPackets
  return ⟨PeerMedia.videoOnly source frameCount, expected⟩

/-- The tasks of a room without audio. -/
def runVideoRoom (peerCount publisherCount seconds roomIndex : UInt32) : Except String Room := do
  let (lowPackets, highPackets) ← videoPacketsPerLayer seconds
  let frameCount ← context (checkedMul32 seconds videoFramesPerSecond)
    "video frame count exceeds u32"
  let tasks ← (List.range peerCount.toNat).mapM
    (videoTask peerCount publisherCount frameCount roomIndex lowPackets highPackets)
  return ⟨configureVideoLayouts peerCount publisherCount, tasks⟩

/-- The task a mixed room spawns for one peer: staggered sources, and the audio
streams before the video streams. -/
def mixedTask (peerCount audioPublisherCount videoPublisherCount audioPacketCount
    videoFrameCount roomIndex : UInt32) (lowPackets highPackets : UInt64) (peerIndex : Nat) :
    Except String PeerTask := do
  let peerSource ← sourceId roomIndex peerCount peerIndex
  ensure (peerIndex < 2 ^ 32) "peer index exceeds u32"
  let sourceIndex := UInt32.ofNat peerIndex
  let audio := if peerIndex < audioPublisherCount.toNat then
    some (AudioSource.staggered peerSource sourceIndex audioPublisherCount) else none
  let video := if peerIndex < videoPublisherCount.toNat then
    some (VideoSource.staggered peerSource sourceIndex videoPublisherCount) else none
  let expectedAudio ←
    expectedAudioStreams roomIndex peerCount audioPublisherCount peerIndex audioPacketCount
  let expectedVideo ←
    expectedVideoStreams roomIndex peerCount videoPublisherCount peerIndex lowPackets highPackets
  return ⟨PeerMedia.mixed audio audioPacketCount video videoFrameCount,
    expectedAudio ++ expectedVideo⟩

/-- The tasks of a room with both. -/
def runMixedRoom (peerCount audioPublisherCount videoPublisherCount seconds roomIndex : UInt32) :
    Except String Room := do
  let audioPacketCount ← context (checkedMul32 seconds audioPacketsPerSecond)
    "audio packet count exceeds u32"
  let videoFrameCount ← context (checkedMul32 seconds videoFramesPerSecond)
    "video frame count exceeds u32"
  let (lowPackets, highPackets) ← videoPacketsPerLayer seconds
  let tasks ← (List.range peerCount.toNat).mapM
    (mixedTask peerCount audioPublisherCount videoPublisherCount audioPacketCount videoFrameCount
      roomIndex lowPackets highPackets)
  return ⟨configureVideoLayouts peerCount videoPublisherCount, tasks⟩

/-- The room a scenario runs under an index. -/
def runRoom (spec : ScenarioSpec) (roomIndex : UInt32) : Except String Room :=
  match spec with
  | .smoke receivers packets => runAudioRoom (receivers + 1) 1 packets roomIndex
  | .audioMesh _ peers seconds => do
      let packets ← context (checkedMul32 seconds audioPacketsPerSecond)
        "audio packet count exceeds u32"
      runAudioRoom peers peers packets roomIndex
  | .videoGallery _ peers publishers seconds => runVideoRoom peers publishers seconds roomIndex
  | .mixedConference _ peers audioPublishers videoPublishers seconds =>
      runMixedRoom peers audioPublishers videoPublishers seconds roomIndex

/-- All rooms of a run. -/
def run (spec : ScenarioSpec) : Except String (List Room) := do
  spec.validate
  (List.range spec.roomCount.toNat).mapM (fun roomIndex => runRoom spec (UInt32.ofNat roomIndex))

end SfuLoad.Rooms
