import SfuLoad.Client.Generated
import SfuLoad.Client.Rooms

/-!
# What a peer sends

A peer sends its warmup, resets its timelines, and then takes turns between its
sources, the earlier emission first, until both have sent their measured work.
Pacing and the network are outside the model: a run is the list of packets in
the order the peer hands them to its RTP writer.
-/

namespace SfuLoad.Sender

open Kit Kit.Fallible Generated Identity Ledger Media Model Rooms

/-- How many packets an audio source sends ahead of the measured work. -/
def warmupAudioPackets : Nat := 5

/-- How many frames a video source sends ahead of it. -/
def warmupVideoFrames : Nat := 2

/-- A packet handed to the RTP writer, on the audio stream or on a video layer. -/
inductive Sent where
  | audio (packet : AudioPacket)
  | video (packet : VideoPacket)
deriving DecidableEq

namespace Sent

/-- The identity of a sent packet. -/
def identity : Sent → PacketIdentity
  | audio packet => packet.identity
  | video packet => packet.identity

/-- The payload of a sent packet. -/
def payload : Sent → Payload
  | audio packet => packet.payload
  | video packet => packet.payload

/-- The layer whose RTP stream carries the packet; audio has a stream of its own. -/
def rtpStream : Sent → Option VideoLayer
  | audio _ => none
  | video packet => some packet.layer

/-- The sequence number given to the RTP writer: the source's 16-bit counter,
widened with zeros. -/
def extendedSequence : Sent → UInt64
  | audio packet => packet.sequenceNumber.toUInt64
  | video packet => packet.sequenceNumber.toUInt64

/-- When the packet is due, after the peer's origin. -/
def emittedAt : Sent → Duration
  | audio packet => packet.emittedAt
  | video packet => packet.emittedAt

/-- A sent audio packet has the identity of the packet. -/
@[simp] theorem identity_audio (packet : AudioPacket) : (audio packet).identity = packet.identity :=
  rfl

/-- A sent video packet as well. -/
@[simp] theorem identity_video (packet : VideoPacket) : (video packet).identity = packet.identity :=
  rfl

/-- Audio is sent on its one stream. -/
@[simp] theorem rtpStream_audio (packet : AudioPacket) : (audio packet).rtpStream = none := rfl

/-- Video is sent on the stream of its layer. -/
@[simp] theorem rtpStream_video (packet : VideoPacket) :
    (video packet).rtpStream = some packet.layer := rfl

end Sent

/-- Whose turn it is. -/
inductive MediaTurn where
  | audio
  | video
deriving DecidableEq

/-- Whose emission is due next. Audio goes first when both are due at once. -/
def nextTurn (media : PeerMedia) (audioOrdinal videoFrame : UInt32) : Option MediaTurn :=
  let audioDue := (media.audio.filter (fun _ => audioOrdinal < media.audioPacketCount)).map
    AudioSource.nextEmittedAt
  let videoDue := (media.video.filter (fun _ => videoFrame < media.videoFrameCount)).map
    VideoSource.nextEmittedAt
  match audioDue, videoDue with
  | some audio, some video => if audio ≤ video then some .audio else some .video
  | none, some _ => some .video
  | some _, none => some .audio
  | none, none => none

/-- The next number, which stays at the largest. -/
def saturatingIncrement (value : UInt32) : UInt32 := if value = 0xffffffff then value else value + 1

/-- A source that is due has not sent everything. -/
theorem unfinished_of_due {source : Option α} {unfinished : Prop} [Decidable unfinished]
    {nextEmittedAt : α → β} {emittedAt : β}
    (due : (source.filter (fun _ => unfinished)).map nextEmittedAt = some emittedAt) :
    ∃ found, source = some found ∧ unfinished := by
  obtain ⟨found, kept, _⟩ := Option.map_eq_some_iff.mp due
  obtain ⟨present, holds⟩ := Option.filter_eq_some_iff.mp kept
  exact ⟨found, present, of_decide_eq_true holds⟩

/-- Audio has its turn only where it has packets left. -/
theorem nextTurn_audio {media : PeerMedia} {audioOrdinal videoFrame : UInt32}
    (turn : nextTurn media audioOrdinal videoFrame = some .audio) :
    ∃ source, media.audio = some source ∧ audioOrdinal < media.audioPacketCount := by
  cases due : (media.audio.filter (fun _ => audioOrdinal < media.audioPacketCount)).map
      AudioSource.nextEmittedAt with
  | some emittedAt => exact unfinished_of_due due
  | none =>
    simp only [nextTurn, due] at turn
    generalize Option.map VideoSource.nextEmittedAt _ = other at turn
    cases other <;> cases turn

/-- Video has its turn only where it has frames left. -/
theorem nextTurn_video {media : PeerMedia} {audioOrdinal videoFrame : UInt32}
    (turn : nextTurn media audioOrdinal videoFrame = some .video) :
    ∃ source, media.video = some source ∧ videoFrame < media.videoFrameCount := by
  cases due : (media.video.filter (fun _ => videoFrame < media.videoFrameCount)).map
      VideoSource.nextEmittedAt with
  | some emittedAt => exact unfinished_of_due due
  | none =>
    simp only [nextTurn, due] at turn
    generalize Option.map AudioSource.nextEmittedAt _ = other at turn
    cases other <;> cases turn

/-- Below some bound the next number is exact. -/
theorem saturatingIncrement_toNat {value bound : UInt32} (below : value < bound) :
    (saturatingIncrement value).toNat = value.toNat + 1 := by
  have inside := bound.toNat_lt
  rw [UInt32.lt_iff_toNat_lt] at below
  have unsaturated : value ≠ 0xffffffff := by
    rintro rfl
    simp only [UInt32.reduceToNat] at below
    omega
  rw [saturatingIncrement, if_neg unsaturated, UInt32.toNat_add, UInt32.toNat_one]
  omega

/-- The measured loop: every turn takes the due source's next packet or frame.
Each turn brings one of the two counters closer to its total. -/
def mediaLoop (rtp : RtpConstants) (media : PeerMedia) (audioOrdinal videoFrame : UInt32) :
    Except String (List Sent) :=
  match _turn : nextTurn media audioOrdinal videoFrame with
  | none => return []
  | some .audio => do
      let source ← context media.audio "audio source is missing"
      let (packet, source) := source.nextPacket rtp .measured audioOrdinal
      let later ← mediaLoop rtp { media with audio := some source }
        (saturatingIncrement audioOrdinal) videoFrame
      return .audio packet :: later
  | some .video => do
      let source ← context media.video "video source is missing"
      let (packets, source) := source.nextFrame rtp .measured videoFrame
      let later ← mediaLoop rtp { media with video := some source } audioOrdinal
        (saturatingIncrement videoFrame)
      return packets.map .video ++ later
termination_by (media.audioPacketCount.toNat - audioOrdinal.toNat) +
  (media.videoFrameCount.toNat - videoFrame.toNat)
decreasing_by
  · obtain ⟨_, _, below⟩ := nextTurn_audio _turn
    have stepped := saturatingIncrement_toNat below
    rw [UInt32.lt_iff_toNat_lt] at below
    omega
  · obtain ⟨_, _, below⟩ := nextTurn_video _turn
    have stepped := saturatingIncrement_toNat below
    rw [UInt32.lt_iff_toNat_lt] at below
    omega

/-- Warmup traffic of any length: all audio packets, then all video frames. -/
def warmup (rtp : RtpConstants) (media : PeerMedia) (audioOrdinals videoFrames : List UInt32) :
    List Sent × PeerMedia :=
  let audio := media.audio.map
    (fun source => audioRun rtp source (audioOrdinals.map (Prod.mk .warmup)))
  let video := media.video.map
    (fun source => videoRun rtp source (videoFrames.map (Prod.mk .warmup)))
  (((audio.map Prod.fst).getD []).map .audio ++ ((video.map Prod.fst).getD []).flatten.map .video,
    { media with audio := audio.map Prod.snd, video := video.map Prod.snd })

/-- The warmup every peer sends. -/
def sendWarmup (rtp : RtpConstants) (media : PeerMedia) : List Sent × PeerMedia :=
  warmup rtp media ((List.range warmupAudioPackets).map UInt32.ofNat)
    ((List.range warmupVideoFrames).map UInt32.ofNat)

/-- Both sources start over in time. -/
def resetTimelines (media : PeerMedia) : PeerMedia :=
  { media with
    audio := media.audio.map AudioSource.resetTimeline
    video := media.video.map VideoSource.resetTimeline }

/-- The measured packets of a peer that has sent the given warmup. -/
def measuredAfter (rtp : RtpConstants) (media : PeerMedia)
    (audioOrdinals videoFrames : List UInt32) : Except String (List Sent) :=
  mediaLoop rtp (resetTimelines (warmup rtp media audioOrdinals videoFrames).2) 0 0

/-- Everything a peer sends: its warmup, then its measured packets. -/
def runMediaPeer (rtp : RtpConstants) (media : PeerMedia) : Except String (List Sent) := do
  let (warm, media) := sendWarmup rtp media
  let measured ← mediaLoop rtp (resetTimelines media) 0 0
  return warm ++ measured

end SfuLoad.Sender
