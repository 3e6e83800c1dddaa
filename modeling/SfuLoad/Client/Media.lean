import SfuLoad.Client.Identity
import Mathlib.Data.UInt

/-!
# Deterministic media sources

An audio source emits one packet per call and a video source one burst per
frame, both simulcast layers together. Timelines advance by a fixed interval;
RTP counters wrap in their own widths. The protocol constants come from outside
this repository and are taken as a parameter, so a result about ordinals, times
or counters holds for every value of them.
-/

namespace SfuLoad.Media

open Identity Model

/-- Durations are counted in nanoseconds. -/
abbrev Duration := Nat

namespace Duration

/-- The longest representable duration: 2^64 - 1 seconds and 999,999,999 ns. -/
def max : Duration := (2 ^ 64 - 1) * 1000000000 + 999999999

/-- The sum of two durations, clamped at the longest. -/
def saturatingAdd (left right : Duration) : Duration := min (left + right) max

/-- A multiple of a duration, clamped at the longest. -/
def saturatingMul (duration : Duration) (count : UInt32) : Duration :=
  min (duration * count.toNat) max

/-- A part of a duration. There are no parts by zero. -/
def checkedDiv (duration : Duration) (count : UInt32) : Option Duration :=
  if count = 0 then none else some (duration / count.toNat)

end Duration

/-- The constants the sources take from the external RTP crate. -/
structure RtpConstants where
  opusRtpClockRateHz : UInt32
  opusOneFrame : UInt8
  vp8XBit : UInt8
  vp8SBit : UInt8
  vp8IBit : UInt8
  vp8LBit : UInt8
  vp8TBit : UInt8
  vp8LongPictureIdBit : UInt8
  vp8LongPictureIdMask : UInt16
  vp8InterframeBit : UInt8
  frameMarkingBaseLayerId : UInt8
  frameMarkingStartOfFrameMask : UInt8
  frameMarkingEndOfFrameMask : UInt8
  frameMarkingIndependentFrameMask : UInt8

/-- The VP8 payload descriptor bits have their documented values. -/
structure RtpConstants.Vp8Documented (rtp : RtpConstants) : Prop where
  xBit : rtp.vp8XBit = 0x80
  sBit : rtp.vp8SBit = 0x10
  iBit : rtp.vp8IBit = 0x80
  lBit : rtp.vp8LBit = 0x40
  tBit : rtp.vp8TBit = 0x20
  longPictureIdBit : rtp.vp8LongPictureIdBit = 0x80
  longPictureIdMask : rtp.vp8LongPictureIdMask = 0x7fff
  interframeBit : rtp.vp8InterframeBit = 0x01

/-- The documented values, for evaluating the sources on concrete inputs. -/
def documentedRtp : RtpConstants where
  opusRtpClockRateHz := 48000
  opusOneFrame := 0
  vp8XBit := 0x80
  vp8SBit := 0x10
  vp8IBit := 0x80
  vp8LBit := 0x40
  vp8TBit := 0x20
  vp8LongPictureIdBit := 0x80
  vp8LongPictureIdMask := 0x7fff
  vp8InterframeBit := 0x01
  frameMarkingBaseLayerId := 0
  frameMarkingStartOfFrameMask := 0x80
  frameMarkingEndOfFrameMask := 0x40
  frameMarkingIndependentFrameMask := 0x20

/-- The documented values have the documented VP8 bits. -/
theorem documentedRtp_vp8 : documentedRtp.Vp8Documented := by
  constructor <;> rfl

/-- Twenty milliseconds, in nanoseconds. -/
def audioFrameInterval : Duration := 20000000

/-- A thirtieth of a second, in whole nanoseconds. -/
def videoFrameInterval : Duration := 33333333

/-- A thirtieth of a second on the clock of video, which is exact. -/
def videoTimestampStep : UInt32 := 3000

/-- The opening of a keyframe of 320 by 180 pixels. -/
def vp8LowKeyframePrefix : List UInt8 :=
  [0x30, 0x00, 0x00, 0x9d, 0x01, 0x2a, 0x40, 0x01, 0xb4, 0x00]

/-- The opening of a keyframe of 1280 by 720 pixels. -/
def vp8HighKeyframePrefix : List UInt8 :=
  [0x30, 0x00, 0x00, 0x9d, 0x01, 0x2a, 0x00, 0x05, 0xd0, 0x02]

/-- The Opus configuration that the first byte of a packet names. -/
def opusHybridFullband20MsConfig : UInt8 := 15

/-- The RTP header extensions this generator sets. -/
structure ExtensionValues where
  audioLevel : Option Int
  voiceActivity : Option Bool
  frameMark : Option UInt32
deriving DecidableEq

/-- No header extension is set. -/
def ExtensionValues.default : ExtensionValues := ⟨none, none, none⟩

/-- One audio packet. `identity` is the identity its payload was encoded from;
the source keeps it in a local and only the payload carries it on. -/
structure AudioPacket where
  emittedAt : Duration
  rtpTimestamp : UInt32
  sequenceNumber : UInt16
  extensionValues : ExtensionValues
  payload : Payload
  identity : PacketIdentity
deriving DecidableEq

/-- One video packet; `identity` as for audio. -/
structure VideoPacket where
  emittedAt : Duration
  rtpTimestamp : UInt32
  sequenceNumber : UInt16
  marker : Bool
  layer : VideoLayer
  extensionValues : ExtensionValues
  payload : Payload
  identity : PacketIdentity
deriving DecidableEq

/-- The times at which a source emits, one interval after the other. -/
structure MediaTimeline where
  firstEmittedAt : Duration
  nextEmittedAt : Duration
  interval : Duration
deriving DecidableEq

namespace MediaTimeline

/-- The first emission is one interval after the start. -/
def new (interval : Duration) : MediaTimeline := ⟨interval, interval, interval⟩

/-- Slot `sourceIndex + 1` of `sourceCount` equal parts of the interval. -/
def staggered (interval : Duration) (sourceIndex sourceCount : UInt32) : MediaTimeline :=
  let sourceCount := if sourceCount < 1 then 1 else sourceCount
  let following := if sourceIndex = 0xffffffff then sourceIndex else sourceIndex + 1
  let slot := if following ≤ sourceCount then following else sourceCount
  let firstEmittedAt :=
    Duration.saturatingMul ((Duration.checkedDiv interval sourceCount).getD interval) slot
  ⟨firstEmittedAt, firstEmittedAt, interval⟩

/-- The time of the next emission, and the timeline after it. -/
def advance (timeline : MediaTimeline) : Duration × MediaTimeline :=
  (timeline.nextEmittedAt,
    { timeline with
      nextEmittedAt := Duration.saturatingAdd timeline.nextEmittedAt timeline.interval })

/-- The timeline starts over where it first started. -/
def reset (timeline : MediaTimeline) : MediaTimeline :=
  { timeline with nextEmittedAt := timeline.firstEmittedAt }

end MediaTimeline

/-- A source of audio, with the counters of its RTP stream. -/
structure AudioSource where
  source : UInt16
  timeline : MediaTimeline
  nextRtpTimestamp : UInt32
  nextSequenceNumber : UInt16
deriving DecidableEq

namespace AudioSource

/-- A source that has sent nothing. -/
def new (source : UInt16) : AudioSource := ⟨source, MediaTimeline.new audioFrameInterval, 0, 0⟩

/-- A source whose timeline is moved by its share of an interval. -/
def staggered (source : UInt16) (sourceIndex sourceCount : UInt32) : AudioSource :=
  { new source with timeline := MediaTimeline.staggered audioFrameInterval sourceIndex sourceCount }

/-- When the next packet is due. -/
def nextEmittedAt (self : AudioSource) : Duration := self.timeline.nextEmittedAt

/-- Identity of one audio packet: a single fragment whose frame is its ordinal. -/
def identity (self : AudioSource) (phase : PacketPhase) (ordinal : UInt32) : PacketIdentity where
  kind := .audio
  phase := phase
  layer := none
  source := self.source
  ordinal := ordinal
  frame := ordinal
  fragment := 0
  fragments := 1

/-- The table-of-contents byte of a single 20 ms fullband hybrid frame. -/
def oneFrameToc (rtp : RtpConstants) : UInt8 :=
  (opusHybridFullband20MsConfig <<< 3) ||| rtp.opusOneFrame

/-- Emits a packet and advances time, timestamp and sequence number, each in its own width.
-/
def nextPacket (rtp : RtpConstants) (self : AudioSource) (phase : PacketPhase) (ordinal : UInt32) :
    AudioPacket × AudioSource :=
  let (emittedAt, timeline) := self.timeline.advance
  let identity := self.identity phase ordinal
  ({ emittedAt := emittedAt
     rtpTimestamp := self.nextRtpTimestamp
     sequenceNumber := self.nextSequenceNumber
     extensionValues :=
       { ExtensionValues.default with audioLevel := some (-32), voiceActivity := some true }
     payload := encodedPayload identity audioPacketPayloadBytes [oneFrameToc rtp]
     identity := identity },
   { self with
     timeline := timeline
     nextSequenceNumber := self.nextSequenceNumber + 1
     nextRtpTimestamp := self.nextRtpTimestamp + rtp.opusRtpClockRateHz / 50 })

/-- The source starts over in time. Its counters go on. -/
def resetTimeline (self : AudioSource) : AudioSource := { self with timeline := self.timeline.reset }

end AudioSource

/-- The counters of one simulcast layer. -/
structure VideoLayerState where
  sequenceNumber : UInt16
  pictureId : UInt16
  tl0PicIdx : UInt8
deriving DecidableEq

/-- A layer that has sent nothing. -/
def VideoLayerState.new (sequenceOffset : UInt16) : VideoLayerState := ⟨sequenceOffset, 1, 1⟩

/-- A source of video, with its two layers. The ordinals of each layer count apart for warmup
and measured work. -/
structure VideoSource where
  source : UInt16
  timeline : MediaTimeline
  nextRtpTimestamp : UInt32
  low : VideoLayerState
  high : VideoLayerState
  measuredLowOrdinal : UInt32
  measuredHighOrdinal : UInt32
  warmupLowOrdinal : UInt32
  warmupHighOrdinal : UInt32
deriving DecidableEq

/-- The six bytes of a descriptor with a long picture id. -/
def vp8Descriptor (rtp : RtpConstants) (pictureId : UInt16) (tl0PicIdx : UInt8) (start : Bool) :
    List UInt8 :=
  let startBit := if start then rtp.vp8SBit else 0
  [rtp.vp8XBit ||| startBit,
   rtp.vp8IBit ||| rtp.vp8LBit ||| rtp.vp8TBit,
   rtp.vp8LongPictureIdBit ||| (pictureId >>> 8).toUInt8,
   (pictureId &&& 0xff).toUInt8,
   tl0PicIdx,
   0]

/-- The codec bytes that open a frame's first fragment. -/
def framePrefix (rtp : RtpConstants) (keyframe : Bool) (layer : VideoLayer) : List UInt8 :=
  if keyframe then
    match layer with
    | .low => vp8LowKeyframePrefix
    | .high => vp8HighKeyframePrefix
  else [rtp.vp8InterframeBit]

/-- What one burst of a layer fixes for all of its fragments. -/
structure LayerBurst where
  source : UInt16
  emittedAt : Duration
  rtpTimestamp : UInt32
  phase : PacketPhase
  frame : UInt32
  keyframe : Bool
  layer : VideoLayer
  fragments : UInt16
  pictureId : UInt16
  tl0PicIdx : UInt8

namespace LayerBurst

/-- The identity of one fragment of a burst. -/
def identity (burst : LayerBurst) (fragment : UInt16) (ordinal : UInt32) : PacketIdentity where
  kind := .video
  phase := burst.phase
  layer := some burst.layer
  source := burst.source
  ordinal := ordinal
  frame := burst.frame
  fragment := fragment
  fragments := burst.fragments

/-- The bytes in front of a fragment's identity. -/
def lead (rtp : RtpConstants) (burst : LayerBurst) (fragment : UInt16) : List UInt8 :=
  let descriptor := vp8Descriptor rtp burst.pictureId burst.tl0PicIdx (fragment == 0)
  if fragment = 0 then descriptor ++ framePrefix rtp burst.keyframe burst.layer else descriptor

/-- The frame mark of a fragment: where the frame starts and ends, and whether it needs no
other frame. -/
def frameMark (rtp : RtpConstants) (burst : LayerBurst) (fragment : UInt16) : UInt32 :=
  let marked := rtp.frameMarkingBaseLayerId.toUInt32 <<< 24
  let marked := if fragment = 0 then
    marked ||| (rtp.frameMarkingStartOfFrameMask.toUInt32 <<< 24) else marked
  let marked := if fragment + 1 = burst.fragments then
    marked ||| (rtp.frameMarkingEndOfFrameMask.toUInt32 <<< 24) else marked
  if burst.keyframe && fragment == 0 then
    marked ||| (rtp.frameMarkingIndependentFrameMask.toUInt32 <<< 24) else marked

/-- One pass of the fragment loop. -/
def packet (rtp : RtpConstants) (burst : LayerBurst) (fragment : UInt16) (ordinal : UInt32)
    (sequenceNumber : UInt16) : VideoPacket where
  emittedAt := burst.emittedAt
  rtpTimestamp := burst.rtpTimestamp
  sequenceNumber := sequenceNumber
  marker := fragment + 1 == burst.fragments
  layer := burst.layer
  extensionValues :=
    { ExtensionValues.default with frameMark := some (burst.frameMark rtp fragment) }
  payload := encodedPayload (burst.identity fragment ordinal) burst.layer.packetPayloadLen
    (burst.lead rtp fragment)
  identity := burst.identity fragment ordinal

/-- The fragment loop from `fragment` on, with `remaining` passes left: the
packets it pushes, then the ordinal and the sequence number it leaves. Both
advance once per pass and wrap in their own widths. -/
def fragmentLoop (rtp : RtpConstants) (burst : LayerBurst) :
    Nat → UInt16 → UInt32 → UInt16 → List VideoPacket × UInt32 × UInt16
  | 0, _, ordinal, sequenceNumber => ([], ordinal, sequenceNumber)
  | remaining + 1, fragment, ordinal, sequenceNumber =>
      let (rest, left) :=
        burst.fragmentLoop rtp remaining (fragment + 1) (ordinal + 1) (sequenceNumber + 1)
      (burst.packet rtp fragment ordinal sequenceNumber :: rest, left)

end LayerBurst

/-- One layer's burst: its packets, the layer state after it, and the next
ordinal. The picture counters are read before they advance; the fragment count
is clamped to 16 bits. -/
def appendVideoLayer (rtp : RtpConstants) (source : UInt16) (emittedAt : Duration)
    (rtpTimestamp : UInt32) (phase : PacketPhase) (frame : UInt32) (keyframe : Bool)
    (layer : VideoLayer) (fragmentCount : UInt64) (state : VideoLayerState)
    (nextOrdinal : UInt32) : List VideoPacket × VideoLayerState × UInt32 :=
  let fragments := if fragmentCount < 2 ^ 16 then fragmentCount.toUInt16 else 0xffff
  let burst : LayerBurst :=
    { source, emittedAt, rtpTimestamp, phase, frame, keyframe, layer, fragments
      pictureId := state.pictureId &&& rtp.vp8LongPictureIdMask
      tl0PicIdx := state.tl0PicIdx }
  let (packets, nextOrdinal, sequenceNumber) :=
    burst.fragmentLoop rtp fragments.toNat 0 nextOrdinal state.sequenceNumber
  (packets, ⟨sequenceNumber, state.pictureId + 1, state.tl0PicIdx + 1⟩, nextOrdinal)

namespace VideoSource

/-- A source that has sent nothing. The high layer numbers its packets from 30000. -/
def new (source : UInt16) : VideoSource :=
  ⟨source, MediaTimeline.new videoFrameInterval, 0, VideoLayerState.new 0,
    VideoLayerState.new 30000, 0, 0, 0, 0⟩

/-- A source whose timeline is moved by its share of an interval. -/
def staggered (source : UInt16) (sourceIndex sourceCount : UInt32) : VideoSource :=
  { new source with timeline := MediaTimeline.staggered videoFrameInterval sourceIndex sourceCount }

/-- When the next frame is due. -/
def nextEmittedAt (self : VideoSource) : Duration := self.timeline.nextEmittedAt

/-- The source starts over in time. Its counters go on. -/
def resetTimeline (self : VideoSource) : VideoSource := { self with timeline := self.timeline.reset }

/-- The low layer's ordinal counter of a phase, which the burst advances. -/
def lowOrdinal (self : VideoSource) : PacketPhase → UInt32
  | .warmup => self.warmupLowOrdinal
  | .measured => self.measuredLowOrdinal

/-- The high layer's ordinal counter of a phase. -/
def highOrdinal (self : VideoSource) : PacketPhase → UInt32
  | .warmup => self.warmupHighOrdinal
  | .measured => self.measuredHighOrdinal

/-- Store the phase's ordinal counters after a frame. -/
def withOrdinals (self : VideoSource) (phase : PacketPhase) (low high : UInt32) : VideoSource :=
  match phase with
  | .warmup => { self with warmupLowOrdinal := low, warmupHighOrdinal := high }
  | .measured => { self with measuredLowOrdinal := low, measuredHighOrdinal := high }

/-- The frames that open with a keyframe, among them the first. -/
def isKeyframe (frame : UInt32) : Bool := frame.toUInt64 % videoKeyframeInterval == 0

/-- One frame on both layers, the low layer's fragments first. -/
def nextFrame (rtp : RtpConstants) (self : VideoSource) (phase : PacketPhase) (frame : UInt32) :
    List VideoPacket × VideoSource :=
  let (emittedAt, timeline) := self.timeline.advance
  let timestamp := self.nextRtpTimestamp
  let keyframe := isKeyframe frame
  let lowFragments := if keyframe then videoLowKeyframePackets else videoLowDeltaPackets
  let highFragments := if keyframe then videoHighKeyframePackets else videoHighDeltaPackets
  let (lowPackets, low, lowOrdinal) :=
    appendVideoLayer rtp self.source emittedAt timestamp phase frame keyframe .low lowFragments
      self.low (self.lowOrdinal phase)
  let (highPackets, high, highOrdinal) :=
    appendVideoLayer rtp self.source emittedAt timestamp phase frame keyframe .high highFragments
      self.high (self.highOrdinal phase)
  (lowPackets ++ highPackets,
    { self.withOrdinals phase lowOrdinal highOrdinal with
      timeline := timeline
      nextRtpTimestamp := timestamp + videoTimestampStep
      low := low
      high := high })

end VideoSource

end SfuLoad.Media
