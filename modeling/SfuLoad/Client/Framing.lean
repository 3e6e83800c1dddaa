import SfuLoad.Client.Emission

/-!
# Framing continuity

A receiver of one video layer sees frames, cut into fragments. What it reads of
a fragment is its payload identity, its VP8 descriptor, its frame mark, and the
RTP marker and timestamp. Over any calls of a source, and past every wrap of
every counter, these readings continue without a break.
-/

namespace SfuLoad.Framing

open Kit Kit.Wrapping Emission Generated Identity Media Model

/-- The flags of a frame mark have their documented values; the base layer's
identifier stays clear of the start and end flags. -/
structure MarkingDocumented (rtp : RtpConstants) : Prop where
  baseLayerId : rtp.frameMarkingBaseLayerId &&& 0xc0 = 0
  startOfFrame : rtp.frameMarkingStartOfFrameMask = 0x80
  endOfFrame : rtp.frameMarkingEndOfFrameMask = 0x40
  independentFrame : rtp.frameMarkingIndependentFrameMask = 0x20

/-- The documented values have the documented marking bits. -/
theorem documentedRtp_marking : MarkingDocumented documentedRtp := by
  constructor <;> rfl

/-- A VP8 payload descriptor with a long picture identifier. -/
structure Descriptor where
  start : Bool
  pictureId : Nat
  tl0PicIdx : Nat
deriving DecidableEq

/-- Read the descriptor in front of a payload: the extension bit, then the
presence of both counters, then the 15-bit form of the picture identifier. -/
def readDescriptor : Payload → Option Descriptor
  | flags :: extension :: high :: low :: index :: _ =>
      if flags &&& 0x80 ≠ 0 ∧ extension &&& 0xc0 = 0xc0 ∧ high &&& 0x80 ≠ 0 then
        some ⟨flags &&& 0x10 != 0, (high &&& 0x7f).toNat * 256 + low.toNat, index.toNat⟩
      else none
  | _ => none

/-- The start flag of a frame mark. -/
def marksStart (mark : UInt32) : Bool := mark &&& 0x80000000 != 0

/-- The end flag of a frame mark. -/
def marksEnd (mark : UInt32) : Bool := mark &&& 0x40000000 != 0

/-- What the fragments of one frame on one layer have in common. -/
structure FrameHead where
  layer : VideoLayer
  pictureId : Nat
  tl0PicIdx : Nat
  rtpTimestamp : Nat
  emittedAt : Duration

/-- A packet reads as one fragment of a frame: the first fragment, and no other,
starts it, and the last one, and no other, ends it. -/
structure Reads (head : FrameHead) (fragment fragments : Nat) (packet : VideoPacket) : Prop where
  layer : packet.layer = head.layer
  identity : ∃ identity, inspectPayload packet.payload = .ok ⟨identity, true⟩ ∧
    identity.layer = some head.layer ∧ identity.fragment.toNat = fragment ∧
    identity.fragments.toNat = fragments
  descriptor : readDescriptor packet.payload =
    some ⟨decide (fragment = 0), head.pictureId, head.tl0PicIdx⟩
  frameMark : ∃ mark, packet.extensionValues.frameMark = some mark ∧
    marksStart mark = decide (fragment = 0) ∧ marksEnd mark = decide (fragment + 1 = fragments)
  marker : packet.marker = decide (fragment + 1 = fragments)
  rtpTimestamp : packet.rtpTimestamp.toNat = head.rtpTimestamp
  emittedAt : packet.emittedAt = head.emittedAt

/-- The packets are the fragments of one frame, all of them and in order. -/
structure Framed (head : FrameHead) (packets : List VideoPacket) : Prop where
  nonempty : packets ≠ []
  fragments : ∀ fragment packet, packets[fragment]? = some packet →
    Reads head fragment packets.length packet

/-- The head of a layer's frame, so many frames after a source's state. -/
def headOf (source : VideoSource) (layer : VideoLayer) (emittedAt : Duration) (frames : Nat) :
    FrameHead where
  layer := layer
  pictureId := ((layerState source layer).pictureId.toNat + frames) % 2 ^ 15
  tl0PicIdx := ((layerState source layer).tl0PicIdx.toNat + frames) % 2 ^ 8
  rtpTimestamp := (source.nextRtpTimestamp.toNat + 3000 * frames) % 2 ^ 32
  emittedAt := emittedAt

variable {rtp : RtpConstants}

/-- The high byte of a 15-bit picture identifier leaves the length flag clear,
so the flag can be set and masked off again. -/
theorem longForm_high {pictureId : UInt16} (fits : pictureId.toNat < 2 ^ 15) :
    ((0x80 : UInt8) ||| (pictureId >>> 8).toUInt8) &&& 0x80 ≠ 0 ∧
      (((0x80 : UInt8) ||| (pictureId >>> 8).toUInt8) &&& 0x7f).toNat =
        pictureId.toNat / 256 := by
  have high : (pictureId >>> 8).toUInt8.toNat = pictureId.toNat / 256 := by
    have shifted : (pictureId >>> 8).toNat = pictureId.toNat / 256 := by
      simp [UInt16.toNat_shiftRight, Nat.shiftRight_eq_div_pow]
    rw [UInt16.toNat_toUInt8, shifted]
    exact Nat.mod_eq_of_lt (by omega)
  constructor
  · intro clear
    have bit := congrArg (fun byte : UInt8 => byte.toBitVec.getLsbD 7) clear
    simp [UInt8.toBitVec_or, UInt8.toBitVec_and] at bit
  · rw [UInt8.toNat_and, UInt8.toNat_or, high]
    have small : pictureId.toNat / 256 < 2 ^ 7 := by omega
    have joined := Nat.two_pow_add_eq_or_of_lt small 1
    have mask := Nat.and_two_pow_sub_one_eq_mod (128 + pictureId.toNat / 256) 7
    simp only [Nat.mul_one, Nat.reducePow, Nat.reduceSub] at joined mask
    change (128 ||| pictureId.toNat / 256) &&& 127 = _
    rw [← joined, mask]
    omega

/-- The descriptor the generator writes is the one a receiver reads. -/
theorem readDescriptor_written (documented : rtp.Vp8Documented) {pictureId : UInt16}
    (fits : pictureId.toNat < 2 ^ 15) (tl0PicIdx : UInt8) (start : Bool) (rest : Payload) :
    readDescriptor (vp8Descriptor rtp pictureId tl0PicIdx start ++ rest) =
      some ⟨start, pictureId.toNat, tl0PicIdx.toNat⟩ := by
  obtain ⟨flagged, high⟩ := longForm_high fits
  have low : (pictureId &&& 0xff).toUInt8.toNat = pictureId.toNat % 256 := by
    have mask := Nat.and_two_pow_sub_one_eq_mod pictureId.toNat 8
    have masked : (pictureId &&& 0xff).toNat = pictureId.toNat % 256 := by
      rw [UInt16.toNat_and]
      exact mask
    rw [UInt16.toNat_toUInt8, masked]
    omega
  have joined : pictureId.toNat / 256 * 256 + pictureId.toNat % 256 = pictureId.toNat :=
    Nat.div_add_mod' _ _
  simp only [vp8Descriptor, documented.xBit, documented.sBit, documented.iBit, documented.lBit,
    documented.tBit, documented.longPictureIdBit, List.cons_append, readDescriptor]
  have extended : ((0x80 : UInt8) ||| if start then 0x10 else 0) &&& 0x80 ≠ 0 := by
    cases start <;> decide
  rw [if_pos ⟨extended, by decide, flagged⟩, high, low, joined]
  cases start <;> rfl

/-- A fragment's payload opens with its descriptor. -/
theorem payload_opens (burst : LayerBurst) (fragment : UInt16) (ordinal : UInt32)
    (sequenceNumber : UInt16) :
    ∃ rest, (burst.packet rtp fragment ordinal sequenceNumber).payload =
      vp8Descriptor rtp burst.pictureId burst.tl0PicIdx (fragment == 0) ++ rest := by
  have short := leadLen_le burst.keyframe fragment
  have room : (burst.lead rtp fragment).length + identityHeaderLen ≤
      burst.layer.packetPayloadLen := by
    rw [lead_length]
    simp only [maxIdentityOffset, vp8DescriptorLen, vp8KeyframePrefixLen] at short
    cases burst.layer <;>
      simp only [VideoLayer.packetPayloadLen, videoLowPacketPayloadBytes,
        videoHighPacketPayloadBytes, identityHeaderLen] <;>
      omega
  have opening : ∃ codec, burst.lead rtp fragment =
      vp8Descriptor rtp burst.pictureId burst.tl0PicIdx (fragment == 0) ++ codec := by
    rw [LayerBurst.lead]
    split
    · exact ⟨_, rfl⟩
    · exact ⟨[], (List.append_nil _).symm⟩
  obtain ⟨codec, opens⟩ := opening
  rw [LayerBurst.packet, encodedPayload_eq _ _ _ room, opens]
  simp only [List.append_assoc]
  exact ⟨_, rfl⟩

/-- A flag is set in a joined mark when it is set in either part. -/
theorem or_and (left right flag : UInt32) :
    (left ||| right) &&& flag = (left &&& flag) ||| (right &&& flag) := by
  rw [← UInt32.toBitVec_inj]
  exact BitVec.and_or_distrib_right

/-- The base layer's identifier sets neither of the two flags. -/
theorem baseLayer_clear (documented : MarkingDocumented rtp) :
    (rtp.frameMarkingBaseLayerId.toUInt32 <<< 24) &&& 0x80000000 = 0 ∧
      (rtp.frameMarkingBaseLayerId.toUInt32 <<< 24) &&& 0x40000000 = 0 := by
  have clear : (rtp.frameMarkingBaseLayerId.toUInt32 <<< 24) &&& 0xc0000000 = 0 := by
    have spread := congrArg (fun byte : UInt8 => byte.toUInt32 <<< 24) documented.baseLayerId
    rw [UInt8.toUInt32_and, UInt32.shiftLeft_and] at spread
    exact spread
  have within (flag : UInt32) (part : (0xc0000000 : UInt32) &&& flag = flag) :
      (rtp.frameMarkingBaseLayerId.toUInt32 <<< 24) &&& flag = 0 := by
    rw [← part, ← UInt32.and_assoc, clear, UInt32.zero_and]
  exact ⟨within _ (by decide), within _ (by decide)⟩

/-- Of the three flags joined to a clear mark, the first alone is the start flag
and the second alone is the end flag. -/
theorem joined_flags {mark : UInt32} (noStart : mark &&& 0x80000000 = 0)
    (noEnd : mark &&& 0x40000000 = 0) (first last : Prop) [Decidable first] [Decidable last]
    (independent : Bool) :
    let started := if first then mark ||| ((0x80 : UInt8).toUInt32 <<< 24) else mark
    let ended := if last then started ||| ((0x40 : UInt8).toUInt32 <<< 24) else started
    let joined := if independent then ended ||| ((0x20 : UInt8).toUInt32 <<< 24) else ended
    marksStart joined = decide first ∧ marksEnd joined = decide last := by
  by_cases begins : first <;> by_cases ends : last <;> cases independent <;>
    simp only [begins, ends, marksStart, marksEnd, or_and, noStart, noEnd, if_true, if_false,
      Bool.false_eq_true] <;>
    decide

/-- A frame mark carries the start flag on the first fragment and the end flag on
the last one; no other part of the mark reaches these flags. -/
theorem frameMark_flags (documented : MarkingDocumented rtp) (burst : LayerBurst)
    (fragment : UInt16) :
    marksStart (burst.frameMark rtp fragment) = decide (fragment = 0) ∧
      marksEnd (burst.frameMark rtp fragment) = decide (fragment + 1 = burst.fragments) := by
  obtain ⟨noStart, noEnd⟩ := baseLayer_clear documented
  unfold LayerBurst.frameMark
  rw [documented.startOfFrame, documented.endOfFrame, documented.independentFrame]
  exact joined_flags noStart noEnd _ _ _

/-- A pass of the fragment loop reads as its own fragment of the burst. -/
theorem packet_reads (documented : rtp.Vp8Documented) (marking : MarkingDocumented rtp)
    (burst : LayerBurst) (fragment : UInt16) (ordinal : UInt32) (sequenceNumber : UInt16)
    (fits : burst.pictureId.toNat < 2 ^ 15) (inside : fragment.toNat < burst.fragments.toNat) :
    Reads ⟨burst.layer, burst.pictureId.toNat, burst.tl0PicIdx.toNat, burst.rtpTimestamp.toNat,
      burst.emittedAt⟩ fragment.toNat burst.fragments.toNat
      (burst.packet rtp fragment ordinal sequenceNumber) := by
  have first : (fragment = 0) = (fragment.toNat = 0) := by
    rw [← UInt16.toNat_inj, UInt16.toNat_zero]
  have last : (fragment + 1 = burst.fragments) = (fragment.toNat + 1 = burst.fragments.toNat) := by
    have small := burst.fragments.toNat_lt
    rw [← UInt16.toNat_inj, UInt16.toNat_add, UInt16.toNat_one, Nat.mod_eq_of_lt (by omega)]
  obtain ⟨starts, ends⟩ := frameMark_flags marking burst fragment
  obtain ⟨rest, opens⟩ := @payload_opens rtp burst fragment ordinal sequenceNumber
  constructor
  · rfl
  · exact ⟨_, fragment_decodes documented burst fragment ordinal sequenceNumber, rfl, rfl, rfl⟩
  · rw [opens, readDescriptor_written documented fits]
    simp only [← first]
    rfl
  · refine ⟨burst.frameMark rtp fragment, rfl, ?_, ?_⟩
    · simp only [starts, first]
    · simp only [ends, last]
  · simp only [← last]
    rfl
  · rfl
  · rfl

/-- The fragment loop's packets are numbered one after the other. -/
theorem fragmentLoop_getElem? {burst : LayerBurst} {remaining : Nat} {fragment : UInt16}
    {ordinal : UInt32} {sequenceNumber : UInt16} {position : Nat} {packet : VideoPacket}
    (found : (burst.fragmentLoop rtp remaining fragment ordinal sequenceNumber).1[position]? =
      some packet) :
    ∃ number sequence,
      packet = burst.packet rtp (fragment + UInt16.ofNat position) number sequence := by
  induction remaining generalizing fragment ordinal sequenceNumber position with
  | zero => simp [LayerBurst.fragmentLoop] at found
  | succ remaining inductionHypothesis =>
    cases position with
    | zero =>
      obtain rfl := Option.some.inj found
      exact ⟨ordinal, sequenceNumber, by simp⟩
    | succ position =>
      obtain ⟨number, sequence, built⟩ := inductionHypothesis found
      refine ⟨number, sequence, ?_⟩
      rw [built, UInt16.add_assoc, UInt16.add_comm 1, UInt16.ofNat_add]
      rfl

/-- A frame has a fragment, and never more than a keyframe of the high layer. -/
theorem fragmentCount_bounds (layer : VideoLayer) (frame : UInt32) :
    0 < fragmentCount layer frame ∧ fragmentCount layer frame ≤ 20 := by
  cases keyframe : VideoSource.isKeyframe frame <;> cases layer <;>
    simp [fragmentCount, keyframe]

/-- Masking a picture counter leaves its low fifteen bits. -/
theorem masked_pictureId (documented : rtp.Vp8Documented) (pictureId : UInt16) :
    (pictureId &&& rtp.vp8LongPictureIdMask).toNat = pictureId.toNat % 2 ^ 15 := by
  rw [documented.longPictureIdMask, UInt16.toNat_and]
  exact Nat.and_two_pow_sub_one_eq_mod _ 15

/-- One frame is framed on each layer, under the head the source's state gives. -/
theorem nextFrame_framed (documented : rtp.Vp8Documented) (marking : MarkingDocumented rtp)
    (source : VideoSource) (phase : PacketPhase) (frame : UInt32) (layer : VideoLayer) :
    Framed (headOf source layer source.timeline.nextEmittedAt 0)
      (onLayer layer (source.nextFrame rtp phase frame).1) := by
  obtain ⟨positive, few⟩ := fragmentCount_bounds layer frame
  let burst := layerBurst rtp source phase frame layer
  have size : (onLayer layer (source.nextFrame rtp phase frame).1).length =
      fragmentCount layer frame := by
    have numbered := (@nextFrame_advances rtp source phase frame layer).sequences
    simpa using congrArg List.length numbered
  have fragments : burst.fragments.toNat = fragmentCount layer frame := by
    rw [show burst.fragments = UInt16.ofNat (fragmentCount layer frame) from rfl,
      UInt16.toNat_ofNat']
    exact Nat.mod_eq_of_lt (by omega)
  have pictureId : burst.pictureId.toNat = (layerState source layer).pictureId.toNat % 2 ^ 15 :=
    masked_pictureId documented _
  have head : (⟨burst.layer, burst.pictureId.toNat, burst.tl0PicIdx.toNat,
      burst.rtpTimestamp.toNat, burst.emittedAt⟩ : FrameHead) =
      headOf source layer source.timeline.nextEmittedAt 0 := by
    have index := (layerState source layer).tl0PicIdx.toNat_lt
    have timestamp := source.nextRtpTimestamp.toNat_lt
    simp only [headOf, pictureId, Nat.add_zero, Nat.mul_zero, Nat.mod_eq_of_lt index,
      Nat.mod_eq_of_lt timestamp]
    rfl
  constructor
  · intro none
    rw [none, List.length_nil] at size
    omega
  · intro position packet found
    have inside : position < fragmentCount layer frame := by
      rw [← size]
      exact (List.getElem?_eq_some_iff.mp found).1
    have number : (0 + UInt16.ofNat position).toNat = position := by
      rw [UInt16.zero_add, UInt16.toNat_ofNat']
      exact Nat.mod_eq_of_lt (by omega)
    rw [onLayer_nextFrame] at found
    obtain ⟨ordinal, sequence, rfl⟩ := fragmentLoop_getElem? found
    have reads := packet_reads documented marking burst (0 + UInt16.ofNat position) ordinal sequence
      (by omega) (by omega)
    rw [head, number, fragments] at reads
    rw [size]
    exact reads

/-- A frame advances every counter of the source by one frame. -/
theorem nextFrame_head (source : VideoSource) (phase : PacketPhase) (frame : UInt32)
    (layer : VideoLayer) (emittedAt : Duration) (frames : Nat) :
    headOf (source.nextFrame rtp phase frame).2 layer emittedAt frames =
      headOf source layer emittedAt (frames + 1) := by
  have pictureId : (layerState (source.nextFrame rtp phase frame).2 layer).pictureId =
      (layerState source layer).pictureId + 1 := by
    cases phase <;> cases layer <;> rfl
  have index : (layerState (source.nextFrame rtp phase frame).2 layer).tl0PicIdx =
      (layerState source layer).tl0PicIdx + 1 := by
    cases phase <;> cases layer <;> rfl
  have timestamp : (source.nextFrame rtp phase frame).2.nextRtpTimestamp =
      source.nextRtpTimestamp + videoTimestampStep := by
    cases phase <;> rfl
  have step : videoTimestampStep.toNat = 3000 := rfl
  simp only [headOf, pictureId, index, timestamp, UInt16.toNat_add, UInt16.toNat_one,
    UInt8.toNat_add, UInt8.toNat_one, UInt32.toNat_add, step, FrameHead.mk.injEq, true_and,
    and_true]
  refine ⟨?_, ?_, ?_⟩ <;> omega

/-- Each frame of a run is framed on each layer, and both layers share one
emission time and one timestamp.

Proof: by induction over the calls. The first call frames its packets under the
head the source starts with; every later frame is one step further on from the
state that call leaves. -/
theorem videoRun_framed (documented : rtp.Vp8Documented) (marking : MarkingDocumented rtp)
    (source : VideoSource) (calls : List (PacketPhase × UInt32)) (index : Nat)
    (burst : List VideoPacket) (found : (videoRun rtp source calls).1[index]? = some burst) :
    ∃ emittedAt, ∀ layer,
      Framed (headOf source layer emittedAt index) (onLayer layer burst) := by
  induction calls generalizing source index with
  | nil => simp [videoRun] at found
  | cons call calls inductionHypothesis =>
    cases index with
    | zero =>
      obtain rfl := Option.some.inj found
      exact ⟨source.timeline.nextEmittedAt, fun layer =>
        nextFrame_framed documented marking source call.1 call.2 layer⟩
    | succ index =>
      obtain ⟨emittedAt, framed⟩ := inductionHypothesis _ index found
      refine ⟨emittedAt, fun layer => ?_⟩
      rw [← nextFrame_head]
      exact framed layer

/-- Over a run each layer's sequence numbers go on from the source's, whatever
the phases and frame numbers of the calls.

Proof: by induction over the calls; a frame hands on the number after its last
fragment. -/
theorem videoRun_sequences (source : VideoSource) (calls : List (PacketPhase × UInt32))
    (layer : VideoLayer) :
    (onLayer layer (videoRun rtp source calls).1.flatten).map
        (fun packet => packet.sequenceNumber.toNat) =
      wrapped (2 ^ 16) (layerState source layer).sequenceNumber.toNat
        (onLayer layer (videoRun rtp source calls).1.flatten).length := by
  induction calls generalizing source with
  | nil => rfl
  | cons call calls inductionHypothesis =>
    have frame := @nextFrame_advances rtp source call.1 call.2 layer
    have size : (onLayer layer (source.nextFrame rtp call.1 call.2).1).length =
        fragmentCount layer call.2 := by
      simpa using congrArg List.length frame.sequences
    have later := inductionHypothesis (source.nextFrame rtp call.1 call.2).2
    rw [frame.sequence] at later
    simp only [videoRun, List.flatten_cons]
    rw [onLayer, List.filter_append, ← onLayer, ← onLayer, List.map_append, List.length_append,
      frame.sequences, later, size, wrapped_append]

/-- Every packet of a burst is on one of the two layers, low before high. -/
theorem videoRun_layers (source : VideoSource) (calls : List (PacketPhase × UInt32)) :
    ∀ burst ∈ (videoRun rtp source calls).1, burst = onLayer .low burst ++ onLayer .high burst := by
  induction calls generalizing source with
  | nil => simp [videoRun]
  | cons call calls inductionHypothesis =>
    intro burst member
    simp only [videoRun, List.mem_cons] at member
    rcases member with rfl | later
    · rw [onLayer_nextFrame, onLayer_nextFrame]
      exact nextFrame_packets source call.1 call.2
    · exact inductionHypothesis _ burst later

/-- Framing continuity: from any state of a source and over any finite sequence
of calls, so past every wrap, each layer's sequence numbers are consecutive
modulo 2^16 across fragments and frames, and the frame of each call reads on each
layer as fragments 0 to n - 1 of one frame. The picture identifier counts frames
modulo 2^15, TL0PICIDX modulo 2^8 and the timestamp in steps of 3000 modulo 2^32,
and both layers of a frame share timestamp and emission time. -/
theorem framing_continuity (documented : rtp.Vp8Documented) (marking : MarkingDocumented rtp)
    (source : VideoSource) (calls : List (PacketPhase × UInt32)) :
    (∀ layer, (onLayer layer (videoRun rtp source calls).1.flatten).map
        (fun packet => packet.sequenceNumber.toNat) =
      wrapped (2 ^ 16) (layerState source layer).sequenceNumber.toNat
        (onLayer layer (videoRun rtp source calls).1.flatten).length) ∧
    (videoRun rtp source calls).1.length = calls.length ∧
    (∀ index burst, (videoRun rtp source calls).1[index]? = some burst →
      burst = onLayer .low burst ++ onLayer .high burst ∧
      ∃ emittedAt, ∀ layer,
        Framed (headOf source layer emittedAt index) (onLayer layer burst)) := by
  refine ⟨fun layer => videoRun_sequences source calls layer, ?_, fun index burst found => ?_⟩
  · induction calls generalizing source with
    | nil => rfl
    | cons call calls inductionHypothesis =>
      simp only [videoRun, List.length_cons, inductionHypothesis]
  · exact ⟨videoRun_layers source calls burst (List.mem_of_getElem? found),
      videoRun_framed documented marking source calls index burst found⟩

/-- A source whose counters all stand at their last values, over a warmup frame
and a measured keyframe: every counter wraps. -/
def exhaustedSource : VideoSource :=
  { VideoSource.new 7 with
    nextRtpTimestamp := 0xffffffff
    low := ⟨0xffff, 0xffff, 0xff⟩
    high := ⟨0xffff, 0xffff, 0xff⟩ }

/-- The run of the exhausted source continues past every wrap. -/
theorem exhausted_source_continues :
    (∀ layer, (onLayer layer (videoRun documentedRtp exhaustedSource
          [(.warmup, 1), (.measured, 0)]).1.flatten).map
        (fun packet => packet.sequenceNumber.toNat) =
      wrapped (2 ^ 16) (layerState exhaustedSource layer).sequenceNumber.toNat
        (onLayer layer (videoRun documentedRtp exhaustedSource
          [(.warmup, 1), (.measured, 0)]).1.flatten).length) ∧
    (videoRun documentedRtp exhaustedSource [(.warmup, 1), (.measured, 0)]).1.length = 2 ∧
    (∀ index burst, (videoRun documentedRtp exhaustedSource
        [(.warmup, 1), (.measured, 0)]).1[index]? = some burst →
      burst = onLayer .low burst ++ onLayer .high burst ∧
      ∃ emittedAt, ∀ layer,
        Framed (headOf exhaustedSource layer emittedAt index) (onLayer layer burst)) :=
  framing_continuity documentedRtp_vp8 documentedRtp_marking exhaustedSource
    [(.warmup, 1), (.measured, 0)]

end SfuLoad.Framing
