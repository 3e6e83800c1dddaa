import SfuLoad.Client.Media
import Mathlib.Tactic.IntervalCases

/-!
# Generated packets decode to their own identity

The identity follows a prefix of one, six, seven or sixteen bytes, and the
inspector looks for the first magic. No prefix the sources emit can complete a
magic before its own end: the descriptor's leading bytes have their top bit set,
its last byte is zero, and the codec bytes never start one. Picture counters are
free to take any value, so the result holds past every wrap.
-/

namespace SfuLoad.Generated

open Kit Identity Media Model

/-- Any finite sequence of audio packets, each with its phase and ordinal. -/
def audioRun (rtp : RtpConstants) (source : AudioSource) :
    List (PacketPhase × UInt32) → List AudioPacket × AudioSource
  | [] => ([], source)
  | (phase, ordinal) :: calls =>
      let (packet, next) := source.nextPacket rtp phase ordinal
      let (packets, final) := audioRun rtp next calls
      (packet :: packets, final)

/-- Any finite sequence of video frames, each with its phase and frame number. -/
def videoRun (rtp : RtpConstants) (source : VideoSource) :
    List (PacketPhase × UInt32) → List (List VideoPacket) × VideoSource
  | [] => ([], source)
  | (phase, frame) :: calls =>
      let (packets, next) := source.nextFrame rtp phase frame
      let (bursts, final) := videoRun rtp next calls
      (packets :: bursts, final)

/-- A one-byte prefix cannot start a magic: the magic's second byte would have to
be its first. -/
theorem toc_noEarlyMagic (toc : UInt8) : NoEarlyMagic [toc] := by
  intro earlier before occurs
  have second := Windows.occurs_getElem? occurs 1 (by decide)
  obtain rfl : earlier = 0 := Nat.lt_one_iff.mp before
  simp [identityMagic] at second

/-- A descriptor whose first three bytes have the top bit set, followed by no
codec bytes or by the opening of an interframe or a keyframe, hides no magic.

Proof: a window inside it would put the magic's first byte at its start. The
leading bytes and every codec byte differ from that byte; the two remaining
starts, on the counter bytes, put the descriptor's zero under another byte of
the magic. -/
theorem descriptor_noEarlyMagic (first second third fourth fifth : UInt8) (codec : List UInt8)
    (firstByte : first ≠ 0x4f) (secondByte : second ≠ 0x4f) (thirdByte : third ≠ 0x4f)
    (opening : codec = [] ∨ codec = [0x01] ∨ codec = vp8LowKeyframePrefix ∨
      codec = vp8HighKeyframePrefix) :
    NoEarlyMagic ([first, second, third, fourth, fifth, 0] ++ codec) := by
  intro earlier before occurs
  have start := Windows.occurs_getElem? occurs 0 (by decide)
  have afterOne := Windows.occurs_getElem? occurs 1 (by decide)
  have afterTwo := Windows.occurs_getElem? occurs 2 (by decide)
  rcases opening with rfl | rfl | rfl | rfl <;>
    simp only [List.length_append, List.length_cons, List.length_nil, vp8LowKeyframePrefix,
      vp8HighKeyframePrefix] at before <;>
    interval_cases earlier <;>
    simp_all [identityMagic, vp8LowKeyframePrefix, vp8HighKeyframePrefix]

/-- Setting the top bit keeps a byte away from the magic's first byte. -/
theorem topBit_or_ne (byte : UInt8) : (0x80 : UInt8) ||| byte ≠ 0x4f := by
  intro same
  have bit := congrArg (fun value : UInt8 => value.toBitVec.getLsbD 7) same
  simp [UInt8.toBitVec_or] at bit

variable {rtp : RtpConstants}

/-- Under the documented descriptor bits no fragment's prefix hides a magic. -/
theorem lead_noEarlyMagic (documented : rtp.Vp8Documented) (burst : LayerBurst)
    (fragment : UInt16) : NoEarlyMagic (burst.lead rtp fragment) := by
  have descriptor : ∀ start codec, (codec = [] ∨ codec = [0x01] ∨ codec = vp8LowKeyframePrefix ∨
      codec = vp8HighKeyframePrefix) →
      NoEarlyMagic (vp8Descriptor rtp burst.pictureId burst.tl0PicIdx start ++ codec) := by
    intro start codec opening
    apply descriptor_noEarlyMagic _ _ _ _ _ codec _ _ _ opening
    · rw [documented.xBit]
      exact topBit_or_ne _
    · rw [documented.iBit, documented.lBit, documented.tBit]
      decide
    · rw [documented.longPictureIdBit]
      exact topBit_or_ne _
  rw [LayerBurst.lead]
  split
  · apply descriptor
    unfold framePrefix
    rw [documented.interframeBit]
    cases burst.keyframe <;> cases burst.layer <;> simp
  · simpa using descriptor _ [] (Or.inl rfl)

/-- Where a fragment's identity starts: behind the descriptor, and on the first
fragment also behind the keyframe's or interframe's codec bytes. -/
def leadLen (keyframe : Bool) (fragment : UInt16) : Nat :=
  if fragment = 0 then vp8DescriptorLen + (if keyframe then vp8KeyframePrefixLen else 1)
  else vp8DescriptorLen

/-- The codec bytes of a fragment are as many as its kind of fragment has. -/
theorem lead_length (burst : LayerBurst) (fragment : UInt16) :
    (burst.lead rtp fragment).length = leadLen burst.keyframe fragment := by
  unfold LayerBurst.lead leadLen framePrefix
  by_cases first : fragment = 0
  · cases burst.keyframe <;> cases burst.layer <;>
      simp [first, vp8Descriptor, vp8DescriptorLen, vp8KeyframePrefixLen, vp8LowKeyframePrefix,
        vp8HighKeyframePrefix]
  · simp [first, vp8Descriptor, vp8DescriptorLen]

/-- No codec prefix is longer than the inspector looks. -/
theorem leadLen_le (keyframe : Bool) (fragment : UInt16) :
    leadLen keyframe fragment ≤ maxIdentityOffset := by
  unfold leadLen
  split
  · cases keyframe <;> decide
  · decide

/-- A packet built by one pass of the fragment loop decodes to its identity. -/
theorem fragment_decodes (documented : rtp.Vp8Documented) (burst : LayerBurst)
    (fragment : UInt16) (ordinal : UInt32) (sequenceNumber : UInt16) :
    inspectPayload (burst.packet rtp fragment ordinal sequenceNumber).payload =
      .ok ⟨(burst.packet rtp fragment ordinal sequenceNumber).identity, true⟩ := by
  have short : (burst.lead rtp fragment).length ≤ maxIdentityOffset := by
    rw [lead_length]
    exact leadLen_le _ _
  exact inspect_encoded _ _ _ rfl short (lead_noEarlyMagic documented burst fragment)

/-- Every packet the fragment loop pushes was built by one of its passes. -/
theorem mem_fragmentLoop {burst : LayerBurst} {remaining : Nat} {fragment : UInt16}
    {ordinal : UInt32} {sequenceNumber : UInt16} {packet : VideoPacket}
    (member : packet ∈ (burst.fragmentLoop rtp remaining fragment ordinal sequenceNumber).1) :
    ∃ index position number, packet = burst.packet rtp index position number := by
  induction remaining generalizing fragment ordinal sequenceNumber with
  | zero => simp [LayerBurst.fragmentLoop] at member
  | succ remaining inductionHypothesis =>
    simp only [LayerBurst.fragmentLoop, List.mem_cons] at member
    rcases member with rfl | later
    · exact ⟨fragment, ordinal, sequenceNumber, rfl⟩
    · exact inductionHypothesis later

/-- Every packet of a frame was built by a pass of one of its two layer bursts. -/
theorem mem_nextFrame {source : VideoSource} {phase : PacketPhase} {frame : UInt32}
    {packet : VideoPacket} (member : packet ∈ (source.nextFrame rtp phase frame).1) :
    ∃ burst index position number, packet = LayerBurst.packet rtp burst index position number := by
  simp only [VideoSource.nextFrame, appendVideoLayer, List.mem_append] at member
  rcases member with low | high
  · exact ⟨_, mem_fragmentLoop low⟩
  · exact ⟨_, mem_fragmentLoop high⟩

/-- An audio packet decodes to its own identity. -/
theorem audio_packet_decodes (source : AudioSource) (phase : PacketPhase) (ordinal : UInt32) :
    inspectPayload (source.nextPacket rtp phase ordinal).1.payload =
      .ok ⟨(source.nextPacket rtp phase ordinal).1.identity, true⟩ := by
  have short : [AudioSource.oneFrameToc rtp].length ≤ maxIdentityOffset := by
    simp [maxIdentityOffset, vp8DescriptorLen, vp8KeyframePrefixLen]
  have decoded := inspect_encoded (source.identity phase ordinal) audioPacketPayloadBytes
    [AudioSource.oneFrameToc rtp] rfl short (toc_noEarlyMagic _)
  simpa only [AudioSource.nextPacket] using decoded

/-- So does every packet of a run of an audio source. -/
theorem audio_run_decodes (source : AudioSource) (calls : List (PacketPhase × UInt32)) :
    ∀ packet ∈ (audioRun rtp source calls).1,
      inspectPayload packet.payload = .ok ⟨packet.identity, true⟩ := by
  induction calls generalizing source with
  | nil => simp [audioRun]
  | cons call calls inductionHypothesis =>
    intro packet member
    simp only [audioRun, List.mem_cons] at member
    rcases member with rfl | later
    · exact audio_packet_decodes source call.1 call.2
    · exact inductionHypothesis _ packet later

/-- So does every packet of a run of a video source, on both layers. -/
theorem video_run_decodes (documented : rtp.Vp8Documented) (source : VideoSource)
    (calls : List (PacketPhase × UInt32)) :
    ∀ packets ∈ (videoRun rtp source calls).1, ∀ packet ∈ packets,
      inspectPayload packet.payload = .ok ⟨packet.identity, true⟩ := by
  induction calls generalizing source with
  | nil => simp [videoRun]
  | cons call calls inductionHypothesis =>
    intro packets member packet inside
    simp only [videoRun, List.mem_cons] at member
    rcases member with rfl | later
    · obtain ⟨burst, index, position, number, rfl⟩ := mem_nextFrame inside
      exact fragment_decodes documented burst index position number
    · exact inductionHypothesis _ packets later packet inside

/-- Inspection undoes encoding for everything the sources emit, from any source
state and over any sequence of phases, ordinals and frame numbers. -/
theorem generated_payloads_decode (documented : rtp.Vp8Documented) (audio : AudioSource)
    (video : VideoSource) (calls : List (PacketPhase × UInt32)) :
    (∀ packet ∈ (audioRun rtp audio calls).1,
      inspectPayload packet.payload = .ok ⟨packet.identity, true⟩) ∧
    (∀ packets ∈ (videoRun rtp video calls).1, ∀ packet ∈ packets,
      inspectPayload packet.payload = .ok ⟨packet.identity, true⟩) :=
  ⟨audio_run_decodes audio calls, video_run_decodes documented video calls⟩

/-- The documented constants, one warmup and one measured keyframe on a fresh
source of each kind. -/
theorem first_payloads_decode :
    (∀ packet ∈ (audioRun documentedRtp (AudioSource.new 3) [(.warmup, 0), (.measured, 0)]).1,
      inspectPayload packet.payload = .ok ⟨packet.identity, true⟩) ∧
    (∀ packets ∈
        (videoRun documentedRtp (VideoSource.new 7) [(.warmup, 0), (.measured, 0)]).1,
      ∀ packet ∈ packets, inspectPayload packet.payload = .ok ⟨packet.identity, true⟩) :=
  generated_payloads_decode documentedRtp_vp8 (AudioSource.new 3) (VideoSource.new 7)
    [(.warmup, 0), (.measured, 0)]

end SfuLoad.Generated
