import SfuLoad.Client.Sender
import SfuLoad.Kit.Wrapping

/-!
# What the sources emit, in closed form

Whatever a source is asked to send, each of its RTP streams numbers its packets
one after the other: sequence numbers always, ordinals within a phase. A video
layer sends so many fragments per frame; the keyframe rule adds them up to the
plan's packet counts.
-/

namespace SfuLoad.Emission

open Kit Kit.Fallible Kit.Wrapping Generated Identity Ledger Media Model Sender

variable {rtp : RtpConstants}

/-- Fragments of one frame on one layer. -/
def fragmentCount (layer : VideoLayer) (frame : UInt32) : Nat :=
  match layer, VideoSource.isKeyframe frame with
  | .low, true => 2
  | .low, false => 1
  | .high, true => 20
  | .high, false => 14

/-- Fragments of several frames on one layer. -/
def fragmentTotal (layer : VideoLayer) (frames : List UInt32) : Nat :=
  (frames.map (fragmentCount layer)).sum

/-- The counters a layer keeps. -/
def layerState (source : VideoSource) : VideoLayer → VideoLayerState
  | .low => source.low
  | .high => source.high

/-- A layer's ordinal counter of a phase. -/
def ordinalOf (source : VideoSource) (phase : PacketPhase) : VideoLayer → UInt32
  | .low => source.lowOrdinal phase
  | .high => source.highOrdinal phase

/-- The fragment loop numbers its packets from the counters it was given. -/
theorem fragmentLoop_numbers (rtp : RtpConstants) (burst : LayerBurst) (remaining : Nat)
    (fragment : UInt16)
    (ordinal : UInt32) (sequence : UInt16) :
    let looped := burst.fragmentLoop rtp remaining fragment ordinal sequence
    (looped.1.map (fun packet => packet.identity.ordinal.toNat) =
      wrapped (2 ^ 32) ordinal.toNat remaining) ∧
    (looped.1.map (fun packet => packet.sequenceNumber.toNat) =
      wrapped (2 ^ 16) sequence.toNat remaining) ∧
    looped.2.1.toNat = (ordinal.toNat + remaining) % 2 ^ 32 ∧
    looped.2.2.toNat = (sequence.toNat + remaining) % 2 ^ 16 := by
  induction remaining generalizing fragment ordinal sequence with
  | zero =>
    refine ⟨rfl, rfl, ?_, ?_⟩
    · exact (Nat.mod_eq_of_lt ordinal.toNat_lt).symm
    · exact (Nat.mod_eq_of_lt sequence.toNat_lt).symm
  | succ remaining inductionHypothesis =>
    obtain ⟨ordinals, sequences, lastOrdinal, lastSequence⟩ :=
      inductionHypothesis (fragment + 1) (ordinal + 1) (sequence + 1)
    have ordinalStep : (ordinal + 1).toNat = (ordinal.toNat + 1) % 2 ^ 32 := by
      rw [UInt32.toNat_add, UInt32.toNat_one]
    have sequenceStep : (sequence + 1).toNat = (sequence.toNat + 1) % 2 ^ 16 := by
      rw [UInt16.toNat_add, UInt16.toNat_one]
    simp only [LayerBurst.fragmentLoop, List.map_cons, ordinals, sequences, lastOrdinal,
      lastSequence, ordinalStep, sequenceStep, wrapped_succ, Nat.mod_add_mod]
    refine ⟨?_, ?_, ?_, ?_⟩
    · rw [Nat.mod_eq_of_lt ordinal.toNat_lt]
      rfl
    · rw [Nat.mod_eq_of_lt sequence.toNat_lt]
      rfl
    · congr 1
      omega
    · congr 1
      omega

/-- Every packet of the loop carries the burst's identity and its layer's length. -/
theorem fragmentLoop_identity {burst : LayerBurst} {remaining : Nat} {fragment : UInt16}
    {ordinal : UInt32} {sequence : UInt16} {packet : VideoPacket}
    (member : packet ∈ (burst.fragmentLoop rtp remaining fragment ordinal sequence).1) :
    packet.layer = burst.layer ∧ packet.identity.phase = burst.phase ∧
      identityKey packet.identity = (burst.source, .video, some burst.layer) ∧
      packet.payload.length = burst.layer.packetPayloadLen := by
  obtain ⟨index, position, number, rfl⟩ := mem_fragmentLoop member
  refine ⟨rfl, rfl, rfl, encodedPayload_length _ _ _ ?_⟩
  have bound := leadLen_le burst.keyframe index
  rw [lead_length]
  simp only [maxIdentityOffset, vp8DescriptorLen, vp8KeyframePrefixLen] at bound
  cases burst.layer <;>
    simp only [VideoLayer.packetPayloadLen, videoLowPacketPayloadBytes,
      videoHighPacketPayloadBytes, identityHeaderLen] <;>
    omega

/-- The packets of one layer. -/
def onLayer (layer : VideoLayer) (packets : List VideoPacket) : List VideoPacket :=
  packets.filter (fun packet => packet.layer = layer)

/-- A source went on by `count` packets of a layer: they continue its counters,
and its other phase's ordinals stay. -/
structure Advances (layer : VideoLayer) (phase : PacketPhase) (source : VideoSource) (count : Nat)
    (packets : List VideoPacket) (after : VideoSource) : Prop where
  ordinals : (onLayer layer packets).map (fun packet => packet.identity.ordinal.toNat) =
    wrapped (2 ^ 32) (ordinalOf source phase layer).toNat count
  sequences : (onLayer layer packets).map (fun packet => packet.sequenceNumber.toNat) =
    wrapped (2 ^ 16) (layerState source layer).sequenceNumber.toNat count
  ordinal : (ordinalOf after phase layer).toNat =
    ((ordinalOf source phase layer).toNat + count) % 2 ^ 32
  sequence : (layerState after layer).sequenceNumber.toNat =
    ((layerState source layer).sequenceNumber.toNat + count) % 2 ^ 16
  otherPhase : ∀ other, other ≠ phase → ordinalOf after other layer = ordinalOf source other layer

/-- A source that emits nothing stays where it is. -/
theorem Advances.refl (layer : VideoLayer) (phase : PacketPhase) (source : VideoSource) :
    Advances layer phase source 0 [] source :=
  ⟨rfl, rfl, (Nat.mod_eq_of_lt (UInt32.toNat_lt _)).symm,
    (Nat.mod_eq_of_lt (UInt16.toNat_lt _)).symm, fun _ _ => rfl⟩

/-- Two runs after each other are one run. -/
theorem Advances.trans {layer : VideoLayer} {phase : PacketPhase}
    {source middle after : VideoSource} {first second : Nat} {packets later : List VideoPacket}
    (begun : Advances layer phase source first packets middle)
    (continued : Advances layer phase middle second later after) :
    Advances layer phase source (first + second) (packets ++ later) after where
  ordinals := by
    rw [onLayer, List.filter_append, List.map_append, ← onLayer, ← onLayer, begun.ordinals,
      continued.ordinals, begun.ordinal, wrapped_append]
  sequences := by
    rw [onLayer, List.filter_append, List.map_append, ← onLayer, ← onLayer, begun.sequences,
      continued.sequences, begun.sequence, wrapped_append]
  ordinal := by
    rw [continued.ordinal, begun.ordinal, Nat.mod_add_mod, Nat.add_assoc]
  sequence := by
    rw [continued.sequence, begun.sequence, Nat.mod_add_mod, Nat.add_assoc]
  otherPhase := fun other apart =>
    (continued.otherPhase other apart).trans (begun.otherPhase other apart)

/-- The burst a source sends on a layer for a frame. -/
def layerBurst (rtp : RtpConstants) (source : VideoSource) (phase : PacketPhase) (frame : UInt32)
    (layer : VideoLayer) : LayerBurst where
  source := source.source
  emittedAt := source.timeline.nextEmittedAt
  rtpTimestamp := source.nextRtpTimestamp
  phase := phase
  frame := frame
  keyframe := VideoSource.isKeyframe frame
  layer := layer
  fragments := UInt16.ofNat (fragmentCount layer frame)
  pictureId := (layerState source layer).pictureId &&& rtp.vp8LongPictureIdMask
  tl0PicIdx := (layerState source layer).tl0PicIdx

/-- The fragment loop of a frame's layer. -/
def layerLoop (rtp : RtpConstants) (source : VideoSource) (phase : PacketPhase) (frame : UInt32)
    (layer : VideoLayer) : List VideoPacket × UInt32 × UInt16 :=
  (layerBurst rtp source phase frame layer).fragmentLoop rtp (fragmentCount layer frame) 0
    (ordinalOf source phase layer) (layerState source layer).sequenceNumber

/-- A frame sends both layers' fragments, low before high. -/
theorem nextFrame_packets (source : VideoSource) (phase : PacketPhase) (frame : UInt32) :
    (source.nextFrame rtp phase frame).1 =
      (layerLoop rtp source phase frame .low).1 ++ (layerLoop rtp source phase frame .high).1 := by
  cases keyframe : VideoSource.isKeyframe frame <;>
    simp only [VideoSource.nextFrame, appendVideoLayer, layerLoop, layerBurst, fragmentCount,
      keyframe] <;>
    rfl

/-- After a frame, a layer's ordinal is the one its burst ended with. -/
theorem nextFrame_ordinal (source : VideoSource) (phase : PacketPhase) (frame : UInt32)
    (layer : VideoLayer) : ordinalOf (source.nextFrame rtp phase frame).2 phase layer =
      (layerLoop rtp source phase frame layer).2.1 := by
  cases keyframe : VideoSource.isKeyframe frame <;> cases phase <;> cases layer <;>
    simp only [VideoSource.nextFrame, appendVideoLayer, layerLoop, layerBurst, fragmentCount,
      keyframe] <;>
    rfl

/-- So is its sequence number. -/
theorem nextFrame_sequence (source : VideoSource) (phase : PacketPhase) (frame : UInt32)
    (layer : VideoLayer) : (layerState (source.nextFrame rtp phase frame).2 layer).sequenceNumber =
      (layerLoop rtp source phase frame layer).2.2 := by
  cases keyframe : VideoSource.isKeyframe frame <;> cases phase <;> cases layer <;>
    simp only [VideoSource.nextFrame, appendVideoLayer, layerLoop, layerBurst, fragmentCount,
      keyframe] <;>
    rfl

/-- The ordinals of the other phase stay where they are. -/
theorem nextFrame_otherPhase (source : VideoSource) {phase other : PacketPhase} (frame : UInt32)
    (layer : VideoLayer) (apart : other ≠ phase) :
    ordinalOf (source.nextFrame rtp phase frame).2 other layer = ordinalOf source other layer := by
  cases phase <;> cases other <;> cases layer <;> first | rfl | exact absurd rfl apart

/-- A frame does not change whose source it is. -/
theorem nextFrame_source (source : VideoSource) (phase : PacketPhase) (frame : UInt32) :
    (source.nextFrame rtp phase frame).2.source = source.source := by
  cases phase <;> rfl

/-- What a packet of a frame is, whatever its layer. -/
theorem layerLoop_identity {source : VideoSource} {phase : PacketPhase} {frame : UInt32}
    {layer : VideoLayer} {packet : VideoPacket}
    (member : packet ∈ (layerLoop rtp source phase frame layer).1) :
    packet.layer = layer ∧ packet.identity.phase = phase ∧
      identityKey packet.identity = (source.source, .video, some layer) ∧
      packet.payload.length = layer.packetPayloadLen :=
  fragmentLoop_identity member

/-- A layer's packets of a frame are its own loop's. -/
theorem onLayer_nextFrame (source : VideoSource) (phase : PacketPhase) (frame : UInt32)
    (layer : VideoLayer) : onLayer layer (source.nextFrame rtp phase frame).1 =
      (layerLoop rtp source phase frame layer).1 := by
  have own (layer : VideoLayer) : onLayer layer (layerLoop rtp source phase frame layer).1 =
      (layerLoop rtp source phase frame layer).1 := by
    refine List.filter_eq_self.mpr (fun packet member => ?_)
    simp [(layerLoop_identity member).1]
  have foreign {layer other : VideoLayer} (apart : other ≠ layer) :
      onLayer layer (layerLoop rtp source phase frame other).1 = [] := by
    refine List.filter_eq_nil_iff.mpr (fun packet member => ?_)
    simp [(layerLoop_identity member).1, apart]
  rw [nextFrame_packets, onLayer, List.filter_append, ← onLayer, ← onLayer]
  cases layer with
  | low => rw [own, foreign (by decide), List.append_nil]
  | high => rw [own, foreign (by decide), List.nil_append]

/-- One frame advances each layer by its fragments. -/
theorem nextFrame_advances (source : VideoSource) (phase : PacketPhase) (frame : UInt32)
    (layer : VideoLayer) :
    Advances layer phase source (fragmentCount layer frame)
      (source.nextFrame rtp phase frame).1 (source.nextFrame rtp phase frame).2 := by
  obtain ⟨ordinals, sequences, ordinal, sequence⟩ := fragmentLoop_numbers rtp
    (layerBurst rtp source phase frame layer) (fragmentCount layer frame) 0
    (ordinalOf source phase layer) (layerState source layer).sequenceNumber
  refine ⟨?_, ?_, ?_, ?_, fun other apart => nextFrame_otherPhase source frame layer apart⟩
  · rw [onLayer_nextFrame]
    exact ordinals
  · rw [onLayer_nextFrame]
    exact sequences
  · rw [nextFrame_ordinal]
    exact ordinal
  · rw [nextFrame_sequence]
    exact sequence

/-- A run of frames of one phase advances each layer by all their fragments. -/
theorem videoRun_advances (rtp : RtpConstants) (source : VideoSource) (phase : PacketPhase)
    (frames : List UInt32)
    (layer : VideoLayer) :
    Advances layer phase source (fragmentTotal layer frames)
      (videoRun rtp source (frames.map (Prod.mk phase))).1.flatten
      (videoRun rtp source (frames.map (Prod.mk phase))).2 := by
  induction frames generalizing source with
  | nil => exact Advances.refl layer phase source
  | cons frame frames inductionHypothesis =>
    simp only [List.map_cons, videoRun, List.flatten_cons, fragmentTotal, List.sum_cons]
    exact (nextFrame_advances source phase frame layer).trans (inductionHypothesis _)

/-- Every packet of a run carries the source's identity on its own layer. -/
theorem videoRun_identity (rtp : RtpConstants) (source : VideoSource) (phase : PacketPhase)
    (frames : List UInt32) :
    (∀ packet ∈ (videoRun rtp source (frames.map (Prod.mk phase))).1.flatten,
      packet.identity.phase = phase ∧
      identityKey packet.identity = (source.source, .video, some packet.layer) ∧
      packet.payload.length = packet.layer.packetPayloadLen) ∧
    (videoRun rtp source (frames.map (Prod.mk phase))).2.source = source.source := by
  induction frames generalizing source with
  | nil => simp [videoRun]
  | cons frame frames inductionHypothesis =>
    obtain ⟨later, kept⟩ := inductionHypothesis (source.nextFrame rtp phase frame).2
    rw [nextFrame_source] at later kept
    simp only [List.map_cons, videoRun, List.flatten_cons]
    refine ⟨fun packet member => ?_, kept⟩
    rcases List.mem_append.mp member with first | rest
    · rw [nextFrame_packets] at first
      rcases List.mem_append.mp first with low | high
      · obtain ⟨layer, facts⟩ := layerLoop_identity low
        exact layer ▸ facts
      · obtain ⟨layer, facts⟩ := layerLoop_identity high
        exact layer ▸ facts
    · exact later packet rest

/-- A run of audio packets carries the given ordinals and consecutive sequence
numbers. -/
theorem audioRun_numbers (rtp : RtpConstants) (source : AudioSource) (phase : PacketPhase)
    (ordinals : List UInt32) :
    let run := audioRun rtp source (ordinals.map (Prod.mk phase))
    run.1.map (fun packet => packet.identity.ordinal) = ordinals ∧
    run.1.map (fun packet => packet.sequenceNumber.toNat) =
      wrapped (2 ^ 16) source.nextSequenceNumber.toNat ordinals.length ∧
    run.2.nextSequenceNumber.toNat =
      (source.nextSequenceNumber.toNat + ordinals.length) % 2 ^ 16 := by
  induction ordinals generalizing source with
  | nil => exact ⟨rfl, rfl, (Nat.mod_eq_of_lt (UInt16.toNat_lt _)).symm⟩
  | cons ordinal ordinals inductionHypothesis =>
    obtain ⟨numbers, sequences, last⟩ :=
      inductionHypothesis (source.nextPacket rtp phase ordinal).2
    have step : (source.nextPacket rtp phase ordinal).2.nextSequenceNumber.toNat =
        (source.nextSequenceNumber.toNat + 1) % 2 ^ 16 := by
      simp only [AudioSource.nextPacket, UInt16.toNat_add, UInt16.toNat_one]
    rw [step] at sequences last
    simp only [List.map_cons, audioRun, numbers, sequences, last, List.length_cons, wrapped_succ,
      Nat.mod_add_mod]
    refine ⟨rfl, ?_, ?_⟩
    · rw [Nat.mod_eq_of_lt (UInt16.toNat_lt _)]
      rfl
    · congr 1
      omega

/-- The packets of an audio run are of its phase and its source, and as long as audio packets
are. -/
theorem audioRun_identity (rtp : RtpConstants) (source : AudioSource) (phase : PacketPhase)
    (ordinals : List UInt32) :
    (∀ packet ∈ (audioRun rtp source (ordinals.map (Prod.mk phase))).1,
      packet.identity.phase = phase ∧ identityKey packet.identity = (source.source, .audio, none) ∧
      packet.payload.length = audioPacketPayloadBytes) ∧
    (audioRun rtp source (ordinals.map (Prod.mk phase))).2.source = source.source := by
  induction ordinals generalizing source with
  | nil => simp [audioRun]
  | cons ordinal ordinals inductionHypothesis =>
    obtain ⟨later, kept⟩ := inductionHypothesis (source.nextPacket rtp phase ordinal).2
    simp only [List.map_cons, audioRun]
    refine ⟨fun packet member => ?_, kept⟩
    rcases List.mem_cons.mp member with rfl | rest
    · have size := encodedPayload_length (source.identity phase ordinal) audioPacketPayloadBytes
        [AudioSource.oneFrameToc rtp] (by simp [identityHeaderLen, audioPacketPayloadBytes])
      simp only [AudioSource.nextPacket, size, and_true]
      exact ⟨rfl, rfl⟩
    · exact later packet rest

/-- The keyframes among the first frames: every sixtieth. -/
theorem fragmentTotal_range (layer : VideoLayer) {count : Nat} (bounded : count < 2 ^ 32) :
    fragmentTotal layer ((List.range count).map UInt32.ofNat) =
      match layer with
      | .low => count + (count + 59) / 60
      | .high => 14 * count + 6 * ((count + 59) / 60) := by
  induction count with
  | zero => cases layer <;> rfl
  | succ count inductionHypothesis =>
    have previous := inductionHypothesis (by omega)
    have keyframe : VideoSource.isKeyframe (UInt32.ofNat count) = decide (count % 60 = 0) := by
      have frame : (UInt32.ofNat count).toUInt64.toNat = count := by
        rw [UInt32.toNat_toUInt64, UInt32.toNat_ofNat']
        exact Nat.mod_eq_of_lt (by omega)
      have interval : videoKeyframeInterval.toNat = 60 := rfl
      rw [VideoSource.isKeyframe, Bool.eq_iff_iff, beq_iff_eq, ← UInt64.toNat_inj,
        UInt64.toNat_mod, frame, interval, UInt64.toNat_zero, decide_eq_true_iff]
    rw [fragmentTotal, List.range_succ, List.map_append, List.map_append, List.sum_append,
      ← fragmentTotal, previous]
    simp only [List.map_cons, List.map_nil, List.sum_cons, List.sum_nil, Nat.add_zero,
      fragmentCount, keyframe]
    by_cases first : count % 60 = 0 <;> cases layer <;> simp only [first, decide_true,
      decide_false] <;> omega

/-- The audio packets of a run. -/
def audioOf : Sent → Option AudioPacket
  | .audio packet => some packet
  | .video _ => none

/-- The video packets of a run. -/
def videoOf : Sent → Option VideoPacket
  | .audio _ => none
  | .video packet => some packet

/-- A sent audio packet is one. -/
@[simp] theorem audioOf_audio (packet : AudioPacket) : audioOf (.audio packet) = some packet := rfl

/-- A sent video packet is no audio packet. -/
@[simp] theorem audioOf_video (packet : VideoPacket) : audioOf (.video packet) = none := rfl

/-- A sent audio packet is no video packet. -/
@[simp] theorem videoOf_audio (packet : AudioPacket) : videoOf (.audio packet) = none := rfl

/-- A sent video packet is one. -/
@[simp] theorem videoOf_video (packet : VideoPacket) : videoOf (.video packet) = some packet := rfl

/-- The audio stream's packets are the audio packets. -/
theorem filter_audio (sent : List Sent) :
    sent.filter (fun packet => packet.rtpStream = none) =
      (sent.filterMap audioOf).map .audio := by
  induction sent with
  | nil => rfl
  | cons packet rest inductionHypothesis =>
    cases packet <;> simpa [List.filterMap_cons] using inductionHypothesis

/-- A layer's stream carries the video packets of that layer. -/
theorem filter_video (sent : List Sent) (layer : VideoLayer) :
    sent.filter (fun packet => packet.rtpStream = some layer) =
      (onLayer layer (sent.filterMap videoOf)).map .video := by
  induction sent with
  | nil => rfl
  | cons packet rest inductionHypothesis =>
    cases packet with
    | audio packet => simpa [List.filterMap_cons] using inductionHypothesis
    | video packet =>
      by_cases same : packet.layer = layer <;>
        simpa [List.filterMap_cons, onLayer, same] using inductionHypothesis

/-- The numbers from one counter up to its total. -/
def remaining (next total : UInt32) : List UInt32 :=
  (List.range' next.toNat (total.toNat - next.toNat)).map UInt32.ofNat

/-- What remains is the next number and what remains after it. -/
theorem remaining_cons {next total : UInt32} (below : next < total) :
    remaining next total = next :: remaining (saturatingIncrement next) total := by
  have step := saturatingIncrement_toNat below
  rw [UInt32.lt_iff_toNat_lt] at below
  have size : total.toNat - next.toNat = (total.toNat - (next.toNat + 1)) + 1 := by omega
  rw [remaining, size, List.range'_succ, List.map_cons, UInt32.ofNat_toNat, remaining, step]

/-- At the total nothing remains. -/
theorem remaining_done {next total : UInt32} (done : ¬ next < total) : remaining next total = [] := by
  rw [UInt32.lt_iff_toNat_lt] at done
  rw [remaining, Nat.sub_eq_zero_of_le (by omega)]
  rfl

/-- What the audio source still has to send. -/
def audioRest (rtp : RtpConstants) (media : Rooms.PeerMedia) (ordinal : UInt32) :
    List AudioPacket :=
  match media.audio with
  | none => []
  | some source => (audioRun rtp source
      ((remaining ordinal media.audioPacketCount).map (Prod.mk .measured))).1

/-- What the video source still has to send. -/
def videoRest (rtp : RtpConstants) (media : Rooms.PeerMedia) (frame : UInt32) :
    List VideoPacket :=
  match media.video with
  | none => []
  | some source => (videoRun rtp source
      ((remaining frame media.videoFrameCount).map (Prod.mk .measured))).1.flatten

/-- Nobody has a turn once both have sent all they were to send. -/
theorem nextTurn_none {media : Rooms.PeerMedia} {ordinal frame : UInt32}
    (turn : nextTurn media ordinal frame = none) :
    (media.audio = none ∨ ¬ ordinal < media.audioPacketCount) ∧
      (media.video = none ∨ ¬ frame < media.videoFrameCount) := by
  cases audio : media.audio <;> cases video : media.video <;>
    by_cases moreAudio : ordinal < media.audioPacketCount <;>
    by_cases moreVideo : frame < media.videoFrameCount <;>
    simp_all [nextTurn, Option.filter_some]
  split at turn <;> cases turn

/-- The measured loop ends, and each source sends exactly what it would have sent
alone: taking turns never changes what a source says.

Proof: by the loop's own recursion. A turn takes the next packet or frame of one
source, and leaves the other source and its rest as they are. -/
theorem mediaLoop_sends (rtp : RtpConstants) (media : Rooms.PeerMedia) (ordinal frame : UInt32) :
    ∃ sent, mediaLoop rtp media ordinal frame = .ok sent ∧
      sent.filterMap audioOf = audioRest rtp media ordinal ∧
      sent.filterMap videoOf = videoRest rtp media frame := by
  induction media, ordinal, frame using mediaLoop.induct with
  | case1 media ordinal frame turn =>
    obtain ⟨noAudio, noVideo⟩ := nextTurn_none turn
    refine ⟨[], by rw [mediaLoop, turn]; rfl, ?_, ?_⟩
    · rw [audioRest]
      split
      · rfl
      · next source present =>
        rw [remaining_done (noAudio.resolve_left (by simp [present]))]
        rfl
    · rw [videoRest]
      split
      · rfl
      · next source present =>
        rw [remaining_done (noVideo.resolve_left (by simp [present]))]
        rfl
  | case2 media ordinal frame turn inductionHypothesis =>
    obtain ⟨source, present, below⟩ := nextTurn_audio turn
    obtain ⟨later, looped, audio, video⟩ :=
      inductionHypothesis (source.nextPacket rtp .measured ordinal).2
    refine ⟨.audio (source.nextPacket rtp .measured ordinal).1 :: later, ?_, ?_, ?_⟩
    · rw [mediaLoop, turn]
      simp only [present, context_some, ok_bind, looped]
      rfl
    · rw [List.filterMap_cons, audioOf_audio, audio]
      simp only [audioRest, present, remaining_cons below, List.map_cons, audioRun]
    · rw [List.filterMap_cons, videoOf_audio, video]
      rfl
  | case3 media ordinal frame turn inductionHypothesis =>
    obtain ⟨source, present, below⟩ := nextTurn_video turn
    obtain ⟨later, looped, audio, video⟩ :=
      inductionHypothesis (source.nextFrame rtp .measured frame).2
    refine ⟨(source.nextFrame rtp .measured frame).1.map .video ++ later, ?_, ?_, ?_⟩
    · rw [mediaLoop, turn]
      simp only [present, context_some, ok_bind, looped]
      rfl
    · rw [List.filterMap_append, audio, List.filterMap_map]
      simp [Function.comp_def, audioRest]
    · rw [List.filterMap_append, video, List.filterMap_map]
      simp only [Function.comp_def, videoOf_video, List.filterMap_some, videoRest, present,
        remaining_cons below, List.map_cons, videoRun, List.flatten_cons]

end SfuLoad.Emission
