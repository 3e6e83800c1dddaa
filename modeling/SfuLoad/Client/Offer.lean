import SfuLoad.Client.Emission
import SfuLoad.Client.Agreement

/-!
# Senders offer what the plan counts

A publisher's measured packets number each of its streams 0, 1, …, n-1, with the
n its receivers expect. The measured loop may interleave the sources in any way
their timelines give, and any warmup may come first: both leave every stream's
own numbering alone. Added up, the streams, packets and bytes are the plan's.
-/

namespace SfuLoad.Offer

open Kit Kit.Fallible Kit.Others Kit.Wrapping Identity Ledger Media Model Rooms Generated Sender
open Emission Agreement

variable {rtp : RtpConstants}

/-- Key of the stream a sent packet belongs to. -/
def sentKey (packet : Sent) : StreamKey := identityKey packet.identity

/-- A stream's ordinals in the order they were sent. -/
def sentOrdinals (sent : List Sent) (key : StreamKey) : List Nat :=
  (sent.filter (fun packet => sentKey packet = key)).map
    (fun packet => packet.identity.ordinal.toNat)

/-- The key of a source's RTP stream. -/
def streamKey (source : UInt16) : Option VideoLayer → StreamKey
  | none => (source, .audio, none)
  | some layer => (source, .video, some layer)

/-- Bytes of one packet on an RTP stream. -/
def streamBytes : Option VideoLayer → Nat
  | none => audioPacketPayloadBytes
  | some layer => layer.packetPayloadLen

/-- Packets a peer of a workload sends on an RTP stream. -/
def offeredOn (work : Workload) (peer : Nat) : Option VideoLayer → Nat
  | none => if peer < work.audioPublishers then work.audioPackets else 0
  | some layer => if peer < work.videoPublishers then work.layerPackets layer else 0

/-- What a peer's measured packets are: each on its own stream with that stream's
length, and every stream numbered from zero. -/
structure Offers (work : Workload) (room peer : Nat) (sent : List Sent) : Prop where
  phases : ∀ packet ∈ sent, packet.identity.phase = .measured
  keys : ∀ packet ∈ sent, sentKey packet = streamKey (work.sourceOf room peer) packet.rtpStream
  bytes : ∀ packet ∈ sent, packet.payload.length = streamBytes packet.rtpStream
  ordinals : ∀ stream, sentOrdinals sent (streamKey (work.sourceOf room peer) stream) =
    List.range (offeredOn work peer stream)

/-- Of one source, the key of a stream says which stream it is: audio and the two layers have
three different tags. -/
theorem streamKey_injective {source : UInt16} {stream other : Option VideoLayer}
    (same : streamKey source stream = streamKey source other) : stream = other := by
  cases stream <;> cases other <;> simp_all [streamKey]

/-- A source's stream among keyed packets is picked out by the RTP stream alone. -/
theorem sentOrdinals_eq {source : UInt16} {sent : List Sent}
    (keys : ∀ packet ∈ sent, sentKey packet = streamKey source packet.rtpStream)
    (stream : Option VideoLayer) : sentOrdinals sent (streamKey source stream) =
      (sent.filter (fun packet => packet.rtpStream = stream)).map
        (fun packet => packet.identity.ordinal.toNat) := by
  rw [sentOrdinals]
  congr 1
  refine List.filter_congr (fun packet member => ?_)
  rw [keys packet member, decide_eq_decide]
  exact ⟨streamKey_injective, congrArg _⟩

/-- Warmup keeps a source's identity and its measured ordinals; a new source has
sent none. -/
theorem warm_video (source : UInt16) (timeline : MediaTimeline) (frames : List UInt32)
    (layer : VideoLayer) :
    let warm := (videoRun rtp { VideoSource.new source with timeline := timeline }
      (frames.map (Prod.mk .warmup))).2.resetTimeline
    warm.source = source ∧ ordinalOf warm .measured layer = 0 := by
  have advanced := videoRun_advances rtp { VideoSource.new source with timeline := timeline }
    .warmup frames layer
  have kept := (videoRun_identity rtp { VideoSource.new source with timeline := timeline }
    .warmup frames).2
  have zero := advanced.otherPhase .measured (by decide)
  refine ⟨kept, ?_⟩
  cases layer <;> exact zero

/-- Warming audio up and resetting its timeline leaves the source its identity. -/
theorem warm_audio (source : UInt16) (timeline : MediaTimeline) (ordinals : List UInt32) :
    (audioRun rtp { AudioSource.new source with timeline := timeline }
      (ordinals.map (Prod.mk .warmup))).2.resetTimeline.source = source :=
  (audioRun_identity rtp { AudioSource.new source with timeline := timeline } .warmup ordinals).2

/-- A counter from zero to its total. -/
theorem remaining_zero (total : UInt32) :
    remaining 0 total = (List.range total.toNat).map UInt32.ofNat := by
  rw [remaining, UInt32.toNat_zero, Nat.sub_zero, List.range_eq_range']

section
variable (work : Workload) {room peer : Nat} {task : PeerTask}

/-- The measured frames of a publisher carry the plan's packets on each layer. -/
theorem measured_total (assigned : work.Assigned room peer task) (layer : VideoLayer) :
    fragmentTotal layer (remaining 0 task.media.videoFrameCount) = work.layerPackets layer := by
  have few := work.secondsBound
  rw [remaining_zero, assigned.videoFrameCount,
    fragmentTotal_range layer (by simp only [Workload.frames]; omega)]
  cases layer <;> rfl

/-- The measured audio packets of a peer, after any warmup. -/
theorem audio_offer (rtp : RtpConstants) (assigned : work.Assigned room peer task)
    (audioOrdinals videoFrames : List UInt32) :
    let media := resetTimelines (warmup rtp task.media audioOrdinals videoFrames).2
    (∀ packet ∈ audioRest rtp media 0, packet.identity.phase = .measured ∧
      identityKey packet.identity = streamKey (work.sourceOf room peer) none ∧
        packet.payload.length = streamBytes none) ∧
    (audioRest rtp media 0).map (fun packet => packet.identity.ordinal.toNat) =
      List.range (offeredOn work peer none) := by
  obtain ⟨timeline, audio⟩ := assigned.audio
  by_cases publishing : peer < work.audioPublishers
  · have identity := audioRun_identity rtp
      (audioRun rtp { AudioSource.new (work.sourceOf room peer) with timeline := timeline }
        (audioOrdinals.map (Prod.mk .warmup))).2.resetTimeline .measured
      (remaining 0 task.media.audioPacketCount)
    have numbers := audioRun_numbers rtp
      (audioRun rtp { AudioSource.new (work.sourceOf room peer) with timeline := timeline }
        (audioOrdinals.map (Prod.mk .warmup))).2.resetTimeline .measured
      (remaining 0 task.media.audioPacketCount)
    rw [if_pos publishing] at audio
    simp only [resetTimelines, warmup, audio, Option.map_some, audioRest, offeredOn, publishing,
      if_true]
    rw [warm_audio] at identity
    refine ⟨fun packet member => ?_, ?_⟩
    · exact identity.1 packet member
    · have fits := work.audioBound
      have ordinals := congrArg (List.map UInt32.toNat) numbers.1
      rw [List.map_map] at ordinals
      refine ordinals.trans ?_
      rw [remaining_zero, assigned.audioPacketCount, List.map_map]
      refine (List.map_congr_left (fun index member => ?_)).trans (List.map_id _)
      have below := List.mem_range.mp member
      rw [Function.comp_apply, UInt32.toNat_ofNat', id_eq]
      omega
  · rw [if_neg publishing] at audio
    simp [resetTimelines, warmup, audio, audioRest, offeredOn, publishing]

/-- The measured video packets of a peer, after any warmup. -/
theorem video_offer (rtp : RtpConstants) (assigned : work.Assigned room peer task)
    (audioOrdinals videoFrames : List UInt32) :
    let media := resetTimelines (warmup rtp task.media audioOrdinals videoFrames).2
    (∀ packet ∈ videoRest rtp media 0, packet.identity.phase = .measured ∧
      identityKey packet.identity = streamKey (work.sourceOf room peer) (some packet.layer) ∧
        packet.payload.length = streamBytes (some packet.layer)) ∧
    ∀ layer, (onLayer layer (videoRest rtp media 0)).map
        (fun packet => packet.identity.ordinal.toNat) =
      List.range (offeredOn work peer (some layer)) := by
  obtain ⟨timeline, video⟩ := assigned.video
  by_cases publishing : peer < work.videoPublishers
  · have identity := videoRun_identity rtp
      (videoRun rtp { VideoSource.new (work.sourceOf room peer) with timeline := timeline }
        (videoFrames.map (Prod.mk .warmup))).2.resetTimeline .measured
      (remaining 0 task.media.videoFrameCount)
    have advances := videoRun_advances rtp
      (videoRun rtp { VideoSource.new (work.sourceOf room peer) with timeline := timeline }
        (videoFrames.map (Prod.mk .warmup))).2.resetTimeline .measured
      (remaining 0 task.media.videoFrameCount)
    rw [if_pos publishing] at video
    simp only [resetTimelines, warmup, video, Option.map_some, videoRest, offeredOn, publishing,
      if_true]
    refine ⟨fun packet member => ?_, fun layer => ?_⟩
    · obtain ⟨phase, key, bytes⟩ := identity.1 packet member
      rw [(warm_video _ timeline videoFrames .low).1] at key
      exact ⟨phase, key, bytes⟩
    · have bounded := work.layerPackets_bound layer (by omega)
      rw [(advances layer).ordinals, (warm_video _ timeline videoFrames layer).2,
        measured_total work assigned, UInt32.toNat_zero, wrapped_eq_range' (by omega),
        List.range_eq_range']
  · rw [if_neg publishing] at video
    simp [resetTimelines, warmup, video, videoRest, offeredOn, publishing, onLayer]

/-- Whatever warmup came first, a peer's measured loop ends and offers exactly its
streams. -/
theorem measured_offers (rtp : RtpConstants) (assigned : work.Assigned room peer task)
    (audioOrdinals videoFrames : List UInt32) :
    ∃ sent, measuredAfter rtp task.media audioOrdinals videoFrames = .ok sent ∧
      Offers work room peer sent := by
  obtain ⟨audioFacts, audioOrdinal⟩ := audio_offer work rtp assigned audioOrdinals videoFrames
  obtain ⟨videoFacts, videoOrdinal⟩ := video_offer work rtp assigned audioOrdinals videoFrames
  obtain ⟨sent, looped, audio, video⟩ := mediaLoop_sends rtp
    (resetTimelines (warmup rtp task.media audioOrdinals videoFrames).2) 0 0
  have facts : ∀ packet ∈ sent, packet.identity.phase = .measured ∧
      sentKey packet = streamKey (work.sourceOf room peer) packet.rtpStream ∧
        packet.payload.length = streamBytes packet.rtpStream := by
    intro packet member
    cases packet with
    | audio packet =>
      apply audioFacts packet
      rw [← audio]
      exact List.mem_filterMap.mpr ⟨_, member, rfl⟩
    | video packet =>
      apply videoFacts packet
      rw [← video]
      exact List.mem_filterMap.mpr ⟨_, member, rfl⟩
  refine ⟨sent, looped, fun packet member => (facts packet member).1,
    fun packet member => (facts packet member).2.1,
    fun packet member => (facts packet member).2.2, fun stream => ?_⟩
  rw [sentOrdinals_eq (fun packet member => (facts packet member).2.1)]
  cases stream with
  | none => rw [filter_audio, audio, List.map_map, ← audioOrdinal]; rfl
  | some layer => rw [filter_video, video, List.map_map, ← videoOrdinal]; rfl

/-- Packets add up stream by stream. -/
theorem sum_by_stream (sent : List Sent) (weight : Option VideoLayer → Nat) :
    (sent.map (fun packet => weight packet.rtpStream)).sum =
      (sent.filter (fun packet => packet.rtpStream = none)).length * weight none +
      ((sent.filter (fun packet => packet.rtpStream = some .low)).length * weight (some .low) +
        (sent.filter (fun packet => packet.rtpStream = some .high)).length *
          weight (some .high)) := by
  induction sent with
  | nil => simp
  | cons packet rest inductionHypothesis =>
    rw [List.map_cons, List.sum_cons, inductionHypothesis]
    cases stream : packet.rtpStream with
    | none => simp [stream, Nat.add_mul]; omega
    | some layer => cases layer <;> simp [stream, Nat.add_mul] <;> omega

/-- A weight on streams, added up over what a peer offers. -/
theorem offers_total {sent : List Sent} (offers : Offers work room peer sent)
    (weight : Option VideoLayer → Nat) :
    (sent.map (fun packet => weight packet.rtpStream)).sum =
      offeredOn work peer none * weight none +
      (offeredOn work peer (some .low) * weight (some .low) +
        offeredOn work peer (some .high) * weight (some .high)) := by
  have count (stream : Option VideoLayer) :
      (sent.filter (fun packet => packet.rtpStream = stream)).length =
        offeredOn work peer stream := by
    have ordinals := congrArg List.length (offers.ordinals stream)
    rw [sentOrdinals_eq offers.keys, List.length_map, List.length_range] at ordinals
    exact ordinals
  rw [sum_by_stream, count, count, count]

/-- The packets a peer sent, counted stream by stream: audio, low layer, high layer. -/
theorem offers_packets {sent : List Sent} (offers : Offers work room peer sent) :
    sent.length = offeredOn work peer none * 1 +
      (offeredOn work peer (some .low) * 1 + offeredOn work peer (some .high) * 1) := by
  have total := offers_total work offers (fun _ => 1)
  rw [List.map_const', List.sum_replicate, smul_eq_mul, Nat.mul_one] at total
  exact total

/-- And their bytes: each stream's packets at that stream's payload size. -/
theorem offers_bytes {sent : List Sent} (offers : Offers work room peer sent) :
    (sent.map (fun packet => packet.payload.length)).sum =
      offeredOn work peer none * streamBytes none +
        (offeredOn work peer (some .low) * streamBytes (some .low) +
          offeredOn work peer (some .high) * streamBytes (some .high)) := by
  rw [List.map_congr_left offers.bytes]
  exact offers_total work offers streamBytes

/-- The streams a peer sends anything on. -/
theorem sentStreams_eq {sent : List Sent} (offers : Offers work room peer sent) :
    (sent.map sentKey).toFinset.card =
      (if peer < work.audioPublishers then 1 else 0) +
        (if peer < work.videoPublishers then 2 else 0) := by
  have present (stream : Option VideoLayer) :
      streamKey (work.sourceOf room peer) stream ∈ (sent.map sentKey).toFinset ↔
        0 < offeredOn work peer stream := by
    have size := congrArg List.length (offers.ordinals stream)
    rw [sentOrdinals, List.length_map, List.length_range] at size
    rw [← size, List.length_pos_iff_exists_mem, List.mem_toFinset, List.mem_map]
    simp only [List.mem_filter, decide_eq_true_eq]
  have audio : 0 < offeredOn work peer none ↔ peer < work.audioPublishers := by
    have working := work.audioWork
    simp only [offeredOn]
    split
    · next publishing =>
      have positive := working (by omega)
      simp [publishing, positive]
    · next silent => simp [silent]
  have video (layer : VideoLayer) :
      0 < offeredOn work peer (some layer) ↔ peer < work.videoPublishers := by
    simp only [offeredOn]
    split
    · next publishing =>
      have positive := (work.layerPackets_bound layer (by omega)).1
      simp [publishing, positive]
    · next silent => simp [silent]
  have streams : (sent.map sentKey).toFinset =
      (if peer < work.audioPublishers then {streamKey (work.sourceOf room peer) none} else ∅) ∪
        (if peer < work.videoPublishers then
          {streamKey (work.sourceOf room peer) (some .low),
            streamKey (work.sourceOf room peer) (some .high)} else ∅) := by
    ext key
    constructor
    · intro member
      obtain ⟨packet, inside, rfl⟩ := List.mem_map.mp (List.mem_toFinset.mp member)
      rw [offers.keys packet inside] at member ⊢
      have some' := (present _).mp member
      cases stream : packet.rtpStream with
      | none =>
        rw [stream] at some'
        simp [audio.mp some']
      | some layer =>
        rw [stream] at some'
        cases layer <;> simp [(video _).mp some']
    · intro member
      rcases Finset.mem_union.mp member with heard | seen
      · split at heard
        · next publishing =>
          rw [Finset.mem_singleton.mp heard]
          exact (present none).mpr (audio.mpr publishing)
        · cases heard
      · split at seen
        · next publishing =>
          rcases Finset.mem_insert.mp seen with rfl | high
          · exact (present _).mpr ((video _).mpr publishing)
          · rw [Finset.mem_singleton.mp high]
            exact (present _).mpr ((video _).mpr publishing)
        · cases seen
  rw [streams]
  split <;> split <;> simp [streamKey]

/-- A peer's offers, added up over all peers of all rooms. -/
theorem run_offers_total (weight : Option VideoLayer → Nat) :
    ∑ _room ∈ Finset.range work.rooms, ∑ peer ∈ Finset.range work.peers,
      (offeredOn work peer none * weight none +
        (offeredOn work peer (some .low) * weight (some .low) +
          offeredOn work peer (some .high) * weight (some .high))) =
    work.rooms * (work.audioPublishers * (work.audioPackets * weight none) +
      work.videoPublishers * (work.lowPackets * weight (some .low) +
        work.highPackets * weight (some .high))) := by
  have audio := sum_first work.audioInside (work.audioPackets * weight none)
  have low := sum_first work.videoInside (work.lowPackets * weight (some .low))
  have high := sum_first work.videoInside (work.highPackets * weight (some .high))
  have each (peer : Nat) : offeredOn work peer none * weight none +
      (offeredOn work peer (some .low) * weight (some .low) +
        offeredOn work peer (some .high) * weight (some .high)) =
      (if peer < work.audioPublishers then work.audioPackets * weight none else 0) +
      ((if peer < work.videoPublishers then work.lowPackets * weight (some .low) else 0) +
        (if peer < work.videoPublishers then work.highPackets * weight (some .high) else 0)) := by
    simp only [offeredOn, Workload.layerPackets, ite_mul, Nat.zero_mul]
  simp only [each, Finset.sum_add_distrib, audio, low, high, Finset.sum_const, Finset.card_range,
    smul_eq_mul, Nat.mul_add]

end

/-- Audio packets per stream, as the room functions hand them out. -/
def audioPacketsPerStream : ScenarioSpec → Nat
  | .smoke _ packets => packets.toNat
  | .audioMesh _ _ seconds => 50 * seconds.toNat
  | .videoGallery _ _ _ _ => 0
  | .mixedConference _ _ _ _ seconds => 50 * seconds.toNat

/-- The duration whose layer counts the room functions hand out. -/
def videoSeconds : ScenarioSpec → UInt32
  | .smoke _ _ => 0
  | .audioMesh _ _ _ => 0
  | .videoGallery _ _ _ seconds => seconds
  | .mixedConference _ _ _ _ seconds => seconds

/-- What the plan calls the audio packets of a stream is the number the workload gives its
audio publishers. -/
theorem audioPacketsPerStream_eq (spec : ScenarioSpec) (valid : spec.validate = .ok ()) :
    audioPacketsPerStream spec = (spec.workload valid).audioPackets := by
  cases spec <;> simp [audioPacketsPerStream, ScenarioSpec.workload, Nat.mul_comm]

/-- The plan's packets per layer are those of the workload; a valid scenario is what keeps
the multiplication below the overflow. -/
theorem layers_of_valid (spec : ScenarioSpec) (valid : spec.validate = .ok ()) :
    ∃ low high, videoPacketsPerLayer (videoSeconds spec) = .ok (low, high) ∧
      low.toNat = (spec.workload valid).lowPackets ∧
      high.toNat = (spec.workload valid).highPackets := by
  have seconds : (spec.workload valid).seconds = (videoSeconds spec).toNat := by
    cases spec <;> rfl
  have none : videoPacketsPerLayer 0 = .ok (0, 0) := by decide
  have computed : ∃ low high, videoPacketsPerLayer (videoSeconds spec) = .ok (low, high) := by
    cases spec with
    | smoke => exact ⟨0, 0, none⟩
    | audioMesh => exact ⟨0, 0, none⟩
    | videoGallery rooms peers publishers seconds =>
      obtain ⟨plan, planned, _⟩ := ScenarioSpec.plan_counted _ valid
      obtain ⟨low, high, layers, _⟩ := videoPlan_eq_ok planned
      exact ⟨low, high, layers⟩
    | mixedConference rooms peers audioPublishers videoPublishers seconds =>
      obtain ⟨plan, planned, _⟩ := ScenarioSpec.plan_counted _ valid
      obtain ⟨_, _, _, videoPlanned, _⟩ := mixedPlan_eq_ok planned
      obtain ⟨low, high, layers, _⟩ := videoPlan_eq_ok videoPlanned
      exact ⟨low, high, layers⟩
  obtain ⟨low, high, layers⟩ := computed
  exact ⟨low, high, layers, layers_counted (spec.workload valid) layers seconds⟩

/-- A packet is only sent on a stream the peer publishes. -/
theorem Offers.active {work : Workload} {room peer : Nat} {sent : List Sent}
    (offers : Offers work room peer sent) :
    ∀ packet ∈ sent, 0 < offeredOn work peer packet.rtpStream := by
  intro packet member
  have size := congrArg List.length (offers.ordinals packet.rtpStream)
  rw [sentOrdinals, List.length_map, List.length_range] at size
  rw [← size]
  exact List.length_pos_of_mem
    (List.mem_filter.mpr ⟨member, decide_eq_true (offers.keys packet member)⟩)

/-- An assigned audio source publishes under its peer's id. -/
theorem audio_of_assigned {work : Workload} {room peer : Nat} {task : PeerTask}
    (assigned : work.Assigned room peer task) {source : AudioSource}
    (present : task.media.audio = some source) :
    peer < work.audioPublishers ∧ source.source = work.sourceOf room peer := by
  obtain ⟨timeline, audio⟩ := assigned.audio
  rw [present] at audio
  split at audio
  · next publishing =>
    rw [Option.some.inj audio]
    exact ⟨publishing, rfl⟩
  · cases audio

/-- A peer with a video source is one of the video publishers of its room, and the source is
the one of its place there. -/
theorem video_of_assigned {work : Workload} {room peer : Nat} {task : PeerTask}
    (assigned : work.Assigned room peer task) {source : VideoSource}
    (present : task.media.video = some source) :
    peer < work.videoPublishers ∧ source.source = work.sourceOf room peer := by
  obtain ⟨timeline, video⟩ := assigned.video
  rw [present] at video
  split at video
  · next publishing =>
    rw [Option.some.inj video]
    exact ⟨publishing, rfl⟩
  · cases video

/-- A peer that owes audio packets has been given the source that sends them. -/
theorem assigned_audio {work : Workload} {room peer : Nat} {task : PeerTask}
    (assigned : work.Assigned room peer task) (active : 0 < offeredOn work peer none) :
    ∃ source, task.media.audio = some source ∧ source.source = work.sourceOf room peer := by
  obtain ⟨timeline, audio⟩ := assigned.audio
  simp only [offeredOn] at active
  split at active
  · next publishing =>
    rw [if_pos publishing] at audio
    exact ⟨_, audio, rfl⟩
  · cases active

/-- A peer that owes packets of a layer has been given the video source. -/
theorem assigned_video {work : Workload} {room peer : Nat} {task : PeerTask} {layer : VideoLayer}
    (assigned : work.Assigned room peer task) (active : 0 < offeredOn work peer (some layer)) :
    ∃ source, task.media.video = some source ∧ source.source = work.sourceOf room peer := by
  obtain ⟨timeline, video⟩ := assigned.video
  simp only [offeredOn] at active
  split at active
  · next publishing =>
    rw [if_pos publishing] at video
    exact ⟨_, video, rfl⟩
  · cases active

/-- The stream counts receivers expect are the ones their publishers offer. -/
theorem offered_as_expected {work : Workload} {room peer listener : Nat} {sent : List Sent}
    (offers : Offers work room peer sent) (roomInside : room < work.rooms)
    (peerInside : peer < work.peers) {stream : ExpectedStream}
    (expected : stream ∈ work.expectedOf room listener)
    (source : stream.source = work.sourceOf room peer) :
    sentOrdinals sent stream.key = List.range stream.seen.length := by
  rw [Workload.expectedOf, List.mem_append, List.mem_map, List.mem_map] at expected
  have same {index : Nat} (inside : index < work.peers)
      (equal : work.sourceOf room index = work.sourceOf room peer) : index = peer :=
    (work.sourceOf_injective roomInside inside roomInside peerInside equal).2
  rcases expected with ⟨index, heard, rfl⟩ | ⟨index, seen, rfl⟩
  · obtain rfl := same (inside_of_others work work.audioInside heard) source
    have publishing := ((mem_others _ _ _).mp heard).1
    have ordinals := offers.ordinals none
    rw [offeredOn, if_pos publishing] at ordinals
    rw [Workload.audioStream, List.length_replicate]
    exact ordinals
  · obtain rfl := same (inside_of_others work work.videoInside seen) source
    have publishing := ((mem_others _ _ _).mp seen).1
    have ordinals := offers.ordinals (some (work.layerOf listener index))
    rw [offeredOn, if_pos publishing] at ordinals
    rw [Workload.videoStream, List.length_replicate]
    exact ordinals

/-- What each peer of a run sends, wherever there is one. -/
theorem run_sends (work : Workload) {rooms : List Room}
    (furnished : List.Forall₂ work.Furnished (List.range work.rooms) rooms) (rtp : RtpConstants)
    (audioWarmup videoWarmup : Nat → Nat → List UInt32) :
    ∃ sent : Nat → Nat → List Sent,
      ∀ (roomIndex : Nat) (room : Room), rooms[roomIndex]? = some room →
      ∀ (peer : Nat) (task : PeerTask), room.tasks[peer]? = some task →
      measuredAfter rtp task.media (audioWarmup roomIndex peer) (videoWarmup roomIndex peer) =
        .ok (sent roomIndex peer) ∧ Offers work roomIndex peer (sent roomIndex peer) := by
  have each : ∀ roomIndex peer, ∃ sent, ∀ room, rooms[roomIndex]? = some room → ∀ task,
      room.tasks[peer]? = some task →
      measuredAfter rtp task.media (audioWarmup roomIndex peer) (videoWarmup roomIndex peer) =
        .ok sent ∧ Offers work roomIndex peer sent := by
    intro roomIndex peer
    cases roomLocated : rooms[roomIndex]? with
    | none => exact ⟨[], fun room located => by cases located⟩
    | some room =>
      cases taskLocated : room.tasks[peer]? with
      | none =>
        refine ⟨[], fun other located task taskThere => ?_⟩
        rw [← Option.some.inj located, taskLocated] at taskThere
        cases taskThere
      | some task =>
        obtain ⟨_, _, _, assigned⟩ := Workload.furnished_task furnished roomLocated taskLocated
        obtain ⟨sent, looped, offers⟩ := measured_offers work rtp assigned
          (audioWarmup roomIndex peer) (videoWarmup roomIndex peer)
        refine ⟨sent, fun other located otherTask taskThere => ?_⟩
        obtain rfl := Option.some.inj located
        rw [taskLocated] at taskThere
        obtain rfl := Option.some.inj taskThere
        exact ⟨looped, offers⟩
  choose sent sends using each
  exact ⟨sent, fun roomIndex room roomLocated peer task taskLocated =>
    sends roomIndex peer room roomLocated task taskLocated⟩

/-- Senders agree with the plan. After any warmup, every publisher's measured loop
ends; each of its streams is numbered 0, …, n-1 in emission order with the n its
receivers expect; and streams, packets and bytes add up to the plan's. -/
theorem senders_agree_with_plan (rtp : RtpConstants) (spec : ScenarioSpec)
    (valid : spec.validate = .ok ()) (audioWarmup videoWarmup : Nat → Nat → List UInt32) :
    ∃ plan rooms low high, spec.plan = .ok plan ∧ run spec = .ok rooms ∧
    videoPacketsPerLayer (videoSeconds spec) = .ok (low, high) ∧
    ∃ sent : Nat → Nat → List Sent,
    (∀ (roomIndex : Nat) (room : Room), rooms[roomIndex]? = some room →
      ∀ (peer : Nat) (task : PeerTask), room.tasks[peer]? = some task →
      measuredAfter rtp task.media (audioWarmup roomIndex peer) (videoWarmup roomIndex peer) =
        .ok (sent roomIndex peer) ∧
      (∀ source, task.media.audio = some source →
        sentOrdinals (sent roomIndex peer) (source.source, .audio, none) =
          List.range (audioPacketsPerStream spec)) ∧
      (∀ source, task.media.video = some source →
        sentOrdinals (sent roomIndex peer) (source.source, .video, some .low) =
          List.range low.toNat ∧
        sentOrdinals (sent roomIndex peer) (source.source, .video, some .high) =
          List.range high.toNat) ∧
      (∀ packet ∈ sent roomIndex peer, packet.identity.phase = .measured ∧
        ((∃ source, task.media.audio = some source ∧
          sentKey packet = (source.source, .audio, none)) ∨
        ∃ source layer, task.media.video = some source ∧
          sentKey packet = (source.source, .video, some layer))) ∧
      ∀ (listener : Nat) (listenerTask : PeerTask), room.tasks[listener]? = some listenerTask →
        ∀ stream ∈ listenerTask.expected,
        sourceId (UInt32.ofNat roomIndex) spec.peersPerRoom peer = .ok stream.source →
        sentOrdinals (sent roomIndex peer) stream.key = List.range stream.seen.length) ∧
    ∑ room ∈ Finset.range spec.roomCount.toNat, ∑ peer ∈ Finset.range spec.peersPerRoom.toNat,
      ((sent room peer).map sentKey).toFinset.card = plan.streams.toNat ∧
    ∑ room ∈ Finset.range spec.roomCount.toNat, ∑ peer ∈ Finset.range spec.peersPerRoom.toNat,
      (sent room peer).length = plan.offeredPackets.toNat ∧
    ∑ room ∈ Finset.range spec.roomCount.toNat, ∑ peer ∈ Finset.range spec.peersPerRoom.toNat,
      ((sent room peer).map (fun packet => packet.payload.length)).sum =
        plan.offeredPayloadBytes.toNat := by
  obtain ⟨plan, planned, counted, _⟩ := spec.plan_counted valid
  obtain ⟨rooms, ran, furnished⟩ := run_furnished spec valid
  obtain ⟨low, high, layers, lowNat, highNat⟩ := layers_of_valid spec valid
  have packets := audioPacketsPerStream_eq spec valid
  have roomCount := spec.workload_rooms valid
  have peerCount := spec.workload_peers valid
  generalize spec.workload valid = work at *
  obtain ⟨sent, sends⟩ := run_sends work furnished rtp audioWarmup videoWarmup
  have offersAt : ∀ room < work.rooms, ∀ peer < work.peers,
      Offers work room peer (sent room peer) := by
    intro roomIndex roomInside peer peerInside
    have roomsLength := furnished.length_eq
    rw [List.length_range] at roomsLength
    have roomLocated := List.getElem?_eq_getElem (roomsLength ▸ roomInside)
    obtain ⟨_, whole⟩ := forall₂_range_getElem? furnished roomLocated
    have tasksLength := whole.tasks.length_eq
    rw [List.length_range] at tasksLength
    have taskLocated := List.getElem?_eq_getElem (tasksLength ▸ peerInside)
    exact (sends roomIndex _ roomLocated peer _ taskLocated).2
  have overPeers (left right : Nat → Nat → Nat)
      (same : ∀ room < work.rooms, ∀ peer < work.peers, left room peer = right room peer) :
      ∑ room ∈ Finset.range work.rooms, ∑ peer ∈ Finset.range work.peers, left room peer =
        ∑ room ∈ Finset.range work.rooms, ∑ peer ∈ Finset.range work.peers, right room peer :=
    Finset.sum_congr rfl (fun room roomInside => Finset.sum_congr rfl (fun peer peerInside =>
      same room (Finset.mem_range.mp roomInside) peer (Finset.mem_range.mp peerInside)))
  refine ⟨plan, rooms, low, high, planned, ran, layers, sent, ?_, ?_, ?_, ?_⟩
  · intro roomIndex room roomLocated peer task taskLocated
    obtain ⟨roomInside, whole, peerInside, assigned⟩ :=
      Workload.furnished_task furnished roomLocated taskLocated
    obtain ⟨looped, offers⟩ := sends roomIndex room roomLocated peer task taskLocated
    refine ⟨looped, ?_, ?_, ?_, ?_⟩
    · intro source present
      obtain ⟨publishing, id⟩ := audio_of_assigned assigned present
      have ordinals := offers.ordinals none
      rw [offeredOn, if_pos publishing, ← id, ← packets] at ordinals
      exact ordinals
    · intro source present
      obtain ⟨publishing, id⟩ := video_of_assigned assigned present
      have ordinals (layer : VideoLayer) := offers.ordinals (some layer)
      simp only [offeredOn, if_pos publishing, ← id] at ordinals
      rw [lowNat, highNat]
      exact ⟨ordinals .low, ordinals .high⟩
    · intro packet member
      refine ⟨offers.phases packet member, ?_⟩
      have active := offers.active packet member
      rw [offers.keys packet member]
      cases stream : packet.rtpStream with
      | none =>
        rw [stream] at active
        obtain ⟨source, present, id⟩ := assigned_audio assigned active
        exact Or.inl ⟨source, present, by rw [id]; rfl⟩
      | some layer =>
        rw [stream] at active
        obtain ⟨source, present, id⟩ := assigned_video assigned active
        exact Or.inr ⟨source, layer, present, by rw [id]; rfl⟩
    · intro listener listenerTask listenerLocated stream expected identified
      obtain ⟨_, listenerAssigned⟩ := forall₂_range_getElem? whole.tasks listenerLocated
      rw [work.sourceId_eq roomInside peerInside peerCount] at identified
      rw [listenerAssigned.expected] at expected
      exact offered_as_expected offers roomInside peerInside expected
        (Except.ok.inj identified).symm
  · rw [roomCount, peerCount, counted.streams]
    refine (overPeers _ _ fun room roomInside peer peerInside =>
      sentStreams_eq work (offersAt room roomInside peer peerInside)).trans ?_
    simp only [Finset.sum_add_distrib, sum_first work.audioInside, sum_first work.videoInside,
      Finset.sum_const, Finset.card_range, smul_eq_mul, Workload.streams]
    ring
  · rw [roomCount, peerCount, counted.offeredPackets]
    refine (overPeers _ _ fun room roomInside peer peerInside =>
      offers_packets work (offersAt room roomInside peer peerInside)).trans ?_
    rw [run_offers_total work (fun _ => 1)]
    simp only [Nat.mul_one, Workload.offeredPackets]
  · rw [roomCount, peerCount, counted.offeredPayloadBytes]
    refine (overPeers _ _ fun room roomInside peer peerInside =>
      offers_bytes work (offersAt room roomInside peer peerInside)).trans ?_
    rw [run_offers_total work streamBytes]
    rfl

/-- A video gallery with an odd duration, whose last group of pictures is partial. -/
theorem short_gallery_agrees :
    ∃ plan rooms, (ScenarioSpec.videoGallery 1 3 2 3).plan = .ok plan ∧
      run (ScenarioSpec.videoGallery 1 3 2 3) = .ok rooms ∧ ∃ sent : Nat → Nat → List Sent,
      ∑ room ∈ Finset.range 1, ∑ peer ∈ Finset.range 3, (sent room peer).length =
        plan.offeredPackets.toNat := by
  obtain ⟨plan, rooms, _, _, planned, ran, _, sent, _, _, packets, _⟩ :=
    senders_agree_with_plan documentedRtp (ScenarioSpec.videoGallery 1 3 2 3) (by decide)
      (fun _ _ => []) (fun _ _ => [0, 1])
  exact ⟨plan, rooms, planned, ran, sent, packets⟩

end SfuLoad.Offer
