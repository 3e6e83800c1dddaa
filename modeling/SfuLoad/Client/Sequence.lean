import SfuLoad.Client.Offer

/-!
# Extended sequence numbers

The RTP writer expects a 64-bit sequence index whose upper bits count the wraps
of the 16-bit number on the wire. The sources keep the 16-bit number only and the
sender widens it with zeros, so a stream that wraps starts over at index zero.
Which validated scenarios stay below the wrap follows from the packets each
stream sends, warmup included, and from the high layer's start at 30000.
-/

namespace SfuLoad.Sequence

open Kit Kit.Fallible Kit.Wrapping Generated Identity Media Model Rooms Sender Emission Offer

/-- The indices one RTP stream hands to the writer, in order. -/
def rtpSequences (sent : List Sent) (stream : Option VideoLayer) : List Nat :=
  (sent.filter (fun packet => packet.rtpStream = stream)).map
    (fun packet => packet.extendedSequence.toNat)

/-- Every RTP stream of every peer hands out strictly increasing indices. -/
def SequencesIncrease (rtp : RtpConstants) (rooms : List Room) : Prop :=
  ∀ room ∈ rooms, ∀ task ∈ room.tasks, ∃ sent, runMediaPeer rtp task.media = .ok sent ∧
    ∀ stream, (rtpSequences sent stream).Pairwise (· < ·)

/-- The scenario's longest stream ends below the wrap. -/
def SequencesFit : ScenarioSpec → Prop
  | .smoke _ packets => packets.toNat ≤ 65531
  | .audioMesh _ _ seconds => seconds.toNat ≤ 1310
  | .videoGallery _ _ _ seconds => seconds.toNat ≤ 83
  | .mixedConference _ _ _ _ seconds => seconds.toNat ≤ 83

/-- The condition can be evaluated on a scenario. -/
instance : (spec : ScenarioSpec) → Decidable (SequencesFit spec)
  | .smoke _ packets => inferInstanceAs (Decidable (packets.toNat ≤ 65531))
  | .audioMesh _ _ seconds => inferInstanceAs (Decidable (seconds.toNat ≤ 1310))
  | .videoGallery _ _ _ seconds => inferInstanceAs (Decidable (seconds.toNat ≤ 83))
  | .mixedConference _ _ _ _ seconds => inferInstanceAs (Decidable (seconds.toNat ≤ 83))

/-- The numbers written for audio, in the order sent. -/
theorem rtpSequences_audio (sent : List Sent) : rtpSequences sent none =
    (sent.filterMap audioOf).map (fun packet => packet.sequenceNumber.toNat) := by
  rw [rtpSequences, filter_audio, List.map_map]
  refine List.map_congr_left (fun packet _ => ?_)
  simp [Sent.extendedSequence]

/-- The numbers written for one layer, in the order sent. -/
theorem rtpSequences_video (sent : List Sent) (layer : VideoLayer) :
    rtpSequences sent (some layer) = (onLayer layer (sent.filterMap videoOf)).map
      (fun packet => packet.sequenceNumber.toNat) := by
  rw [rtpSequences, filter_video, List.map_map]
  refine List.map_congr_left (fun packet _ => ?_)
  simp [Sent.extendedSequence]

/-- Where a stream's numbers start. -/
def firstSequence : Option VideoLayer → Nat
  | none => 0
  | some .low => 0
  | some .high => 30000

/-- Warmup packets of a publisher on a stream. -/
def warmupOn : Option VideoLayer → Nat
  | none => 5
  | some .low => 3
  | some .high => 34

/-- All packets of a peer on a stream. -/
def sequenceCount (work : Workload) (peer : Nat) : Option VideoLayer → Nat
  | none => if peer < work.audioPublishers then warmupOn none + work.audioPackets else 0
  | some layer =>
    if peer < work.videoPublishers then warmupOn (some layer) + work.layerPackets layer else 0

section
variable (work : Workload) {room peer : Nat} {task : PeerTask}

/-- The warmup's and the loop's packets by kind. -/
theorem runMediaPeer_sends (rtp : RtpConstants) (media : PeerMedia) :
    ∃ sent, runMediaPeer rtp media = .ok sent ∧
      sent.filterMap audioOf = (sendWarmup rtp media).1.filterMap audioOf ++
        audioRest rtp (resetTimelines (sendWarmup rtp media).2) 0 ∧
      sent.filterMap videoOf = (sendWarmup rtp media).1.filterMap videoOf ++
        videoRest rtp (resetTimelines (sendWarmup rtp media).2) 0 := by
  obtain ⟨measured, looped, audio, video⟩ :=
    mediaLoop_sends rtp (resetTimelines (sendWarmup rtp media).2) 0 0
  refine ⟨(sendWarmup rtp media).1 ++ measured, ?_, ?_, ?_⟩
  · rw [runMediaPeer]
    simp only [looped, ok_bind]
    rfl
  · rw [List.filterMap_append, audio]
  · rw [List.filterMap_append, video]

/-- The warmup's audio packets are one run of the audio source over the warmup ordinals;
there are none without a source. -/
theorem warmup_audio (rtp : RtpConstants) (media : PeerMedia) :
    (sendWarmup rtp media).1.filterMap audioOf = match media.audio with
      | none => []
      | some source => (audioRun rtp source
          (((List.range warmupAudioPackets).map UInt32.ofNat).map (Prod.mk .warmup))).1 := by
  cases audio : media.audio <;>
    simp [sendWarmup, warmup, audio, List.filterMap_map, Function.comp_def]

/-- The warmup's video packets are one run of the video source over the warmup frames. -/
theorem warmup_video (rtp : RtpConstants) (media : PeerMedia) :
    (sendWarmup rtp media).1.filterMap videoOf = match media.video with
      | none => []
      | some source => (videoRun rtp source
          (((List.range warmupVideoFrames).map UInt32.ofNat).map
            (Prod.mk .warmup))).1.flatten := by
  cases video : media.video <;>
    simp [sendWarmup, warmup, video, List.filterMap_map, Function.comp_def]

/-- The measured loop still has this many calls to make of a source. -/
theorem remaining_length (next total : UInt32) :
    (remaining next total).length = total.toNat - next.toNat := by
  rw [remaining, List.length_map, List.length_range']

/-- The audio stream's numbers, warmup first. -/
theorem audio_sequences (rtp : RtpConstants) (assigned : work.Assigned room peer task) :
    ((sendWarmup rtp task.media).1.filterMap audioOf ++
        audioRest rtp (resetTimelines (sendWarmup rtp task.media).2) 0).map
      (fun packet => packet.sequenceNumber.toNat) =
    wrapped (2 ^ 16) (firstSequence none) (sequenceCount work peer none) := by
  obtain ⟨timeline, audio⟩ := assigned.audio
  by_cases publishing : peer < work.audioPublishers
  · rw [if_pos publishing] at audio
    obtain ⟨_, begun, next⟩ := audioRun_numbers rtp
      { AudioSource.new (work.sourceOf room peer) with timeline := timeline } .warmup
      ((List.range warmupAudioPackets).map UInt32.ofNat)
    obtain ⟨_, continued, _⟩ := audioRun_numbers rtp
      (audioRun rtp { AudioSource.new (work.sourceOf room peer) with timeline := timeline }
        (((List.range warmupAudioPackets).map UInt32.ofNat).map (Prod.mk .warmup))).2.resetTimeline
      .measured (remaining 0 task.media.audioPacketCount)
    rw [warmup_audio, List.map_append]
    simp only [resetTimelines, sendWarmup, warmup, audio, Option.map_some, audioRest, begun,
      continued]
    rw [AudioSource.resetTimeline, next, wrapped_append, sequenceCount, if_pos publishing,
      remaining_length, assigned.audioPacketCount, List.length_map, List.length_range]
    rfl
  · rw [if_neg publishing] at audio
    simp [resetTimelines, sendWarmup, warmup, audio, audioRest, sequenceCount, publishing]

/-- The frames of the warmup split into as many packets of a layer as the warmup has on it. -/
theorem warmup_total (layer : VideoLayer) :
    fragmentTotal layer ((List.range warmupVideoFrames).map UInt32.ofNat) =
      warmupOn (some layer) := by
  cases layer <;> decide

/-- A layer's numbers, warmup first. -/
theorem video_sequences (rtp : RtpConstants) (assigned : work.Assigned room peer task)
    (layer : VideoLayer) :
    (onLayer layer ((sendWarmup rtp task.media).1.filterMap videoOf ++
        videoRest rtp (resetTimelines (sendWarmup rtp task.media).2) 0)).map
      (fun packet => packet.sequenceNumber.toNat) =
    wrapped (2 ^ 16) (firstSequence (some layer)) (sequenceCount work peer (some layer)) := by
  obtain ⟨timeline, video⟩ := assigned.video
  by_cases publishing : peer < work.videoPublishers
  · rw [if_pos publishing] at video
    have begun := videoRun_advances rtp
      { VideoSource.new (work.sourceOf room peer) with timeline := timeline } .warmup
      ((List.range warmupVideoFrames).map UInt32.ofNat) layer
    have continued := videoRun_advances rtp
      (videoRun rtp { VideoSource.new (work.sourceOf room peer) with timeline := timeline }
        (((List.range warmupVideoFrames).map UInt32.ofNat).map (Prod.mk .warmup))).2.resetTimeline
      .measured (remaining 0 task.media.videoFrameCount) layer
    have kept (source : VideoSource) :
        layerState source.resetTimeline layer = layerState source layer := by
      cases layer <;> rfl
    have start : (layerState { VideoSource.new (work.sourceOf room peer) with
        timeline := timeline } layer).sequenceNumber.toNat = firstSequence (some layer) := by
      cases layer <;> rfl
    rw [warmup_video, onLayer, List.filter_append, List.map_append, ← onLayer, ← onLayer]
    simp only [resetTimelines, sendWarmup, warmup, video, Option.map_some, videoRest,
      begun.sequences, continued.sequences]
    rw [kept, begun.sequence, wrapped_append, start, warmup_total,
      measured_total work assigned, sequenceCount, if_pos publishing]
  · rw [if_neg publishing] at video
    simp [resetTimelines, sendWarmup, warmup, video, videoRest, sequenceCount, publishing, onLayer]

/-- A peer's streams number all their packets, warmup first, with one wrapping
counter each. -/
theorem rtpSequences_eq (rtp : RtpConstants) (assigned : work.Assigned room peer task) :
    ∃ sent, runMediaPeer rtp task.media = .ok sent ∧ ∀ stream,
      rtpSequences sent stream =
        wrapped (2 ^ 16) (firstSequence stream) (sequenceCount work peer stream) := by
  obtain ⟨sent, ran, audioSent, videoSent⟩ := runMediaPeer_sends rtp task.media
  refine ⟨sent, ran, fun stream => ?_⟩
  cases stream with
  | none => rw [rtpSequences_audio, audioSent, audio_sequences work rtp assigned]
  | some layer => rw [rtpSequences_video, videoSent, video_sequences work rtp assigned]

/-- A peer's streams increase exactly when none of them reaches the wrap. -/
theorem increasing_iff (rtp : RtpConstants) (assigned : work.Assigned room peer task) :
    (∃ sent, runMediaPeer rtp task.media = .ok sent ∧
      ∀ stream, (rtpSequences sent stream).Pairwise (· < ·)) ↔
    ∀ stream, firstSequence stream + sequenceCount work peer stream ≤ 2 ^ 16 := by
  obtain ⟨sent, ran, sequences⟩ := rtpSequences_eq work rtp assigned
  have inside (stream : Option VideoLayer) : firstSequence stream < 2 ^ 16 := by
    rcases stream with _ | ⟨_ | _⟩ <;> decide
  simp only [ran, Except.ok.injEq, exists_eq_left', sequences,
    wrapped_increasing_iff (inside _)]

/-- Over a whole run the first publisher decides: all publishers send alike. -/
theorem run_increases_iff (rtp : RtpConstants) {rooms : List Room}
    (furnished : List.Forall₂ work.Furnished (List.range work.rooms) rooms) :
    SequencesIncrease rtp rooms ↔
      (0 < work.audioPublishers → 5 + work.audioPackets ≤ 2 ^ 16) ∧
      (0 < work.videoPublishers → 3 + work.lowPackets ≤ 2 ^ 16 ∧
        30000 + (34 + work.highPackets) ≤ 2 ^ 16) := by
  constructor
  · intro increase
    have roomPresent := work.roomsPresent
    have peerPresent := work.peersPresent
    have roomsLength := furnished.length_eq
    rw [List.length_range] at roomsLength
    have roomInside : 0 < rooms.length := by omega
    obtain ⟨_, whole⟩ := forall₂_range_getElem? furnished (List.getElem?_eq_getElem roomInside)
    have tasksLength := whole.tasks.length_eq
    rw [List.length_range] at tasksLength
    have taskInside : 0 < (rooms[0].tasks).length := by omega
    obtain ⟨_, assigned⟩ :=
      forall₂_range_getElem? whole.tasks (List.getElem?_eq_getElem taskInside)
    have fits := (increasing_iff work rtp assigned).mp
      (increase _ (List.getElem_mem roomInside) _ (List.getElem_mem taskInside))
    refine ⟨fun publishing => ?_, fun publishing => ⟨?_, ?_⟩⟩
    · have audio := fits none
      rw [sequenceCount, if_pos publishing] at audio
      simpa [firstSequence, warmupOn] using audio
    · have low := fits (some .low)
      rw [sequenceCount, if_pos publishing] at low
      simpa [firstSequence, warmupOn, Workload.layerPackets] using low
    · have high := fits (some .high)
      rw [sequenceCount, if_pos publishing] at high
      simpa [firstSequence, warmupOn, Workload.layerPackets] using high
  · rintro ⟨audio, video⟩ room member task inside
    obtain ⟨index, roomLocated⟩ := List.mem_iff_getElem?.mp member
    obtain ⟨peer, taskLocated⟩ := List.mem_iff_getElem?.mp inside
    obtain ⟨_, _, _, assigned⟩ := Workload.furnished_task furnished roomLocated taskLocated
    refine (increasing_iff work rtp assigned).mpr (fun stream => ?_)
    rcases stream with _ | ⟨_ | _⟩ <;> simp only [sequenceCount, firstSequence, warmupOn]
    · split
      · have fits := audio (by omega)
        omega
      · omega
    · split
      · have fits := (video (by omega)).1
        simp only [Workload.layerPackets]
        omega
      · omega
    · split
      · have fits := (video (by omega)).2
        simp only [Workload.layerPackets]
        omega
      · omega

end

/-- The wrap in terms of the scenario. -/
theorem fit_iff (spec : ScenarioSpec) (valid : spec.validate = .ok ()) :
    SequencesFit spec ↔
      (0 < (spec.workload valid).audioPublishers →
        5 + (spec.workload valid).audioPackets ≤ 2 ^ 16) ∧
      (0 < (spec.workload valid).videoPublishers →
        3 + (spec.workload valid).lowPackets ≤ 2 ^ 16 ∧
        30000 + (34 + (spec.workload valid).highPackets) ≤ 2 ^ 16) := by
  cases spec with
  | smoke receivers packets =>
    simp only [SequencesFit, ScenarioSpec.workload]
    omega
  | audioMesh rooms peers seconds =>
    have bounds := ScenarioSpec.audioMesh_bounds valid
    simp only [SequencesFit, ScenarioSpec.workload]
    omega
  | videoGallery rooms peers publishers seconds =>
    have bounds := ScenarioSpec.videoGallery_bounds valid
    simp only [SequencesFit, ScenarioSpec.workload, Workload.lowPackets, Workload.highPackets,
      Workload.keyframes, Workload.frames]
    omega
  | mixedConference rooms peers audioPublishers videoPublishers seconds =>
    have bounds := ScenarioSpec.mixedConference_bounds valid
    simp only [SequencesFit, ScenarioSpec.workload, Workload.lowPackets, Workload.highPackets,
      Workload.keyframes, Workload.frames]
    omega

/-- Every peer of a validated scenario runs to its end, and the run's extended
sequence numbers increase on every stream exactly when the scenario's longest
stream fits below the wrap of the 16-bit counter. -/
theorem sequences_increase_iff (rtp : RtpConstants) (spec : ScenarioSpec)
    (valid : spec.validate = .ok ()) :
    ∃ rooms, run spec = .ok rooms ∧
      (∀ room ∈ rooms, ∀ task ∈ room.tasks, ∃ sent, runMediaPeer rtp task.media = .ok sent) ∧
      (SequencesIncrease rtp rooms ↔ SequencesFit spec) := by
  obtain ⟨rooms, ran, furnished⟩ := run_furnished spec valid
  refine ⟨rooms, ran, fun room _ task _ => ?_, ?_⟩
  · obtain ⟨sent, sends, _⟩ := runMediaPeer_sends rtp task.media
    exact ⟨sent, sends⟩
  · rw [run_increases_iff _ rtp furnished, fit_iff spec valid]

/-- Ten seconds of audio stay below the wrap. -/
theorem short_mesh_increases :
    ∃ rooms, run (.audioMesh 1 2 10) = .ok rooms ∧ SequencesIncrease documentedRtp rooms := by
  obtain ⟨rooms, ran, _, increase⟩ :=
    sequences_increase_iff documentedRtp (.audioMesh 1 2 10) (by decide)
  exact ⟨rooms, ran, increase.mpr (by decide)⟩

/-- A smoke of 65532 packets wraps: after five warmup packets its last measured
packet reuses index zero. -/
theorem long_smoke_wraps :
    ¬ ∀ spec : ScenarioSpec, spec.validate = .ok () → ∀ rooms, run spec = .ok rooms →
      SequencesIncrease documentedRtp rooms := by
  intro claim
  have valid : (ScenarioSpec.smoke 1 65532).validate = .ok () := by decide
  obtain ⟨rooms, ran, furnished⟩ := run_furnished (.smoke 1 65532) valid
  have fits := (run_increases_iff _ documentedRtp furnished).mp (claim _ valid rooms ran)
  rw [← fit_iff] at fits
  exact absurd fits (by decide)

end SfuLoad.Sequence
