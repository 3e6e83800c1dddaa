import SfuLoad.Client.Emission
import SfuLoad.Kit.Merging

/-!
# The schedule of a peer's turns

The measured loop asks whose emission is due and lets that source send. Each
source keeps a timeline of its own, so the turns are the merge of two schedules
known beforehand: a source's first slot, then one slot per interval. The warmup
moves the timelines and the reset moves them back.
-/

namespace SfuLoad.Turns

open Kit Kit.Fallible Emission Generated Identity Media Model Rooms Sender

/-- A place in a schedule: whose turn it is, the ordinal or frame number, and
when it is due. -/
structure Slot where
  turn : MediaTurn
  counter : UInt32
  emittedAt : Duration
deriving DecidableEq

/-- One slot may go before another: it is due earlier, or at the same time and
does not let a video frame pass an audio packet. -/
def Slot.due (first second : Slot) : Bool :=
  first.emittedAt < second.emittedAt ||
    (first.emittedAt == second.emittedAt && (first.turn == .audio || second.turn == .video))

/-- A turn of the loop: its slot and the packets handed to the RTP writer. -/
structure Turn where
  slot : Slot
  sent : List Sent
deriving DecidableEq

/-- The measured loop with its turns kept apart. -/
def mediaTurns (rtp : RtpConstants) (media : PeerMedia) (audioOrdinal videoFrame : UInt32) :
    Except String (List Turn) :=
  match _turn : nextTurn media audioOrdinal videoFrame with
  | none => return []
  | some .audio => do
      let source ← context media.audio "audio source is missing"
      let (packet, following) := source.nextPacket rtp .measured audioOrdinal
      let later ← mediaTurns rtp { media with audio := some following }
        (saturatingIncrement audioOrdinal) videoFrame
      return ⟨⟨.audio, audioOrdinal, source.nextEmittedAt⟩, [.audio packet]⟩ :: later
  | some .video => do
      let source ← context media.video "video source is missing"
      let (packets, following) := source.nextFrame rtp .measured videoFrame
      let later ← mediaTurns rtp { media with video := some following } audioOrdinal
        (saturatingIncrement videoFrame)
      return ⟨⟨.video, videoFrame, source.nextEmittedAt⟩, packets.map .video⟩ :: later
termination_by (media.audioPacketCount.toNat - audioOrdinal.toNat) +
  (media.videoFrameCount.toNat - videoFrame.toNat)
decreasing_by
  · obtain ⟨_, _, below⟩ := nextTurn_audio _turn
    have stepped := saturatingIncrement_toNat below
    rw [UInt32.lt_iff_toNat_lt] at below
    omega
  · obtain ⟨_, _, below⟩ := nextTurn_video _turn
    have stepped := saturatingIncrement_toNat below
    rw [UInt32.lt_iff_toNat_lt] at below
    omega

/-- The slots a timeline gives to the numbers of its source, one after the other. -/
def slotsOf (turn : MediaTurn) : MediaTimeline → List UInt32 → List Slot
  | _, [] => []
  | timeline, counter :: counters =>
      ⟨turn, counter, timeline.nextEmittedAt⟩ :: slotsOf turn timeline.advance.2 counters

/-- What the audio source has ahead of it. -/
def audioSlots (media : PeerMedia) (ordinal : UInt32) : List Slot :=
  match media.audio with
  | none => []
  | some source => slotsOf .audio source.timeline (remaining ordinal media.audioPacketCount)

/-- What the video source has ahead of it. -/
def videoSlots (media : PeerMedia) (frame : UInt32) : List Slot :=
  match media.video with
  | none => []
  | some source => slotsOf .video source.timeline (remaining frame media.videoFrameCount)

/-- The slots left of a timeline are all of its own kind. -/
theorem slotsOf_turn {turn : MediaTurn} {timeline : MediaTimeline} {counters : List UInt32}
    {slot : Slot} (member : slot ∈ slotsOf turn timeline counters) : slot.turn = turn := by
  induction counters generalizing timeline with
  | nil => simp [slotsOf] at member
  | cons counter counters inductionHypothesis =>
    rcases List.mem_cons.mp member with rfl | later
    · rfl
    · exact inductionHypothesis later

/-- So are the audio slots of a peer. -/
theorem audioSlots_turn {media : PeerMedia} {ordinal : UInt32} {slot : Slot}
    (member : slot ∈ audioSlots media ordinal) : slot.turn = .audio := by
  rw [audioSlots] at member
  split at member
  · simp at member
  · exact slotsOf_turn member

/-- And its video slots. -/
theorem videoSlots_turn {media : PeerMedia} {frame : UInt32} {slot : Slot}
    (member : slot ∈ videoSlots media frame) : slot.turn = .video := by
  rw [videoSlots] at member
  split at member
  · simp at member
  · exact slotsOf_turn member

/-- Audio goes first exactly when it is due no later. -/
theorem audio_due_video {audio video : Slot} (audioTurn : audio.turn = .audio)
    (videoTurn : video.turn = .video) :
    audio.due video = true ↔ audio.emittedAt ≤ video.emittedAt := by
  simp only [Slot.due, audioTurn, videoTurn, Bool.or_eq_true, Bool.and_eq_true, decide_eq_true_eq,
    beq_iff_eq, true_or, and_true]
  exact Nat.le_iff_lt_or_eq.symm

section
variable (rtp : RtpConstants) {media : PeerMedia} {ordinal frame : UInt32}

/-- One audio turn takes the first audio slot: what is left afterwards are the others, with
the moved source and the next ordinal. -/
theorem audioSlots_cons {source : AudioSource} (present : media.audio = some source)
    (below : ordinal < media.audioPacketCount) :
    audioSlots media ordinal = ⟨.audio, ordinal, source.nextEmittedAt⟩ ::
      audioSlots { media with audio := some (source.nextPacket rtp .measured ordinal).2 }
        (saturatingIncrement ordinal) := by
  simp only [audioSlots, present, remaining_cons below, slotsOf]
  rfl

/-- One video turn takes the first video slot. -/
theorem videoSlots_cons {source : VideoSource} (present : media.video = some source)
    (below : frame < media.videoFrameCount) :
    videoSlots media frame = ⟨.video, frame, source.nextEmittedAt⟩ ::
      videoSlots { media with video := some (source.nextFrame rtp .measured frame).2 }
        (saturatingIncrement frame) := by
  simp only [videoSlots, present, remaining_cons below, slotsOf]
  rfl

/-- No source, or no packet left to send: no slot is left. -/
theorem audioSlots_done (done : media.audio = none ∨ ¬ ordinal < media.audioPacketCount) :
    audioSlots media ordinal = [] := by
  rw [audioSlots]
  split
  · rfl
  · next source present =>
    rw [remaining_done (done.resolve_left (by simp [present]))]
    rfl

/-- The same of the video source and its frames. -/
theorem videoSlots_done (done : media.video = none ∨ ¬ frame < media.videoFrameCount) :
    videoSlots media frame = [] := by
  rw [videoSlots]
  split
  · rfl
  · next source present =>
    rw [remaining_done (done.resolve_left (by simp [present]))]
    rfl

/-- When the loop asks for the audio emission, it is told the time of the first slot left. -/
theorem audio_due_head : (media.audio.filter (fun _ => ordinal < media.audioPacketCount)).map
    AudioSource.nextEmittedAt = (audioSlots media ordinal).head?.map Slot.emittedAt := by
  by_cases more : ordinal < media.audioPacketCount
  · cases present : media.audio with
    | none => rw [audioSlots_done (.inl present)]; rfl
    | some source =>
      rw [audioSlots_cons documentedRtp present more]
      simp [Option.filter_some, more]
  · rw [audioSlots_done (.inr more)]
    cases media.audio <;> simp [Option.filter_some, more]

/-- And when it asks for the video emission, that of the first video slot. -/
theorem video_due_head : (media.video.filter (fun _ => frame < media.videoFrameCount)).map
    VideoSource.nextEmittedAt = (videoSlots media frame).head?.map Slot.emittedAt := by
  by_cases more : frame < media.videoFrameCount
  · cases present : media.video with
    | none => rw [videoSlots_done (.inl present)]; rfl
    | some source =>
      rw [videoSlots_cons documentedRtp present more]
      simp [Option.filter_some, more]
  · rw [videoSlots_done (.inr more)]
    cases media.video <;> simp [Option.filter_some, more]

/-- The turn taken is that of the merged schedules' first slot. -/
theorem nextTurn_slots : nextTurn media ordinal frame =
    ((audioSlots media ordinal).merge (videoSlots media frame) Slot.due).head?.map Slot.turn := by
  rw [nextTurn, audio_due_head, video_due_head]
  have audioTurn : ∀ slot ∈ audioSlots media ordinal, slot.turn = .audio :=
    fun _ member => audioSlots_turn member
  have videoTurn : ∀ slot ∈ videoSlots media frame, slot.turn = .video :=
    fun _ member => videoSlots_turn member
  generalize audioSlots media ordinal = audio at audioTurn ⊢
  generalize videoSlots media frame = video at videoTurn ⊢
  cases audio with
  | nil =>
    cases video with
    | nil => simp
    | cons second video => simp [videoTurn second List.mem_cons_self]
  | cons first audio =>
    have firstTurn := audioTurn first List.mem_cons_self
    cases video with
    | nil => simp [firstTurn]
    | cons second video =>
      have secondTurn := videoTurn second List.mem_cons_self
      rw [List.cons_merge_cons]
      simp only [audio_due_video firstTurn secondTurn, List.head?_cons, Option.map_some]
      split <;> simp [firstTurn, secondTurn]

/-- When audio's turn comes, the merge goes on with audio's first slot. -/
theorem merge_of_audio {first : Slot} {rest : List Slot}
    (turn : nextTurn media ordinal frame = some .audio)
    (slots : audioSlots media ordinal = first :: rest) :
    (audioSlots media ordinal).merge (videoSlots media frame) Slot.due =
      first :: rest.merge (videoSlots media frame) Slot.due := by
  rw [nextTurn_slots, slots] at turn
  rw [slots]
  cases video : videoSlots media frame with
  | nil => simp
  | cons second later =>
    rw [video, List.cons_merge_cons] at turn
    rw [List.cons_merge_cons]
    by_cases due : first.due second = true
    · rw [if_pos due]
    · have videoTurn : second.turn = .video := videoSlots_turn (video ▸ List.mem_cons_self)
      simp [due, videoTurn] at turn

/-- When video's turn comes, the merge goes on with video's first slot. -/
theorem merge_of_video {first : Slot} {rest : List Slot}
    (turn : nextTurn media ordinal frame = some .video)
    (slots : videoSlots media frame = first :: rest) :
    (audioSlots media ordinal).merge (videoSlots media frame) Slot.due =
      first :: (audioSlots media ordinal).merge rest Slot.due := by
  rw [nextTurn_slots, slots] at turn
  rw [slots]
  cases audio : audioSlots media ordinal with
  | nil => simp
  | cons second later =>
    rw [audio, List.cons_merge_cons] at turn
    rw [List.cons_merge_cons]
    by_cases due : second.due first = true
    · have audioTurn : second.turn = .audio := audioSlots_turn (audio ▸ List.mem_cons_self)
      simp [due, audioTurn] at turn
    · rw [if_neg due]

/-- A turn's packets are due at its slot and numbered by it: one audio packet, or
the fragments of one video frame. -/
structure Turn.Carries (turn : Turn) : Prop where
  nonempty : turn.sent ≠ []
  due : ∀ packet ∈ turn.sent, packet.emittedAt = turn.slot.emittedAt
  measured : ∀ packet ∈ turn.sent, packet.identity.phase = .measured
  numbered : ∀ packet ∈ turn.sent, packet.identity.frame = turn.slot.counter
  audio : turn.slot.turn = .audio → ∃ packet : AudioPacket, turn.sent = [.audio packet] ∧
    packet.identity.ordinal = turn.slot.counter
  video : turn.slot.turn = .video → ∃ packets : List VideoPacket, turn.sent = packets.map .video

/-- The packet of an audio turn is the one its slot says: measured, with the slot's counter
as its ordinal. -/
theorem audio_carries (source : AudioSource) : Turn.Carries
    ⟨⟨.audio, ordinal, source.nextEmittedAt⟩,
      [.audio (source.nextPacket rtp .measured ordinal).1]⟩ where
  nonempty := by simp
  due := by simp [Sent.emittedAt, AudioSource.nextPacket, AudioSource.nextEmittedAt,
    MediaTimeline.advance]
  measured := by simp [AudioSource.nextPacket, AudioSource.identity]
  numbered := by simp [AudioSource.nextPacket, AudioSource.identity]
  audio := fun _ => ⟨_, rfl, rfl⟩
  video := by simp

/-- A frame's packets belong to its layers' bursts. -/
theorem mem_nextFrame_burst {source : VideoSource} {phase : PacketPhase} {packet : VideoPacket}
    (member : packet ∈ (source.nextFrame rtp phase frame).1) :
    packet.emittedAt = source.nextEmittedAt ∧ packet.identity.phase = phase ∧
      packet.identity.frame = frame := by
  rw [nextFrame_packets] at member
  rcases List.mem_append.mp member with low | high
  · obtain ⟨_, _, _, rfl⟩ := mem_fragmentLoop low
    exact ⟨rfl, rfl, rfl⟩
  · obtain ⟨_, _, _, rfl⟩ := mem_fragmentLoop high
    exact ⟨rfl, rfl, rfl⟩

/-- A frame is never empty, so a video turn sends something. -/
theorem nextFrame_ne_nil (source : VideoSource) (phase : PacketPhase) :
    (source.nextFrame rtp phase frame).1 ≠ [] := by
  have fragments : 0 < fragmentCount .low frame := by
    cases keyframe : VideoSource.isKeyframe frame <;> simp [fragmentCount, keyframe]
  obtain ⟨count, counted⟩ := Nat.exists_eq_succ_of_ne_zero fragments.ne'
  rw [nextFrame_packets, layerLoop, counted]
  simp [LayerBurst.fragmentLoop]

/-- The packets of a video turn are the fragments of the frame its slot says. -/
theorem video_carries (source : VideoSource) : Turn.Carries
    ⟨⟨.video, frame, source.nextEmittedAt⟩,
      (source.nextFrame rtp .measured frame).1.map .video⟩ where
  nonempty := by simpa using nextFrame_ne_nil rtp source .measured
  due := by
    intro packet member
    obtain ⟨burst, inside, rfl⟩ := List.mem_map.mp member
    exact (mem_nextFrame_burst rtp inside).1
  measured := by
    intro packet member
    obtain ⟨burst, inside, rfl⟩ := List.mem_map.mp member
    exact (mem_nextFrame_burst rtp inside).2.1
  numbered := by
    intro packet member
    obtain ⟨burst, inside, rfl⟩ := List.mem_map.mp member
    exact (mem_nextFrame_burst rtp inside).2.2
  audio := by simp
  video := fun _ => ⟨_, rfl⟩

/-- The loop merges the two sources' schedules, and every turn sends what its slot
says.

Proof: by the loop's own recursion. The turn taken is the merge's first slot; the
source that sent has the rest of its schedule left, the other one all of it. -/
theorem mediaTurns_merge (media : PeerMedia) (ordinal frame : UInt32) :
    ∃ turns, mediaTurns rtp media ordinal frame = .ok turns ∧
      mediaLoop rtp media ordinal frame = .ok (turns.flatMap Turn.sent) ∧
      turns.map Turn.slot =
        (audioSlots media ordinal).merge (videoSlots media frame) Slot.due ∧
      ∀ turn ∈ turns, turn.Carries := by
  induction media, ordinal, frame using mediaTurns.induct with
  | case1 media ordinal frame turn =>
    obtain ⟨noAudio, noVideo⟩ := nextTurn_none turn
    refine ⟨[], by rw [mediaTurns, turn]; rfl, by rw [mediaLoop, turn]; rfl, ?_, by simp⟩
    rw [audioSlots_done noAudio, videoSlots_done noVideo, List.nil_merge, List.map_nil]
  | case2 media ordinal frame turn inductionHypothesis =>
    obtain ⟨source, present, below⟩ := nextTurn_audio turn
    obtain ⟨later, taken, looped, merged, carried⟩ :=
      inductionHypothesis (source.nextPacket rtp .measured ordinal).2
    refine ⟨⟨⟨.audio, ordinal, source.nextEmittedAt⟩,
      [.audio (source.nextPacket rtp .measured ordinal).1]⟩ :: later, ?_, ?_, ?_, ?_⟩
    · rw [mediaTurns, turn]
      simp only [present, context_some, ok_bind, taken]
      rfl
    · rw [mediaLoop, turn]
      simp only [present, context_some, ok_bind, looped]
      rfl
    · rw [List.map_cons, merged, merge_of_audio turn (audioSlots_cons rtp present below)]
      rfl
    · exact List.forall_mem_cons.mpr ⟨audio_carries rtp source, carried⟩
  | case3 media ordinal frame turn inductionHypothesis =>
    obtain ⟨source, present, below⟩ := nextTurn_video turn
    obtain ⟨later, taken, looped, merged, carried⟩ :=
      inductionHypothesis (source.nextFrame rtp .measured frame).2
    refine ⟨⟨⟨.video, frame, source.nextEmittedAt⟩,
      (source.nextFrame rtp .measured frame).1.map .video⟩ :: later, ?_, ?_, ?_, ?_⟩
    · rw [mediaTurns, turn]
      simp only [present, context_some, ok_bind, taken]
      rfl
    · rw [mediaLoop, turn]
      simp only [present, context_some, ok_bind, looped]
      rfl
    · rw [List.map_cons, merged, merge_of_video turn (videoSlots_cons rtp present below)]
      rfl
    · exact List.forall_mem_cons.mpr ⟨video_carries rtp source, carried⟩

end

/-- A source's timeline as the rooms set it up: plain, or in a slot of the interval. -/
inductive Starts (interval : Duration) : MediaTimeline → Prop where
  | plain : Starts interval (MediaTimeline.new interval)
  | staggered (sourceIndex sourceCount : UInt32) :
      Starts interval (MediaTimeline.staggered interval sourceIndex sourceCount)

/-- Both sources start on timelines of their own intervals. -/
structure FreshTimelines (media : PeerMedia) : Prop where
  audio : ∀ source, media.audio = some source → Starts audioFrameInterval source.timeline
  video : ∀ source, media.video = some source → Starts videoFrameInterval source.timeline

/-- The first emission of a stagger slot: that many parts of the interval. -/
def staggerSlot (sourceIndex sourceCount : UInt32) : Nat :=
  min (sourceIndex.toNat + 1) (max sourceCount.toNat 1)

/-- No slot starts after the interval. -/
theorem stagger_le (interval : Nat) (sourceIndex sourceCount : UInt32) :
    interval / max sourceCount.toNat 1 * staggerSlot sourceIndex sourceCount ≤ interval :=
  calc interval / max sourceCount.toNat 1 * staggerSlot sourceIndex sourceCount
      ≤ interval / max sourceCount.toNat 1 * max sourceCount.toNat 1 :=
        Nat.mul_le_mul_left _ (min_le_right _ _)
    _ ≤ interval := Nat.div_mul_le_self _ _

/-- Where a staggered timeline starts, once the minimum with the greatest duration is seen to
change nothing. -/
theorem staggered_first {interval : Duration} (sourceIndex sourceCount : UInt32)
    (representable : interval ≤ Duration.max) :
    (MediaTimeline.staggered interval sourceIndex sourceCount).firstEmittedAt =
      interval / max sourceCount.toNat 1 * staggerSlot sourceIndex sourceCount := by
  have indexInside := sourceIndex.toNat_lt
  have countInside := sourceCount.toNat_lt
  have parts : (if sourceCount < 1 then 1 else sourceCount).toNat = max sourceCount.toNat 1 := by
    split <;> rename_i below <;> rw [UInt32.lt_iff_toNat_lt, UInt32.toNat_one] at below
    · rw [UInt32.toNat_one]
      omega
    · omega
  have following : (if sourceIndex = 0xffffffff then sourceIndex else sourceIndex + 1).toNat =
      min (sourceIndex.toNat + 1) (2 ^ 32 - 1) := by
    split
    · next last => simp [last]
    · next below =>
      have apart : sourceIndex.toNat ≠ 2 ^ 32 - 1 := fun last => below (UInt32.toNat_inj.mp last)
      rw [UInt32.toNat_add, UInt32.toNat_one]
      omega
  simp only [MediaTimeline.staggered]
  generalize (if sourceCount < 1 then 1 else sourceCount) = count at parts ⊢
  generalize (if sourceIndex = 0xffffffff then sourceIndex else sourceIndex + 1) = next
    at following ⊢
  have divided : (Duration.checkedDiv interval count).getD interval =
      interval / max sourceCount.toNat 1 := by
    have nonzero : count ≠ 0 := by
      rintro rfl
      rw [UInt32.toNat_zero] at parts
      omega
    rw [Duration.checkedDiv, if_neg nonzero, Option.getD_some, parts]
  have slot : (if next ≤ count then next else count).toNat =
      staggerSlot sourceIndex sourceCount := by
    rw [staggerSlot]
    split <;> rename_i ordered <;> rw [UInt32.le_iff_toNat_le] at ordered <;> omega
  rw [divided, Duration.saturatingMul, slot]
  exact Nat.min_eq_left (le_trans (stagger_le interval sourceIndex sourceCount) representable)

/-- What a timeline that has not moved gives the schedule: its next emission is its first,
the interval is the one it was made with, and the first is not beyond one interval. -/
theorem Starts.facts {interval : Duration} {timeline : MediaTimeline}
    (starts : Starts interval timeline) (representable : interval ≤ Duration.max) :
    timeline.nextEmittedAt = timeline.firstEmittedAt ∧ timeline.interval = interval ∧
      timeline.firstEmittedAt ≤ interval := by
  cases starts with
  | plain => exact ⟨rfl, rfl, le_rfl⟩
  | staggered sourceIndex sourceCount =>
    refine ⟨rfl, rfl, ?_⟩
    rw [staggered_first sourceIndex sourceCount representable]
    exact stagger_le interval sourceIndex sourceCount

/-- Until the duration's range ends, a timeline's slots are one interval apart. -/
theorem slotsOf_range (turn : MediaTurn) (timeline : MediaTimeline) (start count : Nat)
    (representable : timeline.nextEmittedAt + count * timeline.interval ≤ Duration.max) :
    slotsOf turn timeline ((List.range' start count).map UInt32.ofNat) =
      (List.range count).map (fun index => ⟨turn, UInt32.ofNat (start + index),
        timeline.nextEmittedAt + index * timeline.interval⟩) := by
  induction count generalizing timeline start with
  | zero => rfl
  | succ count inductionHypothesis =>
    rw [Nat.succ_mul] at representable
    have advanced : timeline.advance.2.nextEmittedAt =
        timeline.nextEmittedAt + timeline.interval :=
      Nat.min_eq_left (le_trans (by omega) representable)
    have rest := inductionHypothesis timeline.advance.2 (start + 1) (by
      rw [advanced, Nat.add_assoc, Nat.add_comm timeline.interval]
      exact representable)
    rw [List.range'_succ, List.map_cons, slotsOf, rest, advanced, List.range_succ_eq_map,
      List.map_cons, List.map_map]
    simp only [Function.comp_def, Nat.zero_mul, Nat.add_zero, Nat.succ_mul]
    refine congrArg _ (List.map_congr_left (fun index _ => ?_))
    rw [Slot.mk.injEq]
    refine ⟨rfl, by rw [Nat.add_right_comm, Nat.add_assoc], ?_⟩
    rw [Nat.add_assoc, Nat.add_comm timeline.interval]
    rfl

/-- A source's slots when it starts on time: its first emission, then one slot an
interval. -/
def scheduleOf (turn : MediaTurn) (first interval : Duration) (count : UInt32) : List Slot :=
  (List.range count.toNat).map
    (fun index => ⟨turn, UInt32.ofNat index, first + index * interval⟩)

/-- The audio turns a fresh peer will take. -/
def audioSchedule (media : PeerMedia) : List Slot :=
  match media.audio with
  | none => []
  | some source =>
    scheduleOf .audio source.timeline.firstEmittedAt audioFrameInterval media.audioPacketCount

/-- The video turns a fresh peer will take. -/
def videoSchedule (media : PeerMedia) : List Slot :=
  match media.video with
  | none => []
  | some source =>
    scheduleOf .video source.timeline.firstEmittedAt videoFrameInterval media.videoFrameCount

/-- A peer's measured turns. -/
def schedule (media : PeerMedia) : List Slot :=
  (audioSchedule media).merge (videoSchedule media) Slot.due

/-- Sending moves a timeline's next emission only. -/
theorem audioRun_reset (rtp : RtpConstants) (source : AudioSource)
    (calls : List (PacketPhase × UInt32)) :
    (audioRun rtp source calls).2.timeline.reset = source.timeline.reset := by
  induction calls generalizing source with
  | nil => rfl
  | cons call calls inductionHypothesis => exact inductionHypothesis _

/-- Resetting the timeline after any calls gives what resetting it before would have. -/
theorem videoRun_reset (rtp : RtpConstants) (source : VideoSource)
    (calls : List (PacketPhase × UInt32)) :
    (videoRun rtp source calls).2.timeline.reset = source.timeline.reset := by
  induction calls generalizing source with
  | nil => rfl
  | cons call calls inductionHypothesis =>
    refine (inductionHypothesis _).trans ?_
    cases call.1 <;> rfl

/-- From its first emission on, a timeline's slots are the source's schedule. -/
theorem slotsOf_schedule {interval : Duration} {timeline : MediaTimeline} (turn : MediaTurn)
    (count : UInt32) (starts : Starts interval timeline)
    (representable : interval * 2 ^ 32 ≤ Duration.max) :
    slotsOf turn timeline.reset (remaining 0 count) =
      scheduleOf turn timeline.firstEmittedAt interval count := by
  obtain ⟨_, same, first⟩ := starts.facts (le_trans (Nat.le_mul_of_pos_right _ (by decide))
    representable)
  have inside := count.toNat_lt
  have bounded : timeline.reset.nextEmittedAt + count.toNat * timeline.reset.interval ≤
      Duration.max := by
    change timeline.firstEmittedAt + count.toNat * timeline.interval ≤ _
    rw [same]
    calc timeline.firstEmittedAt + count.toNat * interval
        ≤ interval + count.toNat * interval := Nat.add_le_add_right first _
      _ = (count.toNat + 1) * interval := by rw [Nat.succ_mul, Nat.add_comm]
      _ ≤ 2 ^ 32 * interval := Nat.mul_le_mul_right _ inside
      _ = interval * 2 ^ 32 := Nat.mul_comm _ _
      _ ≤ Duration.max := representable
  rw [remaining, UInt32.toNat_zero, Nat.sub_zero, slotsOf_range turn _ 0 _ bounded, scheduleOf]
  refine List.map_congr_left (fun index _ => ?_)
  rw [Nat.zero_add]
  change Slot.mk _ _ (timeline.firstEmittedAt + index * timeline.interval) = _
  rw [same]

section
variable (rtp : RtpConstants) {media : PeerMedia} (fresh : FreshTimelines media)
  (audioOrdinals videoFrames : List UInt32)
include fresh

/-- The reset undoes the warmup's effect on the audio schedule. -/
theorem audioSlots_afterWarmup :
    audioSlots (resetTimelines (warmup rtp media audioOrdinals videoFrames).2) 0 =
      audioSchedule media := by
  cases present : media.audio with
  | none => simp [audioSlots, audioSchedule, resetTimelines, warmup, present]
  | some source =>
    have slots := slotsOf_schedule .audio media.audioPacketCount (fresh.audio source present)
      (by decide)
    rw [← audioRun_reset rtp source (audioOrdinals.map (Prod.mk .warmup))] at slots
    simpa [audioSlots, audioSchedule, resetTimelines, warmup, present, AudioSource.resetTimeline]
      using slots

/-- The warmup leaves the video schedule as it found it: its frames move the timeline, and
the reset moves it back. -/
theorem videoSlots_afterWarmup :
    videoSlots (resetTimelines (warmup rtp media audioOrdinals videoFrames).2) 0 =
      videoSchedule media := by
  cases present : media.video with
  | none => simp [videoSlots, videoSchedule, resetTimelines, warmup, present]
  | some source =>
    have slots := slotsOf_schedule .video media.videoFrameCount (fresh.video source present)
      (by decide)
    rw [← videoRun_reset rtp source (videoFrames.map (Prod.mk .warmup))] at slots
    simpa [videoSlots, videoSchedule, resetTimelines, warmup, present, VideoSource.resetTimeline]
      using slots

end

/-- One slot is due before another when it is earlier, or at the same time and audio, or both
video: the loop's comparison with audio first. -/
theorem due_iff (first second : Slot) : first.due second = true ↔
    first.emittedAt < second.emittedAt ∨
      first.emittedAt = second.emittedAt ∧ (first.turn = .audio ∨ second.turn = .video) := by
  simp [Slot.due]

/-- Being due before is transitive. -/
theorem due_trans (first second third : Slot) (begun : first.due second = true)
    (continued : second.due third = true) : first.due third = true := by
  rw [due_iff] at begun continued ⊢
  rcases begun with earlier | ⟨same, firstTurn⟩
  · rcases continued with later | ⟨same, _⟩
    · exact .inl (Nat.lt_trans earlier later)
    · exact .inl (same ▸ earlier)
  · rcases continued with later | ⟨sameAgain, secondTurn⟩
    · exact .inl (same ▸ later)
    · refine .inr ⟨same.trans sameAgain, ?_⟩
      rcases firstTurn with audio | video
      · exact .inl audio
      · exact .inr (secondTurn.resolve_left (by simp [video]))

/-- And total, so two schedules can be merged by it. -/
theorem due_total (first second : Slot) : (first.due second || second.due first) = true := by
  rw [Bool.or_eq_true, due_iff, due_iff]
  rcases Nat.lt_trichotomy first.emittedAt second.emittedAt with before | same | after
  · exact .inl (.inl before)
  · cases turn : first.turn with
    | audio => exact .inl (.inr ⟨same, .inl rfl⟩)
    | video => exact .inr (.inr ⟨same.symm, .inr rfl⟩)
  · exact .inr (.inl after)

section
variable {turn : MediaTurn} {first interval : Duration} {count : UInt32}

/-- A schedule's slots are all of its kind. -/
theorem scheduleOf_turn {slot : Slot} (member : slot ∈ scheduleOf turn first interval count) :
    slot.turn = turn := by
  obtain ⟨_, _, rfl⟩ := List.mem_map.mp member
  rfl

/-- They count 0, 1, …, up to the number of turns. -/
theorem scheduleOf_counters :
    (scheduleOf turn first interval count).map (fun slot => slot.counter.toNat) =
      List.range count.toNat := by
  have inside := count.toNat_lt
  rw [scheduleOf, List.map_map]
  refine (List.map_congr_left (fun index member => ?_)).trans (List.map_id _)
  rw [List.mem_range] at member
  exact (UInt32.toNat_ofNat').trans (Nat.mod_eq_of_lt (by omega))

/-- And they stand in the order they are due. -/
theorem scheduleOf_ordered : (scheduleOf turn first interval count).Pairwise
    (fun earlier later => earlier.due later = true) := by
  rw [scheduleOf, List.pairwise_map]
  refine List.pairwise_lt_range.imp (fun {index later} ordered => ?_)
  rw [due_iff]
  have step : first + index * interval ≤ first + later * interval :=
    Nat.add_le_add_left (Nat.mul_le_mul_right _ ordered.le) _
  rcases Nat.lt_or_eq_of_le step with before | same
  · exact .inl before
  · refine .inr ⟨same, ?_⟩
    cases turn
    · exact .inl rfl
    · exact .inr rfl

/-- A source that starts within one interval needs at most one interval per number. -/
theorem scheduleOf_fits {slot : Slot} (member : slot ∈ scheduleOf turn first interval count)
    (within : first ≤ interval) (representable : interval * 2 ^ 32 ≤ Duration.max) :
    slot.emittedAt ≤ Duration.saturatingMul interval count := by
  obtain ⟨index, below, rfl⟩ := List.mem_map.mp member
  rw [List.mem_range] at below
  have inside := count.toNat_lt
  rw [Duration.saturatingMul,
    Nat.min_eq_left (le_trans (Nat.mul_le_mul_left _ inside.le) representable)]
  calc first + index * interval
      ≤ interval + index * interval := Nat.add_le_add_right within _
    _ = interval * (index + 1) := by rw [Nat.mul_succ, Nat.add_comm, Nat.mul_comm]
    _ ≤ interval * count.toNat := Nat.mul_le_mul_left _ below

end

section
variable {media : PeerMedia}

/-- The audio schedule has audio slots only. -/
theorem audioSchedule_turn {slot : Slot} (member : slot ∈ audioSchedule media) :
    slot.turn = .audio := by
  rw [audioSchedule] at member
  split at member
  · simp at member
  · exact scheduleOf_turn member

/-- The video schedule has video slots only. -/
theorem videoSchedule_turn {slot : Slot} (member : slot ∈ videoSchedule media) :
    slot.turn = .video := by
  rw [videoSchedule] at member
  split at member
  · simp at member
  · exact scheduleOf_turn member

/-- The audio turns of the schedule are the audio source's own. -/
theorem schedule_audio : (schedule media).filter (fun slot => slot.turn = .audio) =
    audioSchedule media :=
  Merging.filter_left (fun _ member => by simp [audioSchedule_turn member])
    (fun _ member => by simp [videoSchedule_turn member])

/-- Taking the video slots out of the merged schedule gives back the video schedule. -/
theorem schedule_video : (schedule media).filter (fun slot => slot.turn = .video) =
    videoSchedule media :=
  Merging.filter_right (fun _ member => by simp [audioSchedule_turn member])
    (fun _ member => by simp [videoSchedule_turn member])

/-- The merged schedule is ordered by when its slots are due. -/
theorem schedule_ordered :
    (schedule media).Pairwise (fun earlier later => earlier.due later = true) := by
  refine List.pairwise_merge due_trans due_total _ _ ?_ ?_
  · rw [audioSchedule]
    split
    · exact .nil
    · exact scheduleOf_ordered
  · rw [videoSchedule]
    split
    · exact .nil
    · exact scheduleOf_ordered

/-- Nothing is due after the peer's target duration. -/
theorem schedule_fits (fresh : FreshTimelines media) {slot : Slot}
    (member : slot ∈ schedule media) : slot.emittedAt ≤ media.targetDuration := by
  rcases List.mem_merge.mp member with audio | video
  · rw [audioSchedule] at audio
    split at audio
    · simp at audio
    · next source present =>
      exact le_trans (scheduleOf_fits audio
        ((fresh.audio source present).facts (by decide)).2.2 (by decide)) (le_max_left _ _)
  · rw [videoSchedule] at video
    split at video
    · simp at video
    · next source present =>
      exact le_trans (scheduleOf_fits video
        ((fresh.video source present).facts (by decide)).2.2 (by decide)) (le_max_right _ _)

/-- The audio counters of a peer: all of its packets, none without a source. -/
theorem audioSchedule_counters : (audioSchedule media).map (fun slot => slot.counter.toNat) =
    List.range (if media.audio.isSome then media.audioPacketCount.toNat else 0) := by
  rw [audioSchedule]
  split
  · next absent => simp [absent]
  · next source present => simp [present, scheduleOf_counters]

/-- The video counters of a peer: all of its frames, none without a source. -/
theorem videoSchedule_counters : (videoSchedule media).map (fun slot => slot.counter.toNat) =
    List.range (if media.video.isSome then media.videoFrameCount.toNat else 0) := by
  rw [videoSchedule]
  split
  · next absent => simp [absent]
  · next source present => simp [present, scheduleOf_counters]

/-- Packets are handed out in the order of their turns. -/
theorem sent_ordered {turns : List Turn} (carried : ∀ turn ∈ turns, turn.Carries)
    (ordered : (turns.map Turn.slot).Pairwise (fun earlier later => earlier.due later = true)) :
    (turns.flatMap Turn.sent).Pairwise
      (fun earlier later => earlier.emittedAt ≤ later.emittedAt) := by
  rw [List.pairwise_map] at ordered
  refine List.pairwise_flatMap.mpr ⟨fun turn member => ?_, ?_⟩
  · refine List.pairwise_of_forall_mem_list (fun earlier begun later continued => ?_)
    rw [(carried turn member).due earlier begun, (carried turn member).due later continued]
  · refine ordered.imp_of_mem
      (fun {before after} begun continued due earlier first later last => ?_)
    rw [(carried before begun).due earlier first, (carried after continued).due later last]
    rcases (due_iff _ _).mp due with sooner | ⟨same, _⟩
    · exact Nat.le_of_lt sooner
    · exact Nat.le_of_eq same

end

/-- The measured loop of a peer takes one turn per audio packet and one per video
frame, each source counting up from zero, in the order of their due times with
audio first on ties. The times are the same after every warmup, and none lies
beyond the peer's target duration. -/
theorem measured_turns (rtp : RtpConstants) {media : PeerMedia} (fresh : FreshTimelines media) :
    ((schedule media).filter (fun slot => slot.turn = .audio)).map
        (fun slot => slot.counter.toNat) =
      List.range (if media.audio.isSome then media.audioPacketCount.toNat else 0) ∧
    ((schedule media).filter (fun slot => slot.turn = .video)).map
        (fun slot => slot.counter.toNat) =
      List.range (if media.video.isSome then media.videoFrameCount.toNat else 0) ∧
    (schedule media).Pairwise (fun earlier later => earlier.emittedAt ≤ later.emittedAt ∧
      (earlier.emittedAt = later.emittedAt → later.turn = .audio → earlier.turn = .audio)) ∧
    (∀ slot ∈ schedule media, slot.emittedAt ≤ media.targetDuration) ∧
    ∀ audioOrdinals videoFrames, ∃ turns,
      mediaTurns rtp (resetTimelines (warmup rtp media audioOrdinals videoFrames).2) 0 0 =
        .ok turns ∧
      measuredAfter rtp media audioOrdinals videoFrames = .ok (turns.flatMap Turn.sent) ∧
      turns.map Turn.slot = schedule media ∧
      (∀ turn ∈ turns, turn.Carries) ∧
      (turns.flatMap Turn.sent).Pairwise
        (fun earlier later => earlier.emittedAt ≤ later.emittedAt) := by
  refine ⟨?_, ?_, ?_, fun slot member => schedule_fits fresh member,
    fun audioOrdinals videoFrames => ?_⟩
  · rw [schedule_audio, audioSchedule_counters]
  · rw [schedule_video, videoSchedule_counters]
  · refine schedule_ordered.imp (fun {earlier later} due => ?_)
    rcases (due_iff _ _).mp due with sooner | ⟨same, turn⟩
    · exact ⟨Nat.le_of_lt sooner, fun same => absurd same (Nat.ne_of_lt sooner)⟩
    · exact ⟨Nat.le_of_eq same, fun _ audio => turn.resolve_right (by simp [audio])⟩
  · obtain ⟨turns, taken, looped, merged, carried⟩ := mediaTurns_merge rtp
      (resetTimelines (warmup rtp media audioOrdinals videoFrames).2) 0 0
    rw [audioSlots_afterWarmup rtp fresh, videoSlots_afterWarmup rtp fresh] at merged
    exact ⟨turns, taken, looped, merged, carried,
      sent_ordered carried (merged ▸ schedule_ordered)⟩

/-- Two audio packets in the second of three slots beside one plain video frame,
after two warmup packets and one warmup frame. -/
theorem staggered_audio_beside_video : ∃ turns,
    mediaTurns documentedRtp (resetTimelines (warmup documentedRtp
      (PeerMedia.mixed (some (AudioSource.staggered 4 1 3)) 2 (some (VideoSource.new 4)) 1)
      [0, 1] [0]).2) 0 0 = .ok turns ∧
    turns.map Turn.slot =
      [⟨.audio, 0, 13333332⟩, ⟨.audio, 1, 33333332⟩, ⟨.video, 0, 33333333⟩] := by
  obtain ⟨_, _, _, _, runs⟩ := measured_turns documentedRtp
    (⟨fun _ present => Option.some.inj present ▸ .staggered 1 3,
      fun _ present => Option.some.inj present ▸ .plain⟩ :
      FreshTimelines
        (PeerMedia.mixed (some (AudioSource.staggered 4 1 3)) 2 (some (VideoSource.new 4)) 1))
  obtain ⟨turns, taken, _, slots, _⟩ := runs [0, 1] [0]
  have merged : schedule
      (PeerMedia.mixed (some (AudioSource.staggered 4 1 3)) 2 (some (VideoSource.new 4)) 1) =
      [⟨.audio, 0, 13333332⟩, ⟨.audio, 1, 33333332⟩].merge [⟨.video, 0, 33333333⟩] Slot.due := rfl
  refine ⟨turns, taken, slots.trans (merged.trans ?_)⟩
  rw [List.cons_merge_cons_pos _ _ _ (by decide), List.cons_merge_cons_pos _ _ _ (by decide),
    List.nil_merge]

end SfuLoad.Turns
