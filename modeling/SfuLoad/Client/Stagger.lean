import SfuLoad.Client.Assignment
import SfuLoad.Client.Turns

/-!
# Publishers that never send at the same time

A mixed room gives every publisher a slot of the media interval, so that no two
of its publishers ever emit together. The slot is the peer's index in its own
room: publishers with the same index in different rooms share all their times.
-/

namespace SfuLoad.Stagger

open Kit Kit.Fallible Emission Identity Media Model Rooms Sender Turns

/-- The media interval of a kind of turn. -/
def intervalOf : MediaTurn → Duration
  | .audio => audioFrameInterval
  | .video => videoFrameInterval

/-- Whether a packet is an audio packet or belongs to a video frame. -/
def turnOf : Sent → MediaTurn
  | .audio _ => .audio
  | .video _ => .video

/-- The measured packets a peer sends after its warmup. -/
def measured (rtp : RtpConstants) (media : PeerMedia) : Except String (List Sent) :=
  mediaLoop rtp (resetTimelines (sendWarmup rtp media).2) 0 0

/-- The emission times of one kind among packets. -/
def emissionTimes (turn : MediaTurn) (sent : List Sent) : List Duration :=
  (sent.filter (fun packet => turnOf packet = turn)).map Sent.emittedAt

/-- The task of a peer in a room. -/
def taskAt (rooms : List Room) (room peer : Nat) : Option PeerTask :=
  rooms[room]?.bind (fun found => found.tasks[peer]?)

/-- No two publishers of a kind, in one room or in two, ever emit at one time. -/
def Apart (rtp : RtpConstants) (rooms : List Room) (turn : MediaTurn) : Prop :=
  ∀ room peer task, taskAt rooms room peer = some task →
    ∀ otherRoom otherPeer other, taskAt rooms otherRoom otherPeer = some other →
      (room, peer) ≠ (otherRoom, otherPeer) →
        ∀ sent, measured rtp task.media = .ok sent →
          ∀ otherSent, measured rtp other.media = .ok otherSent →
            ∀ time ∈ emissionTimes turn sent, time ∉ emissionTimes turn otherSent

/-- Neither the audio publishers nor the camera publishers form bursts. -/
def NoBursts (rtp : RtpConstants) (rooms : List Room) : Prop :=
  Apart rtp rooms .audio ∧ Apart rtp rooms .video

/-- A turn's packets are of its own kind. -/
theorem turnOf_carried {turn : Turn} (carried : turn.Carries) {packet : Sent}
    (member : packet ∈ turn.sent) : turnOf packet = turn.slot.turn := by
  cases kind : turn.slot.turn with
  | audio =>
    obtain ⟨audio, single, _⟩ := carried.audio kind
    rw [single, List.mem_singleton] at member
    rw [member, turnOf]
  | video =>
    obtain ⟨packets, frame⟩ := carried.video kind
    rw [frame] at member
    obtain ⟨_, _, rfl⟩ := List.mem_map.mp member
    rfl

/-- A peer emits at exactly the times of its schedule. -/
theorem mem_emissionTimes (rtp : RtpConstants) {media : PeerMedia} (fresh : FreshTimelines media)
    (turn : MediaTurn) (time : Duration) : ∃ sent, measured rtp media = .ok sent ∧
      (time ∈ emissionTimes turn sent ↔
        ∃ slot ∈ schedule media, slot.turn = turn ∧ slot.emittedAt = time) := by
  obtain ⟨turns, _, looped, merged, carried⟩ := mediaTurns_merge rtp
    (resetTimelines (sendWarmup rtp media).2) 0 0
  rw [sendWarmup, audioSlots_afterWarmup rtp fresh, videoSlots_afterWarmup rtp fresh] at merged
  change _ = schedule media at merged
  refine ⟨_, looped, ?_⟩
  simp only [emissionTimes, List.mem_map, List.mem_filter, decide_eq_true_eq, ← merged,
    List.mem_flatMap]
  constructor
  · rintro ⟨packet, ⟨⟨taken, member, inside⟩, kind⟩, rfl⟩
    exact ⟨taken.slot, ⟨taken, member, rfl⟩,
      (turnOf_carried (carried taken member) inside).symm.trans kind,
      ((carried taken member).due packet inside).symm⟩
  · rintro ⟨_, ⟨taken, member, rfl⟩, kind, rfl⟩
    obtain ⟨packet, inside⟩ := List.exists_mem_of_ne_nil _ (carried taken member).nonempty
    exact ⟨packet, ⟨⟨taken, member, inside⟩,
      (turnOf_carried (carried taken member) inside).trans kind⟩,
      (carried taken member).due packet inside⟩

section
variable (source : UInt16) (peer : Nat)
  (audioPublishers videoPublishers audioPacketCount videoFrameCount : UInt32)

/-- What a mixed room gives a peer to send. -/
def staggeredMedia : PeerMedia :=
  PeerMedia.mixed
    (if peer < audioPublishers.toNat then
      some (AudioSource.staggered source (UInt32.ofNat peer) audioPublishers) else none)
    audioPacketCount
    (if peer < videoPublishers.toNat then
      some (VideoSource.staggered source (UInt32.ofNat peer) videoPublishers) else none)
    videoFrameCount

/-- How many publishers of a kind share an interval. -/
def publishersOf : MediaTurn → Nat
  | .audio => audioPublishers.toNat
  | .video => videoPublishers.toNat

/-- How many turns of a kind a publisher takes. -/
def turnCount : MediaTurn → Nat
  | .audio => audioPacketCount.toNat
  | .video => videoFrameCount.toNat

/-- Every publisher of a mixed room starts on timelines that have not moved. -/
theorem staggeredMedia_fresh : FreshTimelines
    (staggeredMedia source peer audioPublishers videoPublishers audioPacketCount
      videoFrameCount) where
  audio := by
    intro found present
    simp only [staggeredMedia, PeerMedia.mixed, Option.ite_none_right_eq_some,
      Option.some.injEq] at present
    obtain ⟨_, rfl⟩ := present
    exact .staggered _ _
  video := by
    intro found present
    simp only [staggeredMedia, PeerMedia.mixed, Option.ite_none_right_eq_some,
      Option.some.injEq] at present
    obtain ⟨_, rfl⟩ := present
    exact .staggered _ _

end

/-- A publisher's slot is its index, counted from one. -/
theorem staggered_slot {interval : Duration} {peer : Nat} {count : UInt32}
    (inside : peer < count.toNat) (representable : interval ≤ Duration.max) :
    (MediaTimeline.staggered interval (UInt32.ofNat peer) count).firstEmittedAt =
      interval / count.toNat * (peer + 1) := by
  have bound := count.toNat_lt
  have index : (UInt32.ofNat peer).toNat = peer :=
    UInt32.toNat_ofNat'.trans (Nat.mod_eq_of_lt (by omega))
  rw [staggered_first _ _ representable, staggerSlot, index, Nat.max_eq_left (by omega),
    Nat.min_eq_left (by omega)]

/-- A source's schedule lists its emissions. -/
theorem mem_scheduleOf (turn : MediaTurn) (first interval : Duration) (count : UInt32)
    (time : Duration) : (∃ slot ∈ scheduleOf turn first interval count, slot.emittedAt = time) ↔
      ∃ index < count.toNat, time = first + index * interval := by
  simp only [scheduleOf, List.mem_map, List.mem_range]
  constructor
  · rintro ⟨_, ⟨index, below, rfl⟩, rfl⟩
    exact ⟨index, below, rfl⟩
  · rintro ⟨index, below, rfl⟩
    exact ⟨_, ⟨index, below, rfl⟩, rfl⟩

section
variable (source : UInt16) {peer : Nat} {audioPublishers videoPublishers : UInt32}
  (audioPacketCount videoFrameCount : UInt32)

/-- The audio turns of the peer at a place of its room: the first one `peer + 1` shares of
the interval after the epoch, then one per interval. -/
theorem audioSchedule_staggered (videoPublishers : UInt32)
    (publishing : peer < audioPublishers.toNat) :
    audioSchedule (staggeredMedia source peer audioPublishers videoPublishers audioPacketCount
      videoFrameCount) = scheduleOf .audio
        (audioFrameInterval / audioPublishers.toNat * (peer + 1)) audioFrameInterval
        audioPacketCount := by
  rw [← staggered_slot publishing (by decide), audioSchedule, staggeredMedia]
  simp only [PeerMedia.mixed, if_pos publishing]
  rfl

/-- The video turns, in the same way over the video publishers of the room. -/
theorem videoSchedule_staggered (audioPublishers : UInt32)
    (publishing : peer < videoPublishers.toNat) :
    videoSchedule (staggeredMedia source peer audioPublishers videoPublishers audioPacketCount
      videoFrameCount) = scheduleOf .video
        (videoFrameInterval / videoPublishers.toNat * (peer + 1)) videoFrameInterval
        videoFrameCount := by
  rw [← staggered_slot publishing (by decide), videoSchedule, staggeredMedia]
  simp only [PeerMedia.mixed, if_pos publishing]
  rfl

end

/-- A peer of a mixed room emits from its slot on, once per interval. -/
theorem staggered_times (source : UInt16) (peer : Nat)
    (audioPublishers videoPublishers audioPacketCount videoFrameCount : UInt32)
    (turn : MediaTurn) (time : Duration) :
    (∃ slot ∈ schedule (staggeredMedia source peer audioPublishers videoPublishers
        audioPacketCount videoFrameCount), slot.turn = turn ∧ slot.emittedAt = time) ↔
      peer < publishersOf audioPublishers videoPublishers turn ∧
        ∃ index < turnCount audioPacketCount videoFrameCount turn,
          time = intervalOf turn / publishersOf audioPublishers videoPublishers turn * (peer + 1) +
            index * intervalOf turn := by
  have own (media : PeerMedia) :
      (∃ slot ∈ schedule media, slot.turn = turn ∧ slot.emittedAt = time) ↔
        ∃ slot ∈ (schedule media).filter (fun slot => slot.turn = turn),
          slot.emittedAt = time := by
    simp only [List.mem_filter, decide_eq_true_eq, and_assoc]
  rw [own]
  cases turn with
  | audio =>
    rw [schedule_audio]
    by_cases publishing : peer < audioPublishers.toNat
    · rw [audioSchedule_staggered _ _ _ _ publishing, mem_scheduleOf]
      exact (and_iff_right publishing).symm
    · simp [audioSchedule, staggeredMedia, PeerMedia.mixed, publishersOf, publishing]
  | video =>
    rw [schedule_video]
    by_cases publishing : peer < videoPublishers.toNat
    · rw [videoSchedule_staggered _ _ _ _ publishing, mem_scheduleOf]
      exact (and_iff_right publishing).symm
    · simp [videoSchedule, staggeredMedia, PeerMedia.mixed, publishersOf, publishing]

section
variable {rooms peers audioPublishers videoPublishers seconds : UInt32} {ran : List Room}

/-- What a mixed room spawns for a peer, whatever it expects. -/
theorem mixedTask_media {peerCount audioPacketCount videoFrameCount roomIndex : UInt32}
    {low high : UInt64} {peer : Nat} {task : PeerTask}
    (spawned : mixedTask peerCount audioPublishers videoPublishers audioPacketCount
      videoFrameCount roomIndex low high peer = .ok task) :
    ∃ source, task.media = staggeredMedia source peer audioPublishers videoPublishers
      audioPacketCount videoFrameCount := by
  simp only [mixedTask, bind_eq_ok] at spawned
  obtain ⟨source, _, _, _, _, _, _, _, built⟩ := spawned
  obtain rfl := Except.ok.inj built
  exact ⟨source, rfl⟩

/-- A mixed room has a task for each of its peers, with the peer's index as its slot. -/
theorem mixedRoom_tasks {audioPacketCount videoFrameCount roomIndex : UInt32} {room : Room}
    (packets : checkedMul32 seconds audioPacketsPerSecond = some audioPacketCount)
    (frames : checkedMul32 seconds videoFramesPerSecond = some videoFrameCount)
    (furnished : runMixedRoom peers audioPublishers videoPublishers seconds roomIndex =
      .ok room) :
    room.tasks.length = peers.toNat ∧ ∀ peer task, room.tasks[peer]? = some task →
      ∃ source, task.media = staggeredMedia source peer audioPublishers videoPublishers
        audioPacketCount videoFrameCount := by
  rw [runMixedRoom, packets, context_some, ok_bind, frames, context_some, ok_bind,
    bind_eq_ok] at furnished
  obtain ⟨⟨low, high⟩, _, furnished⟩ := furnished
  obtain ⟨tasks, looped, built⟩ := (bind_eq_ok _ _ _).mp furnished
  obtain rfl := Except.ok.inj built
  have spawned := forall₂_of_mapM looped
  refine ⟨by rw [← spawned.length_eq, List.length_range], fun peer task located => ?_⟩
  exact mixedTask_media (forall₂_range_getElem? spawned located).2

/-- The tasks of an accepted mixed conference: one per peer of each room, each with
its index in the room as its slot and with some measured work. -/
theorem run_tasks (valid : (ScenarioSpec.mixedConference rooms peers audioPublishers
      videoPublishers seconds).validate = .ok ())
    (completed : run (.mixedConference rooms peers audioPublishers videoPublishers seconds) =
      .ok ran) :
    ∃ audioPacketCount videoFrameCount : UInt32, 0 < audioPacketCount.toNat ∧
      0 < videoFrameCount.toNat ∧
      (∀ room peer task, taskAt ran room peer = some task → room < rooms.toNat ∧
        ∃ source, task.media = staggeredMedia source peer audioPublishers videoPublishers
          audioPacketCount videoFrameCount) ∧
      ∀ room < rooms.toNat, ∀ peer < peers.toNat, ∃ task, taskAt ran room peer = some task := by
  obtain ⟨_, _, _, _, ⟨some, bounded⟩, _⟩ := ScenarioSpec.mixedConference_bounds valid
  obtain ⟨audioPacketCount, packets, packetCount⟩ := Workload.audioPackets_counted seconds bounded
  obtain ⟨videoFrameCount, frames, frameCount⟩ := checkedMul32_of_fits seconds
    videoFramesPerSecond (by simp only [videoFramesPerSecond, UInt32.reduceToNat]; omega)
  have rate : videoFramesPerSecond.toNat = 30 := rfl
  rw [run, valid, ok_bind] at completed
  have each := forall₂_of_mapM completed
  have whole (room : Nat) (found : Room) (located : ran[room]? = .some found) :=
    let answered := forall₂_range_getElem? each located
    And.intro answered.1 (mixedRoom_tasks packets frames answered.2)
  refine ⟨audioPacketCount, videoFrameCount, by omega, by rw [frameCount, rate]; omega,
    fun room peer task located => ?_, fun room roomInside peer peerInside => ?_⟩
  · obtain ⟨found, roomLocated, taskLocated⟩ := Option.bind_eq_some_iff.mp located
    obtain ⟨inside, _, tasks⟩ := whole room found roomLocated
    exact ⟨inside, tasks peer task taskLocated⟩
  · have roomCount : ran.length = rooms.toNat := by
      rw [← each.length_eq, List.length_range]
      rfl
    have roomLocated := List.getElem?_eq_getElem (roomCount ▸ roomInside)
    obtain ⟨_, taskCount, _⟩ := whole room _ roomLocated
    refine ⟨_, Option.bind_eq_some_iff.mpr ⟨_, roomLocated,
      List.getElem?_eq_getElem (taskCount ▸ peerInside)⟩⟩

/-- An accepted mixed conference has at least one publisher of each kind and at
most one per peer. -/
theorem publishers_bounds (valid : (ScenarioSpec.mixedConference rooms peers audioPublishers
    videoPublishers seconds).validate = .ok ()) (turn : MediaTurn) :
    0 < publishersOf audioPublishers videoPublishers turn ∧
      publishersOf audioPublishers videoPublishers turn ≤ peers.toNat ∧ peers.toNat ≤ 100 := by
  obtain ⟨_, _, _, _, _⟩ := ScenarioSpec.mixedConference_bounds valid
  cases turn <;> simp only [publishersOf] <;> omega

/-- Offsets inside one interval that meet after whole intervals are the same. -/
theorem offsets_meet {interval first second index other : Nat} (firstPresent : 0 < first)
    (firstWithin : first ≤ interval) (secondPresent : 0 < second) (secondWithin : second ≤ interval)
    (met : first + index * interval = second + other * interval) : first = second := by
  have shifted : (first - 1) + index * interval = (second - 1) + other * interval := by omega
  have reduced := congrArg (· % interval) shifted
  simp only [Nat.add_mul_mod_self_right] at reduced
  rw [Nat.mod_eq_of_lt (by omega), Nat.mod_eq_of_lt (by omega)] at reduced
  omega

/-- Different slots of an interval never meet, in whatever interval. -/
theorem slots_apart {interval count peer otherPeer index other : Nat} (fits : count ≤ interval)
    (inside : peer < count) (otherInside : otherPeer < count) (apart : peer ≠ otherPeer) :
    interval / count * (peer + 1) + index * interval ≠
      interval / count * (otherPeer + 1) + other * interval := by
  have part : 0 < interval / count := Nat.div_pos fits (by omega)
  have within {slot : Nat} (below : slot < count) : interval / count * (slot + 1) ≤ interval :=
    le_trans (Nat.mul_le_mul_left _ below) (Nat.div_mul_le_self _ _)
  intro met
  have same := offsets_meet (Nat.mul_pos part (by omega)) (within inside)
    (Nat.mul_pos part (by omega)) (within otherInside) met
  have index := Nat.eq_of_mul_eq_mul_left part same
  omega

/-- The publishers of a kind stay apart exactly in a conference of one room: the
first publishers of two rooms share their first slot. -/
theorem apart_iff (rtp : RtpConstants) (turn : MediaTurn)
    (valid : (ScenarioSpec.mixedConference rooms peers audioPublishers videoPublishers
      seconds).validate = .ok ())
    (completed : run (.mixedConference rooms peers audioPublishers videoPublishers seconds) =
      .ok ran) : Apart rtp ran turn ↔ rooms = 1 := by
  obtain ⟨audioPacketCount, videoFrameCount, packets, frames, spawned, present⟩ :=
    run_tasks valid completed
  obtain ⟨publishing, inside, few⟩ := publishers_bounds valid turn
  obtain ⟨⟨someRoom, _⟩, _⟩ := ScenarioSpec.mixedConference_bounds valid
  have worked : 0 < turnCount audioPacketCount videoFrameCount turn := by
    cases turn
    · exact packets
    · exact frames
  have times (room peer : Nat) (task : PeerTask) (located : taskAt ran room peer = some task) :
      ∃ sent, measured rtp task.media = .ok sent ∧ ∀ time, time ∈ emissionTimes turn sent ↔
        peer < publishersOf audioPublishers videoPublishers turn ∧
          ∃ index < turnCount audioPacketCount videoFrameCount turn,
            time = intervalOf turn / publishersOf audioPublishers videoPublishers turn *
              (peer + 1) + index * intervalOf turn := by
    obtain ⟨source, media⟩ := (spawned room peer task located).2
    rw [media]
    obtain ⟨sent, sends, _⟩ := mem_emissionTimes rtp (staggeredMedia_fresh source peer
      audioPublishers videoPublishers audioPacketCount videoFrameCount) turn 0
    refine ⟨sent, sends, fun time => ?_⟩
    obtain ⟨again, sentAgain, emits⟩ := mem_emissionTimes rtp (staggeredMedia_fresh source peer
      audioPublishers videoPublishers audioPacketCount videoFrameCount) turn time
    obtain rfl := Except.ok.inj (sends.symm.trans sentAgain)
    exact emits.trans (staggered_times _ _ _ _ _ _ _ _)
  constructor
  · intro separate
    by_contra several
    have two : 1 < rooms.toNat := by
      have apart : rooms.toNat ≠ 1 := fun one => several (UInt32.toNat_inj.mp one)
      omega
    obtain ⟨task, located⟩ := present 0 (by omega) 0 (by omega)
    obtain ⟨other, otherLocated⟩ := present 1 two 0 (by omega)
    obtain ⟨sent, sends, emits⟩ := times 0 0 task located
    obtain ⟨otherSent, otherSends, otherEmits⟩ := times 1 0 other otherLocated
    refine separate 0 0 task located 1 0 other otherLocated (by simp) sent sends otherSent
      otherSends _ ((emits _).mpr ⟨publishing, 0, worked, rfl⟩)
      ((otherEmits _).mpr ⟨publishing, 0, worked, rfl⟩)
  · rintro rfl room peer task located otherRoom otherPeer other otherLocated apart sent sends
      otherSent otherSends time emitted otherEmitted
    have roomInside := (spawned room peer task located).1
    have otherInside := (spawned otherRoom otherPeer other otherLocated).1
    rw [UInt32.toNat_one] at roomInside otherInside
    obtain ⟨_, sendsAgain, emits⟩ := times room peer task located
    obtain ⟨_, otherSendsAgain, otherEmits⟩ := times otherRoom otherPeer other otherLocated
    obtain rfl := Except.ok.inj (sends.symm.trans sendsAgain)
    obtain rfl := Except.ok.inj (otherSends.symm.trans otherSendsAgain)
    obtain ⟨below, index, _, rfl⟩ := (emits time).mp emitted
    obtain ⟨otherBelow, otherIndex, _, met⟩ := (otherEmits _).mp otherEmitted
    have wide : publishersOf audioPublishers videoPublishers turn ≤ intervalOf turn :=
      le_trans (inside.trans few) (by cases turn <;> decide)
    refine slots_apart wide below otherBelow (fun same => apart ?_) met
    rw [same, show room = otherRoom by omega]

/-- An accepted mixed conference runs, and its publishers never send at one time
exactly when it has a single room. -/
theorem no_bursts_iff (rtp : RtpConstants)
    (valid : (ScenarioSpec.mixedConference rooms peers audioPublishers videoPublishers
      seconds).validate = .ok ()) :
    ∃ ran, run (.mixedConference rooms peers audioPublishers videoPublishers seconds) = .ok ran ∧
      (NoBursts rtp ran ↔ rooms = 1) := by
  obtain ⟨ran, completed, _⟩ := run_furnished _ valid
  refine ⟨ran, completed, ?_⟩
  rw [NoBursts, apart_iff rtp .audio valid completed, apart_iff rtp .video valid completed,
    and_self]

end

/-- Three peers of one room, two of them publishing, stay apart. -/
theorem one_room_stays_apart : ∃ ran, run (.mixedConference 1 3 2 1 1) = .ok ran ∧
    NoBursts documentedRtp ran := by
  have valid : (ScenarioSpec.mixedConference 1 3 2 1 1).validate = .ok () := by decide
  obtain ⟨ran, completed, apart⟩ := no_bursts_iff documentedRtp valid
  exact ⟨ran, completed, apart.mpr rfl⟩

/-- Two rooms of the same kind send their first packets together. -/
theorem two_rooms_burst : ¬ ∀ rooms peers audioPublishers videoPublishers seconds,
    (ScenarioSpec.mixedConference rooms peers audioPublishers videoPublishers seconds).validate =
      .ok () → ∀ ran, run (.mixedConference rooms peers audioPublishers videoPublishers seconds) =
        .ok ran → NoBursts documentedRtp ran := by
  intro claim
  have valid : (ScenarioSpec.mixedConference 2 3 2 1 1).validate = .ok () := by decide
  obtain ⟨ran, completed, _⟩ := run_furnished _ valid
  have apart := (claim 2 3 2 1 1 valid ran completed).1
  exact absurd ((apart_iff documentedRtp .audio valid completed).mp apart) (by decide)

end SfuLoad.Stagger
