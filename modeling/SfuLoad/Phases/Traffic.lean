import SfuLoad.Client.Emission
import SfuLoad.Phases.Peer

/-!
# A peer's traffic

Where a peer's task is decides what it has sent: nothing, part of its warmup, its
whole warmup, part of its measured packets, or all its media yields. A task that
steps one packet after the other sends what the media's run as a whole yields.
-/

namespace SfuLoad.Phases

open Emission Generated Identity Kit.Barriers Kit.Fallible Ledger Media Model Rooms Sender

/-- How far a peer is with its packets. -/
inductive Segment where
  | unsent
  | warming
  | warmed
  | reset
  | measuring
  | sent
deriving DecidableEq

namespace Stage

/-- The part of its traffic a peer has behind it, by its stage. -/
def segment : Stage → Segment
  | joining => .unsent
  | waiting wait _ =>
    if wait < 2 then .unsent
    else if wait = 2 then .warmed
    else if wait < 5 then .reset
    else .sent
  | requesting phase | reporting phase | reported phase => if due phase < 2 then .unsent else .sent
  | warming => .warming
  | settling _ | settled => .warmed
  | restarted | starting | started => .reset
  | notifying | checking | creating | rechecking _ | listening _ => .reset
  | measuring => .measuring
  | receiving _ | received | quiescing _ | finished => .sent

/-- How waits and segments go together: the warmup lies between the second and the
third wait, the measured packets between the fifth and the sixth. -/
theorem segment_bounds (self : Stage) :
    (self.segment ≠ .unsent → 2 ≤ self.left) ∧
    (2 < self.entered → self.segment ≠ .unsent ∧ self.segment ≠ .warming) ∧
    (5 < self.entered → self.segment = .sent) ∧
    (self.segment = .measuring ∨ self.segment = .sent → 5 ≤ self.left) := by
  cases self with
  | waiting wait generation =>
    simp only [segment, entered, left]
    split_ifs <;> simp <;> omega
  | requesting phase => cases phase <;> simp [segment, entered, left, due]
  | reporting phase => cases phase <;> simp [segment, entered, left, due]
  | reported phase => cases phase <;> simp [segment, entered, left, due]
  | _ => simp [segment, entered, left]

/-- A task that has not left its second wait has sent nothing. -/
theorem two_le_left {self : Stage} (begun : self.segment ≠ .unsent) : 2 ≤ self.left :=
  self.segment_bounds.1 begun

/-- A task that has entered its third wait has sent its warmup. -/
theorem segment_of_two_lt {self : Stage} (later : 2 < self.entered) :
    self.segment ≠ .unsent ∧ self.segment ≠ .warming := self.segment_bounds.2.1 later

/-- A task that has entered its sixth wait has sent everything. -/
theorem segment_of_five_lt {self : Stage} (later : 5 < self.entered) : self.segment = .sent :=
  self.segment_bounds.2.2.1 later

/-- Measured packets are sent after the fifth wait. -/
theorem five_le_left {self : Stage} (reached : self.segment = .measuring ∨ self.segment = .sent) :
    5 ≤ self.left := self.segment_bounds.2.2.2 reached

/-- Stages between which no wait is entered, no packet is sent and no report ends. -/
structure Near (before after : Stage) : Prop where
  entered : after.entered = before.entered
  segment : after.segment = before.segment
  moving : ∀ wait generation, after ≠ .waiting wait generation
  starting : after ≠ .started
  reported : after ≠ .reported .warmup

/-- To wait is not to send. -/
theorem segment_waiting {self : Stage} {wait : Nat} (next : self.nextWait = some wait)
    (generation : Nat) : (waiting wait generation).segment = self.segment := by
  cases self with
  | reported phase => cases phase <;> cases next <;> rfl
  | _ => cases next <;> rfl

end Stage

/-- What a peer that was given its media has sent in a segment, and what its media
has become. -/
def Traffic (rtp : RtpConstants) (media : PeerMedia) (self : PeerState) : Segment → Prop
  | .unsent => self.sent = [] ∧ self.media = media
  | .warming =>
    self.sent ++ self.pending = (sendWarmup rtp media).1 ∧ self.media = (sendWarmup rtp media).2
  | .warmed => self.sent = (sendWarmup rtp media).1 ∧ self.media = (sendWarmup rtp media).2
  | .reset =>
    self.sent = (sendWarmup rtp media).1 ∧ self.media = resetTimelines (sendWarmup rtp media).2
  | .measuring => ∃ measured rest, self.sent = (sendWarmup rtp media).1 ++ measured ∧
      mediaLoop rtp self.media self.audioOrdinal self.videoFrame = .ok rest ∧
      mediaLoop rtp (resetTimelines (sendWarmup rtp media).2) 0 0 =
        .ok (measured ++ (self.pending ++ rest))
  | .sent => runMediaPeer rtp media = .ok self.sent

section phases
variable (rtp : RtpConstants)

/-- Packets drawn in a phase carry the phase. -/
theorem audioRun_phase (phase : PacketPhase) (ordinals : List UInt32) (source : AudioSource) :
    ∀ packet ∈ (audioRun rtp source (ordinals.map (Prod.mk phase))).1,
      packet.identity.phase = phase := by
  induction ordinals generalizing source with
  | nil =>
    intro packet member
    cases member
  | cons ordinal ordinals inductionHypothesis =>
    intro packet member
    rcases List.mem_cons.mp member with rfl | later
    · rfl
    · exact inductionHypothesis _ packet later

/-- The packets of a frame carry the phase it was drawn in. -/
theorem nextFrame_phase (source : VideoSource) (phase : PacketPhase) (frame : UInt32) :
    ∀ packet ∈ (source.nextFrame rtp phase frame).1, packet.identity.phase = phase := by
  intro packet member
  rw [nextFrame_packets] at member
  rcases List.mem_append.mp member with low | high
  · exact (layerLoop_identity low).2.1
  · exact (layerLoop_identity high).2.1

/-- So do the packets of several frames. -/
theorem videoRun_phase (phase : PacketPhase) (frames : List UInt32) (source : VideoSource) :
    ∀ packet ∈ (videoRun rtp source (frames.map (Prod.mk phase))).1.flatten,
      packet.identity.phase = phase := by
  induction frames generalizing source with
  | nil =>
    intro packet member
    cases member
  | cons frame frames inductionHypothesis =>
    intro packet member
    rcases List.mem_append.mp member with now | later
    · exact nextFrame_phase rtp source phase frame packet now
    · exact inductionHypothesis _ packet later

/-- Every warmup packet says that it is one. -/
theorem sendWarmup_phase (media : PeerMedia) :
    ∀ packet ∈ (sendWarmup rtp media).1, packet.identity.phase = .warmup := by
  intro packet member
  rcases List.mem_append.mp member with audio | video
  · obtain ⟨inner, located, rfl⟩ := List.mem_map.mp audio
    cases present : media.audio with
    | none => simp [present] at located
    | some source =>
      rw [present] at located
      exact audioRun_phase rtp .warmup _ source inner located
  · obtain ⟨inner, located, rfl⟩ := List.mem_map.mp video
    cases present : media.video with
    | none => simp [present] at located
    | some source =>
      rw [present] at located
      exact videoRun_phase rtp .warmup _ source inner located

end phases

namespace Traffic

variable {rtp : RtpConstants} {media : PeerMedia} {self : PeerState} {segment : Segment}

/-- Whoever has sent a measured packet is past its acknowledgement. -/
theorem of_measured (traffic : Traffic rtp media self segment) {packet : Sent}
    (member : packet ∈ self.sent) (measured : packet.identity.phase = .measured) :
    segment = .measuring ∨ segment = .sent := by
  have warm : packet ∉ (sendWarmup rtp media).1 := by
    intro other
    rw [sendWarmup_phase rtp media packet other] at measured
    cases measured
  cases segment with
  | unsent =>
    rw [traffic.1] at member
    cases member
  | warming => exact absurd (traffic.1 ▸ List.mem_append_left self.pending member) warm
  | warmed => exact absurd (traffic.1 ▸ member) warm
  | reset => exact absurd (traffic.1 ▸ member) warm
  | measuring => exact .inl rfl
  | sent => exact .inr rfl

/-- Whoever has sent anything has begun its warmup. -/
theorem of_sent (traffic : Traffic rtp media self segment) {packet : Sent}
    (member : packet ∈ self.sent) : segment ≠ .unsent := by
  rintro rfl
  rw [traffic.1] at member
  cases member

/-- Once the warmup is over, all of it was sent. -/
theorem warmup_prefix (traffic : Traffic rtp media self segment) (begun : segment ≠ .unsent)
    (ended : segment ≠ .warming) : (sendWarmup rtp media).1 <+: self.sent := by
  cases segment with
  | unsent => exact absurd rfl begun
  | warming => exact absurd rfl ended
  | warmed => exact traffic.1 ▸ List.prefix_refl _
  | reset => exact traffic.1 ▸ List.prefix_refl _
  | measuring =>
    obtain ⟨measured, rest, sent, _⟩ := traffic
    exact sent ▸ List.prefix_append _ _
  | sent =>
    obtain ⟨measured, _, returned⟩ := (bind_eq_ok _ _ _).mp traffic
    exact (Except.ok.inj returned) ▸ List.prefix_append _ _

/-- Only what was sent, what is pending, the media and its counters matter. -/
theorem congr (traffic : Traffic rtp media self segment) {next : PeerState}
    (sent : next.sent = self.sent) (pending : next.pending = self.pending)
    (sources : next.media = self.media) (audio : next.audioOrdinal = self.audioOrdinal)
    (video : next.videoFrame = self.videoFrame) : Traffic rtp media next segment := by
  cases segment <;> simp only [Traffic, sent, pending, sources, audio, video] at traffic ⊢ <;>
    exact traffic

/-- A sent packet leaves what is pending. -/
theorem send (traffic : Traffic rtp media self segment)
    (sends : segment = .warming ∨ segment = .measuring) {packet : Sent} {pending : List Sent}
    (queued : self.pending = packet :: pending) :
    Traffic rtp media { self with pending := pending, sent := self.sent ++ [packet] } segment := by
  rcases sends with rfl | rfl
  · simpa [Traffic, queued] using traffic
  · obtain ⟨measured, rest, sent, looped, whole⟩ := traffic
    exact ⟨measured ++ [packet], rest, by simp [sent], looped, by simpa [queued] using whole⟩

/-- The measured loop begins with what the media yields after the warmup. -/
theorem begin (traffic : Traffic rtp media self .reset) :
    Traffic rtp media self.beginMeasured .measuring := by
  obtain ⟨sent, sources⟩ := traffic
  obtain ⟨rest, looped, _⟩ := mediaLoop_sends rtp self.media 0 0
  refine ⟨[], rest, by simpa [PeerState.beginMeasured] using sent, looped, ?_⟩
  rw [← sources, looped]
  rfl

/-- Where the loop goes when the packets of a turn are sent: it takes the next turn,
or it is done. -/
theorem next (traffic : Traffic rtp media self .measuring) (idle : self.pending = [])
    {after : PeerState} (moved : self.nextMeasured rtp = some after) :
    (after.stage = self.stage ∧ after.origin = self.origin ∧
      Traffic rtp media after .measuring) ∨
    ∃ deadline, after = self.goTo (.receiving deadline) ∧ Traffic rtp media after .sent := by
  obtain ⟨measured, rest, sent, looped, whole⟩ := traffic
  rw [idle, List.nil_append] at whole
  unfold PeerState.nextMeasured at moved
  cases turn : nextTurn self.media self.audioOrdinal self.videoFrame with
  | none =>
    simp only [turn] at moved
    obtain ⟨startedAt, _, rfl⟩ := Option.map_eq_some_iff.mp moved
    rw [mediaLoop, turn] at looped
    obtain rfl : [] = rest := Except.ok.inj looped
    refine .inr ⟨_, rfl, ?_⟩
    simp only [Traffic, runMediaPeer, PeerState.goTo, whole, sent, List.append_nil]
    rfl
  | some kind =>
    cases kind with
    | audio =>
      obtain ⟨source, present, _⟩ := nextTurn_audio turn
      simp only [turn, present] at moved
      obtain rfl := Option.some.inj moved
      rw [mediaLoop, turn] at looped
      simp only [present, context_some, ok_bind, bind_eq_ok] at looped
      obtain ⟨later, continued, returned⟩ := looped
      obtain rfl := Except.ok.inj returned
      exact .inl ⟨rfl, rfl, measured, later, sent, continued, whole⟩
    | video =>
      obtain ⟨source, present, _⟩ := nextTurn_video turn
      simp only [turn, present] at moved
      obtain rfl := Option.some.inj moved
      rw [mediaLoop, turn] at looped
      simp only [present, context_some, ok_bind, bind_eq_ok] at looped
      obtain ⟨later, continued, returned⟩ := looped
      obtain rfl := Except.ok.inj returned
      exact .inl ⟨rfl, rfl, measured, later, sent, continued, whole⟩

end Traffic

end SfuLoad.Phases
