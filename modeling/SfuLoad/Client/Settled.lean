import SfuLoad.Client.Streams

/-!
# The state of an RTC peer and its history

Between operations the flags of a peer say which streams stand, its slot and its queue are
those its history tells, and the history is lawful. Each change of the peer keeps this.
-/

namespace SfuLoad.Client.Rtc

open Identity Kit Media Kit.Effects Kit.Histories Kit.Lines Kit.Runs Model

variable {Mid : Type}

/-- What holds of a peer between operations: its slot, its audio path and its queue are those
of its history, its flags say which streams stand, and the history is lawful. The flag of the
audio says that the stream stands only along calm runs, where no drain moves the audio. -/
structure Settled (midOf : Text → Mid) (calm : Prop) (peer : Peer Mid) : Prop where
  slot : peer.videoUploadSlot = slotOf peer.history
  audio : peer.audioSendMid = audioOf peer.history
  video : ∀ layer, peer.declaredStreams.video layer = true ↔ VideoStands midOf layer peer.history
  audioAbsent : peer.declaredStreams.audio = false → ¬AudioStands peer.history
  audioStands : calm → peer.declaredStreams.audio = true → AudioStands peer.history
  reads : peer.history.filterMap Entry.readPayload ++ peer.pendingRtp =
    peer.history.filterMap Entry.receivedPayload
  lawful : Lawful (Allowed midOf calm) peer.history

/-- The history is lawful, whatever the state of a peer that has failed. -/
def LawfulPeer (midOf : Text → Mid) (calm : Prop) (peer : Peer Mid) : Prop :=
  Lawful (Allowed midOf calm) peer.history

variable {midOf : Text → Mid} {calm : Prop} {peer : Peer Mid}

/-- A new peer is settled: nothing has happened. -/
theorem settled_new : Settled midOf calm (Peer.new : Peer Mid) where
  slot := rfl
  audio := rfl
  video layer := by
    have absent : ¬VideoStands midOf layer ([] : List (Entry Mid)) := by
      rintro ⟨slot, ⟨⟩, -⟩
    cases layer <;> simpa [Peer.new, DeclaredStreams.video] using absent
  audioAbsent _ := by
    rintro ⟨mid, ⟨⟩, -⟩
  audioStands _ declared := by cases declared
  reads := rfl
  lawful := lawful_nil _

/-- An entry that moves nothing, declares nothing and reads nothing. -/
structure Plain (entry : Entry Mid) : Prop where
  slot : entry.slot = none
  audio : entry.audio = none
  stream : entry.stream = none
  read : entry.readPayload = none
  received : entry.receivedPayload = none

/-- An allowed entry that tells of no change of the peer keeps it settled. -/
theorem Settled.enter (settled : Settled midOf calm peer) {entry : Entry Mid} (plain : Plain entry)
    (allowed : Allowed midOf calm peer.history entry) : Settled midOf calm (peer.enter entry) where
  slot := by
    rw [Peer.enter, slotOf, latest_concat, plain.slot]
    exact settled.slot
  audio := by
    rw [Peer.enter, audioOf, latest_concat, plain.audio]
    exact settled.audio
  video layer := by
    rw [Peer.enter, videoStands_concat plain.slot (by simp [plain.stream])]
    exact settled.video layer
  audioAbsent := by
    rw [Peer.enter, audioStands_concat plain.audio (by simp [plain.stream])]
    exact settled.audioAbsent
  audioStands := by
    rw [Peer.enter, audioStands_concat plain.audio (by simp [plain.stream])]
    exact settled.audioStands
  reads := by
    simpa [Peer.enter, plain.read, plain.received] using settled.reads
  lawful := settled.lawful.concat allowed

/-- So does a payload that arrives, which the queue and the history both get. -/
theorem Settled.receive (settled : Settled midOf calm peer) (payload : Payload) :
    Settled midOf calm (peer.receive payload) where
  slot := settled.slot.trans (by rw [Peer.receive, Peer.enter, slotOf, slotOf, latest_concat]; rfl)
  audio := settled.audio.trans (by
    rw [Peer.receive, Peer.enter, audioOf, audioOf, latest_concat]; rfl)
  video layer := by
    rw [Peer.receive, Peer.enter, videoStands_concat rfl (by simp [Entry.stream])]
    exact settled.video layer
  audioAbsent := by
    rw [Peer.receive, Peer.enter, audioStands_concat rfl (by simp [Entry.stream])]
    exact settled.audioAbsent
  audioStands := by
    rw [Peer.receive, Peer.enter, audioStands_concat rfl (by simp [Entry.stream])]
    exact settled.audioStands
  reads := by
    have reads := settled.reads
    simp only [Peer.receive, Peer.enter, List.filterMap_append, ← reads]
    simp [Entry.readPayload, Entry.receivedPayload]
  lawful := settled.lawful.concat (.received payload)

/-- The payload in front of the queue is read. -/
theorem Settled.pop (settled : Settled midOf calm peer) {payload : Payload} {rest : List Payload}
    (queued : peer.pendingRtp = payload :: rest) : Settled midOf calm
      (({ peer with pendingRtp := rest } : Peer Mid).enter (.read payload)) where
  slot := settled.slot.trans (by rw [Peer.enter, slotOf, slotOf, latest_concat]; rfl)
  audio := settled.audio.trans (by rw [Peer.enter, audioOf, audioOf, latest_concat]; rfl)
  video layer := by
    rw [Peer.enter, videoStands_concat rfl (by simp [Entry.stream])]
    exact settled.video layer
  audioAbsent := by
    rw [Peer.enter, audioStands_concat rfl (by simp [Entry.stream])]
    exact settled.audioAbsent
  audioStands := by
    rw [Peer.enter, audioStands_concat rfl (by simp [Entry.stream])]
    exact settled.audioStands
  reads := by
    have reads := settled.reads
    rw [queued] at reads
    simpa [Peer.enter, List.filterMap_cons, Entry.readPayload, Entry.receivedPayload] using reads
  lawful := by
    have reads := settled.reads
    rw [queued] at reads
    exact settled.lawful.concat (.read payload ⟨rest, by simpa using reads⟩)

/-- The audio turns to a section: its stream stands if it stood and the section is the same. -/
theorem Settled.turn (settled : Settled midOf calm peer) (path : Option Mid) (declared : Bool)
    (same : declared = true → path = peer.audioSendMid ∧ peer.declaredStreams.audio = true)
    (moved : declared = false → path ≠ peer.audioSendMid ∨ peer.declaredStreams.audio = false) :
    Settled midOf calm ((({ peer with audioSendMid := path } : Peer Mid).setAudioDeclared
      declared).enter (.audioPath path)) where
  slot := settled.slot.trans (by
    rw [Peer.enter, slotOf, slotOf, latest_concat, Peer.setAudioDeclared]; rfl)
  audio := by
    rw [Peer.enter, audioOf, latest_concat]
    rfl
  video layer := by
    rw [Peer.enter, Peer.setAudioDeclared, videoStands_concat rfl (by simp [Entry.stream])]
    exact settled.video layer
  audioAbsent absent := by
    rw [Peer.enter, Peer.setAudioDeclared, audioStands_path, ← settled.audio]
    rintro ⟨stands, held⟩
    rcases moved absent with other | undeclared
    · exact other held.symm
    · exact settled.audioAbsent undeclared stands
  audioStands steady stands := by
    obtain ⟨held, declared⟩ := same stands
    rw [Peer.enter, Peer.setAudioDeclared, audioStands_path, ← settled.audio]
    exact ⟨settled.audioStands steady declared, held.symm⟩
  reads := by
    simpa [Peer.enter, Peer.setAudioDeclared, List.filterMap_cons, Entry.readPayload,
      Entry.receivedPayload] using settled.reads
  lawful := settled.lawful.concat (.audioPath path)

/-- Where the audio's streams are not answered for, the flag may be set. -/
theorem Settled.setAudioDeclared (settled : Settled midOf calm peer) (unanswered : ¬calm) :
    Settled midOf calm (peer.setAudioDeclared true) :=
  { settled with
    audioAbsent := fun absent => by cases absent
    audioStands := fun steady => absurd steady unanswered }

/-- A settled peer has a lawful history. -/
theorem Settled.lawfulPeer (settled : Settled midOf calm peer) : LawfulPeer midOf calm peer :=
  settled.lawful

/-- The section the camera is published on. -/
def PublishedOn (midOf : Text → Mid) (mid : Mid) (peer : Peer Mid) : Prop :=
  (peer.videoUploadSlot.map fun slot => midOf slot.mid) = some mid

/-- The section the camera is published on is that of the slot taken over last. -/
theorem PublishedOn.slot (published : PublishedOn midOf mid peer)
    (settled : Settled midOf calm peer) :
    ∃ slot, slotOf peer.history = some slot ∧ midOf slot.mid = mid := by
  obtain ⟨slot, held, named⟩ := Option.map_eq_some_iff.mp published
  exact ⟨slot, settled.slot ▸ held, named⟩

/-- The stream of a layer is entered, and its flag is set. -/
theorem Settled.declareVideo (settled : Settled midOf calm peer) {mid : Mid}
    (published : PublishedOn midOf mid peer) {layer : VideoLayer}
    (absent : peer.declaredStreams.video layer = false) :
    Settled midOf calm ((peer.enter (.declared (layerSsrc layer) mid
      (some layer.rid))).setVideoDeclared layer) := by
  obtain ⟨slot, held, rfl⟩ := published.slot settled
  have undeclared : ¬VideoStands midOf layer peer.history := by
    rw [← settled.video layer, absent]
    exact Bool.false_ne_true
  have audio : AudioStands (peer.history ++ [.declared (layerSsrc layer) (midOf slot.mid)
      (some layer.rid)]) ↔ AudioStands peer.history :=
    audioStands_concat rfl (by simp [Entry.stream])
  exact {
    slot := settled.slot.trans (by
      rw [Peer.setVideoDeclared, Peer.enter, slotOf, slotOf, latest_concat]; rfl)
    audio := settled.audio.trans (by
      rw [Peer.setVideoDeclared, Peer.enter, audioOf, audioOf, latest_concat]; rfl)
    video := fun other => by
      by_cases same : other = layer
      · subst same
        refine iff_of_true ?_ (videoStands_declared held)
        cases other <;> rfl
      · have apart : layerSsrc layer ≠ layerSsrc other := by
          revert same
          cases layer <;> cases other <;> decide
        have kept : (peer.declaredStreams.setVideo layer).video other =
            peer.declaredStreams.video other := by
          revert same
          cases layer <;> cases other <;> simp [DeclaredStreams.video, DeclaredStreams.setVideo]
        rw [Peer.setVideoDeclared, Peer.enter, kept,
          videoStands_concat rfl (by simp [Entry.stream, apart])]
        exact settled.video other
    audioAbsent := fun flag => mt audio.mp (settled.audioAbsent (by
      rwa [← peer.declaredStreams.setVideo_audio layer]))
    audioStands := fun steady flag => audio.mpr (settled.audioStands steady (by
      rwa [← peer.declaredStreams.setVideo_audio layer]))
    reads := by
      simpa [Peer.setVideoDeclared, Peer.enter, List.filterMap_cons, Entry.readPayload,
        Entry.receivedPayload] using settled.reads
    lawful := settled.lawful.concat (.declaredVideo slot layer held undeclared) }

/-- The stream of the audio is entered, and its flag is set. -/
theorem Settled.declareAudio (settled : Settled midOf calm peer) {mid : Mid}
    (path : peer.audioSendMid = some mid) (absent : peer.declaredStreams.audio = false) :
    Settled midOf calm ((peer.enter (.declared audioSsrc mid none)).setAudioDeclared true) where
  slot := settled.slot.trans (by
    rw [Peer.setAudioDeclared, Peer.enter, slotOf, slotOf, latest_concat]; rfl)
  audio := settled.audio.trans (by
    rw [Peer.setAudioDeclared, Peer.enter, audioOf, audioOf, latest_concat]; rfl)
  video layer := by
    rw [Peer.setAudioDeclared, Peer.enter, videoStands_concat rfl (by simp [Entry.stream])]
    exact settled.video layer
  audioAbsent flag := by cases flag
  audioStands _ _ := audioStands_declared (settled.audio ▸ path)
  reads := by
    simpa [Peer.setAudioDeclared, Peer.enter, List.filterMap_cons, Entry.readPayload,
      Entry.receivedPayload] using settled.reads
  lawful := settled.lawful.concat
    (.declaredAudio mid (settled.audio ▸ path) (settled.audioAbsent absent))

/-- A slot is taken over: the streams of the camera stand if its section stays the same. -/
theorem Settled.offer (settled : Settled midOf calm peer) {slot : UploadSlot}
    (vp8 : UploadSlot.isVp8 slot) (streams : DeclaredStreams)
    (audio : streams.audio = peer.declaredStreams.audio)
    (video : ∀ layer, streams.video layer = true ↔ peer.declaredStreams.video layer = true ∧
      peer.videoUploadSlot.map (·.mid) = some slot.mid) :
    Settled midOf calm (({ peer with declaredStreams := streams, videoUploadSlot := some slot } :
      Peer Mid).enter (.offered slot)) := by
  have stands : AudioStands (peer.history ++ [.offered slot]) ↔ AudioStands peer.history :=
    audioStands_concat rfl (by simp [Entry.stream])
  exact {
    slot := by
      rw [Peer.enter, slotOf, latest_concat]
      rfl
    audio := settled.audio.trans (by rw [Peer.enter, audioOf, audioOf, latest_concat]; rfl)
    video := fun layer => by
      rw [Peer.enter, videoStands_offered, video layer, settled.video layer, settled.slot]
    audioAbsent := fun flag => mt stands.mp (settled.audioAbsent (audio ▸ flag))
    audioStands := fun steady flag => stands.mpr (settled.audioStands steady (audio ▸ flag))
    reads := by
      simpa [Peer.enter, List.filterMap_cons, Entry.readPayload, Entry.receivedPayload]
        using settled.reads
    lawful := settled.lawful.concat (.offered slot vp8) }

/-- Taking over a slot keeps the peer settled: the flags of the layers are cleared with the
section. -/
theorem Settled.takeSlot (settled : Settled midOf calm peer) {slot : UploadSlot}
    (vp8 : UploadSlot.isVp8 slot) : Settled midOf calm (peer.takeSlot slot) := by
  have unpublished (layer : VideoLayer) (none_ : peer.videoUploadSlot = none) :
      peer.declaredStreams.video layer = false := by
    rw [← Bool.not_eq_true, settled.video layer]
    rintro ⟨other, held, -⟩
    rw [← settled.slot, none_] at held
    cases held
  rw [Peer.takeSlot]
  by_cases moves : peer.videoUploadSlot.any (·.mid ≠ slot.mid) = true
  · rw [if_pos moves]
    refine settled.offer vp8 _ rfl fun layer => iff_of_false ?_ ?_
    · cases layer <;> exact Bool.false_ne_true
    · rintro ⟨-, same⟩
      obtain ⟨other, held, named⟩ := Option.map_eq_some_iff.mp same
      simp [held, named] at moves
  · rw [if_neg moves]
    refine settled.offer vp8 _ rfl fun layer => ?_
    cases held : peer.videoUploadSlot with
    | none => simp [unpublished layer held]
    | some other =>
      have same : other.mid = slot.mid := by simpa [held] using moves
      simp [same]

variable [DecidableEq Mid]

/-- Turning the audio keeps the peer settled: the flag is cleared whenever the section
changes. -/
theorem Settled.observeAudioDirection (settled : Settled midOf calm peer) (mid : Mid)
    (direction : Direction) :
    Settled midOf calm (peer.observeAudioDirection mid .audio direction) := by
  rw [Peer.observeAudioDirection, if_neg (by simp)]
  split
  · split
    · next other =>
      exact settled.turn (some mid) false (fun absurd => by cases absurd)
        (fun _ => .inl (Ne.symm other))
    · next same =>
      have held : peer.audioSendMid = some mid := by simpa using same
      exact settled.turn (some mid) peer.declaredStreams.audio (fun declared => ⟨held.symm, declared⟩)
        (fun undeclared => .inr undeclared)
  · split
    · next held =>
      exact settled.turn none false (fun absurd => by cases absurd)
        (fun _ => .inl (by simp [held]))
    · exact settled

end SfuLoad.Client.Rtc
