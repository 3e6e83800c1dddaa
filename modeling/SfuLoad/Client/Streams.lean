import SfuLoad.Client.Rtc

/-!
# The streams and the answers of an RTC peer

A stream is declared where none stands for the section the packet goes to, and a packet is
written only where one does. A declaration stands until the camera is offered another
section, or the audio moves. Each answer is made for the slot taken over last, and the
payloads are read in the order in which they came.

The flag of the audio stream is set after the engine has been drained, so it is right as
long as this drain does not move the audio.
-/

namespace SfuLoad.Client.Rtc

open Identity Kit Media Kit.Effects Kit.Histories Kit.Lines Kit.Replacing Kit.Runs Model

variable {Mid : Type}

namespace Entry

/-- The camera's section moves when a slot is taken over. -/
def slotMid : Entry Mid → Option (Option Text)
  | .offered slot => some (some slot.mid)
  | _ => none

/-- The slot that an entry takes over. -/
def slot : Entry Mid → Option (Option UploadSlot)
  | .offered slot => some (some slot)
  | _ => none

/-- Where an entry says the audio may be sent. -/
def audio : Entry Mid → Option (Option Mid)
  | .audioPath mid => some mid
  | _ => none

/-- The stream that an entry declares: its number, section and layer. -/
def stream : Entry Mid → Option (UInt32 × Mid × Option String)
  | .declared ssrc mid rid => some (ssrc, mid, rid)
  | _ => none

/-- The payload that an entry receives. -/
def receivedPayload : Entry Mid → Option Payload
  | .received payload => some payload
  | _ => none

/-- The payload that an entry reads. -/
def readPayload : Entry Mid → Option Payload
  | .read payload => some payload
  | _ => none

end Entry

/-- The slot taken over last. -/
def slotOf (history : List (Entry Mid)) : Option UploadSlot := latest Entry.slot history

/-- The section the audio may be sent on. -/
def audioOf (history : List (Entry Mid)) : Option Mid := latest Entry.audio history

/-- The stream of a layer is declared on the section of the camera. -/
def VideoStands (midOf : Text → Mid) (layer : VideoLayer) (history : List (Entry Mid)) : Prop :=
  ∃ slot, slotOf history = some slot ∧
    Standing Entry.slotMid Entry.stream (layerSsrc layer, midOf slot.mid, some layer.rid) history

/-- The audio stream is declared on the section of the audio. -/
def AudioStands (history : List (Entry Mid)) : Prop :=
  ∃ mid, audioOf history = some mid ∧
    Standing Entry.audio Entry.stream (audioSsrc, mid, none) history

/-- What may come after a history. Audio packets are answered for where `calm` holds. -/
inductive Allowed (midOf : Text → Mid) (calm : Prop) (before : List (Entry Mid)) :
    Entry Mid → Prop
  | audioPath (mid : Option Mid) : Allowed midOf calm before (.audioPath mid)
  | offered (slot : UploadSlot) (vp8 : UploadSlot.isVp8 slot) :
    Allowed midOf calm before (.offered slot)
  | received (payload : Payload) : Allowed midOf calm before (.received payload)
  | read (payload : Payload)
    (inOrder : before.filterMap Entry.readPayload ++ [payload] <+:
      before.filterMap Entry.receivedPayload) : Allowed midOf calm before (.read payload)
  | answered (answerSdp : Text) (unpublished : slotOf before = none) :
    Allowed midOf calm before (.answered answerSdp answerSdp)
  | answeredFor (slot : UploadSlot) (answerSdp sent : Text) (published : slotOf before = some slot)
    (sends : answerWithSimulcastSendRids answerSdp slot = .ok sent) :
    Allowed midOf calm before (.answered answerSdp sent)
  | declaredVideo (slot : UploadSlot) (layer : VideoLayer) (published : slotOf before = some slot)
    (absent : ¬VideoStands midOf layer before) :
    Allowed midOf calm before (.declared (layerSsrc layer) (midOf slot.mid) (some layer.rid))
  | declaredAudio (mid : Mid) (path : audioOf before = some mid) (absent : ¬AudioStands before) :
    Allowed midOf calm before (.declared audioSsrc mid none)
  | wroteVideo (slot : UploadSlot) (layer : VideoLayer) (packet : RtpWrite Mid)
    (published : slotOf before = some slot) (stands : VideoStands midOf layer before) :
    Allowed midOf calm before (.wrote (midOf slot.mid) (some layer.rid) packet)
  | wroteAudio (mid : Mid) (packet : RtpWrite Mid)
    (stands : calm → audioOf before = some mid ∧ AudioStands before) :
    Allowed midOf calm before (.wrote mid none packet)

/-- Declaring a stream is neither taking over a slot nor moving the audio. -/
theorem stream_apart (entry : Entry Mid) (item : UInt32 × Mid × Option String)
    (declares : entry.stream = some item) : entry.slotMid = none ∧ entry.audio = none := by
  cases entry <;> first | exact ⟨rfl, rfl⟩ | cases declares

/-- The section of the camera is that of the slot taken over last. -/
theorem latest_slotMid (history : List (Entry Mid)) :
    latest Entry.slotMid history = (slotOf history).map (·.mid) := by
  induction history using List.reverseRecOn with
  | nil => rfl
  | append_singleton history entry inductionHypothesis =>
    rw [slotOf, latest_concat, latest_concat, inductionHypothesis]
    cases entry <;> rfl

section Steps

variable {midOf : Text → Mid} {layer other : VideoLayer} {history : List (Entry Mid)}
  {entry : Entry Mid}

/-- An entry that neither moves the camera nor declares the layer leaves it as it stands. -/
theorem videoStands_concat (keeps : entry.slot = none)
    (other : ∀ mid, entry.stream ≠ some (layerSsrc layer, mid, some layer.rid)) :
    VideoStands midOf layer (history ++ [entry]) ↔ VideoStands midOf layer history := by
  have untouched : entry.slotMid = none := by
    cases entry <;> first | rfl | cases keeps
  have kept : slotOf (history ++ [entry]) = slotOf history := by
    rw [slotOf, latest_concat, keeps]
    rfl
  rw [VideoStands, VideoStands, kept]
  refine exists_congr fun slot => and_congr_right fun _ => ?_
  rw [standing_concat_iff (fun entry item declared => (stream_apart entry item declared).1)
    (other _), untouched]
  simp

/-- The streams of the camera stand as long as it keeps its section. -/
theorem videoStands_offered (slot : UploadSlot) :
    VideoStands midOf layer (history ++ [.offered slot]) ↔
      VideoStands midOf layer history ∧ (slotOf history).map (·.mid) = some slot.mid := by
  have taken : slotOf (history ++ [.offered slot]) = some slot := by
    rw [slotOf, latest_concat]
    rfl
  rw [VideoStands, taken]
  constructor
  · rintro ⟨_, ⟨⟩, stands⟩
    rw [standing_concat_iff (fun entry item declared => (stream_apart entry item declared).1)
      (by simp [Entry.stream])] at stands
    have same := stands.2 (some slot.mid) rfl
    rw [latest_slotMid] at same
    obtain ⟨before, published, named⟩ := Option.map_eq_some_iff.mp same.symm
    exact ⟨⟨before, published, named ▸ stands.1⟩, same.symm⟩
  · rintro ⟨⟨before, published, stands⟩, same⟩
    rw [published, Option.map_some, Option.some.injEq] at same
    refine ⟨slot, rfl, ?_⟩
    rw [standing_concat_iff (fun entry item declared => (stream_apart entry item declared).1)
      (by simp [Entry.stream]), latest_slotMid, published, ← same]
    refine ⟨stands, fun value touched => ?_⟩
    rw [Entry.slotMid, ← same] at touched
    exact (Option.some.inj touched).symm

/-- Once declared on the section of the slot, the stream of a layer stands. -/
theorem videoStands_declared {slot : UploadSlot} (published : slotOf history = some slot) :
    VideoStands midOf layer
      (history ++ [.declared (layerSsrc layer) (midOf slot.mid) (some layer.rid)]) := by
  refine ⟨slot, ?_, standing_declared rfl⟩
  rw [slotOf, latest_concat]
  exact published

/-- An entry that neither moves nor declares the audio leaves it standing or not. -/
theorem audioStands_concat (keeps : entry.audio = none)
    (other : ∀ mid, entry.stream ≠ some (audioSsrc, mid, none)) :
    AudioStands (history ++ [entry]) ↔ AudioStands history := by
  have kept : audioOf (history ++ [entry]) = audioOf history := by
    rw [audioOf, latest_concat, keeps]
    rfl
  rw [AudioStands, AudioStands, kept]
  refine exists_congr fun mid => and_congr_right fun _ => ?_
  rw [standing_concat_iff (fun entry item declared => (stream_apart entry item declared).2)
    (other _), keeps]
  simp

/-- The stream of the audio stands as long as the audio keeps its section. -/
theorem audioStands_path (mid : Option Mid) :
    AudioStands (history ++ [.audioPath mid]) ↔ AudioStands history ∧ audioOf history = mid := by
  have taken : audioOf (history ++ [.audioPath mid]) = mid := by
    rw [audioOf, latest_concat]
    rfl
  rw [AudioStands, AudioStands, taken]
  constructor
  · rintro ⟨mid, rfl, stands⟩
    rw [standing_concat_iff (fun entry item declared => (stream_apart entry item declared).2)
      (by simp [Entry.stream])] at stands
    have same : some mid = audioOf history := stands.2 (some mid) rfl
    exact ⟨⟨mid, same.symm, stands.1⟩, same.symm⟩
  · rintro ⟨⟨mid, path, stands⟩, rfl⟩
    refine ⟨mid, path, ?_⟩
    rw [standing_concat_iff (fun entry item declared => (stream_apart entry item declared).2)
      (by simp [Entry.stream])]
    exact ⟨stands, fun value touched => (Option.some.inj touched).symm⟩

/-- Once declared on the section it may be sent on, the audio stands. -/
theorem audioStands_declared {mid : Mid} (path : audioOf history = some mid) :
    AudioStands (history ++ [.declared audioSsrc mid none]) := by
  refine ⟨mid, ?_, standing_declared rfl⟩
  rw [audioOf, latest_concat]
  exact path

end Steps

end SfuLoad.Client.Rtc
