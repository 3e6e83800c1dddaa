import SfuLoad.Client.Settled

/-!
# What the operations of an RTC peer keep

An operation that answers leaves the peer settled, and one that fails leaves a lawful
history. While the engine is drained the flag of the stream just declared is still to be
set, so the drain keeps what holds once it is.
-/

namespace SfuLoad.Client.Rtc

open Identity Kit Media Kit.Effects Kit.Histories Kit.Lines Kit.Replacing Kit.Runs Model

variable {Mid : Type}

/-- Asking for a value: what holds with it found, and what holds without it. -/
theorem triple_orFail {α : Type} {requires : Peer Mid → Prop} {ensures : α → Peer Mid → Prop}
    (value : Option α) (message : String)
    (found : ∀ answer, value = some answer → ∀ peer, requires peer → ensures answer peer)
    (tolerated : ∀ peer, requires peer → tolerates peer) :
    Triple requires (orFail value message) ensures tolerates := by
  cases value with
  | some answer => exact triple_pure answer (found answer rfl)
  | none => exact triple_throw _ tolerated

/-- Asking for a condition. -/
theorem triple_ensure {requires ensures tolerates : Peer Mid → Prop} (condition : Bool)
    (message : String) (met : condition = true → ∀ peer, requires peer → ensures peer)
    (tolerated : ∀ peer, requires peer → tolerates peer) :
    Triple requires (ensure condition message) (fun _ => ensures) tolerates := by
  cases condition with
  | true => exact triple_pure _ (met rfl)
  | false => exact triple_throw _ tolerated

variable {midOf : Text → Mid} {calm : Prop} {peer : Peer Mid}

/-- Taking over a slot, or none, keeps the peer settled. -/
theorem triple_takeVideoSlot (uploadSlots : List UploadSlot) :
    Triple (Settled midOf calm) (takeVideoSlot uploadSlots : Program Mid PUnit)
      (fun _ => Settled midOf calm) (LawfulPeer midOf calm) := by
  rw [takeVideoSlot]
  cases found : uploadSlots.find? UploadSlot.isVp8 with
  | none => exact triple_pure _ fun _ met => met
  | some slot => exact triple_modify _ fun peer settled => settled.takeSlot (List.find?_some found)

/-- So does reading a payload that waits. -/
theorem triple_popPending :
    Triple (Settled midOf calm) (popPending : Program Mid (Option Payload))
      (fun _ => Settled midOf calm) (LawfulPeer midOf calm) := by
  refine triple_read fun before settled => ?_
  cases queued : before.pendingRtp with
  | nil => exact triple_pure _ fun _ same => same ▸ settled
  | cons payload rest =>
    refine Triple.bind (triple_modify _ ?_) fun _ => triple_pure _ fun _ met => met
    rintro _ rfl
    exact settled.pop queued

variable [DecidableEq Mid]

/-- What the events of the engine keep. The audio turns only where `turning` is granted. -/
structure Stable (turning : Prop) (holds : Peer Mid → Prop) : Prop where
  connects : ∀ peer, holds peer → holds { peer with connected := true }
  receives : ∀ peer payload, holds peer → holds (peer.receive payload)
  turns : turning → ∀ peer mid direction, holds peer →
    holds (peer.observeAudioDirection mid .audio direction)

/-- An output that does not turn the audio. -/
def Output.Calm (output : Output Mid) : Prop :=
  ∀ mid direction, output ≠ .event (.mediaAdded mid .audio direction) ∧
    output ≠ .event (.mediaChanged mid (some .audio) direction)

variable {turning : Prop} {holds tolerates : Peer Mid → Prop}

/-- The direction of a section that is no audio changes nothing. -/
theorem observeAudioDirection_other {kind : MediaKind} (other : kind ≠ .audio) (mid : Mid)
    (direction : Direction) (peer : Peer Mid) :
    peer.observeAudioDirection mid kind direction = peer := by
  rw [Peer.observeAudioDirection, if_pos other]

/-- What is stable holds after an event, if the event does not move the audio or this was
granted. -/
theorem triple_observeEvent (stable : Stable turning holds) {event : Event Mid}
    (quiet : turning ∨ (Output.event event).Calm)
    (tolerated : ∀ peer, holds peer → tolerates peer) :
    Triple holds (observeEvent event) (fun _ => holds) tolerates := by
  have turns (kind : MediaKind) (mid : Mid) (direction : Direction)
      (granted : kind = .audio → turning) :
      Triple holds (modify (·.observeAudioDirection mid kind direction) : Program Mid PUnit)
        (fun _ => holds) tolerates := by
    refine triple_modify _ fun peer met => ?_
    cases kind with
    | audio => exact stable.turns (granted rfl) peer mid direction met
    | video =>
      rw [observeAudioDirection_other (by decide)]
      exact met
  cases event with
  | connected => exact triple_modify _ stable.connects
  | disconnected => exact triple_throw _ tolerated
  | mediaAdded mid kind direction =>
    refine turns kind mid direction ?_
    rintro rfl
    exact quiet.resolve_right fun calm => (calm mid direction).1 rfl
  | mediaChanged mid kind direction =>
    cases kind with
    | none => exact triple_pure _ fun _ met => met
    | some kind =>
      refine turns kind mid direction ?_
      rintro rfl
      exact quiet.resolve_right fun calm => (calm mid direction).2 rfl
  | rtpPacket payload => exact triple_modify _ fun peer => stable.receives peer payload
  | other => exact triple_pure _ fun _ met => met

/-- And so after a whole drain; this is the induction over its outputs. -/
theorem triple_drainOutput (stable : Stable turning holds) {outputs : List (Output Mid)}
    (quiet : ∀ output ∈ outputs, turning ∨ output.Calm)
    (tolerated : ∀ peer, holds peer → tolerates peer) :
    Triple holds (drainOutput outputs) (fun _ => holds) tolerates := by
  refine triple_forM fun output member => ?_
  cases output with
  | transmit io => exact triple_answer _ (fun _ _ _ met => met) tolerated
  | event event => exact triple_observeEvent stable (quiet _ member) tolerated
  | failed failure => exact triple_throw _ tolerated

/-- After one wait, where turning the audio is granted. -/
theorem triple_waitForInput (stable : Stable True holds) (input : Input Mid)
    (tolerated : ∀ peer, holds peer → tolerates peer) :
    Triple holds (waitForInput input) (fun _ => holds) tolerates := by
  have drains (outputs : List (Output Mid)) :
      Triple holds (drainOutput outputs) (fun _ => holds) tolerates :=
    triple_drainOutput stable (fun _ _ => .inl trivial) tolerated
  have handled (message : String) (io : Except Fault Unit) :
      Triple holds (answer (withContext message io) : Program Mid Unit) (fun _ => holds)
        tolerates :=
    triple_answer _ (fun _ _ _ met => met) tolerated
  cases input with
  | timeout io outputs => exact (handled _ io).bind fun _ => drains outputs
  | datagram borrowed io outputs =>
    exact (triple_ensure borrowed _ (fun _ _ met => met) tolerated).bind fun _ =>
      (handled _ io).bind fun _ => drains outputs
  | receiveFailed failure => exact triple_throw _ tolerated
  | nothing => exact triple_pure _ fun _ met => met

/-- And after the due timeouts. -/
theorem triple_applyDueTimeouts (stable : Stable True holds) (due : List (DueTimeout Mid))
    (tolerated : ∀ peer, holds peer → tolerates peer) :
    Triple holds (applyDueTimeouts due) (fun _ => holds) tolerates :=
  triple_forM fun _ _ => (triple_answer _ (fun _ _ _ met => met) tolerated).bind fun _ =>
    triple_drainOutput stable (fun _ _ => .inl trivial) tolerated

/-- Being settled is stable under every event. -/
theorem stable_settled : Stable True fun peer : Peer Mid => Settled midOf calm peer where
  connects _ settled := { settled with }
  receives _ payload settled := settled.receive payload
  turns _ _ mid direction settled := settled.observeAudioDirection mid direction

/-- Turning the audio leaves the slot alone. -/
theorem observeAudioDirection_slot (mid : Mid) (direction : Direction) (peer : Peer Mid) :
    (peer.observeAudioDirection mid .audio direction).videoUploadSlot = peer.videoUploadSlot := by
  rw [Peer.observeAudioDirection, if_neg (by simp)]
  split
  · split <;> rfl
  · split <;> rfl

/-- Turning the audio and declaring a layer commute. -/
theorem observeAudioDirection_setVideoDeclared (layer : VideoLayer) (mid : Mid)
    (direction : Direction) (peer : Peer Mid) :
    (peer.observeAudioDirection mid .audio direction).setVideoDeclared layer =
      (peer.setVideoDeclared layer).observeAudioDirection mid .audio direction := by
  have same : (peer.setVideoDeclared layer).audioSendMid = peer.audioSendMid := by
    cases layer <;> rfl
  rw [Peer.observeAudioDirection, Peer.observeAudioDirection, same]
  split_ifs <;> cases layer <;> rfl

/-- What will hold once the flag of a layer is set, on the section of the camera. -/
theorem stable_declaring (layer : VideoLayer) (mid : Mid) :
    Stable True fun peer => PublishedOn midOf mid peer ∧
      Settled midOf calm (peer.setVideoDeclared layer) where
  connects peer met := ⟨met.1, by
    cases layer <;> exact { met.2 with }⟩
  receives peer payload met := ⟨met.1, by
    have settled := met.2.receive payload
    cases layer <;> exact settled⟩
  turns _ peer other direction met := by
    refine ⟨?_, ?_⟩
    · rw [PublishedOn, observeAudioDirection_slot]
      exact met.1
    · rw [observeAudioDirection_setVideoDeclared]
      exact met.2.observeAudioDirection other direction

/-- Where the audio's flag is set at the end, it may as well be set before the audio turns.
So the flag that is set late does no harm. -/
theorem observeAudioDirection_setAudioDeclared (mid : Mid) (direction : Direction)
    (peer : Peer Mid) :
    (peer.observeAudioDirection mid .audio direction).setAudioDeclared true =
      ((peer.setAudioDeclared true).observeAudioDirection mid .audio direction).setAudioDeclared
        true := by
  have same : (peer.setAudioDeclared true).audioSendMid = peer.audioSendMid := rfl
  rw [Peer.observeAudioDirection, Peer.observeAudioDirection, same]
  split_ifs <;> rfl

/-- What will hold once the flag of the audio is set. A drain that turns the audio leaves it
unanswered for. -/
theorem stable_declaringAudio (mid : Mid) :
    Stable (¬calm) fun peer => Settled midOf calm (peer.setAudioDeclared true) ∧
      (calm → peer.audioSendMid = some mid) where
  connects _ met := ⟨{ met.1 with }, met.2⟩
  receives _ payload met := ⟨met.1.receive payload, met.2⟩
  turns unanswered _ other direction met := by
    refine ⟨?_, fun steady => absurd steady unanswered⟩
    rw [observeAudioDirection_setAudioDeclared]
    exact (met.1.observeAudioDirection other direction).setAudioDeclared unanswered

/-- One wait keeps a peer settled. -/
theorem triple_settledWait (input : Input Mid) :
    Triple (Settled midOf calm) (waitForInput input) (fun _ => Settled midOf calm)
      (LawfulPeer midOf calm) :=
  triple_waitForInput stable_settled input fun _ => Settled.lawfulPeer

variable {now emittedAt : Nat}

/-- Pacing is waiting, and the origin is not part of what is settled. -/
theorem triple_paceUntil (inputs : List (Input Mid)) :
    Triple (Settled midOf calm) (paceUntil now emittedAt inputs) (fun _ => Settled midOf calm)
      (LawfulPeer midOf calm) := by
  refine triple_read fun before settled => ?_
  refine Triple.bind (triple_modify _ ?_) fun _ => Triple.bind (triple_forM fun input _ =>
    triple_settledWait input) fun _ => triple_pure _ fun _ met => met
  rintro _ rfl
  exact { settled with }

/-- The camera is published on the section and the stream of the layer stands. -/
def Ready (midOf : Text → Mid) (calm : Prop) (layer : VideoLayer) (mid : Mid)
    (peer : Peer Mid) : Prop :=
  PublishedOn midOf mid peer ∧ Settled midOf calm peer ∧ peer.declaredStreams.video layer = true

/-- After asking for the stream of a layer, it stands on the section. While the engine is
drained the flag is still to be set, so the drain keeps the peer settled up to it. -/
theorem triple_ensureVideoStream (mid : Mid) (layer : VideoLayer) (declaring : List (Output Mid)) :
    Triple (fun peer => PublishedOn midOf mid peer ∧ Settled midOf calm peer)
      (ensureVideoStream mid layer declaring) (fun _ => Ready midOf calm layer mid)
      (LawfulPeer midOf calm) := by
  refine triple_read fun before met => ?_
  cases flag : before.declaredStreams.video layer with
  | true => exact triple_pure _ fun _ same => same ▸ ⟨met.1, met.2, flag⟩
  | false =>
    have drain : Triple (fun peer => PublishedOn midOf mid peer ∧
        Settled midOf calm (peer.setVideoDeclared layer)) (drainOutput declaring)
        (fun _ peer => PublishedOn midOf mid peer ∧
          Settled midOf calm (peer.setVideoDeclared layer)) (LawfulPeer midOf calm) :=
      triple_drainOutput (stable_declaring layer mid) (fun _ _ => .inl trivial)
        (fun _ met => met.2.lawful)
    refine Triple.bind (triple_modify _ ?_) fun _ => drain.bind fun _ => triple_modify _ ?_
    · rintro _ rfl
      exact ⟨met.1, met.2.declareVideo met.1 flag⟩
    · intro peer met
      refine ⟨met.1, met.2, ?_⟩
      cases layer <;> rfl

/-- What follows a packet that has been written. -/
theorem triple_afterWrite (writing : List (Output Mid)) (due : List (DueTimeout Mid))
    (length : Nat) : Triple (Settled midOf calm)
      (do drainOutput writing; applyDueTimeouts due; pure length : Program Mid Nat)
      (fun _ => Settled midOf calm) (LawfulPeer midOf calm) :=
  (triple_drainOutput stable_settled (fun _ _ => .inl trivial) fun _ => Settled.lawfulPeer).bind
    fun _ => (triple_applyDueTimeouts stable_settled due fun _ => Settled.lawfulPeer).bind
      fun _ => triple_pure _ fun _ met => met

/-- Sending a video packet keeps the peer settled: what it writes is allowed, since the
stream stands. -/
theorem triple_sendVideoPacket (packet : VideoPacket) (io : Sending Mid) :
    Triple (Settled midOf calm) (sendVideoPacket midOf packet io) (fun _ => Settled midOf calm)
      (LawfulPeer midOf calm) := by
  refine (triple_paceUntil io.pacing).bind fun wallclock => triple_read fun before settled => ?_
  have published : Triple (Eq before) (orFail (before.videoUploadSlot.map fun slot =>
      midOf slot.mid) "camera publication has no negotiated send path" : Program Mid Mid)
      (fun mid peer => PublishedOn midOf mid peer ∧ Settled midOf calm peer)
      (LawfulPeer midOf calm) := by
    refine triple_orFail _ _ ?_ ?_
    · rintro mid found _ rfl
      exact ⟨found, settled⟩
    · rintro _ rfl
      exact settled.lawful
  have written (mid : Mid) (write : RtpWrite Mid) :
      Triple (Ready midOf calm packet.layer mid)
        (modify (·.enter (.wrote mid (some packet.layer.rid) write)) : Program Mid PUnit)
        (fun _ => Settled midOf calm) (LawfulPeer midOf calm) := by
    refine triple_modify _ fun peer ready => ?_
    obtain ⟨published, settled, declared⟩ := ready
    obtain ⟨slot, held, rfl⟩ := published.slot settled
    exact settled.enter ⟨rfl, rfl, rfl, rfl, rfl⟩
      (.wroteVideo slot packet.layer write held ((settled.video packet.layer).mp declared))
  exact published.bind fun mid =>
    (triple_orFail io.payloadType _ (fun _ _ _ met => met) fun _ met => met.2.lawful).bind fun _ =>
    (triple_ensureVideoStream mid packet.layer io.declaring).bind fun _ =>
    (triple_orFail io.stream _ (fun _ _ _ met => met) fun _ met => met.2.1.lawful).bind fun _ =>
    (written mid _).bind fun _ => triple_afterWrite io.writing io.due _

/-- The audio may be sent on the section, and its stream stands if it is answered for. -/
def AudioReady (midOf : Text → Mid) (calm : Prop) (mid : Mid) (peer : Peer Mid) : Prop :=
  Settled midOf calm peer ∧
    (calm → peer.audioSendMid = some mid ∧ peer.declaredStreams.audio = true)

/-- The same of the audio, where the drain must not move it. -/
theorem triple_ensureAudioStream {mid : Mid} {declaring : List (Output Mid)}
    (quiet : calm → ∀ output ∈ declaring, output.Calm) :
    Triple (fun peer => peer.audioSendMid = some mid ∧ Settled midOf calm peer)
      (ensureAudioStream mid declaring) (fun _ => AudioReady midOf calm mid)
      (LawfulPeer midOf calm) := by
  refine triple_read fun before ⟨path, settled⟩ => ?_
  cases flag : before.declaredStreams.audio with
  | true => exact triple_pure _ fun _ same => same ▸ ⟨settled, fun _ => ⟨path, flag⟩⟩
  | false =>
    have drain : Triple (fun peer => Settled midOf calm (peer.setAudioDeclared true) ∧
        (calm → peer.audioSendMid = some mid)) (drainOutput declaring)
        (fun _ peer => Settled midOf calm (peer.setAudioDeclared true) ∧
          (calm → peer.audioSendMid = some mid)) (LawfulPeer midOf calm) := by
      refine triple_drainOutput (stable_declaringAudio mid) (fun output member => ?_)
        (fun _ met => met.1.lawful)
      by_cases steady : calm
      · exact .inr (quiet steady output member)
      · exact .inl steady
    refine Triple.bind (triple_modify _ ?_) fun _ => drain.bind fun _ => triple_modify _ ?_
    · rintro _ rfl
      exact ⟨settled.declareAudio path flag, fun _ => path⟩
    · intro peer met
      exact ⟨met.1, fun steady => ⟨met.2 steady, rfl⟩⟩

/-- Sending an audio packet keeps the peer settled. -/
theorem triple_sendAudioPacket (packet : AudioPacket) {io : Sending Mid}
    (quiet : calm → ∀ output ∈ io.declaring, output.Calm) :
    Triple (Settled midOf calm) (sendAudioPacket packet io) (fun _ => Settled midOf calm)
      (LawfulPeer midOf calm) := by
  refine (triple_paceUntil io.pacing).bind fun wallclock => triple_read fun before settled => ?_
  have sendable : Triple (Eq before)
      (orFail before.audioSendMid "audio publication has no negotiated send path")
      (fun mid peer => peer.audioSendMid = some mid ∧ Settled midOf calm peer)
      (LawfulPeer midOf calm) := by
    refine triple_orFail _ _ ?_ ?_
    · rintro mid found _ rfl
      exact ⟨found, settled⟩
    · rintro _ rfl
      exact settled.lawful
  have written (mid : Mid) (write : RtpWrite Mid) :
      Triple (AudioReady midOf calm mid)
        (modify (·.enter (.wrote mid none write)) : Program Mid PUnit)
        (fun _ => Settled midOf calm) (LawfulPeer midOf calm) := by
    refine triple_modify _ fun peer ready => ?_
    refine ready.1.enter ⟨rfl, rfl, rfl, rfl, rfl⟩ (.wroteAudio mid write fun steady => ?_)
    obtain ⟨path, declared⟩ := ready.2 steady
    exact ⟨ready.1.audio ▸ path, ready.1.audioStands steady declared⟩
  exact sendable.bind fun mid =>
    (triple_orFail io.payloadType _ (fun _ _ _ met => met) fun _ met => met.2.lawful).bind fun _ =>
    (triple_ensureAudioStream quiet).bind fun _ =>
    (triple_orFail io.stream _ (fun _ _ _ met => met) fun _ met => met.1.lawful).bind fun _ =>
    (written mid _).bind fun _ => triple_afterWrite io.writing io.due _

/-- The slot is stable too, which answering an offer relies on across its drain. -/
theorem stable_holding (slot : Option UploadSlot) :
    Stable True fun peer : Peer Mid => peer.videoUploadSlot = slot ∧ Settled midOf calm peer where
  connects _ met := ⟨met.1, { met.2 with }⟩
  receives _ payload met := ⟨met.1, met.2.receive payload⟩
  turns _ _ mid direction met :=
    ⟨(observeAudioDirection_slot mid direction _).trans met.1,
      met.2.observeAudioDirection mid direction⟩

/-- Answering an offer keeps the peer settled: the answer is made for the slot of the
history. -/
theorem triple_answerOffer (uploadSlots : List UploadSlot) (io : Answering Mid) :
    Triple (Settled midOf calm) (answerOffer uploadSlots io) (fun _ => Settled midOf calm)
      (LawfulPeer midOf calm) := by
  refine (triple_answer _ (fun _ _ _ met => met) fun _ => Settled.lawfulPeer).bind fun _ =>
    (triple_takeVideoSlot uploadSlots).bind fun _ => triple_read fun before settled => ?_
  have holding : Triple (Eq before)
      (answer (withContext "failed to accept the SFU SDP offer" io.accepted) : Program Mid Unit)
      (fun _ peer => peer.videoUploadSlot = before.videoUploadSlot ∧ Settled midOf calm peer)
      (LawfulPeer midOf calm) := by
    refine triple_answer _ ?_ ?_
    · rintro _ _ _ rfl
      exact ⟨rfl, settled⟩
    · rintro _ rfl
      exact settled.lawful
  refine holding.bind fun _ => (triple_drainOutput (stable_holding before.videoUploadSlot)
    (fun _ _ => .inl trivial) fun _ met => met.2.lawful).bind fun _ => ?_
  have made : Triple
      (fun peer => peer.videoUploadSlot = before.videoUploadSlot ∧ Settled midOf calm peer)
      (answer (answerFor before.videoUploadSlot io.answerSdp) : Program Mid Text)
      (fun sent peer => answerFor before.videoUploadSlot io.answerSdp = .ok sent ∧
        peer.videoUploadSlot = before.videoUploadSlot ∧ Settled midOf calm peer)
      (LawfulPeer midOf calm) :=
    triple_answer _ (fun _ sends _ met => ⟨sends, met⟩) fun _ met => met.2.lawful
  refine made.bind fun sent => Triple.bind (triple_modify _ ?_) fun _ =>
    triple_pure _ fun _ met => met
  rintro peer ⟨sends, held, settled⟩
  refine settled.enter ⟨rfl, rfl, rfl, rfl, rfl⟩ ?_
  rw [← held, settled.slot] at sends
  cases published : slotOf peer.history with
  | none =>
    rw [published] at sends
    obtain rfl := Except.ok.inj sends
    exact .answered io.answerSdp published
  | some slot =>
    rw [published] at sends
    exact .answeredFor slot io.answerSdp sent published sends

/-- Waiting for the connection keeps the peer settled. -/
theorem triple_waitUntilConnected (inputs : List (Input Mid)) :
    Triple (Settled midOf calm) (waitUntilConnected inputs) (fun _ => Settled midOf calm)
      (LawfulPeer midOf calm) := by
  refine Triple.bind (triple_forM fun input _ => triple_read fun before settled => ?_) fun _ =>
    triple_read fun before settled => triple_ensure _ _ ?_ ?_
  · cases before.connected with
    | true => exact triple_pure _ fun _ same => same ▸ settled
    | false => exact (triple_settledWait input).from_state settled
  · rintro _ _ rfl
    exact settled
  · rintro _ rfl
    exact settled.lawful

/-- Working off one input does. -/
theorem triple_tryReadInput (attempt : Attempt Mid) :
    Triple (Settled midOf calm) (tryReadInput attempt) (fun _ => Settled midOf calm)
      (LawfulPeer midOf calm) := by
  refine (triple_applyDueTimeouts stable_settled attempt.due fun _ => Settled.lawfulPeer).bind
    fun _ => ?_
  cases attempt.input with
  | none => exact triple_pure _ fun _ met => met
  | some input => exact (triple_settledWait input).bind fun _ => triple_pure _ fun _ met => met

/-- Looking for a payload does. -/
theorem triple_readTrying (attempts : List (Attempt Mid)) :
    Triple (Settled midOf calm) (readTrying attempts) (fun _ => Settled midOf calm)
      (LawfulPeer midOf calm) := by
  induction attempts with
  | nil => exact triple_pure _ fun _ met => met
  | cons attempt attempts inductionHypothesis =>
    refine (triple_tryReadInput attempt).bind fun had => ?_
    cases had with
    | false => exact triple_pure _ fun _ met => met
    | true =>
      refine triple_popPending.bind fun payload => ?_
      cases payload with
      | none => exact inductionHypothesis
      | some payload => exact triple_pure _ fun _ met => met

/-- Waiting for one does. -/
theorem triple_readWaiting (inputs : List (Input Mid)) :
    Triple (Settled midOf calm) (readWaiting inputs) (fun _ => Settled midOf calm)
      (LawfulPeer midOf calm) := by
  induction inputs with
  | nil => exact triple_pure _ fun _ met => met
  | cons input inputs inductionHypothesis =>
    refine (triple_settledWait input).bind fun _ => triple_popPending.bind fun payload => ?_
    cases payload with
    | none => exact inductionHypothesis
    | some payload => exact triple_pure _ fun _ met => met

/-- So reading a payload does, however it comes. -/
theorem triple_readRtpPayload (reading : Reading Mid) :
    Triple (Settled midOf calm) (readRtpPayload reading) (fun _ => Settled midOf calm)
      (LawfulPeer midOf calm) := by
  refine triple_popPending.bind fun payload => ?_
  cases payload with
  | some payload => exact triple_pure _ fun _ met => met
  | none =>
    cases reading with
    | trying attempts => exact triple_readTrying attempts
    | waiting inputs => exact triple_readWaiting inputs

/-- The stream of the audio is declared without the audio turning meanwhile. -/
def Action.Calm : Action Mid → Prop
  | .sendAudioPacket _ io => ∀ output ∈ io.declaring, output.Calm
  | _ => True

/-- Every operation keeps a settled peer settled, and leaves a lawful history where it fails.
-/
theorem triple_program (action : Action Mid) (quiet : calm → action.Calm) :
    Triple (Settled midOf calm) (program midOf action) (fun _ => Settled midOf calm)
      (LawfulPeer midOf calm) := by
  have dropped {α : Type} {operation : Program Mid α}
      (triple : Triple (Settled midOf calm) operation (fun _ => Settled midOf calm)
        (LawfulPeer midOf calm)) :
      Triple (Settled midOf calm) (do let _ ← operation : Program Mid PUnit)
        (fun _ => Settled midOf calm) (LawfulPeer midOf calm) :=
    triple.bind fun _ => triple_pure _ fun _ met => met
  cases action with
  | bind outputs =>
    exact triple_drainOutput stable_settled (fun _ _ => .inl trivial) fun _ => Settled.lawfulPeer
  | answerOffer uploadSlots io => exact dropped (triple_answerOffer uploadSlots io)
  | waitUntilConnected inputs => exact triple_waitUntilConnected inputs
  | sendAudioPacket packet io => exact dropped (triple_sendAudioPacket packet quiet)
  | sendVideoPacket packet io => exact dropped (triple_sendVideoPacket packet io)
  | readRtpPayload reading => exact dropped (triple_readRtpPayload reading)
  | resetSendPacing => exact triple_modify _ fun _ settled => { settled with }
  | setSendOrigin origin => exact triple_modify _ fun _ settled => { settled with }

/-- What a session keeps: a peer that may be used is settled, and one that has failed has a
lawful history. -/
def Session.Kept (midOf : Text → Mid) (calm : Prop) (session : Session Mid) : Prop :=
  match session.stage with
  | .unbound | .bound => Settled midOf calm session.peer
  | .failed _ => LawfulPeer midOf calm session.peer

/-- So every step of a session does, and this is carried along its runs. -/
theorem step_keeps {session next : Session Mid} {action : Action Mid}
    (stepped : step midOf session action = some next) (quiet : calm → action.Calm)
    (kept : session.Kept midOf calm) : next.Kept midOf calm := by
  have settled (permitted : session.permits action = true) : Settled midOf calm session.peer := by
    obtain ⟨peer, stage⟩ := session
    cases stage with
    | unbound => exact kept
    | bound => exact kept
    | failed failure => cases action <;> cases permitted
  rw [step] at stepped
  split at stepped
  · next permitted =>
    have met := triple_program action quiet session.peer (settled permitted)
    split at stepped
    · next ran =>
      rw [ran] at met
      obtain rfl := Option.some.inj stepped
      exact met
    · next ran =>
      rw [ran] at met
      obtain rfl := Option.some.inj stepped
      exact met
  · cases stepped

/-- A video packet of the low layer. -/
def cameraPacket : VideoPacket where
  emittedAt := 33333333
  rtpTimestamp := 3000
  sequenceNumber := 1
  marker := true
  layer := .low
  extensionValues := ExtensionValues.default
  payload := [1, 2, 3]
  identity := ⟨.video, .warmup, some .low, 0, 0, 0, 0, 1⟩

/-- A camera is offered, answered for and sent on. -/
def cameraActions : List (Action Text) :=
  [.bind [], .answerOffer [cameraSlot]
      ⟨.ok (), .ok (), [.event (.mediaAdded ['1'] .video .sendOnly)], render cameraAnswer⟩,
    .waitUntilConnected [.datagram true (.ok ()) [.event .connected]],
    .sendVideoPacket cameraPacket ⟨50000000, [], some 96, [], some (), [.transmit (.ok ())], []⟩]

end SfuLoad.Client.Rtc
