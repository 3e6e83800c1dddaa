import SfuLoad.Kit.Effects
import SfuLoad.Kit.Histories
import SfuLoad.Kit.Runs
import SfuLoad.Client.Answer
import SfuLoad.Client.Media

/-!
# The RTC peer of a client

The peer keeps the audio section it may send on and the upload slot of its camera, and
declares a stream before the first packet of each. Its operations are programs that fail at
the first error. What the RTC engine and the socket answer is part of an action, and each
step of the peer that others can see joins its history.
-/

namespace SfuLoad.Client.Rtc

open Identity Kit Media Kit.Effects Kit.Histories Kit.Lines Kit.Runs Model

/-- The stream of the audio. -/
def audioSsrc : UInt32 := 0x0f000001

/-- The stream of the low layer. -/
def videoLowSsrc : UInt32 := 0x0f000002

/-- The stream of the high layer. -/
def videoHighSsrc : UInt32 := 0x0f000003

/-- The streams that have been declared to the engine. -/
structure DeclaredStreams where
  audio : Bool
  videoLow : Bool
  videoHigh : Bool

namespace DeclaredStreams

/-- Whether the stream of a layer has been declared. -/
def video (streams : DeclaredStreams) : VideoLayer → Bool
  | .low => streams.videoLow
  | .high => streams.videoHigh

/-- The stream of a layer has been declared. -/
def setVideo (streams : DeclaredStreams) : VideoLayer → DeclaredStreams
  | .low => { streams with videoLow := true }
  | .high => { streams with videoHigh := true }

/-- Declaring a layer says nothing of the audio. -/
@[simp] theorem setVideo_audio (streams : DeclaredStreams) (layer : VideoLayer) :
    (streams.setVideo layer).audio = streams.audio := by
  cases layer <;> rfl

/-- No layer is declared. -/
def clearVideo (streams : DeclaredStreams) : DeclaredStreams :=
  { streams with videoLow := false, videoHigh := false }

end DeclaredStreams

/-- Which way a media section carries. -/
inductive Direction where
  | sendOnly
  | recvOnly
  | sendRecv
  | inactive

/-- Whether it carries what the peer sends. -/
def Direction.isSending : Direction → Bool
  | .sendOnly | .sendRecv => true
  | .recvOnly | .inactive => false

/-- The packet that a stream is given. -/
structure RtpWrite (Mid : Type) where
  payloadType : Nat
  sequenceNumber : UInt64
  rtpTimestamp : UInt32
  wallclock : Nat
  payload : Payload
  marker : Bool
  extensionValues : ExtensionValues
  mid : Option Mid
  rid : Option String

/-- What a peer has taken over, received and read, and what it has declared, written and
answered. -/
inductive Entry (Mid : Type) where
  | audioPath (mid : Option Mid)
  | offered (slot : UploadSlot)
  | received (payload : Payload)
  | read (payload : Payload)
  | answered (answerSdp answer : Text)
  | declared (ssrc : UInt32) (mid : Mid) (rid : Option String)
  | wrote (mid : Mid) (rid : Option String) (packet : RtpWrite Mid)

/-- A peer: whether its connection stands, where it may send, which streams it has declared,
the payloads that wait to be read and the origin of its wallclock. The history is for the
statements only. -/
structure Peer (Mid : Type) where
  connected : Bool
  audioSendMid : Option Mid
  videoUploadSlot : Option UploadSlot
  declaredStreams : DeclaredStreams
  pendingRtp : List Payload
  sendOrigin : Option Nat
  history : List (Entry Mid)

/-- What the engine tells. The kind of a changed medium is looked up in the engine. -/
inductive Event (Mid : Type) where
  | connected
  | disconnected
  | mediaAdded (mid : Mid) (kind : MediaKind) (direction : Direction)
  | mediaChanged (mid : Mid) (kind : Option MediaKind) (direction : Direction)
  | rtpPacket (payload : Payload)
  | other

/-- What a poll of the engine puts out until it asks for a timeout. -/
inductive Output (Mid : Type) where
  | transmit (io : Except Fault Unit)
  | event (event : Event Mid)
  | failed (failure : Fault)

/-- How a wait for input ends. -/
inductive Input (Mid : Type) where
  | timeout (handled : Except Fault Unit) (outputs : List (Output Mid))
  | datagram (borrowed : Bool) (handled : Except Fault Unit) (outputs : List (Output Mid))
  | receiveFailed (failure : Fault)
  | nothing

namespace Peer

variable {Mid : Type} [DecidableEq Mid]

/-- The peer that `bind` makes before it drains the engine. -/
def new : Peer Mid where
  connected := false
  audioSendMid := none
  videoUploadSlot := none
  declaredStreams := ⟨false, false, false⟩
  pendingRtp := []
  sendOrigin := none
  history := []

/-- An entry joins the history. -/
def enter (entry : Entry Mid) (peer : Peer Mid) : Peer Mid :=
  { peer with history := peer.history ++ [entry] }

/-- Whether the audio stream has been declared, set. -/
def setAudioDeclared (declared : Bool) (peer : Peer Mid) : Peer Mid :=
  { peer with declaredStreams := { peer.declaredStreams with audio := declared } }

/-- The stream of a layer has been declared. -/
def setVideoDeclared (layer : VideoLayer) (peer : Peer Mid) : Peer Mid :=
  { peer with declaredStreams := peer.declaredStreams.setVideo layer }

/-- The engine tells which way an audio section carries. The peer takes over a section that
it may send on, and gives up its own when that one stops sending; a section that is not its
own may stop without notice. -/
def observeAudioDirection (mid : Mid) (kind : MediaKind) (direction : Direction)
    (peer : Peer Mid) : Peer Mid :=
  if kind ≠ .audio then peer
  else if direction.isSending then
    let peer := if peer.audioSendMid ≠ some mid then peer.setAudioDeclared false else peer
    ({ peer with audioSendMid := some mid } : Peer Mid).enter (.audioPath (some mid))
  else if peer.audioSendMid = some mid then
    (({ peer with audioSendMid := none } : Peer Mid).setAudioDeclared false).enter (.audioPath none)
  else peer

/-- A payload waits behind the others until it is read. -/
def receive (payload : Payload) (peer : Peer Mid) : Peer Mid :=
  ({ peer with pendingRtp := peer.pendingRtp ++ [payload] } : Peer Mid).enter (.received payload)

end Peer

/-- An operation of a peer. -/
abbrev Program (Mid α : Type) := EStateM Fault (Peer Mid) α

variable {Mid : Type}

/-- Fail unless a condition holds. -/
def ensure (condition : Bool) (message : String) : Program Mid PUnit :=
  if condition then pure () else throw (Fault.msg message)

/-- The value, or the failure that it is absent. -/
def orFail {α : Type} (value : Option α) (message : String) : Program Mid α :=
  match value with
  | some value => pure value
  | none => throw (Fault.msg message)

variable [DecidableEq Mid]

/-- What an event of the engine changes. -/
def observeEvent (event : Event Mid) : Program Mid PUnit :=
  match event with
  | .connected => modify fun peer => { peer with connected := true }
  | .disconnected => throw (Fault.msg "RTC connection disconnected")
  | .mediaAdded mid kind direction => modify (·.observeAudioDirection mid kind direction)
  | .mediaChanged mid (some kind) direction => modify (·.observeAudioDirection mid kind direction)
  | .mediaChanged _ none _ => pure ()
  | .rtpPacket payload => modify (·.receive payload)
  | .other => pure ()

/-- Work off what the engine puts out, up to the first failure. -/
def drainOutput (outputs : List (Output Mid)) : Program Mid PUnit :=
  outputs.forM fun
    | .transmit io => answer (withContext "failed to send an RTC datagram" io)
    | .event event => observeEvent event
    | .failed failure => throw (failure.context "failed to drain RTC output")

/-- Wait once: for a datagram or for the engine's timeout, and drain the engine after it. -/
def waitForInput (input : Input Mid) : Program Mid PUnit :=
  match input with
  | .timeout handled outputs => do
    answer (withContext "failed to apply an RTC timeout" handled)
    drainOutput outputs
  | .datagram borrowed handled outputs => do
    ensure borrowed "failed to borrow the RTC datagram"
    answer (withContext "failed to apply an RTC datagram" handled)
    drainOutput outputs
  | .receiveFailed failure => throw (failure.context "failed to receive an RTC datagram")
  | .nothing => pure ()

/-- A timeout that is due before the operation goes on. -/
structure DueTimeout (Mid : Type) where
  handled : Except Fault Unit
  outputs : List (Output Mid)

/-- Hand the engine the timeouts that are due, one after another. -/
def applyDueTimeouts (due : List (DueTimeout Mid)) : Program Mid PUnit :=
  due.forM fun timeout => do
    answer (withContext "failed to apply a due RTC timeout" timeout.handled)
    drainOutput timeout.outputs

/-- The moment a packet is sent at: the first packet sets the origin it counts from. -/
def paceUntil (now emittedAt : Nat) (inputs : List (Input Mid)) : Program Mid Nat := do
  let peer ← get
  let origin := peer.sendOrigin.getD (if emittedAt ≤ now then now - emittedAt else now)
  modify fun peer => { peer with sendOrigin := some origin }
  inputs.forM waitForInput
  pure (origin + emittedAt)

/-- What the outside answers while an offer is answered. -/
structure Answering (Mid : Type) where
  parsed : Except Fault Unit
  accepted : Except Fault Unit
  outputs : List (Output Mid)
  answerSdp : Text

/-- The slot that the camera is published on. -/
def UploadSlot.isVp8 (slot : UploadSlot) : Bool :=
  slot.kind = .video && slot.codecs.any (· == "VP8".toList)

/-- Take over an offered slot. Streams are declared anew on another media section. -/
def Peer.takeSlot (slot : UploadSlot) (peer : Peer Mid) : Peer Mid :=
  let peer :=
    if peer.videoUploadSlot.any (·.mid ≠ slot.mid) then
      { peer with declaredStreams := peer.declaredStreams.clearVideo }
    else peer
  ({ peer with videoUploadSlot := some slot } : Peer Mid).enter (.offered slot)

/-- Take over the first slot of an offer that the camera is published on, if any. -/
def takeVideoSlot (uploadSlots : List UploadSlot) : Program Mid PUnit :=
  match uploadSlots.find? UploadSlot.isVp8 with
  | some slot => modify (·.takeSlot slot)
  | none => pure ()

/-- The answer to an offer: with the layers of the slot, where one has been taken over. -/
def answerFor (videoSlot : Option UploadSlot) (answerSdp : Text) : Except Fault Text :=
  match videoSlot with
  | some slot => answerWithSimulcastSendRids answerSdp slot
  | none => .ok answerSdp

/-- Answer an offer. The slot stays taken over even when a later step fails. -/
def answerOffer (uploadSlots : List UploadSlot) (io : Answering Mid) : Program Mid Text := do
  answer (withContext "failed to parse the SFU SDP offer" io.parsed)
  takeVideoSlot uploadSlots
  let videoSlot := (← get).videoUploadSlot
  answer (withContext "failed to accept the SFU SDP offer" io.accepted)
  drainOutput io.outputs
  let sdp ← answer (answerFor videoSlot io.answerSdp)
  modify (·.enter (.answered io.answerSdp sdp))
  pure sdp

/-- Wait for inputs until the connection stands. The inputs end at the deadline. -/
def waitUntilConnected (inputs : List (Input Mid)) : Program Mid PUnit := do
  inputs.forM fun input => do
    if !(← get).connected then waitForInput input
  ensure (← get).connected "RTC connection did not become ready"

/-- What the outside answers while a packet is sent. The payload type is that of the
packet's codec, if it was negotiated, and the stream is there if it is found. -/
structure Sending (Mid : Type) where
  now : Nat
  pacing : List (Input Mid)
  payloadType : Option Nat
  declaring : List (Output Mid)
  stream : Option Unit
  writing : List (Output Mid)
  due : List (DueTimeout Mid)

/-- Declare the stream of the audio before its first packet. -/
def ensureAudioStream (mid : Mid) (declaring : List (Output Mid)) : Program Mid PUnit := do
  if !(← get).declaredStreams.audio then
    modify (·.enter (.declared audioSsrc mid none))
    drainOutput declaring
    modify (·.setAudioDeclared true)

/-- Pace, declare and write one audio packet; the result is the length of its payload. -/
def sendAudioPacket (packet : AudioPacket) (io : Sending Mid) : Program Mid Nat := do
  let packetWallclock ← paceUntil io.now packet.emittedAt io.pacing
  let mid ← orFail (← get).audioSendMid "audio publication has no negotiated send path"
  let payloadType ← orFail io.payloadType "Opus was not negotiated"
  ensureAudioStream mid io.declaring
  let payloadLen := packet.payload.length
  orFail io.stream "failed to find the audio RTP stream"
  modify (·.enter (.wrote mid none {
    payloadType
    sequenceNumber := packet.sequenceNumber.toUInt64
    rtpTimestamp := packet.rtpTimestamp
    wallclock := packetWallclock
    payload := packet.payload
    marker := false
    extensionValues := packet.extensionValues
    mid := none
    rid := none }))
  drainOutput io.writing
  applyDueTimeouts io.due
  pure payloadLen

/-- The stream of a layer. -/
def layerSsrc : VideoLayer → UInt32
  | .low => videoLowSsrc
  | .high => videoHighSsrc

/-- Declare the stream of a layer before its first packet. -/
def ensureVideoStream (mid : Mid) (layer : VideoLayer) (declaring : List (Output Mid)) :
    Program Mid PUnit := do
  if !(← get).declaredStreams.video layer then
    modify (·.enter (.declared (layerSsrc layer) mid (some layer.rid)))
    drainOutput declaring
    modify (·.setVideoDeclared layer)

/-- The engine's own name of a media section is made of the name in the slot. -/
def sendVideoPacket (midOf : Text → Mid) (packet : VideoPacket) (io : Sending Mid) :
    Program Mid Nat := do
  let packetWallclock ← paceUntil io.now packet.emittedAt io.pacing
  let mid ← orFail ((← get).videoUploadSlot.map fun slot => midOf slot.mid)
    "camera publication has no negotiated send path"
  let payloadType ← orFail io.payloadType "VP8 was not negotiated"
  ensureVideoStream mid packet.layer io.declaring
  let payloadLen := packet.payload.length
  let rid := packet.layer.rid
  orFail io.stream "failed to find the video RTP stream"
  modify (·.enter (.wrote mid (some rid) {
    payloadType
    sequenceNumber := packet.sequenceNumber.toUInt64
    rtpTimestamp := packet.rtpTimestamp
    wallclock := packetWallclock
    payload := packet.payload
    marker := packet.marker
    extensionValues := packet.extensionValues
    mid := some mid
    rid := some rid }))
  drainOutput io.writing
  applyDueTimeouts io.due
  pure payloadLen

/-- A turn of a read without waiting: the timeouts that are due, then what the socket has. -/
structure Attempt (Mid : Type) where
  due : List (DueTimeout Mid)
  input : Option (Input Mid)

/-- Work off the due timeouts, and one input if there is one. -/
def tryReadInput (attempt : Attempt Mid) : Program Mid Bool := do
  applyDueTimeouts attempt.due
  match attempt.input with
  | some input => do
    waitForInput input
    pure true
  | none => pure false

/-- How a read of a payload may wait. -/
inductive Reading (Mid : Type) where
  | trying (attempts : List (Attempt Mid))
  | waiting (inputs : List (Input Mid))

/-- The payload that has waited longest. -/
def popPending : Program Mid (Option Payload) := do
  match (← get).pendingRtp with
  | [] => pure none
  | payload :: rest => do
    modify fun peer => ({ peer with pendingRtp := rest } : Peer Mid).enter (.read payload)
    pure (some payload)

/-- Look for a payload among the inputs that are there already. -/
def readTrying : List (Attempt Mid) → Program Mid (Option Payload)
  | [] => pure none
  | attempt :: attempts => do
    if ← tryReadInput attempt then
      match ← popPending with
      | some payload => pure (some payload)
      | none => readTrying attempts
    else pure none

/-- Wait for inputs until there is a payload. -/
def readWaiting : List (Input Mid) → Program Mid (Option Payload)
  | [] => pure none
  | input :: inputs => do
    waitForInput input
    match ← popPending with
    | some payload => pure (some payload)
    | none => readWaiting inputs

/-- A payload that waits, or else the first one that comes. -/
def readRtpPayload (reading : Reading Mid) : Program Mid (Option Payload) := do
  match ← popPending with
  | some payload => pure (some payload)
  | none =>
    match reading with
    | .trying attempts => readTrying attempts
    | .waiting inputs => readWaiting inputs

/-- The operations that the owner of a peer has, each with what the outside answers. -/
inductive Action (Mid : Type) where
  | bind (outputs : List (Output Mid))
  | answerOffer (uploadSlots : List UploadSlot) (io : Answering Mid)
  | waitUntilConnected (inputs : List (Input Mid))
  | sendAudioPacket (packet : AudioPacket) (io : Sending Mid)
  | sendVideoPacket (packet : VideoPacket) (io : Sending Mid)
  | readRtpPayload (reading : Reading Mid)
  | resetSendPacing
  | setSendOrigin (origin : Nat)

/-- The operation of an action; what it answers its caller is left out. -/
def program (midOf : Text → Mid) : Action Mid → Program Mid PUnit
  | .bind outputs => drainOutput outputs
  | .answerOffer uploadSlots io => do
    let _ ← answerOffer uploadSlots io
  | .waitUntilConnected inputs => waitUntilConnected inputs
  | .sendAudioPacket packet io => do
    let _ ← sendAudioPacket packet io
  | .sendVideoPacket packet io => do
    let _ ← sendVideoPacket midOf packet io
  | .readRtpPayload reading => do
    let _ ← readRtpPayload reading
  | .resetSendPacing => modify fun peer => { peer with sendOrigin := none }
  | .setSendOrigin origin => modify fun peer => { peer with sendOrigin := some origin }

/-- A peer is used once it is bound, and no more once an operation has failed. -/
inductive Stage where
  | unbound
  | bound
  | failed (failure : Fault)

/-- A peer and how far it is. -/
structure Session (Mid : Type) where
  peer : Peer Mid
  stage : Stage

/-- A peer is bound first and once. After an operation has failed there is no other. -/
def Session.permits (session : Session Mid) : Action Mid → Bool
  | .bind _ => match session.stage with
    | .unbound => true
    | .bound | .failed _ => false
  | _ => match session.stage with
    | .bound => true
    | .unbound | .failed _ => false

/-- A peer before it is bound. -/
def Session.new : Session Mid := ⟨Peer.new, .unbound⟩

/-- One operation, from the peer it finds to the one it leaves, failed or not. -/
def step (midOf : Text → Mid) (session : Session Mid) (action : Action Mid) :
    Option (Session Mid) :=
  if session.permits action then
    match (program midOf action).run session.peer with
    | .ok _ peer => some ⟨peer, .bound⟩
    | .error failure peer => some ⟨peer, .failed failure⟩
  else none

end SfuLoad.Client.Rtc
