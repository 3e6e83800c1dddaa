import SfuLoad.Kit.BigEndian
import SfuLoad.Kit.Windows
import SfuLoad.Model.Scenario

/-!
# Load identities inside RTP payloads

Every generated payload carries a fixed-layout identity behind a codec prefix
and is padded with bytes derived from that identity and the absolute offset. The
inspector scans a bounded window for the magic, decodes the header, and compares
the body with the bytes the decoded header predicts. Nothing in this module
knows which packets were planned; that is the ledger's part.
-/

namespace SfuLoad.Identity

open Kit Kit.Fallible Model

/-- Payload bytes as they travel in one RTP packet. -/
abbrev Payload := List UInt8

/-- `OSFU` in ASCII. -/
def identityMagic : List UInt8 := [0x4f, 0x53, 0x46, 0x55]

/-- The version of the identity's layout. -/
def identityVersion : UInt8 := 1

/-- The bytes of an identity, its magic included. -/
def identityHeaderLen : Nat := 22

/-- The bytes of a VP8 payload descriptor with a long picture id. -/
def vp8DescriptorLen : Nat := 6

/-- The bytes that open a keyframe behind the descriptor. -/
def vp8KeyframePrefixLen : Nat := 10

/-- The identity starts nowhere behind this: no codec prefix is longer. -/
def maxIdentityOffset : Nat := vp8DescriptorLen + vp8KeyframePrefixLen

/-- A packet is part of the warmup or of the measured work. -/
inductive PacketPhase where
  | warmup
  | measured
deriving DecidableEq

/-- The byte of a phase. -/
def PacketPhase.code : PacketPhase → UInt8
  | .warmup => 0
  | .measured => 1

/-- The phase of a byte. Other bytes are refused. -/
def PacketPhase.tryFrom (value : UInt8) : Except String PacketPhase :=
  if value = 0 then .ok .warmup
  else if value = 1 then .ok .measured
  else .error s!"unknown packet phase {value}"

/-- A packet carries audio or video. -/
inductive PayloadKind where
  | audio
  | video
deriving DecidableEq

/-- The byte of a kind. -/
def PayloadKind.code : PayloadKind → UInt8
  | .audio => 1
  | .video => 2

/-- The kind of a byte. Other bytes are refused. -/
def PayloadKind.tryFrom (value : UInt8) : Except String PayloadKind :=
  if value = 1 then .ok .audio
  else if value = 2 then .ok .video
  else .error s!"unknown payload kind {value}"

/-- The two simulcast layers of a video source. -/
inductive VideoLayer where
  | low
  | high
deriving DecidableEq

/-- The name of a layer in the signalling. -/
def VideoLayer.rid : VideoLayer → String
  | .low => "lo"
  | .high => "hi"

/-- The payload of every packet of a layer. -/
def VideoLayer.packetPayloadLen : VideoLayer → Nat
  | .low => videoLowPacketPayloadBytes
  | .high => videoHighPacketPayloadBytes

/-- The byte of a layer. Zero is left for audio. -/
def VideoLayer.code : VideoLayer → UInt8
  | .low => 1
  | .high => 2

/-- The layer of a byte. Other bytes are refused. -/
def VideoLayer.tryFrom (value : UInt8) : Except String VideoLayer :=
  if value = 1 then .ok .low
  else if value = 2 then .ok .high
  else .error s!"unknown video layer {value}"

/-- What a payload says about itself. -/
structure PacketIdentity where
  kind : PayloadKind
  phase : PacketPhase
  layer : Option VideoLayer
  /-- The publisher, numbered over all rooms. -/
  source : UInt16
  /-- The number of the packet in its stream and phase. -/
  ordinal : UInt32
  frame : UInt32
  fragment : UInt16
  fragments : UInt16
deriving DecidableEq

/-- The identity that was found, and whether the body is the one it predicts. -/
structure PayloadInspection where
  identity : PacketIdentity
  payloadMatches : Bool
deriving DecidableEq

/-- The body byte at an absolute offset. Only some bytes of some fields take
part, and offsets past 255 all count as 255. -/
def payloadByte (identity : PacketIdentity) (offset : Nat) : UInt8 :=
  (0x41 : UInt8) + UInt8.ofNat (min offset 255) + identity.source.toUInt8 + identity.ordinal.toUInt8
    + (identity.ordinal >>> 16).toUInt8 + (identity.frame >>> 8).toUInt8
    + identity.fragment.toUInt8

/-- The layer byte of the header; audio has none. -/
def layerCode (layer : Option VideoLayer) : UInt8 := (layer.map VideoLayer.code).getD 0

/-- The header fields after the magic, in wire order. -/
def headerFields (identity : PacketIdentity) : List UInt8 :=
  [identityVersion, identity.kind.code, identity.phase.code, layerCode identity.layer]
    ++ BigEndian.encode 2 identity.source.toNat
    ++ BigEndian.encode 4 identity.ordinal.toNat
    ++ BigEndian.encode 4 identity.frame.toNat
    ++ BigEndian.encode 2 identity.fragment.toNat
    ++ BigEndian.encode 2 identity.fragments.toNat

/-- Push one body byte at a time until the count of missing bytes is zero. -/
def pushBody (identity : PacketIdentity) : Nat → Payload → Payload
  | 0, payload => payload
  | missing + 1, payload =>
      pushBody identity missing (payload ++ [payloadByte identity payload.length])

/-- Writes a payload: codec prefix, magic, header, and the body up to the length. -/
def encodedPayload (identity : PacketIdentity) (payloadLen : Nat) (lead : List UInt8) : Payload :=
  let payload := lead ++ identityMagic ++ headerFields identity
  (pushBody identity (payloadLen - payload.length) payload).take payloadLen

/-- A field of the header, or the error that it is truncated. -/
def readArray (size : Nat) (header : List UInt8) (offset : Nat) : Except String (List UInt8) :=
  if offset + size ≤ header.length then .ok ((header.drop offset).take size)
  else .error "load identity field is truncated"

/-- Zero means no layer; every other byte must be a layer's code. -/
def decodeLayer (value : UInt8) : Except String (Option VideoLayer) :=
  if value = 0 then .ok none else some <$> VideoLayer.tryFrom value

/-- Decode the 22 header bytes that start at the magic. -/
def decodeHeader (header : List UInt8) : Except String PacketIdentity := do
  ensure (header[4]? = some identityVersion) "unsupported load identity version"
  let kind ← PayloadKind.tryFrom (← context header[5]? "payload kind is missing")
  let phase ← PacketPhase.tryFrom (← context header[6]? "packet phase is missing")
  let layer ← decodeLayer (← context header[7]? "video layer is missing")
  let source := UInt16.ofNat (BigEndian.decode (← readArray 2 header 8))
  let ordinal := UInt32.ofNat (BigEndian.decode (← readArray 4 header 10))
  let frame := UInt32.ofNat (BigEndian.decode (← readArray 4 header 14))
  let fragment := UInt16.ofNat (BigEndian.decode (← readArray 2 header 18))
  let fragments := UInt16.ofNat (BigEndian.decode (← readArray 2 header 20))
  return ⟨kind, phase, layer, source, ordinal, frame, fragment, fragments⟩

/-- The payload length the kind and layer prescribe. -/
def expectedLen (identity : PacketIdentity) : Except String Nat :=
  match identity.kind, identity.layer with
  | .audio, none => .ok audioPacketPayloadBytes
  | .video, some layer => .ok layer.packetPayloadLen
  | _, _ => .error "payload kind and layer disagree"

/-- Start of the identity header: the first magic in the inspected windows. -/
def identityOffset (payload : Payload) : Option Nat :=
  Windows.firstWindow identityMagic (maxIdentityOffset + 1) payload

/-- Every byte behind the header equals the byte the identity predicts. -/
def bodyMatches (identity : PacketIdentity) (offset : Nat) (payload : Payload) : Bool :=
  decide (offset + identityHeaderLen ≤ payload.length) &&
    (payload.drop (offset + identityHeaderLen)).zipIdx.all
      (fun (byte, index) => byte == payloadByte identity (offset + identityHeaderLen + index))

/-- The source checks the header's version and fields in this order, then the
kind against the layer, and only then judges length and body. -/
def inspectPayload (payload : Payload) : Except String PayloadInspection :=
  match identityOffset payload with
  | none => .error "RTP payload has no load identity"
  | some offset =>
    if offset + identityHeaderLen ≤ payload.length then do
      let identity ← decodeHeader ((payload.drop offset).take identityHeaderLen)
      let expected ← expectedLen identity
      return ⟨identity, payload.length == expected && bodyMatches identity offset payload⟩
    else .error "RTP payload has a truncated load identity"

/-- The body an identity predicts: `count` bytes from an absolute offset on. -/
def body (identity : PacketIdentity) (start count : Nat) : List UInt8 :=
  (List.range count).map (fun index => payloadByte identity (start + index))

/-- The body has as many bytes as were asked for. -/
@[simp] theorem body_length (identity : PacketIdentity) (start count : Nat) :
    (body identity start count).length = count := by
  simp [body]

/-- The header behind the magic has eighteen bytes, whatever the identity. -/
@[simp] theorem headerFields_length (identity : PacketIdentity) :
    (headerFields identity).length = 18 := by
  simp [headerFields]

/-- The push loop appends exactly the predicted body. -/
theorem pushBody_eq (identity : PacketIdentity) (missing : Nat) (payload : Payload) :
    pushBody identity missing payload = payload ++ body identity payload.length missing := by
  induction missing generalizing payload with
  | zero => simp [pushBody, body]
  | succ missing inductionHypothesis =>
    rw [pushBody, inductionHypothesis]
    simp [body, List.range_succ_eq_map, Nat.add_assoc, Nat.add_comm 1]

/-- A payload long enough for its header is lead-in, header and predicted body;
the final truncation removes nothing. -/
theorem encodedPayload_eq (identity : PacketIdentity) (payloadLen : Nat) (lead : List UInt8)
    (room : lead.length + identityHeaderLen ≤ payloadLen) :
    encodedPayload identity payloadLen lead =
      lead ++ identityMagic ++ headerFields identity ++
        body identity (lead.length + identityHeaderLen)
          (payloadLen - (lead.length + identityHeaderLen)) := by
  have start : (lead ++ identityMagic ++ headerFields identity).length =
      lead.length + identityHeaderLen := by
    simp [identityMagic, identityHeaderLen]
  rw [encodedPayload, pushBody_eq, start, List.take_of_length_le]
  rw [List.length_append, start, body_length]
  omega

/-- A payload that has room for its header has exactly its length. -/
theorem encodedPayload_length (identity : PacketIdentity) (payloadLen : Nat) (lead : List UInt8)
    (room : lead.length + identityHeaderLen ≤ payloadLen) :
    (encodedPayload identity payloadLen lead).length = payloadLen := by
  rw [encodedPayload_eq identity payloadLen lead room]
  simp only [List.length_append, headerFields_length, body_length, identityMagic,
    identityHeaderLen, List.length_cons, List.length_nil] at room ⊢
  omega

/-- A kind is read back from its byte. -/
theorem kind_tryFrom_code (kind : PayloadKind) : PayloadKind.tryFrom kind.code = .ok kind := by
  cases kind <;> rfl

/-- A phase is read back from its byte. -/
theorem phase_tryFrom_code (phase : PacketPhase) : PacketPhase.tryFrom phase.code = .ok phase := by
  cases phase <;> rfl

/-- A layer, or its absence, is read back from its byte. -/
theorem decodeLayer_code (layer : Option VideoLayer) :
    decodeLayer (layerCode layer) = .ok layer := by
  rcases layer with _ | ⟨_ | _⟩ <;> rfl

/-- Decoding the header an identity encodes recovers that identity. Each field
reads back its own bytes, and each number fits the width it was written at. -/
theorem decodeHeader_fields (identity : PacketIdentity) :
    decodeHeader (identityMagic ++ headerFields identity) = .ok identity := by
  obtain ⟨kind, phase, layer, source, ordinal, frame, fragment, fragments⟩ := identity
  generalize header : identityMagic ++ headerFields
    ⟨kind, phase, layer, source, ordinal, frame, fragment, fragments⟩ = bytes
  have version : bytes[4]? = some identityVersion := by subst header; rfl
  have kindByte : bytes[5]? = some kind.code := by subst header; rfl
  have phaseByte : bytes[6]? = some phase.code := by subst header; rfl
  have layerByte : bytes[7]? = some (layerCode layer) := by subst header; rfl
  have sourceBytes : readArray 2 bytes 8 = .ok (BigEndian.encode 2 source.toNat) := by
    subst header; rfl
  have ordinalBytes : readArray 4 bytes 10 = .ok (BigEndian.encode 4 ordinal.toNat) := by
    subst header; rfl
  have frameBytes : readArray 4 bytes 14 = .ok (BigEndian.encode 4 frame.toNat) := by
    subst header; rfl
  have fragmentBytes : readArray 2 bytes 18 = .ok (BigEndian.encode 2 fragment.toNat) := by
    subst header; rfl
  have fragmentsBytes : readArray 2 bytes 20 = .ok (BigEndian.encode 2 fragments.toNat) := by
    subst header; rfl
  simp only [decodeHeader, version, kindByte, phaseByte, layerByte, sourceBytes, ordinalBytes,
    frameBytes, fragmentBytes, fragmentsBytes, ensure_of_holds, context_some, ok_bind,
    kind_tryFrom_code, phase_tryFrom_code, decodeLayer_code,
    BigEndian.decode_encode_of_lt 2 _ source.toNat_lt,
    BigEndian.decode_encode_of_lt 4 _ ordinal.toNat_lt,
    BigEndian.decode_encode_of_lt 4 _ frame.toNat_lt,
    BigEndian.decode_encode_of_lt 2 _ fragment.toNat_lt,
    BigEndian.decode_encode_of_lt 2 _ fragments.toNat_lt,
    UInt16.ofNat_toNat, UInt32.ofNat_toNat]
  rfl

/-- A byte that is read as a kind is the byte of the kind. -/
theorem kind_code_of_tryFrom {value : UInt8} {kind : PayloadKind}
    (decoded : PayloadKind.tryFrom value = .ok kind) : value = kind.code := by
  simp only [PayloadKind.tryFrom] at decoded
  split at decoded
  · next audio =>
    cases decoded
    exact audio
  · split at decoded
    · next video =>
      cases decoded
      exact video
    · cases decoded

/-- A byte that is read as a phase is the byte of the phase. -/
theorem phase_code_of_tryFrom {value : UInt8} {phase : PacketPhase}
    (decoded : PacketPhase.tryFrom value = .ok phase) : value = phase.code := by
  simp only [PacketPhase.tryFrom] at decoded
  split at decoded
  · next warmup =>
    cases decoded
    exact warmup
  · split at decoded
    · next measured =>
      cases decoded
      exact measured
    · cases decoded

/-- A byte that is read as a layer, or as none, is its byte. -/
theorem layerCode_of_decodeLayer {value : UInt8} {layer : Option VideoLayer}
    (decoded : decodeLayer value = .ok layer) : value = layerCode layer := by
  simp only [decodeLayer, VideoLayer.tryFrom] at decoded
  split at decoded
  · next absent =>
    cases decoded
    exact absent
  · split at decoded
    · next low =>
      cases decoded
      exact low
    · split at decoded
      · next high =>
        cases decoded
        exact high
      · cases decoded

/-- A field that was read is the encoding of the number it decodes to. -/
theorem encode_of_readArray {size offset : Nat} {header bytes : List UInt8}
    (read : readArray size header offset = .ok bytes) :
    bytes = (header.drop offset).take size ∧ bytes.length = size ∧
      BigEndian.encode size (BigEndian.decode bytes) = bytes := by
  simp only [readArray] at read
  split at read
  · next inside =>
    cases read
    have width : ((header.drop offset).take size).length = size := by
      rw [List.length_take, List.length_drop]
      omega
    have canonical := BigEndian.encode_decode ((header.drop offset).take size)
    rw [width] at canonical
    exact ⟨rfl, width, canonical⟩
  · cases read

/-- Two bytes that are read as a number are the number written back. -/
theorem encode_sixteen {bytes : List UInt8} (width : bytes.length = 2)
    (canonical : BigEndian.encode 2 (BigEndian.decode bytes) = bytes) :
    BigEndian.encode 2 (UInt16.ofNat (BigEndian.decode bytes)).toNat = bytes := by
  have fits : BigEndian.decode bytes < UInt16.size := by
    have bound := BigEndian.decode_lt bytes
    rwa [width] at bound
  rw [UInt16.toNat_ofNat_of_lt' fits, canonical]

/-- So are four bytes. -/
theorem encode_thirtyTwo {bytes : List UInt8} (width : bytes.length = 4)
    (canonical : BigEndian.encode 4 (BigEndian.decode bytes) = bytes) :
    BigEndian.encode 4 (UInt32.ofNat (BigEndian.decode bytes)).toNat = bytes := by
  have fits : BigEndian.decode bytes < UInt32.size := by
    have bound := BigEndian.decode_lt bytes
    rwa [width] at bound
  rw [UInt32.toNat_ofNat_of_lt' fits, canonical]

/-- A header that decodes is the magic followed by the fields of the identity it
decodes to: no other header decodes to the same identity.

Proof: peel the decoder into its reads. Each read byte is the code of what it
decoded to and each read number re-encodes to its own bytes, so cutting the
header at the field boundaries reassembles the encoded fields. -/
theorem header_of_decodeHeader {header : List UInt8} {identity : PacketIdentity}
    (width : header.length = identityHeaderLen) (magic : header.take 4 = identityMagic)
    (decoded : decodeHeader header = .ok identity) :
    header = identityMagic ++ headerFields identity := by
  simp only [decodeHeader, bind_eq_ok, ensure_eq_ok, context_eq_ok] at decoded
  obtain ⟨_, version, kindByte, kindRead, kind, kindDecoded, phaseByte, phaseRead, phase,
    phaseDecoded, layerByte, layerRead, layer, layerDecoded, sourceBytes, sourceRead,
    ordinalBytes, ordinalRead, frameBytes, frameRead, fragmentBytes, fragmentRead,
    fragmentsBytes, fragmentsRead, returned⟩ := decoded
  cases returned
  obtain rfl := kind_code_of_tryFrom kindDecoded
  obtain rfl := phase_code_of_tryFrom phaseDecoded
  obtain rfl := layerCode_of_decodeLayer layerDecoded
  obtain ⟨sourceSlice, sourceWidth, sourceExact⟩ := encode_of_readArray sourceRead
  obtain ⟨ordinalSlice, ordinalWidth, ordinalExact⟩ := encode_of_readArray ordinalRead
  obtain ⟨frameSlice, frameWidth, frameExact⟩ := encode_of_readArray frameRead
  obtain ⟨fragmentSlice, fragmentWidth, fragmentExact⟩ := encode_of_readArray fragmentRead
  obtain ⟨fragmentsSlice, fragmentsWidth, fragmentsExact⟩ := encode_of_readArray fragmentsRead
  have cut (offset size : Nat) :
      header.drop offset = (header.drop offset).take size ++ header.drop (offset + size) := by
    rw [← List.drop_drop, List.take_append_drop]
  have byteAt (offset : Nat) (byte : UInt8) (read : header[offset]? = some byte) :
      header.drop offset = byte :: header.drop (offset + 1) := by
    obtain ⟨inside, same⟩ := List.getElem?_eq_some_iff.mp read
    rw [List.drop_eq_getElem_cons inside, same]
  have finished : header.drop 22 = [] := List.drop_eq_nil_of_le (by rw [width]; decide)
  calc header = header.take 4 ++ header.drop 4 := (List.take_append_drop 4 header).symm
    _ = identityMagic ++ header.drop 4 := by rw [magic]
    _ = identityMagic ++ headerFields ⟨kind, phase, layer, _, _, _, _, _⟩ := by
        rw [byteAt 4 _ version, byteAt 5 _ kindRead, byteAt 6 _ phaseRead, byteAt 7 _ layerRead,
          cut 8 2, cut 10 4, cut 14 4, cut 18 2, cut 20 2, finished, ← sourceSlice,
          ← ordinalSlice, ← frameSlice, ← fragmentSlice, ← fragmentsSlice]
        simp only [headerFields, encode_sixteen sourceWidth sourceExact,
          encode_thirtyTwo ordinalWidth ordinalExact, encode_thirtyTwo frameWidth frameExact,
          encode_sixteen fragmentWidth fragmentExact,
          encode_sixteen fragmentsWidth fragmentsExact, List.append_nil, List.append_assoc,
          List.cons_append, List.nil_append]

/-- No window that starts inside the lead-in is the magic. Such a window ends
inside the magic that follows, so later bytes play no part. -/
def NoEarlyMagic (lead : List UInt8) : Prop :=
  ∀ earlier < lead.length, ¬ Windows.Occurs identityMagic (lead ++ identityMagic) earlier

/-- The body check compares the rest of the payload with the predicted body. -/
theorem bodyMatches_iff (identity : PacketIdentity) (offset : Nat) (payload : Payload) :
    bodyMatches identity offset payload = true ↔
      offset + identityHeaderLen ≤ payload.length ∧
        payload.drop (offset + identityHeaderLen) =
          body identity (offset + identityHeaderLen)
            (payload.length - (offset + identityHeaderLen)) := by
  have remaining : (payload.drop (offset + identityHeaderLen)).length =
      payload.length - (offset + identityHeaderLen) := List.length_drop
  simp only [bodyMatches, Bool.and_eq_true, decide_eq_true_eq, ← remaining]
  generalize payload.drop (offset + identityHeaderLen) = rest
  refine and_congr_right fun _ => ?_
  rw [List.all_eq_true, List.ext_getElem_iff]
  simp only [List.mem_zipIdx_iff_getElem?, beq_iff_eq, Prod.forall, body_length, true_and]
  constructor
  · intro every index inside _
    simpa [body] using every rest[index] index (List.getElem?_eq_getElem inside)
  · rintro every byte index found
    obtain ⟨inside, same⟩ := List.getElem?_eq_some_iff.mp found
    have exact := every index inside inside
    rw [← same, exact]
    simp [body]

/-- What a completed inspection says: a first magic, a whole header that is the
encoding of the decoded identity, and the exact verdict on length and body. -/
theorem inspect_eq_ok {payload : Payload} {inspection : PayloadInspection}
    (inspected : inspectPayload payload = .ok inspection) :
    ∃ offset expected, identityOffset payload = some offset ∧
      offset + identityHeaderLen ≤ payload.length ∧
      (payload.drop offset).take identityHeaderLen =
        identityMagic ++ headerFields inspection.identity ∧
      expectedLen inspection.identity = .ok expected ∧
      inspection.payloadMatches = (payload.length == expected &&
        bodyMatches inspection.identity offset payload) := by
  unfold inspectPayload at inspected
  split at inspected
  · cases inspected
  · next offset found =>
    split at inspected
    · next inside =>
      obtain ⟨identity, decoded, expected, length, returned⟩ := by
        simpa only [bind_eq_ok] using inspected
      cases returned
      have width : ((payload.drop offset).take identityHeaderLen).length = identityHeaderLen := by
        rw [List.length_take, List.length_drop]
        omega
      obtain ⟨_, occurs, _⟩ := (Windows.firstWindow_eq_some_iff _ _ _ _ (by decide)).mp found
      have magic : ((payload.drop offset).take identityHeaderLen).take 4 = identityMagic := by
        rw [List.take_take]
        exact occurs
      exact ⟨offset, expected, found, inside, header_of_decodeHeader width magic decoded, length,
        rfl⟩
    · cases inspected

/-- A payload that matches is, from its magic on, exactly the header and body of
the identity it decodes to, and has the length its kind and layer prescribe. -/
theorem suffix_of_matches {payload : Payload} {identity : PacketIdentity}
    (inspected : inspectPayload payload = .ok ⟨identity, true⟩) :
    ∃ offset, identityOffset payload = some offset ∧
      offset + identityHeaderLen ≤ payload.length ∧
      expectedLen identity = .ok payload.length ∧
      payload.drop offset = identityMagic ++ headerFields identity ++
        body identity (offset + identityHeaderLen)
          (payload.length - (offset + identityHeaderLen)) := by
  obtain ⟨offset, expected, found, inside, header, length, verdict⟩ := inspect_eq_ok inspected
  have judged : payload.length = expected ∧ bodyMatches identity offset payload = true := by
    simpa using verdict.symm
  obtain ⟨rfl, matched⟩ := judged
  obtain ⟨_, bodyExact⟩ := (bodyMatches_iff identity offset payload).mp matched
  refine ⟨offset, found, inside, length, ?_⟩
  rw [← header, ← bodyExact, ← List.drop_drop, List.take_append_drop]

/-- A payload of an expected length has room for its header behind every codec prefix. -/
theorem header_room {identity : PacketIdentity} {length : Nat} {lead : List UInt8}
    (expected : expectedLen identity = .ok length) (short : lead.length ≤ maxIdentityOffset) :
    lead.length + identityHeaderLen ≤ length := by
  have least : 80 ≤ length := by
    unfold expectedLen at expected
    split at expected
    · cases expected
      decide
    · next layer _ _ =>
      cases expected
      cases layer <;> decide
    · cases expected
  simp only [maxIdentityOffset, vp8DescriptorLen, vp8KeyframePrefixLen, identityHeaderLen]
    at short ⊢
  omega

/-- Inspecting an encoded payload recovers its identity and accepts its body,
whenever the lead-in is short enough to be scanned and hides no magic. -/
theorem inspect_encoded (identity : PacketIdentity) (length : Nat) (lead : List UInt8)
    (expected : expectedLen identity = .ok length) (short : lead.length ≤ maxIdentityOffset)
    (unhidden : NoEarlyMagic lead) :
    inspectPayload (encodedPayload identity length lead) = .ok ⟨identity, true⟩ := by
  have room : lead.length + identityHeaderLen ≤ length := header_room expected short
  have whole := encodedPayload_eq identity length lead room
  have size := encodedPayload_length identity length lead room
  generalize encodedPayload identity length lead = payload at whole size
  have found : identityOffset payload = some lead.length := by
    rw [whole, List.append_assoc _ (headerFields identity)]
    exact Windows.firstWindow_after lead identityMagic _ _ (by decide) (by omega) unhidden
  have suffix : payload.drop lead.length = identityMagic ++ headerFields identity ++
      body identity (lead.length + identityHeaderLen)
        (length - (lead.length + identityHeaderLen)) := by
    rw [whole]
    simp [List.append_assoc]
  have headerWidth : (identityMagic ++ headerFields identity).length = identityHeaderLen := by
    simp [identityMagic, identityHeaderLen]
  have header : (payload.drop lead.length).take identityHeaderLen =
      identityMagic ++ headerFields identity := by
    rw [suffix, ← headerWidth, List.take_left']
    rfl
  have bodyExact : bodyMatches identity lead.length payload = true := by
    refine (bodyMatches_iff identity lead.length payload).mpr ⟨by omega, ?_⟩
    rw [← List.drop_drop, suffix, ← headerWidth, List.drop_left', size]
    rfl
  simp only [inspectPayload, found, size, room, if_true, header, decodeHeader_fields, ok_bind,
    expected, bodyExact, beq_self_eq_true, Bool.and_self]
  rfl

/-- Audio has no layer and video has one. -/
def PacketIdentity.Consistent (identity : PacketIdentity) : Prop :=
  (identity.kind = .audio ∧ identity.layer = none) ∨
    (identity.kind = .video ∧ identity.layer.isSome = true)

/-- The length of an identity's payload: its layer's, or that of audio. -/
def PacketIdentity.payloadLen (identity : PacketIdentity) : Nat :=
  identity.layer.elim audioPacketPayloadBytes VideoLayer.packetPayloadLen

/-- A length is expected exactly of a consistent identity, and it is the one of its kind and
layer. -/
theorem expectedLen_eq_ok {identity : PacketIdentity} {length : Nat} :
    expectedLen identity = .ok length ↔ identity.Consistent ∧ length = identity.payloadLen := by
  obtain ⟨kind, _, layer, _, _, _, _, _⟩ := identity
  cases kind <;> cases layer <;>
    simp [expectedLen, PacketIdentity.Consistent, PacketIdentity.payloadLen, eq_comm]

/-- The lead-in fits the scanned window, and the payload's first magic follows it. -/
structure Leads (lead : List UInt8) (payload : Payload) : Prop where
  short : lead.length ≤ maxIdentityOffset
  found : Windows.Occurs identityMagic payload lead.length
  unfound : ∀ earlier < lead.length, ¬ Windows.Occurs identityMagic payload earlier

/-- What occurs inside a lead-in and its magic also occurs in the whole payload. -/
theorem noEarlyMagic_of_leads {lead : List UInt8} {payload rest : Payload}
    (whole : payload = lead ++ identityMagic ++ rest) (leads : Leads lead payload) :
    NoEarlyMagic lead := by
  intro earlier before occurs
  apply leads.unfound earlier before
  have inside := Windows.occurs_inside (by decide) occurs
  have covered : identityMagic.length ≤ ((lead ++ identityMagic).drop earlier).length := by
    rw [List.length_drop]
    omega
  unfold Windows.Occurs at occurs ⊢
  rwa [whole, List.drop_append_of_le_length (by omega), List.take_append_of_le_length covered]

/-- An accepted payload is what the encoder makes of its identity and lead-in. -/
theorem encoded_of_accepted {payload : Payload} {identity : PacketIdentity}
    (inspected : inspectPayload payload = .ok ⟨identity, true⟩) :
    identity.Consistent ∧ ∃ lead, Leads lead payload ∧
      payload = encodedPayload identity identity.payloadLen lead := by
  obtain ⟨offset, located, inside, length, suffix⟩ := suffix_of_matches inspected
  obtain ⟨bounded, found, unfound⟩ :=
    (Windows.firstWindow_eq_some_iff _ _ _ _ (by decide)).mp located
  obtain ⟨consistent, size⟩ := expectedLen_eq_ok.mp length
  have width : (payload.take offset).length = offset := by
    rw [List.length_take]
    omega
  refine ⟨consistent, payload.take offset, ⟨by omega, by rwa [width], by rwa [width]⟩, ?_⟩
  rw [← size, encodedPayload_eq _ _ _ (by omega), width]
  calc payload = payload.take offset ++ payload.drop offset := (List.take_append_drop _ _).symm
    _ = _ := by rw [suffix, ← List.append_assoc, ← List.append_assoc]

/-- What the encoder makes of a consistent identity and a leading lead-in is accepted. -/
theorem accepted_of_encoded {payload : Payload} {identity : PacketIdentity} {lead : List UInt8}
    (consistent : identity.Consistent) (leads : Leads lead payload)
    (encoded : payload = encodedPayload identity identity.payloadLen lead) :
    inspectPayload payload = .ok ⟨identity, true⟩ := by
  have expected := expectedLen_eq_ok.mpr ⟨consistent, rfl⟩
  have room := header_room expected leads.short
  have whole := encoded
  rw [encodedPayload_eq _ _ _ room, List.append_assoc _ (headerFields identity)] at whole
  rw [encoded]
  exact inspect_encoded identity _ lead expected leads.short (noEarlyMagic_of_leads whole leads)

/-- The inspector accepts exactly the encoder's image, and reads the identity back.
Behind one lead-in two consistent identities therefore never share a payload. -/
theorem inspect_accepts_iff :
    (∀ (payload : Payload) (identity : PacketIdentity),
      inspectPayload payload = .ok ⟨identity, true⟩ ↔
        identity.Consistent ∧ ∃ lead, Leads lead payload ∧
          payload = encodedPayload identity identity.payloadLen lead) ∧
    ∀ (lead : List UInt8) (first second : PacketIdentity), first.Consistent → second.Consistent →
      Leads lead (encodedPayload first first.payloadLen lead) →
      encodedPayload first first.payloadLen lead = encodedPayload second second.payloadLen lead →
      first = second := by
  refine ⟨fun payload identity => ⟨encoded_of_accepted, ?_⟩, ?_⟩
  · rintro ⟨consistent, lead, leads, encoded⟩
    exact accepted_of_encoded consistent leads encoded
  · intro lead first second firstConsistent secondConsistent leads same
    have readFirst := accepted_of_encoded firstConsistent leads rfl
    have readSecond := accepted_of_encoded secondConsistent leads same
    rw [readFirst] at readSecond
    exact congrArg PayloadInspection.identity (Except.ok.inj readSecond)

/-- An audio packet's identity. -/
def audioIdentity (source : UInt16) (ordinal : UInt32) : PacketIdentity :=
  ⟨.audio, .measured, none, source, ordinal, ordinal, 0, 1⟩

/-- Packets of one source that differ in their ordinal only have distinct payloads. -/
theorem audio_payloads_differ :
    encodedPayload (audioIdentity 7 0) 80 [0x78] ≠
      encodedPayload (audioIdentity 7 65536) 80 [0x78] := by
  intro same
  have leads : Leads [0x78] (encodedPayload (audioIdentity 7 0) 80 [0x78]) :=
    ⟨by decide, by decide +kernel, by decide +kernel⟩
  have equal := inspect_accepts_iff.2 [0x78] (audioIdentity 7 0) (audioIdentity 7 65536)
    (Or.inl ⟨rfl, rfl⟩) (Or.inl ⟨rfl, rfl⟩) leads same
  exact absurd (congrArg PacketIdentity.ordinal equal) (by decide)

end SfuLoad.Identity
