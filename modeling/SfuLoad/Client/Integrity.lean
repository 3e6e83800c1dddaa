import SfuLoad.Client.Gate
import SfuLoad.Client.Offer

/-!
# What a clean ledger says about the packets themselves

A receiver checks a measured payload against the identity in its own header: it
fixes the source, kind, layer, phase and ordinal, and the body is the one that
header predicts. It never compares the frame, the fragment and the fragment count
with anything, nor the place where the identity starts. Those four are what a
forwarded packet can change without being noticed, and nothing else is.
-/

namespace SfuLoad.Integrity

open Kit Kit.Fallible Kit.Others Identity Ledger Media Model Rooms Generated Sender Emission
open Agreement Gate Offer

variable {rtp : RtpConstants}

/-- A payload from its identity header to its end. -/
def fromIdentity (payload : Payload) : Option Payload :=
  (identityOffset payload).map (fun offset => payload.drop offset)

/-- The payload carries the packet's identity and, from there on, its bytes. -/
structure Intact (payload : Payload) (packet : Sent) : Prop where
  identity : ∃ inspection, inspectPayload payload = .ok inspection ∧
    inspection.identity = packet.identity
  bytes : fromIdentity payload = fromIdentity packet.payload

/-- The payload's header has the packet's frame and fragments, and starts where
the packet's does. -/
structure HeaderKept (payload : Payload) (packet : Sent) : Prop where
  fields : ∃ inspection, inspectPayload payload = .ok inspection ∧
    inspection.identity.frame = packet.identity.frame ∧
    inspection.identity.fragment = packet.identity.fragment ∧
    inspection.identity.fragments = packet.identity.fragments
  offset : identityOffset payload = identityOffset packet.payload

/-- A law of the payload and the packet that have the same stream and ordinal. -/
def OnStream (law : Payload → Sent → Prop) (stream : ExpectedStream) (payloads : List Payload)
    (sent : List Sent) : Prop :=
  ∀ ordinal < stream.seen.length, ∀ payload ∈ payloads,
    measuredOrdinal stream.key payload = some ordinal → ∀ packet ∈ sent,
    sentKey packet = stream.key → packet.identity.ordinal.toNat = ordinal → law payload packet

/-- A stream's ordinal comes from a decoded measured identity. -/
theorem measuredOrdinal_eq_some {key : StreamKey} {payload : Payload} {ordinal : Nat}
    (carried : measuredOrdinal key payload = some ordinal) :
    ∃ inspection, inspectPayload payload = .ok inspection ∧
      inspection.identity.phase = .measured ∧ identityKey inspection.identity = key ∧
      inspection.identity.ordinal.toNat = ordinal := by
  unfold measuredOrdinal at carried
  split at carried
  · cases carried
  · next inspection inspected =>
    split at carried
    · next named => exact ⟨inspection, inspected, named.1, named.2, Option.some.inj carried⟩
    · cases carried

/-- An intact body leaves the four unchecked values as the only difference.

Proof: equal identities make the lengths equal, so equal tails start at the same
place. Conversely the checked fields and the kept ones are all eight, and from a
given offset on a matching payload is determined by its identity. -/
theorem intact_iff_kept {payload : Payload} {packet : Sent} {identity : PacketIdentity}
    (inspected : inspectPayload payload = .ok ⟨identity, true⟩)
    (decodes : inspectPayload packet.payload = .ok ⟨packet.identity, true⟩)
    (phase : identity.phase = packet.identity.phase)
    (key : identityKey identity = sentKey packet)
    (ordinal : identity.ordinal = packet.identity.ordinal) :
    Intact payload packet ↔ HeaderKept payload packet := by
  obtain ⟨offset, found, inside, length, tail⟩ := suffix_of_matches inspected
  obtain ⟨sentOffset, sentFound, sentInside, sentLength, sentTail⟩ := suffix_of_matches decodes
  have sameLength (same : identity = packet.identity) :
      payload.length = packet.payload.length := by
    rw [same, sentLength] at length
    exact (Except.ok.inj length).symm
  constructor
  · rintro ⟨⟨_, other, same⟩, bytes⟩
    rw [inspected] at other
    obtain rfl := Except.ok.inj other
    refine ⟨⟨_, inspected, by rw [same], by rw [same], by rw [same]⟩, ?_⟩
    rw [fromIdentity, fromIdentity, found, sentFound, Option.map_some, Option.map_some] at bytes
    have sizes := congrArg List.length (Option.some.inj bytes)
    rw [List.length_drop, List.length_drop, sameLength same] at sizes
    simp only [identityHeaderLen] at inside sentInside
    rw [sameLength same] at inside
    rw [found, sentFound, show offset = sentOffset by omega]
  · rintro ⟨⟨_, other, frame, fragment, fragments⟩, sameOffset⟩
    rw [inspected] at other
    obtain rfl := Except.ok.inj other
    obtain ⟨source, kind, layer⟩ : identity.source = packet.identity.source ∧
        identity.kind = packet.identity.kind ∧ identity.layer = packet.identity.layer := by
      simpa [identityKey, sentKey] using key
    have same : identity = packet.identity := by
      cases identity
      cases packetIdentity : packet.identity
      simp_all
    refine ⟨⟨_, inspected, same⟩, ?_⟩
    obtain rfl : offset = sentOffset := by
      rw [found, sentFound] at sameOffset
      exact Option.some.inj sameOffset
    rw [fromIdentity, fromIdentity, found, sentFound, Option.map_some, Option.map_some, tail,
      sentTail, same, sameLength same]

/-- Every measured packet of a peer decodes to its own identity. -/
theorem measured_decodes (documented : rtp.Vp8Documented) {media : PeerMedia}
    {audioOrdinals videoFrames : List UInt32} {sent : List Sent}
    (looped : measuredAfter rtp media audioOrdinals videoFrames = .ok sent) :
    ∀ packet ∈ sent, inspectPayload packet.payload = .ok ⟨packet.identity, true⟩ := by
  obtain ⟨other, ran, audio, video⟩ :=
    mediaLoop_sends rtp (resetTimelines (warmup rtp media audioOrdinals videoFrames).2) 0 0
  obtain rfl : other = sent := Except.ok.inj (ran.symm.trans looped)
  intro packet member
  cases packet with
  | audio packet =>
    have inside : packet ∈ other.filterMap audioOf := List.mem_filterMap.mpr ⟨_, member, rfl⟩
    rw [audio, audioRest] at inside
    split at inside
    · cases inside
    · exact audio_run_decodes _ _ packet inside
  | video packet =>
    have inside : packet ∈ other.filterMap videoOf := List.mem_filterMap.mpr ⟨_, member, rfl⟩
    rw [video, videoRest] at inside
    split at inside
    · cases inside
    · obtain ⟨burst, burstMember, inBurst⟩ := List.mem_flatten.mp inside
      exact video_run_decodes documented _ _ burst burstMember packet inBurst

/-- On a stream of a clean ledger, packets are intact exactly when their headers
were kept. -/
theorem stream_intact_iff {streams : List ExpectedStream} {payloads : List Payload}
    (named : MeasuredNamed streams payloads) {sent : List Sent}
    (decode : ∀ packet ∈ sent, inspectPayload packet.payload = .ok ⟨packet.identity, true⟩)
    (measured : ∀ packet ∈ sent, packet.identity.phase = .measured) (stream : ExpectedStream) :
    OnStream Intact stream payloads sent ↔ OnStream HeaderKept stream payloads sent := by
  refine forall_congr' fun ordinal => forall_congr' fun _ => forall_congr' fun payload =>
    forall_congr' fun member => forall_congr' fun carried => forall_congr' fun packet =>
    forall_congr' fun packetMember => forall_congr' fun key => forall_congr' fun number => ?_
  obtain ⟨⟨identity, payloadMatches⟩, inspected, phase, samekey, sameOrdinal⟩ :=
    measuredOrdinal_eq_some carried
  obtain rfl : payloadMatches = true := (named payload member _ inspected phase).2
  refine intact_iff_kept inspected (decode packet packetMember) ?_ (samekey.trans key.symm)
    (UInt32.toNat_inj.mp (sameOrdinal.trans number.symm))
  exact phase.trans (measured packet packetMember).symm

/-- Every expected stream has a publisher in its room. -/
theorem publisher_of_expected {work : Workload} {room listener : Nat} {stream : ExpectedStream}
    (expected : stream ∈ work.expectedOf room listener) :
    ∃ publisher < work.peers, stream.source = work.sourceOf room publisher := by
  rw [Workload.expectedOf, List.mem_append, List.mem_map, List.mem_map] at expected
  rcases expected with ⟨index, heard, rfl⟩ | ⟨index, seen, rfl⟩
  · exact ⟨index, inside_of_others work work.audioInside heard, rfl⟩
  · exact ⟨index, inside_of_others work work.videoInside seen, rfl⟩

/-- A stream's payloads as they were sent. -/
def forwarded (sent : List Sent) (key : StreamKey) : List Payload :=
  (sent.filter (fun packet => sentKey packet = key)).map Sent.payload

/-- What is forwarded of a stream are the payloads of its sent packets. -/
theorem mem_forwarded {sent : List Sent} {key : StreamKey} {payload : Payload} :
    payload ∈ forwarded sent key ↔
      ∃ packet ∈ sent, sentKey packet = key ∧ packet.payload = payload := by
  simp [forwarded, and_assoc]

section
variable {sent : List Sent}
  (decode : ∀ packet ∈ sent, inspectPayload packet.payload = .ok ⟨packet.identity, true⟩)
include decode

/-- A sent packet is read back under its own key and ordinal. -/
theorem measuredOrdinal_sent (measured : ∀ packet ∈ sent, packet.identity.phase = .measured)
    {packet : Sent} (inside : packet ∈ sent) (key : StreamKey) :
    measuredOrdinal key packet.payload =
      if sentKey packet = key then some packet.identity.ordinal.toNat else none := by
  rw [measuredOrdinal, decode packet inside]
  by_cases keyed : identityKey packet.identity = key <;>
    simp [sentKey, measured packet inside, keyed]

/-- What is forwarded on a stream is numbered as it was sent. -/
theorem measuredOrdinals_forwarded
    (measured : ∀ packet ∈ sent, packet.identity.phase = .measured) (key : StreamKey) :
    measuredOrdinals (forwarded sent key) key = sentOrdinals sent key := by
  have read : ∀ packet ∈ sent.filter (fun packet => sentKey packet = key),
      (measuredOrdinal key ∘ Sent.payload) packet = some packet.identity.ordinal.toNat := by
    intro packet member
    obtain ⟨inside, keyed⟩ := List.mem_filter.mp member
    rw [Function.comp_apply, measuredOrdinal_sent decode measured inside,
      if_pos (of_decide_eq_true keyed)]
  rw [measuredOrdinals, forwarded, List.filterMap_map, List.filterMap_congr read, sentOrdinals,
    List.filterMap_eq_map']

/-- A receiver that expects one stream is content with it as it was sent. -/
theorem forwarded_clean (measured : ∀ packet ∈ sent, packet.identity.phase = .measured)
    {stream : ExpectedStream} (built : stream.Built)
    (numbered : sentOrdinals sent stream.key = List.range stream.seen.length) :
    discrepancies [stream] (forwarded sent stream.key) = 0 := by
  refine (finish_clean_iff (List.forall_mem_singleton.mpr built) (List.nodup_singleton _) _).mpr
    ⟨?_, ?_, ?_⟩
  · intro payload member
    obtain ⟨packet, inside, _, rfl⟩ := mem_forwarded.mp member
    exact ⟨_, decode packet inside⟩
  · intro payload member inspection inspected _
    obtain ⟨packet, inside, key, rfl⟩ := mem_forwarded.mp member
    obtain rfl := Except.ok.inj ((decode packet inside).symm.trans inspected)
    exact ⟨⟨stream, List.mem_singleton_self _, key.symm⟩, rfl⟩
  · intro other member
    obtain rfl := List.mem_singleton.mp member
    rw [measuredOrdinals_forwarded decode measured, numbered]

/-- No two packets of a numbered stream share an ordinal, so that a forwarded one
is the packet it is compared with. -/
theorem forwarded_kept {stream : ExpectedStream}
    (numbered : sentOrdinals sent stream.key = List.range stream.seen.length) :
    OnStream HeaderKept stream (forwarded sent stream.key) sent := by
  intro ordinal _ payload member carried packet inside key sameOrdinal
  obtain ⟨original, originalInside, originalKey, rfl⟩ := mem_forwarded.mp member
  have inspected := decode original originalInside
  obtain ⟨inspection, read, _, _, readOrdinal⟩ := measuredOrdinal_eq_some carried
  obtain rfl := Except.ok.inj (inspected.symm.trans read)
  have distinct : (sentOrdinals sent stream.key).Nodup := numbered ▸ List.nodup_range
  have once := List.inj_on_of_nodup_map distinct
  obtain rfl : original = packet := once
    (List.mem_filter.mpr ⟨originalInside, decide_eq_true originalKey⟩)
    (List.mem_filter.mpr ⟨inside, decide_eq_true key⟩) (readOrdinal.trans sameOrdinal.symm)
  exact ⟨⟨_, inspected, rfl, rfl, rfl⟩, rfl⟩

end

/-- Peers of a room with one source are one peer. -/
theorem sourceId_injective {room peers : UInt32} {peer other : Nat} {source : UInt16}
    (named : sourceId room peers peer = .ok source)
    (alike : sourceId room peers other = .ok source) : peer = other := by
  simp only [sourceId, bind_eq_ok, ensure_eq_ok] at named alike
  obtain ⟨_, _, _, _, _, inside, same⟩ := named
  obtain ⟨_, _, _, _, _, otherInside, otherSame⟩ := alike
  have equal := congrArg UInt16.toNat (Except.ok.inj (same.trans otherSame.symm))
  rw [UInt16.toNat_ofNat_of_lt' inside, UInt16.toNat_ofNat_of_lt' otherInside] at equal
  exact Nat.add_left_cancel equal

/-- One second of the high layer of a camera. -/
def cameraStream : ExpectedStream :=
  ⟨0, .video, some .high, List.replicate 426 false, 0⟩

/-- A room of one camera and two who watch it. -/
def cameraRoom : Room :=
  ⟨[[], [(1, .featured)], [(1, .featured)]], [⟨⟨none, 0, some (VideoSource.new 0), 30⟩, []⟩,
    ⟨⟨none, 0, none, 30⟩, [cameraStream]⟩, ⟨⟨none, 0, none, 30⟩, [cameraStream]⟩]⟩

/-- The room of a gallery with three peers of which one sends. -/
theorem run_camera : run (.videoGallery 1 3 1 1) = .ok [cameraRoom] := by
  decide +kernel

/-- Packet integrity, exactly as far as the receiver checks it. Behind a ledger
without discrepancies, every expected stream has one publisher, its packets and
the delivered payloads are both numbered 0, …, n-1, and the payloads are the
packets from the identity header on exactly when no header has another frame,
fragment, fragment count or place. -/
theorem clean_ledger_integrity_iff (documented : rtp.Vp8Documented) (spec : ScenarioSpec)
    (valid : spec.validate = .ok ()) (audioWarmup videoWarmup : Nat → Nat → List UInt32) :
    ∃ rooms, run spec = .ok rooms ∧ ∃ sent : Nat → Nat → List Sent,
    (∀ (roomIndex : Nat) (room : Room), rooms[roomIndex]? = some room →
      ∀ (peer : Nat) (task : PeerTask), room.tasks[peer]? = some task →
      measuredAfter rtp task.media (audioWarmup roomIndex peer) (videoWarmup roomIndex peer) =
        .ok (sent roomIndex peer)) ∧
    ∀ (roomIndex : Nat) (room : Room), rooms[roomIndex]? = some room →
      ∀ (peer : Nat) (task : PeerTask), room.tasks[peer]? = some task →
      ∀ payloads, discrepancies task.expected payloads = 0 →
      ∀ stream ∈ task.expected, ∃ publisher,
        sourceId (UInt32.ofNat roomIndex) spec.peersPerRoom publisher = .ok stream.source ∧
        sentOrdinals (sent roomIndex publisher) stream.key = List.range stream.seen.length ∧
        measuredOrdinals payloads stream.key = List.range stream.seen.length ∧
        (OnStream Intact stream payloads (sent roomIndex publisher) ↔
          OnStream HeaderKept stream payloads (sent roomIndex publisher)) := by
  obtain ⟨rooms, ran, furnished⟩ := run_furnished spec valid
  have peerCount := spec.workload_peers valid
  generalize spec.workload valid = work at *
  obtain ⟨sent, sends⟩ := run_sends work furnished rtp audioWarmup videoWarmup
  refine ⟨rooms, ran, sent, fun roomIndex room roomLocated peer task taskLocated =>
    (sends roomIndex room roomLocated peer task taskLocated).1, ?_⟩
  intro roomIndex room roomLocated peer task taskLocated payloads clean stream member
  obtain ⟨roomInside, whole, _, assigned⟩ :=
    Workload.furnished_task furnished roomLocated taskLocated
  obtain ⟨built, distinctKeys⟩ := expected_of_assigned work roomInside assigned
  obtain ⟨_, named, exactOrdinals⟩ := (finish_clean_iff built distinctKeys payloads).mp clean
  have expected : stream ∈ work.expectedOf roomIndex peer := assigned.expected ▸ member
  obtain ⟨publisher, inside, source⟩ := publisher_of_expected expected
  have tasksLength := whole.tasks.length_eq
  rw [List.length_range] at tasksLength
  have publisherLocated := List.getElem?_eq_getElem (tasksLength ▸ inside)
  obtain ⟨looped, offers⟩ := sends roomIndex room roomLocated publisher _ publisherLocated
  refine ⟨publisher, ?_, offered_as_expected offers roomInside inside expected source,
    exactOrdinals stream member, ?_⟩
  · rw [source]
    exact work.sourceId_eq roomInside inside peerCount
  · exact stream_intact_iff named (measured_decodes documented looped) offers.phases stream

/-- Behind a camera whose 426 packets reach a peer as they were sent, after a warmup. -/
theorem forwarded_camera_intact : ∃ sent : List Sent,
    measuredAfter documentedRtp ⟨none, 0, some (VideoSource.new 0), 30⟩ [] [0, 1] = .ok sent ∧
    (forwarded sent cameraStream.key).length = 426 ∧
    discrepancies [cameraStream] (forwarded sent cameraStream.key) = 0 ∧
    OnStream Intact cameraStream (forwarded sent cameraStream.key) sent := by
  obtain ⟨rooms, ran, sent, looped, every⟩ := clean_ledger_integrity_iff documentedRtp_vp8
    (.videoGallery 1 3 1 1) (by decide) (fun _ _ => []) (fun _ _ => [0, 1])
  obtain rfl := Except.ok.inj (run_camera.symm.trans ran)
  obtain ⟨_, sameRan, furnished⟩ := run_furnished (.videoGallery 1 3 1 1) (by decide)
  obtain rfl := Except.ok.inj (run_camera.symm.trans sameRan)
  have camera : cameraRoom.tasks[0]? = some ⟨⟨none, 0, some (VideoSource.new 0), 30⟩, []⟩ := rfl
  have watcher : cameraRoom.tasks[1]? = some ⟨⟨none, 0, none, 30⟩, [cameraStream]⟩ := rfl
  have only : [cameraRoom][0]? = some cameraRoom := rfl
  obtain ⟨roomInside, _, peerInside, publishing⟩ := Workload.furnished_task furnished only camera
  obtain ⟨_, _, _, watching⟩ := Workload.furnished_task furnished only watcher
  obtain ⟨_, sends, offers⟩ := measured_offers _ documentedRtp publishing [] [0, 1]
  obtain rfl := Except.ok.inj ((looped 0 _ only 0 _ camera).symm.trans sends)
  have numbered : sentOrdinals (sent 0 0) cameraStream.key = List.range cameraStream.seen.length :=
    offered_as_expected offers roomInside peerInside
      (by rw [← watching.expected]; exact List.mem_singleton_self _)
      (video_of_assigned publishing rfl).2
  have decode := measured_decodes documentedRtp_vp8 sends
  have clean := forwarded_clean decode offers.phases ⟨426, rfl⟩ numbered
  obtain ⟨publisher, source, _, _, intact⟩ := every 0 _ only 1 _ watcher _ clean _
    (List.mem_singleton_self _)
  obtain rfl : publisher = 0 := sourceId_injective source (by decide)
  have size := congrArg List.length numbered
  rw [sentOrdinals, List.length_map, List.length_range] at size
  refine ⟨sent 0 0, sends, ?_, clean, intact.mpr (forwarded_kept decode numbered)⟩
  rw [forwarded, List.length_map, size, cameraStream, List.length_replicate]

/-- The room of a one-packet smoke: a publisher and a receiver. -/
def smokeRoom : Room :=
  ⟨[], [⟨⟨some (AudioSource.new 0), 1, none, 0⟩, []⟩,
    ⟨⟨none, 1, none, 0⟩, [⟨0, .audio, none, [false], 0⟩]⟩]⟩

/-- The room of a smoke with one receiver. -/
theorem run_smoke : run (.smoke 1 1) = .ok [smokeRoom] := by
  decide

/-- The packet of a one-packet smoke, with the low byte of its frame set to one. -/
def alteredFrame : Payload :=
  ((AudioSource.new 0).nextPacket documentedRtp .measured 0).1.payload.set 18 1

/-- A payload whose frame was changed decodes to the changed frame, and its body matches. -/
theorem alteredFrame_inspected : inspectPayload alteredFrame =
    .ok ⟨⟨.audio, .measured, none, 0, 0, 1, 0, 1⟩, true⟩ := by
  decide +kernel

/-- The receiver's ledger accepts the altered packet. -/
theorem alteredFrame_clean :
    discrepancies [⟨0, .audio, none, [false], 0⟩] [alteredFrame] = 0 := by
  decide +kernel

/-- Delivered in the place of the packet it was made from, the altered packet
leaves no discrepancy, and its frame is not the one the source assigned. -/
theorem altered_frame_passes :
    ¬ ∀ spec : ScenarioSpec, spec.validate = .ok () → ∀ rooms, run spec = .ok rooms →
      ∀ (roomIndex : Nat) (room : Room), rooms[roomIndex]? = some room →
      ∀ (peer : Nat) (task : PeerTask), room.tasks[peer]? = some task →
      ∀ payloads, discrepancies task.expected payloads = 0 → ∀ stream ∈ task.expected,
      ∀ (publisher : Nat) (publishing : PeerTask), room.tasks[publisher]? = some publishing →
      sourceId (UInt32.ofNat roomIndex) spec.peersPerRoom publisher = .ok stream.source →
      ∀ audioOrdinals videoFrames sent,
      measuredAfter documentedRtp publishing.media audioOrdinals videoFrames = .ok sent →
      OnStream Intact stream payloads sent := by
  intro claim
  obtain ⟨sent, looped, audio, _⟩ := mediaLoop_sends documentedRtp
    (resetTimelines (warmup documentedRtp ⟨some (AudioSource.new 0), 1, none, 0⟩ [] []).2) 0 0
  have only : audioRest documentedRtp
      (resetTimelines (warmup documentedRtp ⟨some (AudioSource.new 0), 1, none, 0⟩ [] []).2) 0 =
      [((AudioSource.new 0).nextPacket documentedRtp .measured 0).1] := by decide +kernel
  obtain ⟨packet, packetMember, picked⟩ : ∃ packet ∈ sent, audioOf packet =
      some ((AudioSource.new 0).nextPacket documentedRtp .measured 0).1 :=
    List.mem_filterMap.mp (by rw [audio, only]; exact List.mem_singleton_self _)
  obtain rfl : packet = .audio ((AudioSource.new 0).nextPacket documentedRtp .measured 0).1 := by
    cases packet <;> simp_all
  have intact := claim (.smoke 1 1) (by decide) _ run_smoke 0 _ rfl 1 _ rfl [alteredFrame]
    alteredFrame_clean _ (List.mem_singleton_self _) 0 _ rfl (by decide) [] [] sent looped 0
    (by decide) alteredFrame (List.mem_singleton_self _) (by decide +kernel) _ packetMember
    (by decide +kernel) (by decide +kernel)
  obtain ⟨inspection, inspected, same⟩ := intact.identity
  rw [alteredFrame_inspected] at inspected
  rw [← Except.ok.inj inspected] at same
  exact absurd same (by decide +kernel)

end SfuLoad.Integrity
