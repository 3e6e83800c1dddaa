import SfuLoad.Kit.Bitmap
import SfuLoad.Kit.Arrivals
import SfuLoad.Client.Identity
import SfuLoad.Model.Result

/-!
# The receiver's packet ledger

A ledger holds one bitmap per expected stream. Observing a payload touches at
most one bitmap and one counter; which one depends only on the payload and on
the streams' keys and sizes, never on what was seen before. Separating that
verdict from its effect reduces the ledger to numbered arrivals on lanes.
-/

namespace SfuLoad.Ledger

open Kit Kit.Fallible Kit.Saturating Identity Model

/-- What tells expected streams apart. -/
abbrev StreamKey := UInt16 × PayloadKind × Option VideoLayer

/-- The stream an identity belongs to. -/
def identityKey (identity : PacketIdentity) : StreamKey :=
  (identity.source, identity.kind, identity.layer)

/-- A stream that a receiver is to get, with a bit for each of its packets and the first
ordinal that is still missing. -/
structure ExpectedStream where
  source : UInt16
  kind : PayloadKind
  layer : Option VideoLayer
  seen : List Bool
  nextOrdinal : Nat
deriving DecidableEq

namespace ExpectedStream

/-- A 32-bit packet count always fits the platform's 64-bit sizes. -/
def new (source : UInt16) (kind : PayloadKind) (layer : Option VideoLayer) (packets : UInt32) :
    Except String ExpectedStream := do
  ensure (0 < packets) "expected stream has no packets"
  return ⟨source, kind, layer, List.replicate packets.toNat false, 0⟩

/-- The stream of an audio source. -/
def audio (source : UInt16) (packets : UInt32) : Except String ExpectedStream :=
  new source .audio none packets

/-- The stream of one layer of a video source. -/
def video (source : UInt16) (layer : VideoLayer) (packets : UInt32) :
    Except String ExpectedStream :=
  new source .video (some layer) packets

/-- What tells the streams of a receiver apart. -/
def key (self : ExpectedStream) : StreamKey := (self.source, self.kind, self.layer)

/-- No packet is missing. -/
def isComplete (self : ExpectedStream) : Bool := self.nextOrdinal == self.seen.length

/-- The stream a constructor returns before anything was observed. -/
def Built (self : ExpectedStream) : Prop :=
  ∃ packets : UInt32, new self.source self.kind self.layer packets = .ok self

/-- Mark one ordinal and let the cursor catch up with the first gap. -/
def mark (self : ExpectedStream) (ordinal : Nat) : ExpectedStream :=
  let seen := self.seen.set ordinal true
  { self with seen := seen, nextOrdinal := Bitmap.catchUp seen.length seen self.nextOrdinal }

end ExpectedStream

/-- What a receiver has got of its streams, and the faults it has counted. -/
structure PacketLedger where
  streams : List ExpectedStream
  deliveredPackets : UInt64
  deliveredPayloadBytes : UInt64
  correctness : CorrectnessSummary
deriving DecidableEq

/-- Position and value of the first stream with the key. -/
def findStream (streams : List ExpectedStream) (key : StreamKey) :
    Option (Nat × ExpectedStream) := do
  let index ← streams.findIdx? (fun stream => stream.key == key)
  let stream ← streams[index]?
  return (index, stream)

namespace PacketLedger

/-- Nothing has been received. -/
def new (streams : List ExpectedStream) : PacketLedger := ⟨streams, 0, 0, .zero⟩

/-- A packet of no expected stream, or beyond the end of its stream. -/
def countUnexpected (self : PacketLedger) : PacketLedger :=
  { self with correctness := { self.correctness with
      unexpectedPackets := saturatingAdd self.correctness.unexpectedPackets 1 } }

/-- A packet that was received before. -/
def countDuplicate (self : PacketLedger) : PacketLedger :=
  { self with correctness := { self.correctness with
      duplicatePackets := saturatingAdd self.correctness.duplicatePackets 1 } }

/-- First delivery of an ordinal: count a mismatched body and a jump over the
cursor, mark the ordinal, and account for the packet and its bytes. -/
def deliver (self : PacketLedger) (index : Nat) (stream : ExpectedStream) (ordinal : Nat)
    (payloadMatches : Bool) (payloadLen : Nat) : PacketLedger where
  streams := self.streams.set index (stream.mark ordinal)
  deliveredPackets := saturatingAdd self.deliveredPackets 1
  deliveredPayloadBytes := saturatingAdd self.deliveredPayloadBytes
    (UInt64.ofNat (min payloadLen limit))
  correctness := { self.correctness with
    payloadMismatches := if payloadMatches then self.correctness.payloadMismatches
      else saturatingAdd self.correctness.payloadMismatches 1
    outOfOrderPackets := if ordinal = stream.nextOrdinal then self.correctness.outOfOrderPackets
      else saturatingAdd self.correctness.outOfOrderPackets 1 }

/-- The source's early returns in their order: undecodable, warmup, unknown
stream, ordinal out of range, already seen. A 32-bit ordinal always fits a
64-bit size, so that conversion has no failing branch here. -/
def observe (self : PacketLedger) (payload : Payload) : PacketLedger :=
  match inspectPayload payload with
  | .error _ => self.countUnexpected
  | .ok inspection =>
    if inspection.identity.phase = .warmup then self
    else
      match findStream self.streams (identityKey inspection.identity) with
      | none => self.countUnexpected
      | some (index, stream) =>
        match stream.seen[inspection.identity.ordinal.toNat]? with
        | none => self.countUnexpected
        | some true => self.countDuplicate
        | some false =>
          self.deliver index stream inspection.identity.ordinal.toNat inspection.payloadMatches
            payload.length

/-- Observes payloads one after the other. -/
def observeAll (self : PacketLedger) (payloads : List Payload) : PacketLedger :=
  payloads.foldl observe self

/-- Every stream is complete. -/
def isComplete (self : PacketLedger) : Bool := self.streams.all ExpectedStream.isComplete

/-- Missing packets are counted only now, one saturating sum over the gaps. -/
def finish (self : PacketLedger) : CorrectnessSummary :=
  { self.correctness with
    missingPackets := (self.streams.map (fun stream =>
      UInt64.ofNat (min (stream.seen.countP (fun seen => !seen)) limit))).foldl saturatingAdd 0 }

end PacketLedger

/-- Keys and sizes, which observing never changes. -/
def shape (streams : List ExpectedStream) : List (StreamKey × Nat) :=
  streams.map (fun stream => (stream.key, stream.seen.length))

/-- What a payload means to a ledger of a given shape. -/
inductive Event where
  | warmup
  | unexpected
  | arrival (index ordinal : Nat) (payloadMatches : Bool)
deriving DecidableEq

/-- The verdict on one payload, from the payload and the ledger's shape alone. -/
def classify (lanes : List (StreamKey × Nat)) (payload : Payload) : Event :=
  match inspectPayload payload with
  | .error _ => .unexpected
  | .ok inspection =>
    if inspection.identity.phase = .warmup then .warmup
    else
      match lanes.findIdx? (fun lane => lane.1 == identityKey inspection.identity) with
      | none => .unexpected
      | some index =>
        if inspection.identity.ordinal.toNat < ((lanes[index]?).map Prod.snd).getD 0 then
          .arrival index inspection.identity.ordinal.toNat inspection.payloadMatches
        else .unexpected

/-- The lane and number of an arrival. -/
def Event.item : Event → Option (Nat × Nat)
  | .arrival index ordinal _ => some (index, ordinal)
  | _ => none

/-- The in-range arrivals of a history, first copies and repeats alike. -/
def arrivals (events : List Event) : List (Nat × Nat) := events.filterMap Event.item

/-- Observing a payload does exactly what its verdict says. -/
theorem observe_cases (ledger : PacketLedger) (payload : Payload) :
    (classify (shape ledger.streams) payload = .warmup ∧ ledger.observe payload = ledger) ∨
    (classify (shape ledger.streams) payload = .unexpected ∧
      ledger.observe payload = ledger.countUnexpected) ∨
    (∃ index stream ordinal payloadMatches,
      classify (shape ledger.streams) payload = .arrival index ordinal payloadMatches ∧
      ledger.streams[index]? = some stream ∧ stream.seen[ordinal]? = some true ∧
      ledger.observe payload = ledger.countDuplicate) ∨
    (∃ index stream ordinal payloadMatches,
      classify (shape ledger.streams) payload = .arrival index ordinal payloadMatches ∧
      ledger.streams[index]? = some stream ∧ stream.seen[ordinal]? = some false ∧
      ledger.observe payload =
        ledger.deliver index stream ordinal payloadMatches payload.length) := by
  unfold classify PacketLedger.observe
  cases inspectPayload payload with
  | error message => exact Or.inr (Or.inl ⟨rfl, rfl⟩)
  | ok inspection =>
    by_cases warmup : inspection.identity.phase = .warmup
    · exact Or.inl ⟨by simp [warmup], by simp [warmup]⟩
    · simp only [warmup, if_false, findStream, shape, List.findIdx?_map, Function.comp_def]
      cases found : ledger.streams.findIdx?
          (fun stream => stream.key == identityKey inspection.identity) with
      | none => exact Or.inr (Or.inl ⟨rfl, rfl⟩)
      | some index =>
        obtain ⟨inside, _, _⟩ := List.findIdx?_eq_some_iff_getElem.mp found
        have located : ledger.streams[index]? = some ledger.streams[index] :=
          List.getElem?_eq_getElem inside
        generalize ledger.streams[index] = stream at located
        simp only [List.getElem?_map, located, Option.map_some, Option.getD_some,
          Option.pure_def, Option.bind_eq_bind, Option.bind_some]
        by_cases short : inspection.identity.ordinal.toNat < stream.seen.length
        · have read := List.getElem?_eq_getElem short
          rw [read, if_pos short]
          cases bit : stream.seen[inspection.identity.ordinal.toNat] with
          | true =>
            exact Or.inr (Or.inr (Or.inl
              ⟨index, stream, _, _, rfl, located, by rw [read, bit], rfl⟩))
          | false =>
            exact Or.inr (Or.inr (Or.inr
              ⟨index, stream, _, _, rfl, located, by rw [read, bit], rfl⟩))
        · rw [List.getElem?_eq_none (Nat.le_of_not_lt short), if_neg short]
          exact Or.inr (Or.inl ⟨rfl, rfl⟩)

/-- Marking a packet does not change whose stream it is. -/
theorem mark_key (stream : ExpectedStream) (ordinal : Nat) :
    (stream.mark ordinal).key = stream.key := rfl

/-- Marking a packet sets its bit. -/
theorem mark_seen (stream : ExpectedStream) (ordinal : Nat) :
    (stream.mark ordinal).seen = stream.seen.set ordinal true := rfl

/-- Marking keeps an exact cursor exact. -/
theorem mark_cursor {stream : ExpectedStream}
    (cursor : stream.nextOrdinal = Bitmap.truePrefix stream.seen) (ordinal : Nat) :
    (stream.mark ordinal).nextOrdinal = Bitmap.truePrefix (stream.mark ordinal).seen := by
  have behind : stream.nextOrdinal ≤ Bitmap.truePrefix (stream.seen.set ordinal true) :=
    cursor ▸ Bitmap.truePrefix_le_mark stream.seen ordinal
  have enough := Bitmap.truePrefix_le_length (stream.seen.set ordinal true)
  exact Bitmap.catchUp_exact _ _ _ behind (by omega)

/-- Marking a stream of a ledger leaves the ledger's shape alone. -/
theorem shape_mark {streams : List ExpectedStream} {index : Nat} {stream : ExpectedStream}
    (located : streams[index]? = some stream) (ordinal : Nat) :
    shape (streams.set index (stream.mark ordinal)) = shape streams := by
  have same : (shape streams)[index]? = some (stream.key, stream.seen.length) := by
    simp [shape, located]
  have kept : ((stream.mark ordinal).key, (stream.mark ordinal).seen.length) =
      (stream.key, stream.seen.length) := by
    rw [mark_key, mark_seen, List.length_set]
  obtain ⟨inside, entry⟩ := List.getElem?_eq_some_iff.mp same
  rw [shape, List.map_set, kept, ← entry]
  exact List.set_getElem_self inside

/-- A further event adds its arrival, if it is one. -/
theorem arrivals_append (events : List Event) (event : Event) :
    arrivals (events ++ [event]) = arrivals events ++ event.item.toList := by
  cases event <;> simp [arrivals, Event.item]

/-- A ledger that started from `initial` and has observed a history of verdicts:
its bitmaps record exactly the arrivals, each cursor is at its bitmap's first
gap, and the clamped counters agree with the history. -/
structure Tracks (initial : List ExpectedStream) (events : List Event) (ledger : PacketLedger) :
    Prop where
  shape : shape ledger.streams = Ledger.shape initial
  seen : ∀ index stream, ledger.streams[index]? = some stream → ∀ ordinal bit,
    stream.seen[ordinal]? = some bit → bit = decide ((index, ordinal) ∈ arrivals events)
  cursor : ∀ stream ∈ ledger.streams, stream.nextOrdinal = Bitmap.truePrefix stream.seen
  marked : (ledger.streams.map (fun stream => stream.seen.count true)).sum =
    Arrivals.distinct (arrivals events)
  delivered : ledger.deliveredPackets.toNat = min (Arrivals.distinct (arrivals events)) limit
  duplicates : ledger.correctness.duplicatePackets.toNat =
    min ((arrivals events).length - Arrivals.distinct (arrivals events)) limit
  unexpected : ledger.correctness.unexpectedPackets.toNat = min (events.count .unexpected) limit

/-- A ledger of freshly built streams tracks the empty history. -/
theorem tracks_new {streams : List ExpectedStream} (built : ∀ stream ∈ streams, stream.Built) :
    Tracks streams [] (PacketLedger.new streams) := by
  have fresh : ∀ stream ∈ streams, ∃ size, stream.seen = List.replicate size false ∧
      stream.nextOrdinal = 0 := by
    intro stream member
    obtain ⟨packets, constructed⟩ := built stream member
    simp only [ExpectedStream.new, bind_eq_ok] at constructed
    obtain ⟨_, _, returned⟩ := constructed
    have same := Except.ok.inj returned
    exact ⟨packets.toNat, (congrArg ExpectedStream.seen same).symm,
      (congrArg ExpectedStream.nextOrdinal same).symm⟩
  refine ⟨rfl, ?_, ?_, ?_, by simp [PacketLedger.new, arrivals, Arrivals.distinct],
    by simp [PacketLedger.new, CorrectnessSummary.zero, arrivals],
    by simp [PacketLedger.new, CorrectnessSummary.zero]⟩
  · intro index stream located ordinal bit read
    obtain ⟨size, blank, _⟩ := fresh stream (List.mem_of_getElem? located)
    rw [blank, List.getElem?_replicate] at read
    simp only [arrivals, List.filterMap_nil, List.not_mem_nil, decide_false]
    split at read
    · exact (Option.some.inj read).symm
    · cases read
  · intro stream member
    obtain ⟨size, blank, start⟩ := fresh stream member
    rw [blank, start, Bitmap.truePrefix_replicate_false]
  · have empty : ∀ stream ∈ streams, stream.seen.count true = 0 := by
      intro stream member
      obtain ⟨size, blank, _⟩ := fresh stream member
      simp [blank, List.count_replicate]
    have vanish : streams.map (fun stream => stream.seen.count true) =
        streams.map (fun _ => 0) := List.map_congr_left empty
    simp [PacketLedger.new, vanish, arrivals, Arrivals.distinct]

/-- Observing one payload extends the tracked history by its verdict.

Proof: the verdict decides which of the four effects happened. Warmups change
nothing, unexpected payloads one counter. An arrival is a repeat exactly when its
bit is set, and the bit is set exactly when the item is in the history; so
repeats grow the history without a new item and first copies add one item, one
mark and one delivery. -/
theorem tracks_observe {initial : List ExpectedStream} {events : List Event}
    {ledger : PacketLedger} (tracked : Tracks initial events ledger) (payload : Payload) :
    Tracks initial (events ++ [classify (shape initial) payload]) (ledger.observe payload) := by
  rw [← tracked.shape]
  obtain ⟨verdict, effect⟩ | ⟨verdict, effect⟩ |
      ⟨index, stream, ordinal, payloadMatches, verdict, located, bit, effect⟩ |
      ⟨index, stream, ordinal, payloadMatches, verdict, located, bit, effect⟩ :=
    observe_cases ledger payload <;> rw [verdict, effect]
  · have same : arrivals (events ++ [Event.warmup]) = arrivals events := by
      simp [arrivals_append, Event.item]
    exact ⟨tracked.shape, same ▸ tracked.seen, tracked.cursor, same ▸ tracked.marked,
      same ▸ tracked.delivered, same ▸ tracked.duplicates, by simpa using tracked.unexpected⟩
  · have same : arrivals (events ++ [Event.unexpected]) = arrivals events := by
      simp [arrivals_append, Event.item]
    refine ⟨tracked.shape, same ▸ tracked.seen, tracked.cursor, same ▸ tracked.marked,
      same ▸ tracked.delivered, same ▸ tracked.duplicates, ?_⟩
    simp only [PacketLedger.countUnexpected, saturatingAdd_toNat, tracked.unexpected,
      List.count_append, List.count_singleton_self, UInt64.toNat_one]
    omega
  · have old : (index, ordinal) ∈ arrivals events :=
      of_decide_eq_true (tracked.seen index stream located ordinal true bit).symm
    have grown : arrivals (events ++ [Event.arrival index ordinal payloadMatches]) =
        arrivals events ++ [(index, ordinal)] := by simp [arrivals_append, Event.item]
    have items := Arrivals.distinct_append_old old
    refine ⟨tracked.shape, ?_, tracked.cursor, ?_, ?_, ?_,
      by simpa [PacketLedger.countDuplicate] using tracked.unexpected⟩
    · intro other otherStream otherLocated position read present
      rw [tracked.seen other otherStream otherLocated position read present, grown]
      by_cases repeated : (other, position) = (index, ordinal)
      · simp [repeated, old]
      · simp [repeated]
    · rw [grown, items]
      exact tracked.marked
    · rw [grown, items]
      exact tracked.delivered
    · have bound := Arrivals.distinct_le_length (arrivals events)
      simp only [PacketLedger.countDuplicate, saturatingAdd_toNat, tracked.duplicates, grown,
        items, List.length_append, List.length_singleton, UInt64.toNat_one]
      omega
  · have new : (index, ordinal) ∉ arrivals events :=
      of_decide_eq_false (tracked.seen index stream located ordinal false bit).symm
    have grown : arrivals (events ++ [Event.arrival index ordinal payloadMatches]) =
        arrivals events ++ [(index, ordinal)] := by simp [arrivals_append, Event.item]
    have items := Arrivals.distinct_append_new new
    have cursor := tracked.cursor stream (List.mem_of_getElem? located)
    refine ⟨(shape_mark located ordinal).trans tracked.shape, ?_, ?_, ?_, ?_, ?_,
      by simpa [PacketLedger.deliver] using tracked.unexpected⟩
    · intro other otherStream otherLocated position read present
      rw [grown]
      simp only [PacketLedger.deliver, List.getElem?_set] at otherLocated
      split at otherLocated
      · next sameIndex =>
        split at otherLocated
        · obtain rfl := Option.some.inj otherLocated
          rw [mark_seen, Bitmap.getElem?_mark] at present
          split at present
          · next inside =>
            obtain ⟨prior, priorRead⟩ : ∃ prior, stream.seen[position]? = some prior :=
              ⟨_, List.getElem?_eq_getElem inside⟩
            have history := tracked.seen index stream located position prior priorRead
            rw [priorRead] at present
            rw [← Option.some.inj present, Option.getD_some, history, ← sameIndex]
            simp [Bool.or_comm]
          · cases present
        · cases otherLocated
      · next otherIndex =>
        rw [tracked.seen other otherStream otherLocated position read present]
        have apart : (other, position) ≠ (index, ordinal) := by
          intro same
          exact otherIndex (congrArg Prod.fst same).symm
        simp [apart]
    · intro other member
      rcases List.mem_or_eq_of_mem_set member with kept | rfl
      · exact tracked.cursor other kept
      · exact mark_cursor cursor ordinal
    · have moved := Bitmap.sum_map_set (fun stream => stream.seen.count true)
        (stream.mark ordinal) located
      have counted := Bitmap.count_mark bit
      have total := tracked.marked
      rw [mark_seen] at moved
      rw [grown, items]
      simp only [PacketLedger.deliver]
      omega
    · simp only [PacketLedger.deliver, saturatingAdd_toNat, tracked.delivered, grown, items,
        UInt64.toNat_one]
      omega
    · have bound := Arrivals.distinct_le_length (arrivals events)
      simp only [PacketLedger.deliver, tracked.duplicates, grown, items, List.length_append,
        List.length_singleton]
      omega

/-- A whole run tracks the verdicts of all its payloads. -/
theorem tracks_observeAll {initial : List ExpectedStream} {events : List Event}
    {ledger : PacketLedger} (tracked : Tracks initial events ledger) (payloads : List Payload) :
    Tracks initial (events ++ payloads.map (classify (shape initial)))
      (ledger.observeAll payloads) := by
  induction payloads generalizing events ledger with
  | nil => simpa [PacketLedger.observeAll] using tracked
  | cons payload rest inductionHypothesis =>
    have stepped := inductionHypothesis (tracks_observe tracked payload)
    simpa [PacketLedger.observeAll] using stepped

end SfuLoad.Ledger
