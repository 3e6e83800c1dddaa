import SfuLoad.Kit.Fallible
import SfuLoad.Kit.Fields
import SfuLoad.Kit.Numerals
import SfuLoad.Telemetry.Records

/-!
# Traffic counters among metrics

A metrics text has a line for each series: its name with its labels, and a value.
Six series are required. One pass over the lines fills a slot for each of them and
fails at the first line that repeats a series, has no counter or says more than
that; lines of other series, comments and blank lines are passed over.
-/

namespace SfuLoad.Telemetry

open Kit.Fallible Kit.Fields Kit.Lines Kit.Numerals

/-- Packets the server has received. -/
def rtpPacketsIngress : Text := "osfu_rtp_packets_total\x7bdirection=\"ingress\"\x7d".toList

/-- Packets the server has sent. -/
def rtpPacketsEgress : Text := "osfu_rtp_packets_total\x7bdirection=\"egress\"\x7d".toList

/-- Payload bytes the server has received. -/
def rtpBytesIngress : Text := "osfu_rtp_payload_bytes_total\x7bdirection=\"ingress\"\x7d".toList

/-- Payload bytes the server has sent. -/
def rtpBytesEgress : Text := "osfu_rtp_payload_bytes_total\x7bdirection=\"egress\"\x7d".toList

/-- Packets the server has forwarded to its own peers. -/
def rtpForwardedLocal : Text :=
  "osfu_rtp_forwarded_packets_total\x7bdestination=\"local_rtc\"\x7d".toList

/-- Payload bytes the server has forwarded to its own peers. -/
def rtpForwardedBytesLocal : Text :=
  "osfu_rtp_forwarded_payload_bytes_total\x7bdestination=\"local_rtc\"\x7d".toList

/-- What has been found so far of each required series. -/
structure TrafficSlots where
  ingressPackets : Option UInt64
  ingressBytes : Option UInt64
  egressPackets : Option UInt64
  egressBytes : Option UInt64
  forwardedPackets : Option UInt64
  forwardedBytes : Option UInt64

/-- The series that are required, each with a slot. -/
inductive TrafficSeries where
  | ingressPackets
  | ingressBytes
  | egressPackets
  | egressBytes
  | forwardedPackets
  | forwardedBytes
deriving DecidableEq

namespace TrafficSeries

/-- The series as the metrics name it. -/
def name : TrafficSeries → Text
  | ingressPackets => rtpPacketsIngress
  | ingressBytes => rtpBytesIngress
  | egressPackets => rtpPacketsEgress
  | egressBytes => rtpBytesEgress
  | forwardedPackets => rtpForwardedLocal
  | forwardedBytes => rtpForwardedBytesLocal

/-- The series that a name is compared with, in order. -/
def find (series : Text) : Option TrafficSeries :=
  if series = rtpPacketsIngress then some ingressPackets
  else if series = rtpBytesIngress then some ingressBytes
  else if series = rtpPacketsEgress then some egressPackets
  else if series = rtpBytesEgress then some egressBytes
  else if series = rtpForwardedLocal then some forwardedPackets
  else if series = rtpForwardedBytesLocal then some forwardedBytes
  else none

/-- The counter of a sample that a series is for. -/
def counter (sample : TrafficSample) : TrafficSeries → UInt64
  | ingressPackets => sample.ingress.packets
  | ingressBytes => sample.ingress.payloadBytes
  | egressPackets => sample.egress.packets
  | egressBytes => sample.egress.payloadBytes
  | forwardedPackets => sample.forwardedLocalRtc.packets
  | forwardedBytes => sample.forwardedLocalRtc.payloadBytes

end TrafficSeries

namespace TrafficSlots

/-- Nothing has been found. -/
def empty : TrafficSlots := ⟨none, none, none, none, none, none⟩

/-- The slot of a series. -/
def slot (slots : TrafficSlots) : TrafficSeries → Option UInt64
  | .ingressPackets => slots.ingressPackets
  | .ingressBytes => slots.ingressBytes
  | .egressPackets => slots.egressPackets
  | .egressBytes => slots.egressBytes
  | .forwardedPackets => slots.forwardedPackets
  | .forwardedBytes => slots.forwardedBytes

/-- Fills the slot of a series. -/
def replace (slots : TrafficSlots) (value : UInt64) : TrafficSeries → TrafficSlots
  | .ingressPackets => { slots with ingressPackets := some value }
  | .ingressBytes => { slots with ingressBytes := some value }
  | .egressPackets => { slots with egressPackets := some value }
  | .egressBytes => { slots with egressBytes := some value }
  | .forwardedPackets => { slots with forwardedPackets := some value }
  | .forwardedBytes => { slots with forwardedBytes := some value }

/-- One line of the metrics. -/
def takeLine (slots : TrafficSlots) (line : Text) : Except String TrafficSlots :=
  let line := trim line
  if line.isEmpty ∨ line.head? = some '#' then return slots
  else
    match splitAsciiWhitespace line with
    | [] => return slots
    | name :: fields =>
      match TrafficSeries.find name with
      | none => return slots
      | some series => do
        let metric := s!"metric {String.ofList name}"
        let value ← context fields.head? (metric ++ " has no value")
        let value ← context (parseU64 value) (metric ++ " has a non-counter value")
        ensure (fields.tail = []) (metric ++ " has an unexpected timestamp")
        ensure (slots.slot series = none) (metric ++ " is duplicated")
        return slots.replace value series

end TrafficSlots

/-- A series that was not found is a failure that names it. -/
def requiredCounter (value : Option UInt64) (series : Text) : Except String UInt64 :=
  context value s!"metrics payload is missing {String.ofList series}"

/-- One pass over the lines, then every slot has to be full. -/
def parseTraffic (payload : Text) : Except String TrafficSample := do
  let slots ← (lines payload).foldlM TrafficSlots.takeLine .empty
  return {
    ingress := {
      packets := ← requiredCounter slots.ingressPackets rtpPacketsIngress
      payloadBytes := ← requiredCounter slots.ingressBytes rtpBytesIngress }
    egress := {
      packets := ← requiredCounter slots.egressPackets rtpPacketsEgress
      payloadBytes := ← requiredCounter slots.egressBytes rtpBytesEgress }
    forwardedLocalRtc := {
      packets := ← requiredCounter slots.forwardedPackets rtpForwardedLocal
      payloadBytes := ← requiredCounter slots.forwardedBytes rtpForwardedBytesLocal } }

/-- The first token of a line that is neither blank nor a comment. -/
def firstToken (line : Text) : Option Text :=
  if (trim line).isEmpty ∨ (trim line).head? = some '#' then none
  else (splitAsciiWhitespace (trim line)).head?

/-- Is a line one of a series? -/
def heads (series : TrafficSeries) (line : Text) : Bool := firstToken line = some series.name

/-- The value in a line that has a name and a counter, and nothing else. -/
def counterOf (line : Text) : Option UInt64 :=
  match splitAsciiWhitespace (trim line) with
  | [_, value] => parseU64 value
  | _ => none

namespace TrafficSeries

/-- The name of a series is found as that series. -/
theorem find_name (series : TrafficSeries) : find series.name = some series := by
  -- The names are compared as lists of the characters that they are spelled with.
  have packetsIn : rtpPacketsIngress = _ := String.toList_ofList
  have bytesIn : rtpBytesIngress = _ := String.toList_ofList
  have packetsOut : rtpPacketsEgress = _ := String.toList_ofList
  have bytesOut : rtpBytesEgress = _ := String.toList_ofList
  have forwarded : rtpForwardedLocal = _ := String.toList_ofList
  have forwardedBytes : rtpForwardedBytesLocal = _ := String.toList_ofList
  unfold find
  rw [packetsIn, bytesIn, packetsOut, bytesOut, forwarded, forwardedBytes]
  cases series <;> unfold name <;> dsimp only
  · rw [packetsIn]
    decide
  · rw [bytesIn]
    decide
  · rw [packetsOut]
    decide
  · rw [bytesOut]
    decide
  · rw [forwarded]
    decide
  · rw [forwardedBytes]
    decide

/-- The names are told apart. -/
theorem name_injective {series other : TrafficSeries} (same : series.name = other.name) :
    series = other := by
  have found := find_name series
  rw [same, find_name] at found
  exact (Option.some.inj found).symm

/-- Only a series' own name is found as that series. -/
theorem name_of_find {text : Text} {series : TrafficSeries} (found : find text = some series) :
    text = series.name := by
  unfold find at found
  split_ifs at found with first second third fourth fifth sixth
  all_goals
    obtain rfl := Option.some.inj found
    assumption

end TrafficSeries

namespace TrafficSlots

/-- A filled slot has its value, and the others have what they had. -/
theorem slot_replace (slots : TrafficSlots) (value : UInt64) (series other : TrafficSeries) :
    (slots.replace value series).slot other =
      if other = series then some value else slots.slot other := by
  cases series <;> cases other <;> rfl

/-- Slots that agree on every series are the same. -/
theorem ext_slot {slots other : TrafficSlots} (same : ∀ series, slots.slot series = other.slot series) :
    slots = other := by
  obtain ⟨_, _, _, _, _, _⟩ := slots
  obtain ⟨_, _, _, _, _, _⟩ := other
  obtain rfl := same .ingressPackets
  obtain rfl := same .ingressBytes
  obtain rfl := same .egressPackets
  obtain rfl := same .egressBytes
  obtain rfl := same .forwardedPackets
  obtain rfl := same .forwardedBytes
  rfl

end TrafficSlots

section Lines

variable {slots next : TrafficSlots} {line : Text} {series other : TrafficSeries}

/-- A line is of one series at most. -/
theorem heads_unique (first : heads series line = true) (second : heads other line = true) :
    other = series := by
  simp only [heads, decide_eq_true_eq] at first second
  exact TrafficSeries.name_injective (Option.some.inj (second.symm.trans first))

/-- A line of no series is passed over. -/
theorem takeLine_of_unrelated (unrelated : ∀ series, heads series line = false) :
    slots.takeLine line = .ok slots := by
  simp only [TrafficSlots.takeLine]
  split
  · rfl
  · next content =>
    split
    · rfl
    · next name fields written =>
      cases compared : TrafficSeries.find name with
      | none => rfl
      | some series =>
        have apart := unrelated series
        rw [heads, firstToken, if_neg content, written, List.head?_cons,
          TrafficSeries.name_of_find compared] at apart
        simp at apart

/-- A line of a series has to bring a counter for an empty slot. -/
theorem takeLine_of_heads (related : heads series line = true) :
    slots.takeLine line = .ok next ↔ ∃ value, counterOf line = some value ∧
      slots.slot series = none ∧ next = slots.replace value series := by
  rw [heads, decide_eq_true_eq, firstToken] at related
  split at related
  · cases related
  · next content =>
    obtain ⟨fields, written⟩ := List.head?_eq_some_iff.mp related
    simp only [TrafficSlots.takeLine, if_neg content, written, TrafficSeries.find_name, bind_eq_ok,
      context_eq_ok, ensure_eq_ok, counterOf]
    constructor
    · rintro ⟨text, first, value, parsed, _, alone, _, free, returned⟩
      obtain ⟨rest, rfl⟩ := List.head?_eq_some_iff.mp first
      obtain rfl : rest = [] := alone
      exact ⟨value, parsed, free, (Except.ok.inj returned).symm⟩
    · rintro ⟨value, parsed, free, rfl⟩
      split at parsed
      · next name text same =>
        obtain ⟨-, rfl⟩ := List.cons.inj same
        exact ⟨text, rfl, value, parsed, (), rfl, (), free, rfl⟩
      · cases parsed

end Lines

section Pass

variable {passed : List Text} {series : TrafficSeries}

/-- What the lines say of a series. -/
def foundCounter (passed : List Text) (series : TrafficSeries) : Option UInt64 :=
  (passed.filter (heads series)).head?.bind counterOf

/-- The slots after some lines. -/
def slotsOf (passed : List Text) : TrafficSlots where
  ingressPackets := foundCounter passed .ingressPackets
  ingressBytes := foundCounter passed .ingressBytes
  egressPackets := foundCounter passed .egressPackets
  egressBytes := foundCounter passed .egressBytes
  forwardedPackets := foundCounter passed .forwardedPackets
  forwardedBytes := foundCounter passed .forwardedBytes

/-- A slot has what its series says among the lines passed. -/
theorem slotsOf_slot (passed : List Text) (series : TrafficSeries) :
    (slotsOf passed).slot series = foundCounter passed series := by
  cases series <;> rfl

/-- Every series has one line at most, and a counter in it. -/
def SingleCounters (passed : List Text) : Prop :=
  ∀ series, (passed.filter (heads series)).length ≤ 1 ∧
    ∀ line ∈ passed.filter (heads series), (counterOf line).isSome

/-- So a slot is empty exactly as long as its series has no line. -/
theorem foundCounter_eq_none (singles : SingleCounters passed) :
    foundCounter passed series = none ↔ passed.filter (heads series) = [] := by
  rw [foundCounter]
  cases lines : passed.filter (heads series) with
  | nil => simp
  | cons line rest =>
    have counts := (singles series).2 line (by rw [lines]; exact List.mem_cons_self)
    simp [Option.isSome_iff_ne_none.mp counts]

/-- A slot is full exactly when its series has one line, with the counter. -/
theorem foundCounter_eq_some (singles : SingleCounters passed) {value : UInt64} :
    foundCounter passed series = some value ↔
      ∃ line, passed.filter (heads series) = [line] ∧ counterOf line = some value := by
  rw [foundCounter]
  cases lines : passed.filter (heads series) with
  | nil => simp
  | cons line rest =>
    have few := (singles series).1
    rw [lines, List.length_cons] at few
    obtain rfl : rest = [] := List.length_eq_zero_iff.mp (by omega)
    simp

/-- A further line of a series is one more line of it. -/
theorem filter_own {line : Text} (related : heads series line = true) :
    (passed ++ [line]).filter (heads series) = passed.filter (heads series) ++ [line] := by
  rw [List.filter_append, List.filter_singleton, related]
  rfl

/-- A line of another series is none. -/
theorem filter_unrelated {line : Text} (unrelated : heads series line = false) :
    (passed ++ [line]).filter (heads series) = passed.filter (heads series) := by
  rw [List.filter_append, List.filter_singleton, unrelated]
  exact List.append_nil _

/-- The first line of a series fills its slot, and no other. -/
theorem slotsOf_append {line : Text} {value : UInt64} (related : heads series line = true)
    (free : passed.filter (heads series) = []) (counts : counterOf line = some value) :
    slotsOf (passed ++ [line]) = (slotsOf passed).replace value series := by
  refine TrafficSlots.ext_slot (fun other => ?_)
  rw [TrafficSlots.slot_replace, slotsOf_slot, slotsOf_slot, foundCounter]
  by_cases same : other = series
  · subst same
    rw [if_pos rfl, filter_own related, free]
    exact counts
  · have unrelated : heads other line = false :=
      Bool.eq_false_iff.mpr (fun second => same (heads_unique related second))
    rw [if_neg same, foundCounter, filter_unrelated unrelated]

/-- One more line keeps to the rule exactly if it can be taken.

Proof: by the series of the line, if it has one. Nothing changes for the others. -/
theorem takeLine_eq_ok (singles : SingleCounters passed) (line : Text) (next : TrafficSlots) :
    (slotsOf passed).takeLine line = .ok next ↔
      SingleCounters (passed ++ [line]) ∧ next = slotsOf (passed ++ [line]) := by
  by_cases related : ∃ series, heads series line = true
  · obtain ⟨series, related⟩ := related
    rw [takeLine_of_heads related, slotsOf_slot, foundCounter_eq_none singles]
    constructor
    · rintro ⟨value, counts, free, rfl⟩
      refine ⟨fun other => ?_, (slotsOf_append related free counts).symm⟩
      by_cases same : other = series
      · subst same
        rw [filter_own related, free]
        simp [counts]
      · have unrelated : heads other line = false :=
          Bool.eq_false_iff.mpr (fun second => same (heads_unique related second))
        rw [filter_unrelated unrelated]
        exact singles other
    · rintro ⟨after, rfl⟩
      obtain ⟨few, counts⟩ := after series
      rw [filter_own related] at few counts
      obtain ⟨value, counts⟩ := Option.isSome_iff_exists.mp (counts line (by simp))
      have free : passed.filter (heads series) = [] := by
        rw [List.length_append, List.length_singleton] at few
        exact List.length_eq_zero_iff.mp (by omega)
      exact ⟨value, counts, free, slotsOf_append related free counts⟩
  · have unrelated (series : TrafficSeries) : heads series line = false := by
      simpa using fun heads => related ⟨series, heads⟩
    have kept : slotsOf (passed ++ [line]) = slotsOf passed :=
      TrafficSlots.ext_slot (fun series => by
        rw [slotsOf_slot, slotsOf_slot, foundCounter, foundCounter, filter_unrelated (unrelated series)])
    have singles_kept : SingleCounters (passed ++ [line]) := by
      intro series
      rw [filter_unrelated (unrelated series)]
      exact singles series
    rw [takeLine_of_unrelated unrelated, kept]
    constructor
    · intro returned
      exact ⟨singles_kept, (Except.ok.inj returned).symm⟩
    · rintro ⟨_, rfl⟩
      rfl

/-- What holds of all lines holds of those before the last. -/
theorem SingleCounters.of_append {more : List Text} (singles : SingleCounters (passed ++ more)) :
    SingleCounters passed := by
  intro series
  obtain ⟨few, counts⟩ := singles series
  rw [List.filter_append] at few counts
  rw [List.length_append] at few
  exact ⟨by omega, fun line member => counts line (List.mem_append_left _ member)⟩

/-- The pass over the lines. -/
theorem takeLines_eq_ok (passed : List Text) (next : TrafficSlots) :
    passed.foldlM TrafficSlots.takeLine .empty = .ok next ↔
      SingleCounters passed ∧ next = slotsOf passed := by
  have begun : SingleCounters [] := fun series => by simp
  exact @foldlM_iff _ _ _ TrafficSlots.takeLine slotsOf SingleCounters
    (fun _ _ singles => singles.of_append)
    (fun _ line next singles => takeLine_eq_ok singles line next) begun passed next

/-- A line of a series that has a counter says nothing else. -/
theorem counterOf_eq_some {line : Text} {value : UInt64} (related : heads series line = true) :
    counterOf line = some value ↔ ∃ token,
      splitAsciiWhitespace (trim line) = [series.name, token] ∧ parseU64 token = some value := by
  rw [heads, decide_eq_true_eq, firstToken] at related
  split at related
  · cases related
  · obtain ⟨fields, written⟩ := List.head?_eq_some_iff.mp related
    rw [counterOf, written]
    match fields with
    | [] => simp
    | [token] => simp
    | token :: _ :: _ => simp

end Pass

/-- What a metrics text has to say of each series: one line, with a counter. -/
def Reports (passed : List Text) (sample : TrafficSample) (series : TrafficSeries) : Prop :=
  ∃ line token, passed.filter (heads series) = [line] ∧
    splitAsciiWhitespace (trim line) = [series.name, token] ∧
    parseU64 token = some (series.counter sample)

/-- A sample reports a series exactly when the slot of the series has the sample's number. -/
theorem reports_iff {passed : List Text} (singles : SingleCounters passed)
    (sample : TrafficSample) (series : TrafficSeries) :
    Reports passed sample series ↔ foundCounter passed series = some (series.counter sample) := by
  rw [foundCounter_eq_some singles, Reports]
  refine exists_congr (fun line => ?_)
  rw [exists_and_left]
  refine and_congr_right (fun single => ?_)
  have related : heads series line = true :=
    (List.mem_filter.mp (single ▸ List.mem_singleton.mpr rfl)).2
  exact (counterOf_eq_some related).symm

/-- Where every series is reported, each has one line. -/
theorem singles_of_reports {passed : List Text} {sample : TrafficSample}
    (reports : ∀ series, Reports passed sample series) : SingleCounters passed := by
  intro series
  obtain ⟨line, token, single, written, parsed⟩ := reports series
  have related : heads series line = true :=
    (List.mem_filter.mp (single ▸ List.mem_singleton.mpr rfl)).2
  rw [single]
  simp [(counterOf_eq_some related).mpr ⟨token, written, parsed⟩]

/-- The parser answers a sample exactly when the lines report every series of it. -/
theorem parseTraffic_eq_ok (payload : Text) (sample : TrafficSample) :
    parseTraffic payload = .ok sample ↔ ∀ series, Reports (lines payload) sample series := by
  have slots : parseTraffic payload = .ok sample ↔ SingleCounters (lines payload) ∧
      ∀ series, foundCounter (lines payload) series = some (series.counter sample) := by
    simp only [parseTraffic, bind_eq_ok, takeLines_eq_ok, requiredCounter, context_eq_ok]
    constructor
    · rintro ⟨_, ⟨singles, rfl⟩, _, first, _, second, _, third, _, fourth, _, fifth, _, sixth,
        returned⟩
      obtain rfl := Except.ok.inj returned
      refine ⟨singles, fun series => ?_⟩
      cases series
      exacts [first, second, third, fourth, fifth, sixth]
    · rintro ⟨singles, each⟩
      exact ⟨_, ⟨singles, rfl⟩, _, each .ingressPackets, _, each .ingressBytes,
        _, each .egressPackets, _, each .egressBytes, _, each .forwardedPackets,
        _, each .forwardedBytes, rfl⟩
  rw [slots]
  constructor
  · rintro ⟨singles, each⟩ series
    exact (reports_iff singles sample series).mpr (each series)
  · intro reports
    have singles := singles_of_reports reports
    exact ⟨singles, fun series => (reports_iff singles sample series).mp (reports series)⟩

/-- Is a line one of a required series? -/
def isRequired (line : Text) : Bool := (firstToken line).any (fun name =>
  (TrafficSeries.find name).isSome)

/-- A line of one of the series is one of the lines that matter. -/
theorem isRequired_of_heads {series : TrafficSeries} {line : Text}
    (related : heads series line = true) : isRequired line = true := by
  rw [heads, decide_eq_true_eq] at related
  rw [isRequired, related, Option.any_some, TrafficSeries.find_name]
  rfl

/-- Only the lines of required series matter, in whatever order. -/
theorem reports_of_perm {passed others : List Text} {sample : TrafficSample}
    (perm : (others.filter isRequired).Perm (passed.filter isRequired)) {series : TrafficSeries}
    (reports : Reports passed sample series) : Reports others sample series := by
  obtain ⟨line, token, single, written, parsed⟩ := reports
  refine ⟨line, token, ?_, written, parsed⟩
  have inside (some : List Text) :
      (some.filter isRequired).filter (heads series) = some.filter (heads series) := by
    rw [List.filter_filter]
    refine List.filter_congr (fun other _ => ?_)
    cases related : heads series other with
    | false => rfl
    | true => rw [isRequired_of_heads related]; rfl
  have matching := perm.filter (heads series)
  rw [inside, inside, single] at matching
  exact List.perm_singleton.mp matching

/-- A metrics text is read exactly if each required series is the first token of one
line that is no comment, and that line has a counter behind it and nothing more. The
sample has the counter of each series in its place. What other lines there are and in
which order all of them come makes no difference. -/
theorem traffic_by_series (payload : Text) :
    (∀ sample, parseTraffic payload = .ok sample ↔
      ∀ series : TrafficSeries, ∃ line token,
        (lines payload).filter (fun other => firstToken other = some series.name) = [line] ∧
        splitAsciiWhitespace (trim line) = [series.name, token] ∧
        parseU64 token = some (series.counter sample)) ∧
    ∀ other,
      ((lines other).filter isRequired).Perm ((lines payload).filter isRequired) →
      ∀ sample, parseTraffic other = .ok sample ↔ parseTraffic payload = .ok sample := by
  refine ⟨fun sample => parseTraffic_eq_ok payload sample, fun other perm sample => ?_⟩
  rw [parseTraffic_eq_ok, parseTraffic_eq_ok]
  constructor
  · intro reports series
    exact reports_of_perm perm.symm (reports series)
  · intro reports series
    exact reports_of_perm perm (reports series)

end SfuLoad.Telemetry
