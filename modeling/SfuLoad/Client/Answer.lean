import SfuLoad.Kit.Spelling
import SfuLoad.Kit.Replacing
import SfuLoad.Model.Fault

/-!
# The layers an answer sends

The answer to an offer does not say which simulcast layers the peer sends. The client
writes them behind the line that names the upload's media section: a line for each layer,
then a line that lists them. The text is edited as a whole, but the edit is one of lines:
what it adds reads back as the layers of the upload slot, and the other lines stay.
-/

namespace SfuLoad.Client

open Kit.Lines Kit.Spelling Kit.Replacing Model

/-- A layer that an upload slot asks for. -/
structure SimulcastEncoding where
  rid : Text
  maxBitrate : Option Nat
deriving DecidableEq

/-- What a media section carries. -/
inductive MediaKind where
  | audio
  | video
deriving DecidableEq

/-- A media section of an offer that the peer publishes a source on. -/
structure UploadSlot where
  kind : MediaKind
  mid : Text
  codecs : List Text
  simulcastEncodings : List SimulcastEncoding
deriving DecidableEq

/-- What the line that names a media section starts with. -/
def midField : Text := "a=mid:".toList

/-- What the line of a layer starts with. -/
def ridField : Text := "a=rid:".toList

/-- What says that the layer is sent. -/
def sendMark : Text := " send".toList

/-- What stands before a layer's greatest bitrate, where there is one. -/
def maxBitrateField : Text := " max-br=".toList

/-- What the line that lists the layers starts with. -/
def simulcastField : Text := "a=simulcast:send ".toList

/-- The line of a layer. -/
def SimulcastEncoding.line (encoding : SimulcastEncoding) : Text :=
  ridField ++ encoding.rid ++ sendMark ++
    match encoding.maxBitrate with
    | some maxBitrate => maxBitrateField ++ decimal maxBitrate
    | none => []

namespace UploadSlot

/-- The line that names the media section. -/
def midLine (slot : UploadSlot) : Text := midField ++ slot.mid

/-- The line that lists the layers. -/
def simulcastLine (slot : UploadSlot) : Text :=
  simulcastField ++ [';'].intercalate (slot.simulcastEncodings.map (·.rid))

/-- The lines that stand behind the media section's name. -/
def layerLines (slot : UploadSlot) : List Text :=
  slot.simulcastEncodings.map (·.line) ++ [slot.simulcastLine]

end UploadSlot

/-- The answer with the layers of the slot behind the line that names its media section. A
slot without layers, and an answer without that line, are errors. -/
def answerWithSimulcastSendRids (answerSdp : Text) (slot : UploadSlot) : Except Fault Text :=
  if slot.simulcastEncodings = [] then
    .error (Fault.msg "VP8 upload slot has no simulcast encodings")
  else
    let marker := slot.midLine ++ terminator
    if marker <:+: answerSdp then
      let replacement := marker ++
        slot.simulcastEncodings.flatMap (fun encoding => encoding.line ++ terminator) ++
        slot.simulcastLine ++ terminator
      .ok (replaceFirst marker replacement answerSdp)
    else .error (Fault.msg "VP8 answer has no upload MID")

/-- A layer as its line tells it. -/
def readLayer (line : Text) : Option SimulcastEncoding := do
  let described ← ridField.isPrefixOf? line
  let rid := described.takeWhile (· ≠ ' ')
  let behind ← sendMark.isPrefixOf? (described.dropWhile (· ≠ ' '))
  if behind = [] then some ⟨rid, none⟩
  else
    (maxBitrateField.isPrefixOf? behind).map fun digits =>
      ⟨rid, some (Nat.ofDigitChars 10 digits 0)⟩

/-- The layers as the line that lists them tells them. -/
def readSimulcast (line : Text) : Option (List Text) :=
  (simulcastField.isPrefixOf? line).map (·.splitOn ';')

/-- The layers told so far and by the next lines, as long as these are lines of layers and
the line behind them lists the same; and what is left of the lines. -/
def readLayers (told : List SimulcastEncoding) :
    List Text → Option (List SimulcastEncoding × List Text)
  | [] => none
  | line :: rest =>
    match readLayer line with
    | some encoding => readLayers (told ++ [encoding]) rest
    | none => if readSimulcast line = some (told.map (·.rid)) then some (told, rest) else none

/-- The names of the media section and of the layers hold none of the characters that end
a name or a line. -/
structure UploadSlot.Plain (slot : UploadSlot) : Prop where
  mid : Single slot.mid
  rids : ∀ encoding ∈ slot.simulcastEncodings, Single encoding.rid
  apart : ∀ encoding ∈ slot.simulcastEncodings, ' ' ∉ encoding.rid ∧ ';' ∉ encoding.rid

/-- A text whose front is known is read off behind it. -/
theorem isPrefixOf?_append (front rest : Text) : front.isPrefixOf? (front ++ rest) = some rest :=
  List.isPrefixOf?_eq_some_iff_append_eq.mpr rfl

/-- A layer's line is read back as the layer. -/
theorem readLayer_line (encoding : SimulcastEncoding) (apart : ' ' ∉ encoding.rid) :
    readLayer encoding.line = some encoding := by
  have inRid (character : Char) (member : character ∈ encoding.rid) :
      decide (character ≠ ' ') = true := by
    simp only [ne_eq, decide_eq_true_eq]
    rintro rfl
    exact apart member
  obtain ⟨rid, maxBitrate⟩ := encoding
  obtain ⟨rest, sends⟩ : ∃ rest, sendMark = ' ' :: rest := ⟨"send".toList, rfl⟩
  have ends (behind : Text) : (rid ++ (sendMark ++ behind)).takeWhile (· ≠ ' ') = rid := by
    rw [List.takeWhile_append_of_pos inRid, sends]
    simp
  have left (behind : Text) :
      (rid ++ (sendMark ++ behind)).dropWhile (· ≠ ' ') = sendMark ++ behind := by
    rw [List.dropWhile_append_of_pos inRid, sends]
    simp
  cases maxBitrate with
  | none =>
    have written : SimulcastEncoding.line ⟨rid, none⟩ = ridField ++ (rid ++ (sendMark ++ [])) := by
      simp [SimulcastEncoding.line]
    rw [readLayer, written, isPrefixOf?_append]
    simp only [Option.bind_eq_bind, Option.bind_some, ends, left, isPrefixOf?_append, if_pos]
  | some maxBitrate =>
    have written : SimulcastEncoding.line ⟨rid, some maxBitrate⟩ =
        ridField ++ (rid ++ (sendMark ++ (maxBitrateField ++ decimal maxBitrate))) := by
      simp [SimulcastEncoding.line]
    have present : maxBitrateField ++ decimal maxBitrate ≠ [] := List.cons_ne_nil _ _
    have read : Nat.ofDigitChars 10 (decimal maxBitrate) 0 = maxBitrate :=
      Nat.ofDigitChars_ten_toDigits
    rw [readLayer, written, isPrefixOf?_append]
    simp only [Option.bind_eq_bind, Option.bind_some, ends, left, isPrefixOf?_append]
    rw [if_neg present, Option.map_some, read]

/-- The line that lists the layers is no line of a layer. -/
theorem readLayer_simulcastLine (slot : UploadSlot) : readLayer slot.simulcastLine = none := by
  have other : ridField.isPrefixOf? slot.simulcastLine = none := by
    rfl
  rw [readLayer, other]
  rfl

/-- The line that lists the layers reads back as their names. -/
theorem readSimulcast_simulcastLine {slot : UploadSlot} (some_ : slot.simulcastEncodings ≠ [])
    (apart : ∀ encoding ∈ slot.simulcastEncodings, ';' ∉ encoding.rid) :
    readSimulcast slot.simulcastLine = some (slot.simulcastEncodings.map (·.rid)) := by
  have whole : ∀ rid ∈ slot.simulcastEncodings.map (·.rid), ';' ∉ rid := by
    simpa using apart
  rw [readSimulcast, UploadSlot.simulcastLine, isPrefixOf?_append, Option.map_some,
    List.splitOn_intercalate ';' whole (by simpa using some_)]

/-- The lines of the layers are read back as the layers. -/
theorem readLayers_lines {told encodings : List SimulcastEncoding}
    (apart : ∀ encoding ∈ encodings, ' ' ∉ encoding.rid) (rest : List Text) :
    readLayers told (encodings.map (·.line) ++ rest) = readLayers (told ++ encodings) rest := by
  induction encodings generalizing told with
  | nil => simp
  | cons encoding encodings inductionHypothesis =>
    have here := readLayer_line encoding (apart encoding List.mem_cons_self)
    have later : readLayers (told ++ [encoding]) (encodings.map (·.line) ++ rest) =
        readLayers (told ++ [encoding] ++ encodings) rest :=
      inductionHypothesis fun other member => apart other (List.mem_cons_of_mem _ member)
    rw [List.map_cons, List.cons_append, readLayers, here]
    simpa using later

/-- The lines of the layers read back as the slot's layers, with what stands behind them left
over. -/
theorem UploadSlot.readLayers_layerLines {slot : UploadSlot} (plain : slot.Plain)
    (some_ : slot.simulcastEncodings ≠ []) (after : List Text) :
    readLayers [] (slot.layerLines ++ after) = some (slot.simulcastEncodings, after) := by
  have listed := readSimulcast_simulcastLine some_ (fun encoding member =>
    (plain.apart encoding member).2)
  rw [layerLines, List.append_assoc, readLayers_lines (fun encoding member =>
    (plain.apart encoding member).1), List.nil_append, List.singleton_append, readLayers,
    readLayer_simulcastLine]
  simp only [listed, if_pos]

/-- A number is written within one line. -/
theorem single_decimal (number : Nat) : Single (decimal number) := by
  have digits (digit : Char) (member : digit ∈ decimal number) : digit.isDigit = true :=
    Nat.isDigit_of_mem_toDigits (by decide) (by decide) member
  exact ⟨fun member => absurd (digits _ member) (by decide),
    fun member => absurd (digits _ member) (by decide)⟩

/-- So is a layer whose name is. -/
theorem SimulcastEncoding.single_line {encoding : SimulcastEncoding} (single : Single encoding.rid) :
    Single encoding.line := by
  have front := single_append (single_append (by decide : Single ridField) single)
    (by decide : Single sendMark)
  refine single_append front ?_
  split
  · exact single_append (by decide) (single_decimal _)
  · exact ⟨List.not_mem_nil, List.not_mem_nil⟩

/-- And the list of the layers of a plain slot. -/
theorem UploadSlot.single_simulcastLine {slot : UploadSlot} (plain : slot.Plain) :
    Single slot.simulcastLine := by
  have among (character : Char) (apart : character ≠ ';')
      (free : ∀ encoding ∈ slot.simulcastEncodings, character ∉ encoding.rid) :
      character ∉ [';'].intercalate (slot.simulcastEncodings.map (·.rid)) := by
    intro member
    rcases mem_intercalate member with same | ⟨rid, listed, there⟩
    · exact apart same
    · obtain ⟨encoding, asked, rfl⟩ := List.mem_map.mp listed
      exact free encoding asked there
  exact single_append (by decide)
    ⟨among _ (by decide) (fun encoding member => (plain.rids encoding member).1),
      among _ (by decide) (fun encoding member => (plain.rids encoding member).2)⟩

/-- What is written behind the media section's name are lines. -/
theorem UploadSlot.single_layerLines {slot : UploadSlot} (plain : slot.Plain) :
    ∀ line ∈ slot.layerLines, Single line := by
  intro line member
  rcases List.mem_append.mp member with layer | listed
  · obtain ⟨encoding, among, rfl⟩ := List.mem_map.mp layer
    exact SimulcastEncoding.single_line (plain.rids encoding among)
  · rw [List.mem_singleton.mp listed]
    exact single_simulcastLine plain

/-- The answer is the given lines with further ones behind the first that names the media
section, and these read back as the layers of the slot. -/
def SendsLayers (slot : UploadSlot) (given : List Text) (answer : Text) : Prop :=
  ∃ before named told after, given = before ++ named :: after ∧ slot.midLine <:+ named ∧
    (∀ line ∈ before, ¬slot.midLine <:+ line) ∧
    lines answer = before ++ named :: (told ++ after) ∧
    readLayers [] (told ++ after) = some (slot.simulcastEncodings, after)

/-- Of the lines with a property, one is the first. -/
theorem exists_first {holds : Text → Prop} [DecidablePred holds] {given : List Text}
    (found : ∃ line ∈ given, holds line) : ∃ before named after,
      given = before ++ named :: after ∧ holds named ∧ ∀ line ∈ before, ¬holds line := by
  have some_ : (given.find? (holds ·)).isSome := by simpa using found
  obtain ⟨named, first⟩ := Option.isSome_iff_exists.mp some_
  obtain ⟨holds_, before, after, split, apart⟩ := List.find?_eq_some_iff_append.mp first
  exact ⟨before, named, after, split, by simpa using holds_, by simpa using apart⟩

/-- The layers are written as lines. -/
theorem UploadSlot.render_layerLines (slot : UploadSlot) : render slot.layerLines =
    slot.simulcastEncodings.flatMap (fun encoding => encoding.line ++ terminator) ++
      slot.simulcastLine ++ terminator := by
  simp [layerLines, render, List.flatMap_map]

/-- The answer that is made of lines, one of which names the media section. -/
theorem sendsLayers_of_named {slot : UploadSlot} (plain : slot.Plain)
    (some_ : slot.simulcastEncodings ≠ []) {given : List Text}
    (each : ∀ line ∈ given, Single line) (found : ∃ line ∈ given, slot.midLine <:+ line) :
    SendsLayers slot given (replaceFirst (slot.midLine ++ terminator)
      (slot.midLine ++ terminator ++ render slot.layerLines) (render given)) := by
  have single : Single slot.midLine := single_append (by decide) plain.mid
  have nonempty : slot.midLine ≠ [] := List.cons_ne_nil _ _
  obtain ⟨before, named, after, rfl, ends, apart⟩ := exists_first found
  refine ⟨before, named, slot.layerLines, after, rfl, ends, apart, ?_,
    slot.readLayers_layerLines plain some_ after⟩
  obtain ⟨start, rfl⟩ := ends
  have edited : replaceFirst (slot.midLine ++ terminator)
      (slot.midLine ++ terminator ++ render slot.layerLines)
      (render (before ++ (start ++ slot.midLine) :: after)) = render before ++ start ++
        (slot.midLine ++ terminator ++ render slot.layerLines) ++ render after :=
    replaceFirst_line _ single nonempty
      (fun line member => each line (List.mem_append_left _ member))
      (each (start ++ slot.midLine) (by simp)) apart
  have written : render before ++ start ++
      (slot.midLine ++ terminator ++ render slot.layerLines) ++ render after =
        render (before ++ (start ++ slot.midLine) :: (slot.layerLines ++ after)) := by
    simp only [render_append, render_cons, List.append_assoc]
  rw [edited, written]
  refine lines_render fun line member => ?_
  rcases List.mem_append.mp member with first | rest
  · exact each line (List.mem_append_left _ first)
  · rcases List.mem_cons.mp rest with rfl | behind
    · exact each _ (by simp)
    · rcases List.mem_append.mp behind with told | kept
      · exact slot.single_layerLines plain line told
      · exact each line (by simp [kept])

/-- An answer that is made of lines sends the layers of the slot, unless the slot has none or
no line names its media section. -/
theorem answer_sends_layers {given : List Text} {slot : UploadSlot} (plain : slot.Plain)
    (each : ∀ line ∈ given, Single line) :
    if slot.simulcastEncodings = [] then
      answerWithSimulcastSendRids (render given) slot =
        .error (Fault.msg "VP8 upload slot has no simulcast encodings")
    else if ∃ line ∈ given, slot.midLine <:+ line then
      ∃ answer, answerWithSimulcastSendRids (render given) slot = .ok answer ∧
        SendsLayers slot given answer
    else
      answerWithSimulcastSendRids (render given) slot =
        .error (Fault.msg "VP8 answer has no upload MID") := by
  have single : Single slot.midLine := single_append (by decide) plain.mid
  have nonempty : slot.midLine ≠ [] := List.cons_ne_nil _ _
  have occurs := infix_render_iff single nonempty each
  split
  · next none_ => rw [answerWithSimulcastSendRids, if_pos none_]
  · next some_ =>
    split
    · next found =>
      refine ⟨_, ?_, sendsLayers_of_named plain some_ each found⟩
      rw [answerWithSimulcastSendRids, if_neg some_]
      simp only [if_pos (occurs.mpr found), slot.render_layerLines, List.append_assoc]
    · next absent =>
      rw [answerWithSimulcastSendRids, if_neg some_]
      simp only [if_neg (mt occurs.mp absent)]

/-- A camera of two layers. -/
def cameraSlot : UploadSlot where
  kind := .video
  mid := ['1']
  codecs := ["VP8".toList]
  simulcastEncodings := [⟨"lo".toList, some 150⟩, ⟨"hi".toList, none⟩]

/-- An answer with one media section, which the camera is published on. -/
def cameraAnswer : List Text := ["v=0".toList, "a=mid:1".toList, "a=sendonly".toList]

/-- The layers of a camera, written into that answer. -/
theorem answer_sends_layers_camera : ∃ answer,
    answerWithSimulcastSendRids (render cameraAnswer) cameraSlot = .ok answer ∧
      SendsLayers cameraSlot cameraAnswer answer := by
  have plain : cameraSlot.Plain := ⟨by decide, by decide, by decide⟩
  have sent := answer_sends_layers plain (by decide : ∀ line ∈ cameraAnswer, Single line)
  have named : ∃ line ∈ cameraAnswer, cameraSlot.midLine <:+ line :=
    ⟨"a=mid:1".toList, by decide, by decide⟩
  have layered : cameraSlot.simulcastEncodings ≠ [] := List.cons_ne_nil _ _
  rwa [if_neg layered, if_pos named] at sent

end SfuLoad.Client
