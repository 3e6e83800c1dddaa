import SfuLoad.Kit.DotSegments
import SfuLoad.Report.Loading
import Mathlib.Data.List.TakeWhile

/-!
# Links in a report

A link is written into a report as it was given, so it is checked first. Each of the
three checks takes the address apart at its strokes and accepts one form of address.
The name of an owner or of a repository may hold full stops, and nothing keeps it from
being a dot segment: a browser then asks for another path.
-/

namespace SfuLoad.Report

open Kit.Checked Kit.DotSegments Kit.Fallible
open Kit.Lines (Text forall_mem_spelled mem_intercalate)

/-- What every link opens with. -/
def github : Text := "https://github.com/".toList

/-- The name of a flamegraph's file: the side, if any, and two numbers. -/
def validFlamegraphAsset (value : Text) : Bool :=
  match ("o-sfu-flamegraph-".toList.isPrefixOf? value).bind (".png".toList.isSuffixOf? ·) with
  | none => false
  | some ids =>
    let ids := (("baseline-".toList.isPrefixOf? ids).or
      ("comparison-".toList.isPrefixOf? ids)).getD ids
    match ids.splitOn '-' with
    | [runId, attempt] => numericIdentifier runId && numericIdentifier attempt
    | _ => false

/-- The path of a flamegraph among the released files. -/
def validFlamegraphPath (parts : List Text) : Bool :=
  match parts with
  | [owner, repository, releases, download, tag, asset] =>
      releases = "releases".toList && download = "download".toList &&
        tag = "load-test-assets".toList && validRepositoryComponent owner &&
        validRepositoryComponent repository && validFlamegraphAsset asset
  | _ => false

/-- The address of a flamegraph, if it is given. -/
def validateFlamegraphUrl (flamegraphUrl : Option String) : Machine Unit :=
  match flamegraphUrl with
  | none => return ()
  | some url =>
      let path := github.isPrefixOf? url.toList
      require ((path.map (List.splitOn '/')).any validFlamegraphPath)
        "flamegraph URL must identify one published load-test PNG"

/-- The path of the release. -/
def validReleasePath (parts : List Text) : Bool :=
  match parts with
  | [owner, repository, releases, download, tag] =>
      validRepositoryComponent owner && validRepositoryComponent repository &&
        releases = "releases".toList && download = "download".toList &&
        tag = "load-test-assets".toList
  | _ => false

/-- The address that dashboards can be found under. -/
def validatePublicUrlBase (base : String) : Except String Unit := do
  let path ← context (github.isPrefixOf? base.toList)
    "dashboard URL base must use https://github.com"
  ensure (validReleasePath (path.splitOn '/') = true)
    "dashboard URL base must identify the load-test-assets release"

section Forms

/-- The characters a name is made of. The full stop is one of them. -/
def NameCharacter (character : Char) : Prop :=
  'A' ≤ character ∧ character ≤ 'Z' ∨ 'a' ≤ character ∧ character ≤ 'z' ∨
    '0' ≤ character ∧ character ≤ '9' ∨ character = '-' ∨ character = '_' ∨ character = '.'

/-- The name of an owner or of a repository. -/
def Component (value : String) : Prop :=
  value ≠ "" ∧ ∀ character ∈ value.toList, NameCharacter character

/-- A number as it stands in an address. -/
def Digits (value : String) : Prop :=
  value ≠ "" ∧ ∀ character ∈ value.toList, '0' ≤ character ∧ character ≤ '9'

/-- The address of one artifact of a workflow run. -/
def ArtifactLink (owner repository url : String) : Prop :=
  ∃ runId artifactId, Digits runId ∧ Digits artifactId ∧
    url = s!"https://github.com/{owner}/{repository}/actions/runs/{runId}/artifacts/{artifactId}"

/-- The address of the release that published pictures are attached to. -/
def ReleaseLink (owner repository url : String) : Prop :=
  url = s!"https://github.com/{owner}/{repository}/releases/download/load-test-assets"

/-- The sides a flamegraph may be named after. -/
abbrev sides : List String := ["", "baseline-", "comparison-"]

/-- How the file of a flamegraph is named. -/
def flamegraphAsset (side runId attempt : String) : String :=
  s!"o-sfu-flamegraph-{side}{runId}-{attempt}.png"

/-- The address of one published flamegraph. -/
def FlamegraphLink (owner repository url : String) : Prop :=
  ∃ side ∈ sides, ∃ runId attempt release, Digits runId ∧ Digits attempt ∧
    ReleaseLink owner repository release ∧ url = s!"{release}/{flamegraphAsset side runId attempt}"

/-- An address of a form, with an owner and a repository. -/
def InForm (form : String → String → String → Prop) (url : String) : Prop :=
  ∃ owner repository, Component owner ∧ Component repository ∧ form owner repository url

end Forms

section Characters

/-- The check of a name asks for name characters and no more. -/
theorem validRepositoryComponent_iff (value : String) :
    validRepositoryComponent value.toList = true ↔ Component value := by
  simp only [validRepositoryComponent, Component, NameCharacter, Bool.and_eq_true,
    List.all_eq_true]
  refine and_congr (by simp) (forall₂_congr (fun character _ => ?_))
  have letters : character.isAlphanum = (decide ('A' ≤ character ∧ character ≤ 'Z') ||
      decide ('a' ≤ character) && decide (character ≤ 'z') ||
      decide ('0' ≤ character) && decide (character ≤ '9')) := rfl
  simp [letters, or_assoc]

/-- The check of a number asks for digits. -/
theorem numericIdentifier_iff (value : String) :
    numericIdentifier value.toList = true ↔ Digits value := by
  simp only [numericIdentifier, Digits, Bool.and_eq_true, List.all_eq_true]
  refine and_congr (by simp) (forall₂_congr (fun character _ => ?_))
  simp [Char.isDigit, Char.le_def]

end Characters

section Parts

/-- The parts of an artifact's address behind the repository. -/
def ArtifactParts (rest : List Text) : Prop :=
  ∃ runId artifactId, Digits runId ∧ Digits artifactId ∧
    rest = ["actions".toList, "runs".toList, runId.toList, "artifacts".toList, artifactId.toList]

/-- The parts of the release's address behind the repository. -/
def releaseParts : List Text := ["releases".toList, "download".toList, "load-test-assets".toList]

/-- The parts of a flamegraph's address behind the repository. -/
def FlamegraphParts (rest : List Text) : Prop :=
  ∃ side ∈ sides, ∃ runId attempt, Digits runId ∧ Digits attempt ∧
    rest = releaseParts ++ [(flamegraphAsset side runId attempt).toList]

/-- An owner and a repository in front of further parts. -/
def Behind (further : List Text → Prop) (parts : List Text) : Prop :=
  ∃ owner repository rest, Component owner ∧ Component repository ∧ further rest ∧
    parts = owner.toList :: repository.toList :: rest

/-- The check of an artifact's path asks for an owner and a repository before the parts of an
artifact. -/
theorem validArtifactPath_iff (parts : List Text) :
    validArtifactPath parts = true ↔ Behind ArtifactParts parts := by
  unfold Behind ArtifactParts
  simp only [← validRepositoryComponent_iff, ← numericIdentifier_iff, validArtifactPath]
  constructor
  · intro valid
    split at valid
    · next owner repository actions runs runId artifacts artifactId =>
      simp only [Bool.and_eq_true, decide_eq_true_eq] at valid
      obtain ⟨⟨⟨⟨⟨⟨rfl, rfl⟩, rfl⟩, named⟩, named'⟩, counted⟩, counted'⟩ := valid
      exact ⟨String.ofList owner, String.ofList repository, _, by simpa using named,
        by simpa using named', ⟨String.ofList runId, String.ofList artifactId,
          by simpa using counted, by simpa using counted', rfl⟩, by simp⟩
    · cases valid
  · rintro ⟨owner, repository, _, named, named', ⟨runId, artifactId, counted, counted', rfl⟩, rfl⟩
    simp [named, named', counted, counted']

/-- The check of the release's path asks for them before the parts of the release. -/
theorem validReleasePath_iff (parts : List Text) :
    validReleasePath parts = true ↔ Behind (· = releaseParts) parts := by
  unfold Behind releaseParts
  simp only [← validRepositoryComponent_iff, validReleasePath]
  constructor
  · intro valid
    split at valid
    · next owner repository releases download tag =>
      simp only [Bool.and_eq_true, decide_eq_true_eq] at valid
      obtain ⟨⟨⟨⟨named, named'⟩, rfl⟩, rfl⟩, rfl⟩ := valid
      exact ⟨String.ofList owner, String.ofList repository, _, by simpa using named,
        by simpa using named', rfl, by simp⟩
    · cases valid
  · rintro ⟨owner, repository, _, named, named', rfl, rfl⟩
    simp [named, named']

/-- What is left when a front is taken away. -/
theorem stripPrefix_eq_some_iff {front text rest : Text} :
    front.isPrefixOf? text = some rest ↔ text = front ++ rest := by
  rw [List.isPrefixOf?_eq_some_iff_append_eq, eq_comm]

/-- And when a back is. -/
theorem stripSuffix_eq_some_iff {back text rest : Text} :
    back.isSuffixOf? text = some rest ↔ text = rest ++ back := by
  rw [List.isSuffixOf?, Option.map_eq_some_iff]
  constructor
  · rintro ⟨reversed, stripped, rfl⟩
    have whole := congrArg List.reverse (stripPrefix_eq_some_iff.mp stripped)
    simpa using whole
  · rintro rfl
    exact ⟨rest.reverse, stripPrefix_eq_some_iff.mpr (by simp), by simp⟩

/-- A text that starts with another character does not have the front. -/
theorem stripPrefix_of_head {front text : Text} (nonempty : front ≠ [])
    (apart : front.head? ≠ text.head?) : front.isPrefixOf? text = none := by
  cases stripped : front.isPrefixOf? text with
  | none => rfl
  | some rest =>
    rw [stripPrefix_eq_some_iff.mp stripped, List.head?_append_of_ne_nil _ nonempty] at apart
    exact absurd rfl apart

/-- A number has no other characters. -/
theorem Digits.plain {value : String} (counted : Digits value) {character : Char}
    (apart : character < '0' ∨ '9' < character) : character ∉ value.toList := by
  intro member
  obtain ⟨low, high⟩ := counted.2 character member
  rcases apart with below | above
  · exact absurd low (Char.not_le.mpr below)
  · exact absurd high (Char.not_le.mpr above)

/-- A number does not open with a word. -/
theorem Digits.stripPrefix {value : String} (counted : Digits value) (after : Text) {front : Text}
    {character : Char} (opens : front.head? = some character)
    (apart : character < '0' ∨ '9' < character) :
    front.isPrefixOf? (value.toList ++ after) = none := by
  have nonempty : value.toList ≠ [] := by simpa using counted.1
  refine stripPrefix_of_head (fun empty => by simp [empty] at opens) (fun same => ?_)
  rw [List.head?_append_of_ne_nil _ nonempty, opens] at same
  exact counted.plain apart (List.mem_of_mem_head? same.symm)

/-- The numbers of a flamegraph, whichever side they stand behind. -/
theorem strippedSide_iff {ids : Text} {runId : String} (counted : Digits runId) (after : Text) :
    (("baseline-".toList.isPrefixOf? ids).or ("comparison-".toList.isPrefixOf? ids)).getD ids =
      runId.toList ++ after ↔
    ∃ side ∈ sides, ids = side.toList ++ (runId.toList ++ after) := by
  constructor
  · intro stripped
    cases baseline : "baseline-".toList.isPrefixOf? ids with
    | some rest =>
      rw [baseline] at stripped
      obtain rfl : rest = _ := stripped
      exact ⟨"baseline-", by simp [sides], stripPrefix_eq_some_iff.mp baseline⟩
    | none =>
      cases comparison : "comparison-".toList.isPrefixOf? ids with
      | some rest =>
        rw [baseline, comparison] at stripped
        obtain rfl : rest = _ := stripped
        exact ⟨"comparison-", by simp [sides], stripPrefix_eq_some_iff.mp comparison⟩
      | none =>
        rw [baseline, comparison] at stripped
        exact ⟨"", by simp [sides], stripped⟩
  · rintro ⟨side, among, rfl⟩
    simp only [sides, List.mem_cons, List.not_mem_nil, or_false] at among
    rcases among with rfl | rfl | rfl
    · have baseline : "baseline-".toList.head? = some 'b' := by simp
      have comparison : "comparison-".toList.head? = some 'c' := by simp
      have plain : "".toList ++ (runId.toList ++ after) = runId.toList ++ after := by simp
      rw [plain, counted.stripPrefix after baseline (by decide),
        counted.stripPrefix after comparison (by decide)]
      rfl
    · rw [stripPrefix_eq_some_iff.mpr rfl]
      rfl
    · rw [stripPrefix_of_head (by simp) (by simp), stripPrefix_eq_some_iff.mpr rfl]
      rfl

/-- Two numbers with a stroke between them are told apart at the stroke. -/
theorem numbers_iff {ids : Text} : (match ids.splitOn '-' with
    | [runId, attempt] => numericIdentifier runId && numericIdentifier attempt
    | _ => false) = true ↔ ∃ runId attempt, Digits runId ∧ Digits attempt ∧
      ids = runId.toList ++ '-' :: attempt.toList := by
  constructor
  · intro valid
    split at valid
    · next runId attempt split =>
      rw [Bool.and_eq_true] at valid
      have joined := @List.intercalate_splitOn _ ids _ _ '-'
      rw [split] at joined
      exact ⟨String.ofList runId, String.ofList attempt,
        (numericIdentifier_iff _).mp (by simpa using valid.1),
        (numericIdentifier_iff _).mp (by simpa using valid.2), by simpa using joined.symm⟩
    · cases valid
  · rintro ⟨runId, attempt, counted, counted', rfl⟩
    have split : (runId.toList ++ '-' :: attempt.toList).splitOn '-' =
        [runId.toList, attempt.toList] := by
      refine (Kit.Lines.splitOn_eq_iff (by simp) ?_ _).mpr (by simp)
      have below : '-' < '0' ∨ '9' < '-' := by decide
      simp [counted.plain below, counted'.plain below]
    rw [split]
    simp [(numericIdentifier_iff _).mpr counted, (numericIdentifier_iff _).mpr counted']

/-- The letters of a flamegraph's name. -/
theorem flamegraphAsset_toList (side runId attempt : String) :
    (flamegraphAsset side runId attempt).toList = "o-sfu-flamegraph-".toList ++
      (side.toList ++ (runId.toList ++ '-' :: attempt.toList) ++ ".png".toList) := by
  unfold flamegraphAsset
  simp [toString]

/-- The check of a name accepts exactly the names so made. The side can be told from a
number, so taking it off first loses nothing. -/
theorem validFlamegraphAsset_iff (asset : Text) : validFlamegraphAsset asset = true ↔
    ∃ side ∈ sides, ∃ runId attempt, Digits runId ∧ Digits attempt ∧
      asset = (flamegraphAsset side runId attempt).toList := by
  unfold validFlamegraphAsset
  constructor
  · intro valid
    split at valid
    · cases valid
    · next ids stripped =>
      obtain ⟨rest, front, back⟩ := Option.bind_eq_some_iff.mp stripped
      obtain ⟨runId, attempt, counted, counted', numbers⟩ := numbers_iff.mp valid
      obtain ⟨side, among, rfl⟩ := (strippedSide_iff counted _).mp numbers
      refine ⟨side, among, runId, attempt, counted, counted', ?_⟩
      rw [flamegraphAsset_toList, stripPrefix_eq_some_iff.mp front,
        stripSuffix_eq_some_iff.mp back]
  · rintro ⟨side, among, runId, attempt, counted, counted', rfl⟩
    rw [flamegraphAsset_toList, stripPrefix_eq_some_iff.mpr rfl, Option.bind_some,
      stripSuffix_eq_some_iff.mpr rfl]
    dsimp only
    rw [(strippedSide_iff counted _).mpr ⟨side, among, rfl⟩]
    exact numbers_iff.mpr ⟨runId, attempt, counted, counted', rfl⟩

/-- And the check of the path, exactly the paths of such files. -/
theorem validFlamegraphPath_iff (parts : List Text) :
    validFlamegraphPath parts = true ↔ Behind FlamegraphParts parts := by
  unfold Behind FlamegraphParts releaseParts
  simp only [← validRepositoryComponent_iff, validFlamegraphPath]
  constructor
  · intro valid
    split at valid
    · next owner repository releases download tag asset =>
      simp only [Bool.and_eq_true, decide_eq_true_eq] at valid
      obtain ⟨⟨⟨⟨⟨rfl, rfl⟩, rfl⟩, named⟩, named'⟩, published⟩ := valid
      obtain ⟨side, among, runId, attempt, counted, counted', rfl⟩ :=
        (validFlamegraphAsset_iff asset).mp published
      exact ⟨String.ofList owner, String.ofList repository, _, by simpa using named,
        by simpa using named', ⟨side, among, runId, attempt, counted, counted', rfl⟩, by simp⟩
    · cases valid
  · rintro ⟨owner, repository, _, named, named',
      ⟨side, among, runId, attempt, counted, counted', rfl⟩, rfl⟩
    have published := (validFlamegraphAsset_iff _).mpr
      ⟨side, among, runId, attempt, counted, counted', rfl⟩
    simp [named, named', published]

end Parts

section Addresses

/-- The address with an owner, a repository and further parts. -/
def address (owner repository : String) (rest : List Text) : Text :=
  github ++ ['/'].intercalate (owner.toList :: repository.toList :: rest)

/-- Each form of address is the host, the two names and the parts of the form. -/
theorem artifactLink_iff (owner repository url : String) : ArtifactLink owner repository url ↔
    ∃ rest, ArtifactParts rest ∧ url.toList = address owner repository rest := by
  have written (runId artifactId : String) : String.toList
      s!"https://github.com/{owner}/{repository}/actions/runs/{runId}/artifacts/{artifactId}" =
        address owner repository ["actions".toList, "runs".toList, runId.toList,
          "artifacts".toList, artifactId.toList] := by
    unfold address github
    simp [toString]
  constructor
  · rintro ⟨runId, artifactId, counted, counted', rfl⟩
    exact ⟨_, ⟨runId, artifactId, counted, counted', rfl⟩, written runId artifactId⟩
  · rintro ⟨_, ⟨runId, artifactId, counted, counted', rfl⟩, same⟩
    rw [← written, String.toList_inj] at same
    exact ⟨runId, artifactId, counted, counted', same⟩

/-- The letters of a release's address. -/
theorem releaseLink_toList {owner repository url : String}
    (link : ReleaseLink owner repository url) :
    url.toList = address owner repository releaseParts := by
  rw [link]
  unfold address github releaseParts
  simp [toString]

/-- The address of the release is of this form too. -/
theorem releaseLink_iff (owner repository url : String) : ReleaseLink owner repository url ↔
    ∃ rest, rest = releaseParts ∧ url.toList = address owner repository rest := by
  constructor
  · exact fun link => ⟨_, rfl, releaseLink_toList link⟩
  · rintro ⟨_, rfl, same⟩
    rw [← releaseLink_toList rfl, String.toList_inj] at same
    exact same

/-- So is that of a flamegraph. -/
theorem flamegraphLink_iff (owner repository url : String) :
    FlamegraphLink owner repository url ↔
      ∃ rest, FlamegraphParts rest ∧ url.toList = address owner repository rest := by
  have written {release : String} (link : ReleaseLink owner repository release) (asset : String) :
      (s!"{release}/{asset}").toList =
        address owner repository (releaseParts ++ [asset.toList]) := by
    have joined : (s!"{release}/{asset}").toList = release.toList ++ '/' :: asset.toList := by
      simp [toString]
    rw [joined, releaseLink_toList link]
    unfold address releaseParts
    simp
  constructor
  · rintro ⟨side, among, runId, attempt, release, counted, counted', link, rfl⟩
    exact ⟨_, ⟨side, among, runId, attempt, counted, counted', rfl⟩, written link _⟩
  · rintro ⟨_, ⟨side, among, runId, attempt, counted, counted', rfl⟩, same⟩
    rw [← written rfl, String.toList_inj] at same
    exact ⟨side, among, runId, attempt, _, counted, counted', rfl, same⟩

/-- Parts of name characters, none of which is a dot segment. -/
def Plain (rest : List Text) : Prop :=
  ∀ part ∈ rest, isDot part = false ∧ ∀ character ∈ part, NameCharacter character

/-- A character is looked up. -/
instance : DecidablePred NameCharacter := fun character =>
  inferInstanceAs (Decidable ('A' ≤ character ∧ character ≤ 'Z' ∨ _))

/-- A stroke ends a name. -/
theorem slash_not_name : ¬ NameCharacter '/' := by decide

/-- A name is not escaped. -/
theorem percent_not_name : ¬ NameCharacter '%' := by decide

/-- Digits are name characters. -/
theorem Digits.named {value : String} (counted : Digits value) :
    ∀ character ∈ value.toList, NameCharacter character :=
  fun character member => Or.inr (Or.inr (Or.inl (counted.2 character member)))

/-- Of name characters only the dots as they are written in plain are dot segments. -/
theorem isDot_of_named {part : Text} (named : ∀ character ∈ part, NameCharacter character) :
    isDot part = true ↔ part = ['.'] ∨ part = ['.', '.'] :=
  isDot_iff (fun percent => percent_not_name (named _ percent))

/-- A number is no dot segment. -/
theorem Digits.not_dot {value : String} (counted : Digits value) :
    isDot value.toList = false := by
  have absent : '.' ∉ value.toList := counted.plain (by decide)
  rw [← Bool.not_eq_true, isDot_of_named counted.named]
  rintro (dot | dots)
  · exact absent (by simp [dot])
  · exact absent (by simp [dots])

/-- A text spelled as a string is plain as it was. -/
theorem plain_spelled {characters : Text} (plain : isDot characters = false ∧
    ∀ character ∈ characters, NameCharacter character) :
    isDot (String.ofList characters).toList = false ∧
      ∀ character ∈ (String.ofList characters).toList, NameCharacter character := by
  rwa [String.toList_ofList]

/-- The fixed parts of an address are plain. -/
theorem releaseParts_plain : Plain releaseParts := by
  unfold Plain releaseParts
  simp only [List.forall_mem_cons]
  exact ⟨plain_spelled (by decide), plain_spelled (by decide), plain_spelled (by decide), by simp⟩

/-- So are the parts of an artifact, with the two numbers among them. -/
theorem ArtifactParts.plain {rest : List Text} (parts : ArtifactParts rest) : Plain rest := by
  obtain ⟨runId, artifactId, counted, counted', rfl⟩ := parts
  simp only [Plain, List.forall_mem_cons]
  exact ⟨plain_spelled (by decide), plain_spelled (by decide), ⟨counted.not_dot, counted.named⟩,
    plain_spelled (by decide), ⟨counted'.not_dot, counted'.named⟩, by simp⟩

/-- So are the parts of a flamegraph. -/
theorem FlamegraphParts.plain {rest : List Text} (parts : FlamegraphParts rest) : Plain rest := by
  obtain ⟨side, among, runId, attempt, counted, counted', rfl⟩ := parts
  have named : ∀ character ∈ (flamegraphAsset side runId attempt).toList,
      NameCharacter character := by
    have asset : ∀ character ∈ "o-sfu-flamegraph-".toList, NameCharacter character :=
      forall_mem_spelled (by decide)
    have picture : ∀ character ∈ ".png".toList, NameCharacter character :=
      forall_mem_spelled (by decide)
    have sided : ∀ side ∈ sides, ∀ character ∈ side.toList, NameCharacter character := by
      simp only [sides, List.forall_mem_cons]
      exact ⟨forall_mem_spelled (by decide), forall_mem_spelled (by decide),
        forall_mem_spelled (by decide), by simp⟩
    intro character member
    rw [flamegraphAsset_toList] at member
    simp only [List.mem_append, List.mem_cons] at member
    rcases member with word | (⟨of_side⟩ | of_run | rfl | of_attempt) | ending
    · exact asset character word
    · exact sided side among character of_side
    · exact counted.named character of_run
    · decide
    · exact counted'.named character of_attempt
    · exact picture character ending
  have opens : (flamegraphAsset side runId attempt).toList.head? = some 'o' := by
    rw [flamegraphAsset_toList]
    simp
  intro part member
  rcases List.mem_append.mp member with release | asset
  · exact releaseParts_plain part release
  · obtain rfl := List.mem_singleton.mp asset
    refine ⟨?_, named⟩
    rw [← Bool.not_eq_true, isDot_of_named named]
    rintro (dot | dots)
    · simp [dot] at opens
    · simp [dots] at opens

/-- Every part of an address is of name characters. -/
theorem Plain.named {owner repository : String} {rest : List Text} (plain : Plain rest)
    (ownerNamed : Component owner) (repositoryNamed : Component repository) :
    ∀ part ∈ owner.toList :: repository.toList :: rest, ∀ character ∈ part,
      NameCharacter character := by
  simp only [List.forall_mem_cons]
  exact ⟨ownerNamed.2, repositoryNamed.2, fun part member => (plain part member).2⟩

/-- Parts of name characters stay apart at the strokes. -/
theorem no_slash {parts : List Text}
    (named : ∀ part ∈ parts, ∀ character ∈ part, NameCharacter character) :
    ∀ part ∈ parts, '/' ∉ part :=
  fun part member slash => slash_not_name (named part member '/' slash)

end Addresses

section Acceptance

variable {valid : List Text → Bool} {further : List Text → Prop}
  {form : String → String → String → Prop}

/-- A check of the parts is a check for a form of address. -/
theorem accepted_iff (valid_iff : ∀ parts, valid parts = true ↔ Behind further parts)
    (form_iff : ∀ owner repository url, form owner repository url ↔
      ∃ rest, further rest ∧ url.toList = address owner repository rest)
    (plain : ∀ rest, further rest → Plain rest) (url : String) :
    (∃ path, url.toList = github ++ path ∧ valid (path.splitOn '/') = true) ↔
      InForm form url := by
  constructor
  · rintro ⟨path, written, holds⟩
    obtain ⟨owner, repository, rest, named, named', inForm, parts⟩ := (valid_iff _).mp holds
    refine ⟨owner, repository, named, named', (form_iff owner repository url).mpr
      ⟨rest, inForm, ?_⟩⟩
    rw [written, address, ← parts, List.intercalate_splitOn]
  · rintro ⟨owner, repository, named, named', link⟩
    obtain ⟨rest, inForm, written⟩ := (form_iff owner repository url).mp link
    refine ⟨_, written, (valid_iff _).mpr ⟨owner, repository, rest, named, named', inForm, ?_⟩⟩
    exact (Kit.Lines.splitOn_eq_iff (by simp)
      (no_slash ((plain rest inForm).named named named')) _).mpr rfl

/-- An address passes if it is the host and a path that passes. -/
theorem stripped_any_iff (url : Text) :
    ((github.isPrefixOf? url).map (List.splitOn '/')).any valid = true ↔
      ∃ path, url = github ++ path ∧ valid (path.splitOn '/') = true := by
  rw [Option.any_map, Option.any_eq_true]
  simp only [stripPrefix_eq_some_iff]

/-- The first check accepts exactly the addresses of artifacts. -/
theorem validateArtifactUrl_iff (url : String) :
    Completes (validateArtifactUrl (some url)) ↔ InForm ArtifactLink url := by
  rw [← accepted_iff validArtifactPath_iff artifactLink_iff (fun _ => ArtifactParts.plain),
    ← stripped_any_iff, validateArtifactUrl]
  exact require_completes_iff _ _

/-- The second check accepts exactly the addresses of flamegraphs. -/
theorem validateFlamegraphUrl_iff (url : String) :
    Completes (validateFlamegraphUrl (some url)) ↔ InForm FlamegraphLink url := by
  rw [← accepted_iff validFlamegraphPath_iff flamegraphLink_iff (fun _ => FlamegraphParts.plain),
    ← stripped_any_iff, validateFlamegraphUrl]
  exact require_completes_iff _ _

/-- The third check accepts exactly the addresses of the release. -/
theorem validatePublicUrlBase_iff (base : String) :
    validatePublicUrlBase base = .ok () ↔ InForm ReleaseLink base := by
  rw [← accepted_iff validReleasePath_iff releaseLink_iff
    (fun _ same => same ▸ releaseParts_plain)]
  simp only [validatePublicUrlBase, bind_eq_ok, context_eq_ok, ensure_eq_ok,
    stripPrefix_eq_some_iff]

end Acceptance

section Browsing

/-- The segments of the path that a browser asks a host for. -/
def pathSegments (url : Text) : List Text :=
  ((url.drop github.length).takeWhile (fun character => !(['?', '#'].contains character))).splitOn '/'

/-- The characters that end the destination of a link, or that nest in it. -/
def endsLink (character : Char) : Bool :=
  character.toNat < 0x21 || character.toNat == 0x7f || Kit.Lines.isWhitespace character ||
    ['(', ')', '<', '>', '[', ']', '\\'].contains character

/-- The link leads where it says, and is a link to its end. -/
def LinkKept (url : Text) : Prop :=
  remove (pathSegments url) = pathSegments url ∧
    ∀ character ∈ url, endsLink character = false

/-- The two names that a browser does not take for names. -/
def dots : List String := [".", ".."]

/-- No name character ends a link. -/
theorem endsLink_false {character : Char} (named : NameCharacter character) :
    endsLink character = false := by
  have marks : ∀ mark ∈ ['(', ')', '<', '>', '[', ']', '\\'], ¬ NameCharacter mark := by decide
  have unmarked : ['(', ')', '<', '>', '[', ']', '\\'].contains character = false := by
    rw [← Bool.not_eq_true, List.contains_iff_mem]
    exact fun member => marks character member named
  have code (left right : Char) (ordered : left ≤ right) : left.toNat ≤ right.toNat :=
    UInt32.le_iff_toNat_le.mp ordered
  have printed : '-'.toNat ≤ character.toNat ∧ character.toNat ≤ 'z'.toNat := by
    rcases named with ⟨low, high⟩ | ⟨low, high⟩ | ⟨low, high⟩ | rfl | rfl | rfl
    · exact ⟨(by decide : '-'.toNat ≤ 'A'.toNat).trans (code _ _ low),
        (code _ _ high).trans (by decide)⟩
    · exact ⟨(by decide : '-'.toNat ≤ 'a'.toNat).trans (code _ _ low), code _ _ high⟩
    · exact ⟨(by decide : '-'.toNat ≤ '0'.toNat).trans (code _ _ low),
        (code _ _ high).trans (by decide)⟩
    · decide
    · decide
    · decide
  have first : '-'.toNat = 0x2d := rfl
  have last : 'z'.toNat = 0x7a := rfl
  rw [endsLink, unmarked, Bool.or_false, Kit.Lines.isWhitespace]
  simp
  omega

variable {owner repository : String} {rest : List Text}

/-- The segments of an address are its parts. -/
theorem address_segments (ownerNamed : Component owner) (repositoryNamed : Component repository)
    (plain : Plain rest) : pathSegments (address owner repository rest) =
      owner.toList :: repository.toList :: rest := by
  have named := plain.named ownerNamed repositoryNamed
  have whole : (['/'].intercalate (owner.toList :: repository.toList :: rest)).takeWhile
      (fun character => !(['?', '#'].contains character)) =
      ['/'].intercalate (owner.toList :: repository.toList :: rest) := by
    refine List.takeWhile_eq_self_iff.mpr (fun character member => ?_)
    rcases mem_intercalate member with rfl | ⟨part, among, there⟩
    · rfl
    · have marks : ∀ mark ∈ ['?', '#'], ¬ NameCharacter mark := by decide
      rw [Bool.not_eq_true', ← Bool.not_eq_true, List.contains_iff_mem]
      exact fun mark => marks character mark (named part among character there)
  rw [pathSegments, address, List.drop_left' rfl, whole]
  exact (Kit.Lines.splitOn_eq_iff (by simp) (no_slash named) _).mpr rfl

/-- A link of one of the forms is kept unless a name in it is a dot segment. -/
theorem address_kept_iff (ownerNamed : Component owner) (repositoryNamed : Component repository)
    (plain : Plain rest) : LinkKept (address owner repository rest) ↔
      ¬ (owner ∈ dots ∨ repository ∈ dots) := by
  have dotted {name : String} (named : Component name) :
      isDot name.toList = false ↔ name ∉ dots := by
    rw [← Bool.not_eq_true, isDot_of_named named.2]
    simp [dots, ← String.toList_inj]
  have unending : ∀ character ∈ address owner repository rest, endsLink character = false := by
    have host : ∀ character ∈ github, endsLink character = false := forall_mem_spelled (by decide)
    intro character member
    rcases List.mem_append.mp member with front | path
    · exact host character front
    · rcases mem_intercalate path with rfl | ⟨part, among, there⟩
      · decide
      · exact endsLink_false (plain.named ownerNamed repositoryNamed part among character there)
  rw [LinkKept, and_iff_left unending, address_segments ownerNamed repositoryNamed plain,
    remove_eq_self_iff]
  simp only [List.forall_mem_cons, dotted ownerNamed, dotted repositoryNamed, not_or]
  rw [and_iff_left (fun part member => (plain part member).1)]

end Browsing

/-- What the checks are for: each accepts its form of address and no other text, and
what any of them accepts is a link to its end and leads where it says. -/
structure Guarded (url : String) : Prop where
  artifact : Completes (validateArtifactUrl (some url)) ↔ InForm ArtifactLink url
  flamegraph : Completes (validateFlamegraphUrl (some url)) ↔ InForm FlamegraphLink url
  release : validatePublicUrlBase url = .ok () ↔ InForm ReleaseLink url
  kept : Completes (validateArtifactUrl (some url)) ∨
    Completes (validateFlamegraphUrl (some url)) ∨ validatePublicUrlBase url = .ok () →
    LinkKept url.toList

/-- An address of one of the forms whose owner or repository is a dot segment. -/
def DottedLink (url : String) : Prop :=
  ∃ owner repository, Component owner ∧ Component repository ∧
    (owner ∈ dots ∨ repository ∈ dots) ∧
    (ArtifactLink owner repository url ∨ FlamegraphLink owner repository url ∨
      ReleaseLink owner repository url)

/-- All three forms of address have plain parts behind their names. -/
theorem anyLink_address {owner repository url : String}
    (link : ArtifactLink owner repository url ∨ FlamegraphLink owner repository url ∨
      ReleaseLink owner repository url) :
    ∃ rest, Plain rest ∧ url.toList = address owner repository rest := by
  rcases link with artifact | flamegraph | release
  · obtain ⟨rest, parts, written⟩ := (artifactLink_iff owner repository url).mp artifact
    exact ⟨rest, parts.plain, written⟩
  · obtain ⟨rest, parts, written⟩ := (flamegraphLink_iff owner repository url).mp flamegraph
    exact ⟨rest, parts.plain, written⟩
  · exact ⟨releaseParts, releaseParts_plain, releaseLink_toList release⟩

/-- The checks do what they are for, except where a name in an address of their forms
is a dot segment: such an address is accepted, and a browser asks for another path. -/
theorem links_guarded_iff (url : String) : Guarded url ↔ ¬ DottedLink url := by
  constructor
  · rintro guarded ⟨owner, repository, named, named', dotted, link⟩
    obtain ⟨rest, plain, written⟩ := anyLink_address link
    have accepted : Completes (validateArtifactUrl (some url)) ∨
        Completes (validateFlamegraphUrl (some url)) ∨ validatePublicUrlBase url = .ok () := by
      rcases link with artifact | flamegraph | release
      · exact Or.inl (guarded.artifact.mpr ⟨owner, repository, named, named', artifact⟩)
      · exact Or.inr (Or.inl
          (guarded.flamegraph.mpr ⟨owner, repository, named, named', flamegraph⟩))
      · exact Or.inr (Or.inr (guarded.release.mpr ⟨owner, repository, named, named', release⟩))
    have kept := guarded.kept accepted
    rw [written, address_kept_iff named named' plain] at kept
    exact kept dotted
  · intro undotted
    refine ⟨validateArtifactUrl_iff url, validateFlamegraphUrl_iff url,
      validatePublicUrlBase_iff url, ?_⟩
    rw [validateArtifactUrl_iff, validateFlamegraphUrl_iff, validatePublicUrlBase_iff]
    intro accepted
    obtain ⟨owner, repository, named, named', link⟩ : InForm (fun owner repository url =>
        ArtifactLink owner repository url ∨ FlamegraphLink owner repository url ∨
          ReleaseLink owner repository url) url := by
      rcases accepted with artifact | flamegraph | release
      · obtain ⟨owner, repository, named, named', link⟩ := artifact
        exact ⟨owner, repository, named, named', Or.inl link⟩
      · obtain ⟨owner, repository, named, named', link⟩ := flamegraph
        exact ⟨owner, repository, named, named', Or.inr (Or.inl link)⟩
      · obtain ⟨owner, repository, named, named', link⟩ := release
        exact ⟨owner, repository, named, named', Or.inr (Or.inr link)⟩
    obtain ⟨rest, plain, written⟩ := anyLink_address link
    rw [written, address_kept_iff named named' plain]
    exact fun dotted => undotted ⟨owner, repository, named, named', dotted, link⟩

/-- Two double dots in place of names leave a path without an owner or a repository. -/
theorem climbing_link_is_accepted : ¬ ∀ url : String, Guarded url := by
  intro guarded
  have climbing : Component ".." := ⟨by decide, forall_mem_spelled (by decide)⟩
  have counted : Digits "1" ∧ Digits "2" :=
    ⟨⟨by decide, forall_mem_spelled (by decide)⟩, ⟨by decide, forall_mem_spelled (by decide)⟩⟩
  have link : ArtifactLink ".." ".." "https://github.com/../../actions/runs/1/artifacts/2" :=
    ⟨"1", "2", counted.1, counted.2, by decide +kernel⟩
  obtain ⟨rest, plain, written⟩ := anyLink_address (Or.inl link)
  have kept := (guarded "https://github.com/../../actions/runs/1/artifacts/2").kept
    (Or.inl ((validateArtifactUrl_iff _).mpr ⟨"..", "..", climbing, climbing, link⟩))
  rw [written, address_kept_iff climbing climbing plain] at kept
  exact kept (Or.inl (by decide))

end SfuLoad.Report
