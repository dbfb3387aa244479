import CloudThreat.Proofs.FileNames
import CloudThreat.Proofs.TextBytes
import Mathlib.Data.List.Perm.Basic

namespace CloudThreat

namespace ThreatFile

/-- The records of a file, whether they are threats or not; nothing when the text cannot be read as
a whole. -/
def records? (text : String) : Option (List YamlValue) :=
  if Blank.isBlankText text then some []
  else
    match YamlNode.ofText? text with
    | none => none
    | some none => some []
    | some (some root) => recordsOfRoot root

theorem threats?_eq_map_records? (text : String) :
    threats? text = (records? text).map fun rs => rs.filterMap threat := by
  rw [threats?, records?]
  split
  · rfl
  · cases YamlNode.ofText? text with
    | none => rfl
    | some root => cases root <;> rfl

end ThreatFile

namespace Catalogue

variable {tree tree' : FileTree} {directory path : List String} {name text : String}
  {bytes : List Nat} {threats : List Threat} {rs : List YamlValue}

/-- What a file of the given bytes supplies: the threats among its records in their order, or
nothing where the bytes are no text or the text no list of records. -/
inductive FileSupplies (bytes : List Nat) : List Threat → Prop
  | threats {text : String} {rs : List YamlValue} : bytes = Utf8.encode text →
      ThreatFile.records? text = some rs → FileSupplies bytes (rs.filterMap ThreatFile.threat)
  | nothing : (∀ text, bytes = Utf8.encode text → ThreatFile.records? text = none) →
      FileSupplies bytes []

theorem threatsOfFile_encode (h : ThreatFile.records? text = some rs) :
    threatsOfFile (Utf8.encode text) = rs.filterMap ThreatFile.threat := by
  have decoded := Utf8.decode?_eq_some_iff.mpr (rfl : Utf8.encode text = Utf8.encode text)
  rw [threatsOfFile, decoded, Option.bind_some, ThreatFile.threats?_eq_map_records?, h]
  rfl

theorem threatsOfFile_eq_nil
    (h : ∀ text, bytes = Utf8.encode text → ThreatFile.records? text = none) :
    threatsOfFile bytes = [] := by
  rw [threatsOfFile]
  cases decoded : Utf8.decode? bytes with
  | none => rfl
  | some text =>
    rw [Option.bind_some, ThreatFile.threats?_eq_map_records?,
      h text (Utf8.decode?_eq_some_iff.mp decoded)]
    rfl

theorem fileSupplies_threatsOfFile (bytes : List Nat) :
    FileSupplies bytes (threatsOfFile bytes) := by
  by_cases h : ∀ text, bytes = Utf8.encode text → ThreatFile.records? text = none
  · rw [threatsOfFile_eq_nil h]
    exact .nothing h
  · simp only [not_forall] at h
    obtain ⟨text, rfl, read⟩ := h
    obtain ⟨rs, read⟩ := Option.ne_none_iff_exists'.mp read
    rw [threatsOfFile_encode read]
    exact .threats rfl read

/-- The files directly in the directory with an extension of threat files, in the order of the bytes
of their names. -/
structure AreThreatFiles (tree : FileTree) (directory : List String)
    (files : List (String × List Nat)) : Prop where
  ascending : files.Pairwise fun f g => Utf8.encode f.1 < Utf8.encode g.1
  mem_iff : ∀ name bytes, (name, bytes) ∈ files ↔
    (directory ++ [name], .file bytes) ∈ tree ∧
      ∃ stem, stem ≠ "" ∧ (name = stem ++ ".yaml" ∨ name = stem ++ ".yml")

theorem mem_threatFiles_iff : (name, bytes) ∈ threatFiles tree directory ↔
    (directory ++ [name], .file bytes) ∈ tree ∧ isThreatFile name = true := by
  rw [threatFiles, List.mem_mergeSort, List.mem_filter, FileTree.mem_filesIn_iff]

theorem threatFiles_ascending (distinct : tree.Distinct) (directory : List String) :
    (threatFiles tree directory).Pairwise fun f g => f.1 < g.1 := by
  have trans : ∀ f g h : String × List Nat, decide (f.1 ≤ g.1) = true →
      decide (g.1 ≤ h.1) = true → decide (f.1 ≤ h.1) = true := by
    simp only [decide_eq_true_eq]
    exact fun f g h => String.le_trans
  have total : ∀ f g : String × List Nat, (decide (f.1 ≤ g.1) || decide (g.1 ≤ f.1)) = true := by
    simp only [Bool.or_eq_true, decide_eq_true_eq]
    exact fun f g => String.le_total f.1 g.1
  have strict : ∀ f g : String × List Nat, decide (f.1 ≤ g.1) = true → f.1 ≠ g.1 → f.1 < g.1 := by
    simp only [decide_eq_true_eq]
    intro f g le other
    by_contra less
    exact other (String.le_antisymm le (String.not_lt.mp less))
  have names : ((threatFiles tree directory).map Prod.fst).Nodup := by
    refine ((List.mergeSort_perm _ _).map Prod.fst).nodup_iff.mpr ?_
    exact (distinct.filesIn directory).sublist (List.filter_sublist.map _)
  rw [List.Nodup, List.pairwise_map] at names
  have sorted := List.pairwise_mergeSort trans total
    ((tree.filesIn directory).filter fun f => isThreatFile f.1)
  exact sorted.imp₂ strict names

theorem areThreatFiles_threatFiles (distinct : tree.Distinct) (directory : List String) :
    AreThreatFiles tree directory (threatFiles tree directory) where
  ascending := (threatFiles_ascending distinct directory).imp Utf8.encode_lt
  mem_iff name bytes := by rw [mem_threatFiles_iff, isThreatFile_iff]

/-- A file of this name in the directory supplies these threats. -/
def Supplies (tree : FileTree) (directory : List String) (name : String) (threats : List Threat) :
    Prop :=
  ∃ bytes, (name, bytes) ∈ threatFiles tree directory ∧ threatsOfFile bytes = threats

/-- The names of the files that supply threats, and the threats. -/
def supplies (tree : FileTree) (directory : List String) : List (String × List Threat) :=
  ((threatFiles tree directory).map fun f => (f.1, threatsOfFile f.2)).filter fun s => !s.2.isEmpty

theorem mem_supplies_iff : (name, threats) ∈ supplies tree directory ↔
    Supplies tree directory name threats ∧ threats ≠ [] := by
  rw [supplies, List.mem_filter, List.mem_map, Supplies]
  constructor
  · rintro ⟨⟨⟨n, bytes⟩, there, same⟩, some⟩
    obtain ⟨rfl, rfl⟩ := Prod.mk.inj same
    exact ⟨⟨bytes, there, rfl⟩, by simpa using some⟩
  · rintro ⟨⟨bytes, there, rfl⟩, some⟩
    exact ⟨⟨(name, bytes), there, rfl⟩, by simpa using some⟩

theorem supplies_ascending (distinct : tree.Distinct) (directory : List String) :
    (supplies tree directory).Pairwise fun s t => s.1 < t.1 := by
  refine List.Pairwise.filter _ (List.pairwise_map.mpr ?_)
  exact threatFiles_ascending distinct directory

theorem flatMap_threatsOfFile (files : List (String × List Nat)) :
    (files.flatMap fun f => threatsOfFile f.2) =
      ((files.map fun f => (f.1, threatsOfFile f.2)).filter fun s => !s.2.isEmpty).flatMap
        Prod.snd := by
  induction files with
  | nil => rfl
  | cons f files ih =>
    rw [List.flatMap_cons, List.map_cons, List.filter_cons, ih]
    cases threatsOfFile f.2 <;> simp

theorem load?_eq_of_supplies (distinct : tree.Distinct) (distinct' : tree'.Distinct)
    (directories : tree'.isDirectory directory = tree.isDirectory directory)
    (same : ∀ name threats, threats ≠ [] →
      (Supplies tree' directory name threats ↔ Supplies tree directory name threats)) :
    load? tree' directory = load? tree directory := by
  have members : ∀ s, s ∈ supplies tree' directory ↔ s ∈ supplies tree directory := by
    rintro ⟨name, threats⟩
    rw [mem_supplies_iff, mem_supplies_iff, and_congr_left (same name threats)]
  have ascending := supplies_ascending distinct directory
  have ascending' := supplies_ascending distinct' directory
  have equal : supplies tree' directory = supplies tree directory := by
    have nodup {l : List (String × List Threat)} (h : l.Pairwise fun s t => s.1 < t.1) :
        l.Nodup := by
      refine h.imp ?_
      rintro s t less rfl
      exact String.lt_irrefl s.1 less
    refine List.Perm.eq_of_pairwise (fun s t _ _ less more => ?_) ascending' ascending
      ((List.perm_ext_iff_of_nodup (nodup ascending') (nodup ascending)).mpr members)
    exact absurd more (String.lt_asymm less)
  rw [load?, load?, directories, flatMap_threatsOfFile, flatMap_threatsOfFile]
  rw [supplies, supplies] at equal
  rw [equal]

/-- What loading a directory passes over: subdirectories and what stands elsewhere, files with other
extensions, and files that cannot be read, are no text or have no list of records. -/
inductive Skipped (directory : List String) : List String → FileEntry → Prop
  | subdirectory (path : List String) : Skipped directory path .directory
  | elsewhere {path : List String} (entry : FileEntry) :
      (∀ name, path ≠ directory ++ [name]) → Skipped directory path entry
  | otherExtension {name : String} (entry : FileEntry) :
      (∀ stem, stem ≠ "" → name ≠ stem ++ ".yaml" ∧ name ≠ stem ++ ".yml") →
      Skipped directory (directory ++ [name]) entry
  | unreadable (path : List String) : Skipped directory path .unreadable
  | notText (path : List String) {bytes : List Nat} :
      (∀ text, bytes ≠ Utf8.encode text) → Skipped directory path (.file bytes)
  | unparsable (path : List String) {text : String} :
      ThreatFile.records? text = none → Skipped directory path (.file (Utf8.encode text))

theorem skipped_of_isThreatFile (directory : List String) (entry : FileEntry)
    (other : isThreatFile name = false) : Skipped directory (directory ++ [name]) entry := by
  rw [← Bool.not_eq_true, isThreatFile_iff] at other
  refine .otherExtension entry fun stem own => ⟨fun yaml => ?_, fun yml => ?_⟩
  · exact other ⟨stem, own, .inl yaml⟩
  · exact other ⟨stem, own, .inr yml⟩

theorem not_skipped_of_threatsOfFile (file : isThreatFile name = true)
    (some : threatsOfFile bytes ≠ []) :
    ¬ Skipped directory (directory ++ [name]) (.file bytes) := by
  generalize place : directory ++ [name] = path
  generalize contents : FileEntry.file bytes = entry
  rintro (_ | ⟨_, nowhere⟩ | @⟨name', _, other⟩ | _ | ⟨_, none⟩ | ⟨_, none⟩)
  · cases contents
  · exact nowhere name place.symm
  · obtain rfl : name = name' := by simpa using place
    obtain ⟨stem, own, yaml | yml⟩ := isThreatFile_iff.mp file
    · exact (other stem own).1 yaml
    · exact (other stem own).2 yml
  · cases contents
  · cases contents
    exact some (threatsOfFile_eq_nil fun text h => absurd h (none text))
  · cases contents
    refine some (threatsOfFile_eq_nil fun text same => ?_)
    rwa [← Utf8.encode_injective same]

/-- Trees that hold the same but for what is passed over. -/
def SameButSkipped (directory : List String) (tree tree' : FileTree) : Prop :=
  ∀ path entry, ¬ Skipped directory path entry → ((path, entry) ∈ tree' ↔ (path, entry) ∈ tree)

theorem sameButSkipped_put {entry : FileEntry} (passed : Skipped directory path entry)
    (fresh : path ∉ tree.map Prod.fst) : SameButSkipped directory tree (tree.put path entry) := by
  intro p e kept
  rw [FileTree.mem_put_iff]
  constructor
  · rintro (⟨there, _⟩ | h)
    · exact there
    · cases h
      exact absurd passed kept
  · intro there
    exact .inl ⟨there, fun h => fresh (h ▸ List.mem_map_of_mem there)⟩

theorem SameButSkipped.supplies_iff (same : SameButSkipped directory tree tree')
    (some : threats ≠ []) :
    Supplies tree' directory name threats ↔ Supplies tree directory name threats := by
  refine exists_congr fun bytes => and_congr_left ?_
  rintro rfl
  rw [mem_threatFiles_iff, mem_threatFiles_iff]
  exact and_congr_left fun file => same _ _ (not_skipped_of_threatsOfFile file some)

/-- A text that lacks one record of another text, which is no threat. -/
def LacksInvalid (text text' : String) : Prop :=
  ∃ before record after, ThreatFile.records? text = some (before ++ record :: after) ∧
    ThreatFile.records? text' = some (before ++ after) ∧ ThreatFile.threat record = none

theorem LacksInvalid.threatsOfFile_eq {text' : String} (h : LacksInvalid text text') :
    threatsOfFile (Utf8.encode text') = threatsOfFile (Utf8.encode text) := by
  obtain ⟨before, record, after, more, less, invalid⟩ := h
  rw [threatsOfFile_encode more, threatsOfFile_encode less, List.filterMap_append,
    List.filterMap_append, List.filterMap_cons_none invalid]

/-- Other contents of a file that supply the same threats. -/
theorem supplies_put_iff {bytes' : List Nat} (distinct : tree.Distinct)
    (there : (directory ++ [name], .file bytes) ∈ tree)
    (same : threatsOfFile bytes' = threatsOfFile bytes) {n : String} :
    Supplies (tree.put (directory ++ [name]) (.file bytes')) directory n threats ↔
      Supplies tree directory n threats := by
  simp only [Supplies, mem_threatFiles_iff, FileTree.mem_put_iff]
  by_cases this : n = name
  · subst this
    have old (b : List Nat) : (directory ++ [n], .file b) ∈ tree ↔ b = bytes := by
      constructor
      · intro h
        cases entry_eq_of_mem distinct h there
        rfl
      · rintro rfl
        exact there
    simp [old, same]
  · simp [this]

/-- A file with one threat, and one record that is none. -/
def openBucketText : String :=
  "threats:\n- id: T-1\n  name: Open\n  description: Readable by anyone\n  severity: low\n" ++
    "  likelihood: rare\n  category: Storage\n- id: T-2\n"

def openBucket : Threat :=
  { Threat.new "T-1" "Open" .low .rare "Storage" with description := "Readable by anyone" }

def faultyDirectory : FileTree := [
  (["a.yaml"], .file [0xFF]),
  (["b.yml"], .file (Utf8.encode openBucketText)),
  (["notes.txt"], .file (Utf8.encode openBucketText)),
  (["c.yaml"], .unreadable),
  (["old.yaml"], .directory),
  (["old.yaml", "a.yaml"], .file (Utf8.encode openBucketText))]

/-- The plain entries of a mapping, as they stand in the list of tokens. -/
def plainTokens (entries : List (String × String)) : List YamlToken :=
  entries.flatMap fun e => [.key, .scalar true e.1, .value, .scalar true e.2]

def plainNode (text : String) : YamlNode :=
  .scalar ⟨none, none⟩ true text

def openBucketEntries : List (String × String) := [
  ("id", "T-1"), ("name", "Open"), ("description", "Readable by anyone"), ("severity", "low"),
  ("likelihood", "rare"), ("category", "Storage")]

def openBucketTokens : List YamlToken :=
  [.blockMappingStart, .key, .scalar true "threats", .value] ++
    [.blockEntry, .blockMappingStart] ++ plainTokens openBucketEntries ++ [.blockEnd] ++
      [.blockEntry, .blockMappingStart] ++ plainTokens [("id", "T-2")] ++ [.blockEnd] ++
        [.blockEnd]

def openBucketRoot : YamlNode :=
  .mapping ⟨none, none⟩ [(plainNode "threats", .sequence ⟨none, none⟩ [
    .mapping ⟨none, none⟩ (openBucketEntries.map fun e => (plainNode e.1, plainNode e.2)),
    .mapping ⟨none, none⟩ [(plainNode "id", plainNode "T-2")]])]

theorem records?_openBucketText : ThreatFile.records? openBucketText = some [
    .map (openBucketEntries.map fun e => (.str e.1, .str e.2)),
    .map [(.str "id", .str "T-2")]] := by
  have tokens : YamlToken.listOf? openBucketText.toList = some openBucketTokens := by
    decide +kernel
  have root : YamlNode.ofTokens? openBucketTokens = some (some openBucketRoot) := by rfl
  have read : YamlNode.ofText? openBucketText = some (some openBucketRoot) := by
    rw [YamlNode.ofText?, tokens, Option.bind_some, root]
  have written : Blank.isBlankText openBucketText = false := by decide +kernel
  rw [ThreatFile.records?, written, read]
  rfl

theorem threatsOfFile_openBucketText :
    threatsOfFile (Utf8.encode openBucketText) = [openBucket] := by
  rw [threatsOfFile_encode records?_openBucketText]
  rfl

theorem load?_openBucketAlone : load? [(["b.yml"], .file (Utf8.encode openBucketText))] [] =
    some (.ofThreats [openBucket]) := by
  have file : isThreatFile "b.yml" = true := by decide +kernel
  have files : threatFiles [(["b.yml"], .file (Utf8.encode openBucketText))] [] =
      [("b.yml", Utf8.encode openBucketText)] := by
    simp [threatFiles, FileTree.filesIn, file]
  rw [load?, files, List.flatMap_singleton, threatsOfFile_openBucketText]
  rfl

theorem faultyDirectory_distinct : faultyDirectory.Distinct := by
  simp [FileTree.Distinct, faultyDirectory]

/-- All but one of the entries are passed over. -/
theorem faultyDirectory_sameButSkipped : SameButSkipped [] faultyDirectory
    [(["b.yml"], .file (Utf8.encode openBucketText))] := by
  intro path entry kept
  constructor
  · intro there
    rw [List.mem_singleton.mp there]
    simp [faultyDirectory]
  · intro there
    simp only [faultyDirectory, List.mem_cons, Prod.mk.injEq, List.not_mem_nil, or_false] at there
    rcases there with ⟨rfl, rfl⟩ | ⟨rfl, rfl⟩ | ⟨rfl, rfl⟩ | ⟨rfl, rfl⟩ | ⟨rfl, rfl⟩ | ⟨rfl, rfl⟩
    · refine absurd (.notText _ fun text same => ?_) kept
      have decoded := Utf8.decode?_eq_some_iff.mpr same
      have none : Utf8.decode? [0xFF] = none := by decide +kernel
      rw [none] at decoded
      cases decoded
    · exact List.mem_singleton_self _
    · have other : isThreatFile "notes.txt" = false := by decide +kernel
      exact absurd (skipped_of_isThreatFile [] _ other) kept
    · exact absurd (.unreadable _) kept
    · exact absurd (.subdirectory _) kept
    · exact absurd (.elsewhere _ (by simp)) kept

/-- Loading a directory is independent of its faults. -/
structure IsolatesFaults (tree : FileTree) (directory : List String) : Prop where
  /-- It fails only where there is no directory. -/
  fails_iff : load? tree directory = none ↔ tree.isDirectory directory = false
  /-- The catalogue is that of what the files supply, one after the other. -/
  loads : tree.isDirectory directory = true → ∃ files supplied,
    AreThreatFiles tree directory files ∧
      List.Forall₂ (fun f threats => FileSupplies f.2 threats) files supplied ∧
        load? tree directory = some (.ofThreats supplied.flatten)
  /-- The order in which the entries are made does not matter. -/
  unordered : ∀ entries, entries.Perm tree → load? (.made entries) directory = load? tree directory
  /-- Nor does any number of entries that are passed over. -/
  sameButSkipped : ∀ tree', tree'.Distinct → SameButSkipped directory tree tree' →
    tree'.isDirectory directory = tree.isDirectory directory →
      load? tree' directory = load? tree directory
  /-- One of them can be added, or taken away again. -/
  skipped : ∀ path entry, Skipped directory path entry → path ∉ tree.map Prod.fst →
    path ≠ directory → tree.isDirectory directory = true →
      load? (tree.put path entry) directory = load? tree directory
  /-- So can a record that is no threat, in any place of any file. -/
  invalidRecord : ∀ name text text', (directory ++ [name], .file (Utf8.encode text)) ∈ tree →
    LacksInvalid text text' ∨ LacksInvalid text' text →
      load? (tree.put (directory ++ [name]) (.file (Utf8.encode text'))) directory =
        load? tree directory

/-- Each of the three levels keeps its faults to itself. -/
theorem load?_isolatesFaults (distinct : tree.Distinct) (directory : List String) :
    IsolatesFaults tree directory where
  fails_iff := by
    rw [load?]
    split <;> simp_all
  loads h := by
    refine ⟨threatFiles tree directory,
      (threatFiles tree directory).map fun f => threatsOfFile f.2,
      areThreatFiles_threatFiles distinct directory, ?_, ?_⟩
    · rw [List.forall₂_map_right_iff]
      exact List.forall₂_same.mpr fun f _ => fileSupplies_threatsOfFile f.2
    · rw [load?, if_pos h]
      rfl
  unordered entries same := by
    have distinct' : FileTree.Distinct entries := (same.map Prod.fst).nodup_iff.mpr distinct
    rw [distinct'.made_eq]
    refine load?_eq_of_supplies distinct distinct' (distinct.isDirectory_of_perm same.symm) ?_
    intro name threats _
    simp only [Supplies, mem_threatFiles_iff, same.mem_iff]
  sameButSkipped tree' distinct' same directories :=
    load?_eq_of_supplies distinct distinct' directories fun _ _ some => same.supplies_iff some
  skipped path entry passed fresh other there := by
    have directories :
        (tree.put path entry).isDirectory directory = tree.isDirectory directory := by
      rw [there, distinct.isDirectory_put other entry there]
    exact load?_eq_of_supplies distinct (distinct.put path entry) directories fun _ _ some =>
      (sameButSkipped_put passed fresh).supplies_iff some
  invalidRecord name text text' there lacks := by
    have equal : threatsOfFile (Utf8.encode text') = threatsOfFile (Utf8.encode text) := by
      rcases lacks with lacks | lacks
      · exact lacks.threatsOfFile_eq
      · exact lacks.threatsOfFile_eq.symm
    have other : directory ++ [name] ≠ directory := by simp
    exact load?_eq_of_supplies distinct (distinct.put _ _)
      (distinct.isDirectory_put_of_mem other there _) fun _ _ _ =>
        supplies_put_iff distinct there equal

/-- Only the one threat of the one sound file is loaded. -/
theorem faultyDirectory_loads : faultyDirectory.Distinct ∧
    load? faultyDirectory [] = some (.ofThreats [openBucket]) := by
  have isolated := load?_isolatesFaults faultyDirectory_distinct []
  have alone := isolated.sameButSkipped _ (by simp [FileTree.Distinct])
    faultyDirectory_sameButSkipped rfl
  exact ⟨faultyDirectory_distinct, alone.symm.trans load?_openBucketAlone⟩

end Catalogue

end CloudThreat
