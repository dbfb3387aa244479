import CloudThreat.CatalogueLoading
import CloudThreat.Proofs.CutTexts
import CloudThreat.Proofs.DistinctKeys
import Mathlib.Data.List.Basic

namespace CloudThreat

namespace FileTree

theorem extension?_of_not_mem {name : String} (plain : '.' ∉ name.toList) :
    extension? name = none := by
  simp [extension?, cut_of_not_mem plain]

theorem extension?_append {stem ext : String} (plain : '.' ∉ ext.toList) :
    extension? (stem ++ "." ++ ext) = if stem = "" then none else some ext := by
  have parts : cut '.' (stem ++ "." ++ ext).toList = cut '.' stem.toList ++ [ext.toList] := by
    rw [← cut_append_cons stem.toList plain]
    simp
  rw [extension?, parts, List.dropLast_concat, List.getLast?_concat]
  split
  · next h => exact absurd h (cut_ne_nil _ _)
  · next h =>
    rw [cut_eq_singleton_nil_iff, String.toList_eq_nil_iff] at h
    rw [if_pos h]
  · next h =>
    rw [if_neg fun empty => h (by rw [empty]; rfl)]
    simp

/-- An extension follows the last point, and something stands before that point. -/
theorem extension?_eq_some_iff {name ext : String} : extension? name = some ext ↔
    '.' ∉ ext.toList ∧ ∃ stem, stem ≠ "" ∧ name = stem ++ "." ++ ext := by
  constructor
  · intro h
    by_cases point : '.' ∈ name.toList
    · obtain ⟨before, part, split, last⟩ := exists_last_of_mem point
      have shape : name = String.ofList before ++ "." ++ String.ofList part := by
        rw [← String.toList_inj, split]
        simp
      have plain : '.' ∉ (String.ofList part).toList := by rwa [String.toList_ofList]
      rw [shape, extension?_append plain] at h
      split at h
      · cases h
      · next some =>
        cases h
        exact ⟨plain, _, some, shape⟩
    · rw [extension?_of_not_mem point] at h
      cases h
  · rintro ⟨plain, stem, some, rfl⟩
    rw [extension?_append plain, if_neg some]

variable {tree tree' : FileTree} {path directory : List String} {entry entry' : FileEntry}
  {name : String} {bytes : List Nat}

/-- No path has two entries. -/
def Distinct (tree : FileTree) : Prop :=
  (tree.map Prod.fst).Nodup

theorem mem_put_iff {e : List String × FileEntry} :
    e ∈ tree.put path entry ↔ e ∈ tree ∧ e.1 ≠ path ∨ e = (path, entry) := by
  simp [put]

theorem Distinct.put (h : tree.Distinct) (path : List String) (entry : FileEntry) :
    (tree.put path entry).Distinct := by
  have others : ((tree.filter fun e => e.1 != path).map Prod.fst).Nodup :=
    h.sublist (List.filter_sublist.map _)
  rw [Distinct, FileTree.put, List.map_append]
  refine List.nodup_append.mpr ⟨others, by simp, ?_⟩
  simp

theorem put_of_not_mem (fresh : path ∉ tree.map Prod.fst) (entry : FileEntry) :
    tree.put path entry = tree ++ [(path, entry)] := by
  rw [put, List.filter_eq_self.mpr fun e he => ?_]
  have other : e.1 ≠ path := fun same => fresh (same ▸ List.mem_map_of_mem he)
  simpa using other

/-- The tree in which the entries are made one after the other. -/
def made (entries : List (List String × FileEntry)) : FileTree :=
  entries.foldl (fun tree e => tree.put e.1 e.2) []

theorem foldl_put_eq_append (h : (tree ++ tree').Distinct) :
    tree'.foldl (fun tree e => tree.put e.1 e.2) tree = tree ++ tree' := by
  induction tree' generalizing tree with
  | nil => simp
  | cons e rest ih =>
    have fresh : e.1 ∉ tree.map Prod.fst := by
      rw [Distinct, List.map_append] at h
      exact fun there => (List.nodup_append.mp h).2.2 _ there _ (by simp) rfl
    rw [List.foldl_cons, put_of_not_mem fresh, ih (by simpa using h)]
    simp

theorem Distinct.made_eq (h : tree.Distinct) : made tree = tree := by
  have built : made tree = [] ++ tree := foldl_put_eq_append h
  exact built.trans (List.nil_append (tree : List _))

theorem Distinct.at?_eq_some_iff (h : tree.Distinct) :
    tree.at? path = some entry ↔ (path, entry) ∈ tree :=
  lookup_eq_some_iff h

theorem Distinct.isDirectory_iff (h : tree.Distinct) : tree.isDirectory path = true ↔
    (path, .directory) ∈ tree ∨
      (∀ entry, (path, entry) ∉ tree) ∧ (path = [] ∨ ∃ e ∈ tree, path <+: e.1) := by
  rw [isDirectory]
  cases there : tree.at? path with
  | none =>
    have absent : ∀ entry, (path, entry) ∉ tree := fun entry stands => by
      rw [h.at?_eq_some_iff.mpr stands] at there
      cases there
    simp [absent]
  | some entry =>
    have stands := h.at?_eq_some_iff.mp there
    have only : ∀ entry', (path, entry') ∈ tree ↔ entry' = entry := fun entry' =>
      ⟨fun other => entry_eq_of_mem h other stands, fun same => same ▸ stands⟩
    cases entry <;> simp [only]

/-- A directory stays one while nothing else comes to its place and no path is given up. -/
theorem Distinct.isDirectory_of_paths (h : tree.Distinct) (h' : tree'.Distinct)
    (here : ∀ entry, (path, entry) ∈ tree' ↔ (path, entry) ∈ tree)
    (paths : ∀ e ∈ tree, ∃ e' ∈ tree', e'.1 = e.1) (directory : tree.isDirectory path = true) :
    tree'.isDirectory path = true := by
  rw [h'.isDirectory_iff]
  rcases h.isDirectory_iff.mp directory with there | ⟨absent, above⟩
  · exact .inl ((here _).mpr there)
  · refine .inr ⟨fun entry there => absent entry ((here entry).mp there), above.imp_right ?_⟩
    rintro ⟨e, he, above⟩
    obtain ⟨e', he', same⟩ := paths e he
    exact ⟨e', he', same ▸ above⟩

/-- What is put at another path is in no directory's way. -/
theorem Distinct.isDirectory_put (h : tree.Distinct) (other : path ≠ directory)
    (entry : FileEntry) (there : tree.isDirectory directory = true) :
    (tree.put path entry).isDirectory directory = true := by
  refine h.isDirectory_of_paths (h.put path entry) (fun e => ?_) (fun e he => ?_) there
  · simp [mem_put_iff, other.symm]
  · by_cases same : e.1 = path
    · exact ⟨(path, entry), mem_put_iff.mpr (.inr rfl), same.symm⟩
    · exact ⟨e, mem_put_iff.mpr (.inl ⟨he, same⟩), rfl⟩

/-- Whether there is a directory does not depend on the contents of other files. -/
theorem Distinct.isDirectory_put_of_mem (h : tree.Distinct) (other : path ≠ directory)
    (there : (path, entry') ∈ tree) (entry : FileEntry) :
    (tree.put path entry).isDirectory directory = tree.isDirectory directory := by
  rw [Bool.eq_iff_iff]
  refine ⟨(h.put path entry).isDirectory_of_paths h (fun e => ?_) fun e he => ?_,
    h.isDirectory_put other entry⟩
  · simp [mem_put_iff, other.symm]
  · rcases mem_put_iff.mp he with ⟨he, _⟩ | rfl
    · exact ⟨e, he, rfl⟩
    · exact ⟨_, there, rfl⟩

theorem Distinct.isDirectory_of_perm (h : tree.Distinct) (same : tree.Perm tree') :
    tree'.isDirectory path = tree.isDirectory path := by
  have h' : tree'.Distinct := (same.map Prod.fst).nodup_iff.mp h
  rw [Bool.eq_iff_iff, h.isDirectory_iff, h'.isDirectory_iff]
  simp only [same.mem_iff]

/-- The files of a directory are what stands at the paths that a name makes longer. -/
theorem mem_filesIn_iff :
    (name, bytes) ∈ tree.filesIn directory ↔ (directory ++ [name], .file bytes) ∈ tree := by
  rw [filesIn, List.mem_filterMap]
  constructor
  · rintro ⟨⟨path, entry⟩, stands, found⟩
    cases entry with
    | file contents =>
      cases last : path.getLast? with
      | none => simp [last] at found
      | some n =>
        obtain ⟨rfl, rfl, rfl⟩ : path.dropLast = directory ∧ n = name ∧ contents = bytes := by
          simpa [last] using found
        rwa [List.dropLast_append_getLast? n last]
    | directory => simp at found
    | unreadable => simp at found
  · intro stands
    exact ⟨_, stands, by simp⟩

theorem Distinct.filesIn (h : tree.Distinct) (directory : List String) :
    ((tree.filesIn directory).map Prod.fst).Nodup := by
  rw [Distinct, List.Nodup, List.pairwise_map] at h
  rw [List.Nodup, List.pairwise_map, FileTree.filesIn, List.pairwise_filterMap]
  refine h.imp fun {e e'} apart f found f' found' same => apart ?_
  have first : f ∈ FileTree.filesIn [e] directory :=
    List.mem_filterMap.mpr ⟨e, List.mem_singleton_self e, found⟩
  have second : f' ∈ FileTree.filesIn [e'] directory :=
    List.mem_filterMap.mpr ⟨e', List.mem_singleton_self e', found'⟩
  rw [← List.mem_singleton.mp (mem_filesIn_iff.mp first),
    ← List.mem_singleton.mp (mem_filesIn_iff.mp second), same]

end FileTree

namespace Catalogue

/-- A threat file is called `.yaml` or `.yml`, in these letters, after a name of its own. -/
theorem isThreatFile_iff {name : String} : isThreatFile name = true ↔
    ∃ stem, stem ≠ "" ∧ (name = stem ++ ".yaml" ∨ name = stem ++ ".yml") := by
  have long : FileTree.extension? name = some "yaml" ↔
      ∃ stem, stem ≠ "" ∧ name = stem ++ ".yaml" := by
    simp [FileTree.extension?_eq_some_iff, String.append_assoc]
  have short : FileTree.extension? name = some "yml" ↔
      ∃ stem, stem ≠ "" ∧ name = stem ++ ".yml" := by
    simp [FileTree.extension?_eq_some_iff, String.append_assoc]
  have either : isThreatFile name = true ↔ FileTree.extension? name = some "yaml" ∨
      FileTree.extension? name = some "yml" := by
    rw [isThreatFile]
    split <;> simp_all
  simp only [either, long, short, and_or_left, exists_or]

end Catalogue

end CloudThreat
