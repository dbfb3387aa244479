import CloudThreat.Proofs.IndexLookups
import Mathlib.Data.Finset.Card

namespace CloudThreat

theorem length_eraseDups {α : Type} [DecidableEq α] (l : List α) :
    l.eraseDups.length = l.toFinset.card := by
  have same : l.eraseDups.toFinset = l.toFinset := by
    ext a
    simp only [List.mem_toFinset, List.mem_eraseDups]
  rw [← same, List.toFinset_card_of_nodup (eraseDups_nodup l)]

namespace PositionIndex

variable {κ : Type} [DecidableEq κ] {index : PositionIndex κ} {mentioned : List κ}

/-- The index knows the keys of a list in the order of their first mention, and points to as many
positions as there are mentions. -/
structure Covers (index : PositionIndex κ) (mentioned : List κ) : Prop where
  keys_eq : index.map Prod.fst = mentioned.eraseDups
  positions_ne_nil : ∀ x ∈ index, x.2 ≠ []
  total : (index.flatMap Prod.snd).length = mentioned.length

theorem add_keys_of_mem {key : κ} (position : Nat) (h : key ∈ index.map Prod.fst) :
    (add key position index).map Prod.fst = index.map Prod.fst := by
  induction index with
  | nil => cases h
  | cons x rest ih =>
    rw [add]
    split
    next => rfl
    next other =>
      have later := (List.mem_cons.mp h).resolve_left (Ne.symm other)
      rw [List.map_cons, List.map_cons, ih later]

theorem add_keys_of_not_mem {key : κ} (position : Nat) (h : key ∉ index.map Prod.fst) :
    (add key position index).map Prod.fst = index.map Prod.fst ++ [key] := by
  induction index with
  | nil => rfl
  | cons x rest ih =>
    obtain ⟨other, later⟩ := List.ne_and_not_mem_of_not_mem_cons h
    rw [add, if_neg (Ne.symm other), List.map_cons, List.map_cons, ih later, List.cons_append]

theorem add_positions_ne_nil (h : ∀ x ∈ index, x.2 ≠ []) (key : κ) (position : Nat) :
    ∀ x ∈ add key position index, x.2 ≠ [] := by
  induction index with
  | nil => simp [add]
  | cons x rest ih =>
    obtain ⟨first, others⟩ := List.forall_mem_cons.mp h
    rw [add]
    split
    next => exact List.forall_mem_cons.mpr ⟨by simp, others⟩
    next => exact List.forall_mem_cons.mpr ⟨first, ih others⟩

theorem add_total (key : κ) (position : Nat) (index : PositionIndex κ) :
    ((add key position index).flatMap Prod.snd).length = (index.flatMap Prod.snd).length + 1 := by
  induction index with
  | nil => rfl
  | cons x rest ih =>
    rw [add]
    split
    next =>
      simp only [List.flatMap_cons, List.length_append, List.length_singleton]
      omega
    next =>
      simp only [List.flatMap_cons, List.length_append, ih]
      omega

theorem Covers.nil : Covers ([] : PositionIndex κ) [] :=
  ⟨rfl, by simp, rfl⟩

theorem Covers.add (h : Covers index mentioned) (key : κ) (position : Nat) :
    Covers (add key position index) (mentioned ++ [key]) where
  keys_eq := by
    have known : key ∈ index.map Prod.fst ↔ key ∈ mentioned := by
      rw [h.keys_eq, List.mem_eraseDups]
    by_cases hm : key ∈ mentioned
    · rw [add_keys_of_mem position (known.mpr hm), h.keys_eq,
        eraseDups_concat_of_mem hm]
    · rw [add_keys_of_not_mem position fun hk => hm (known.mp hk), h.keys_eq,
        eraseDups_concat_of_not_mem hm]
  positions_ne_nil := add_positions_ne_nil h.positions_ne_nil key position
  total := by rw [add_total, h.total, List.length_append, List.length_singleton]

theorem Covers.foldl_add (h : Covers index mentioned) (position : Nat) (keys : List κ) :
    Covers (keys.foldl (fun index k => PositionIndex.add k position index) index)
      (mentioned ++ keys) := by
  induction keys generalizing index mentioned with
  | nil => simpa using h
  | cons k keys ih =>
    rw [List.foldl_cons, List.append_cons]
    exact ih (h.add k position)

theorem Covers.build {α : Type} (keys : α → List κ) (h : Covers index mentioned) (start : Nat)
    (items : List α) :
    Covers (build keys index start items) (mentioned ++ items.flatMap keys) := by
  induction items generalizing index mentioned start with
  | nil =>
    rw [List.flatMap_nil, List.append_nil]
    exact h
  | cons a items ih =>
    rw [List.flatMap_cons, ← List.append_assoc]
    exact ih (h.foldl_add start (keys a)) (start + 1)

theorem build_covers {α : Type} (keys : α → List κ) (items : List α) :
    Covers (build keys [] 0 items) (items.flatMap keys) := by
  simpa using Covers.nil.build keys 0 items

theorem Covers.keys_nodup (h : Covers index mentioned) : (index.map Prod.fst).Nodup := by
  rw [h.keys_eq]
  exact eraseDups_nodup mentioned

theorem Covers.length_eq (h : Covers index mentioned) : index.length = mentioned.toFinset.card := by
  rw [← length_eraseDups, ← h.keys_eq, List.length_map]

omit [DecidableEq κ] in
theorem total_counts (name : κ → String) (index : PositionIndex κ) :
    Tally.total (index.counts name) = (index.flatMap Prod.snd).length := by
  induction index with
  | nil => rfl
  | cons x rest ih =>
    rw [List.flatMap_cons, List.length_append, ← ih]
    rfl

end PositionIndex

namespace Catalogue

variable {ts : List Threat} {t : Threat} {c : Catalogue}

/-- The threats that count: for each id, in the order in which the ids first appear, its last
definition. -/
def latest (ts : List Threat) : List Threat :=
  (ts.map Threat.id).eraseDups.filterMap (lastWithId? ts)

theorem ofThreats_threats (ts : List Threat) : (ofThreats ts).threats = latest ts := by
  have h := ofThreats_hold ts
  calc (ofThreats ts).threats
    _ = (ofThreats ts).threats.filterMap some := List.filterMap_some.symm
    _ = (ofThreats ts).threats.filterMap fun t => lastWithId? ts t.id :=
      List.filterMap_congr fun t ht => (h.last t ht).symm
    _ = ((ofThreats ts).threats.map Threat.id).filterMap (lastWithId? ts) := by
      rw [List.filterMap_map]
      rfl
    _ = latest ts := by rw [h.ids_eq, latest]

theorem mem_latest_iff : t ∈ latest ts ↔ t ∈ ts ∧ lastWithId? ts t.id = some t := by
  rw [← ofThreats_threats, mem_ofThreats_iff]

/-- The tally holds the name of each kind of threat in a list once, with the number of threats of
that kind. -/
structure Numbers {κ : Type} [DecidableEq κ] (t : Tally) (name : κ → String) (kind : Threat → κ)
    (threats : List Threat) : Prop where
  once : (t.map Prod.fst).Nodup
  named : ∀ entry ∈ t, ∃ k, entry.1 = name k
  count : ∀ k, t.count (name k) = (threats.filter fun u => kind u = k).length
  positive : ∀ entry ∈ t, 0 < entry.2
  total : t.total = threats.length

section

variable {κ : Type} [DecidableEq κ] {kind : Threat → κ}

theorem flatMap_replicate_kind (kind : Threat → κ) (k : κ) (ts : List Threat) :
    (ts.flatMap fun t => List.replicate ([kind t].count k) t) =
      ts.filter fun t => kind t = k := by
  induction ts with
  | nil => rfl
  | cons t ts ih =>
    rw [List.flatMap_cons, ih]
    by_cases h : kind t = k <;> simp [h]

theorem collect_kind (same : c.threats = ts) (kind : Threat → κ) (k : κ) :
    c.collect ((PositionIndex.build (fun t => [kind t]) [] 0 ts).positions k) =
      ts.filter fun t => kind t = k := by
  rw [collect_build same, flatMap_replicate_kind]

theorem numbers_counts {name : κ → String} (apart : Function.Injective name) (kind : Threat → κ)
    (ts : List Threat) :
    Numbers ((PositionIndex.build (fun t => [kind t]) [] 0 ts).counts name) name kind ts := by
  have covers := PositionIndex.build_covers (fun t => [kind t]) ts
  have keys : ((PositionIndex.build (fun t => [kind t]) [] 0 ts).counts name).map Prod.fst =
      ((PositionIndex.build (fun t => [kind t]) [] 0 ts).map Prod.fst).map name := by
    simp [PositionIndex.counts]
  refine ⟨?once, ?named, ?count, ?positive, ?total⟩
  case once =>
    rw [keys]
    exact covers.keys_nodup.map apart
  case named =>
    intro entry he
    obtain ⟨x, _, rfl⟩ := List.mem_map.mp he
    exact ⟨x.1, rfl⟩
  case count =>
    intro k
    rw [PositionIndex.count_counts apart, length_positions_build, flatMap_replicate_kind]
  case positive =>
    intro entry he
    obtain ⟨x, hx, rfl⟩ := List.mem_map.mp he
    exact List.length_pos_iff.mpr (covers.positions_ne_nil x hx)
  case total =>
    rw [PositionIndex.total_counts, covers.total]
    simp

end

theorem Severity.text_injective : Function.Injective Severity.text :=
  injective_of_listed (l := [.critical, .high, .medium, .low, .info])
    (fun s => by cases s <;> decide) (by decide)

/-- The lists and the numbers of a catalogue are those of some threats. -/
structure CountsThreats (c : Catalogue) (threats : List Threat) : Prop where
  ofSeverity_eq : ∀ s, c.ofSeverity s = threats.filter fun t => t.severity = s
  ofCategory_eq : ∀ category, c.ofCategory category = threats.filter fun t => t.category = category
  size_eq : c.size = threats.length
  totalThreats_eq : c.statistics.totalThreats = threats.length
  bySeverity : Numbers c.statistics.bySeverity Severity.text Threat.severity threats
  byCategory : Numbers c.statistics.byCategory id Threat.category threats
  uniqueCategories_eq : c.statistics.uniqueCategories = (threats.map Threat.category).toFinset.card
  uniqueResourceTypes_eq :
    c.statistics.uniqueResourceTypes = (threats.flatMap Threat.resourceTypes).toFinset.card

theorem countsThreats_self (ts : List Threat) :
    (ofThreats ts).CountsThreats (ofThreats ts).threats where
  ofSeverity_eq := collect_kind rfl Threat.severity
  ofCategory_eq := collect_kind rfl Threat.category
  size_eq := rfl
  totalThreats_eq := rfl
  bySeverity := numbers_counts Severity.text_injective Threat.severity _
  byCategory := numbers_counts Function.injective_id Threat.category _
  uniqueCategories_eq := by
    have covers := PositionIndex.build_covers (fun t => [t.category]) (ofThreats ts).threats
    rw [← List.map_eq_flatMap] at covers
    exact covers.length_eq
  uniqueResourceTypes_eq := length_eraseDups _

/-- A catalogue lists and counts the last definition of each id and nothing else: a definition that
is replaced leaves no trace in it. -/
theorem ofThreats_countsThreats (ts : List Threat) :
    (ofThreats ts).CountsThreats (latest ts) ∧
      (∀ t, t ∈ latest ts ↔ t ∈ ts ∧ lastWithId? ts t.id = some t) ∧
      ofThreats (latest ts) = ofThreats ts := by
  have same := ofThreats_threats ts
  refine ⟨?counts, fun _ => mem_latest_iff, ?again⟩
  case counts =>
    rw [← same]
    exact countsThreats_self ts
  case again =>
    have again := ofThreats_append ts []
    rw [List.append_nil, List.append_nil, same] at again
    exact again.symm

example :
    (ofThreats [
      Threat.new "S3-1" "Public bucket" .high .likely "Data Exposure",
      Threat.new "S3-1" "Public bucket" .low .likely "Storage"]).statistics.bySeverity =
        [("low", 1)] := by
  decide

end Catalogue

end CloudThreat
