import CloudThreat.Catalogue
import CloudThreat.Proofs.FirstOccurrences

namespace CloudThreat

namespace PositionIndex

variable {κ : Type} [DecidableEq κ] {index : PositionIndex κ} {n : Nat}

/-- All positions lie in a list of the given length. -/
def Within (index : PositionIndex κ) (n : Nat) : Prop :=
  ∀ x ∈ index, ∀ i ∈ x.2, i < n

theorem Within.add {key : κ} {position : Nat} (h : Within index n) (inside : position < n) :
    Within (add key position index) n := by
  induction index with
  | nil => simpa [PositionIndex.add, Within] using inside
  | cons x rest ih =>
    obtain ⟨k, ps⟩ := x
    obtain ⟨first, others⟩ := List.forall_mem_cons.mp h
    rw [PositionIndex.add]
    split
    · refine List.forall_mem_cons.mpr ⟨fun i hi => ?_, others⟩
      rcases List.mem_append.mp hi with hi | hi
      · exact first i hi
      · rw [List.mem_singleton.mp hi]
        exact inside
    · exact List.forall_mem_cons.mpr ⟨first, ih others⟩

theorem Within.foldl_add {position : Nat} (h : Within index n) (inside : position < n)
    (keys : List κ) :
    Within (keys.foldl (fun index k => PositionIndex.add k position index) index) n := by
  induction keys generalizing index with
  | nil => exact h
  | cons k keys ih => exact ih (h.add inside)

theorem Within.build {α : Type} (keys : α → List κ) {start : Nat} (h : Within index start)
    (items : List α) : Within (build keys index start items) (start + items.length) := by
  induction items generalizing index start with
  | nil => exact h
  | cons a items ih =>
    have longer : Within index (start + 1) := fun x hx i hi => Nat.lt_succ_of_lt (h x hx i hi)
    have built := ih (longer.foldl_add (Nat.lt_succ_self start) (keys a))
    have length : start + 1 + items.length = start + (a :: items).length := by
      rw [List.length_cons]
      omega
    rw [← length]
    exact built

theorem build_within {α : Type} (keys : α → List κ) (items : List α) :
    Within (build keys [] 0 items) items.length := by
  have none : Within ([] : PositionIndex κ) 0 := by simp [Within]
  simpa using none.build keys items

end PositionIndex

namespace Catalogue

variable {ts : List Threat} {t : Threat} {e : Entries} {id : String}

/-- The last of the threats with an id. -/
def lastWithId? (ts : List Threat) (id : String) : Option Threat :=
  (ts.filter (·.id = id)).getLast?

theorem lastWithId?_id (h : lastWithId? ts id = some t) : t.id = id := by
  have member := List.mem_of_getLast? h
  simpa using (List.mem_filter.mp member).2

theorem lastWithId?_append_self (ts : List Threat) (t : Threat) :
    lastWithId? (ts ++ [t]) t.id = some t := by
  simp [lastWithId?]

theorem lastWithId?_append_of_ne (different : t.id ≠ id) :
    lastWithId? (ts ++ [t]) id = lastWithId? ts id := by
  simp [lastWithId?, different]

theorem lastWithId?_eq_none_iff : lastWithId? ts id = none ↔ id ∉ ts.map Threat.id := by
  simp [lastWithId?]

/-- Among threats with distinct ids, each is the last with its own. -/
theorem lastWithId?_of_mem (distinct : (ts.map Threat.id).Nodup) (h : t ∈ ts) :
    lastWithId? ts t.id = some t := by
  cases hl : lastWithId? ts t.id with
  | none => exact absurd (List.mem_map_of_mem h) (lastWithId?_eq_none_iff.mp hl)
  | some last =>
    have member := (List.mem_filter.mp (List.mem_of_getLast? hl)).1
    rw [List.inj_on_of_nodup_map distinct member h (lastWithId?_id hl)]

theorem getElem?_of_lookup_zipIdx {l : List String} {i : Nat} (h : l.zipIdx.lookup id = some i) :
    l[i]? = some id := by
  obtain ⟨before, after, split, _⟩ := List.lookup_eq_some_iff.mp h
  have member : (id, i) ∈ l.zipIdx := by simp [split]
  exact List.mk_mem_zipIdx_iff_getElem?.mp member

theorem lookup_zipIdx_eq_none_iff {l : List String} : l.zipIdx.lookup id = none ↔ id ∉ l := by
  have ids : l.zipIdx.map Prod.fst = l := List.zipIdx_map_fst 0 l
  rw [List.lookup_eq_none_iff]
  constructor
  · intro absent hm
    rw [← ids] at hm
    obtain ⟨x, hx, rfl⟩ := List.mem_map.mp hm
    simpa using absent x hx
  · intro absent x hx
    have other : id ≠ x.1 := by
      rintro rfl
      exact absent (ids ▸ List.mem_map_of_mem hx)
    simpa using other

namespace Entries

/-- What holds of the entries while threats are inserted: `ts` are those inserted so far. -/
structure Hold (e : Entries) (ts : List Threat) : Prop where
  ids_eq : e.threats.map Threat.id = (ts.map Threat.id).eraseDups
  ids_distinct : (e.threats.map Threat.id).Nodup
  positions_eq : e.byId = (e.threats.map Threat.id).zipIdx
  last : ∀ t ∈ e.threats, lastWithId? ts t.id = some t

theorem Hold.empty : Entries.empty.Hold [] where
  ids_eq := rfl
  ids_distinct := List.nodup_nil
  positions_eq := rfl
  last := by simp [Entries.empty]

theorem Hold.mem_ids_iff (h : e.Hold ts) : id ∈ e.threats.map Threat.id ↔ id ∈ ts.map Threat.id := by
  rw [h.ids_eq, List.mem_eraseDups]

theorem Hold.byId_within (h : e.Hold ts) : ∀ x ∈ e.byId, x.2 < e.threats.length := by
  intro x hx
  rw [h.positions_eq] at hx
  have found := List.mem_zipIdx_iff_getElem?.mp hx
  have inside := (List.getElem?_eq_some_iff.mp found).1
  simpa using inside

theorem Hold.insert_known (h : e.Hold ts) {i : Nat} (known : e.byId.lookup t.id = some i) :
    (e.insert t).Hold (ts ++ [t]) := by
  have inserted : e.insert t = { e with threats := e.threats.set i t } := by
    rw [Entries.insert, known]
  rw [h.positions_eq] at known
  have found := getElem?_of_lookup_zipIdx known
  have old : t.id ∈ ts.map Threat.id := h.mem_ids_iff.mp (List.mem_of_getElem? found)
  have ids : (e.threats.set i t).map Threat.id = e.threats.map Threat.id := by
    obtain ⟨_, same⟩ := List.getElem?_eq_some_iff.mp found
    rw [List.map_set, ← same, List.set_getElem_self]
  rw [inserted]
  refine ⟨?ids, ?distinct, ?positions, ?last⟩
  case ids => rw [ids, h.ids_eq, List.map_append, List.map_singleton, eraseDups_concat_of_mem old]
  case distinct =>
    rw [ids]
    exact h.ids_distinct
  case positions => rw [ids, ← h.positions_eq]
  case last =>
    intro u hu
    by_cases same : u.id = t.id
    · have member : t ∈ e.threats.set i t := by
        refine List.mem_iff_getElem?.mpr ⟨i, ?_⟩
        have inside : i < e.threats.length := by
          have := (List.getElem?_eq_some_iff.mp found).1
          simpa using this
        simp [inside]
      have distinct : ((e.threats.set i t).map Threat.id).Nodup := ids ▸ h.ids_distinct
      rw [List.inj_on_of_nodup_map distinct hu member same]
      exact lastWithId?_append_self ts t
    · rcases List.mem_or_eq_of_mem_set hu with hu | rfl
      · rw [lastWithId?_append_of_ne (Ne.symm same)]
        exact h.last u hu
      · exact absurd rfl same

theorem Hold.insert_new (h : e.Hold ts) (new : e.byId.lookup t.id = none) :
    (e.insert t).Hold (ts ++ [t]) := by
  have inserted : e.insert t = ⟨e.threats ++ [t], e.byId ++ [(t.id, e.threats.length)]⟩ := by
    rw [Entries.insert, new]
  rw [h.positions_eq, lookup_zipIdx_eq_none_iff] at new
  have fresh : t.id ∉ ts.map Threat.id := fun hm => new (h.mem_ids_iff.mpr hm)
  rw [inserted]
  refine ⟨?ids, ?distinct, ?positions, ?last⟩
  case ids =>
    rw [List.map_append, List.map_append, List.map_singleton, h.ids_eq,
      eraseDups_concat_of_not_mem fresh]
  case distinct =>
    rw [List.map_append, List.map_singleton]
    exact List.nodup_append.mpr ⟨h.ids_distinct, by simp, by simpa using new⟩
  case positions => simp [h.positions_eq, List.zipIdx_append]
  case last =>
    intro u hu
    rcases List.mem_append.mp hu with hu | hu
    · have different : t.id ≠ u.id := fun he => new (he ▸ List.mem_map_of_mem hu)
      rw [lastWithId?_append_of_ne different]
      exact h.last u hu
    · rw [List.mem_singleton.mp hu]
      exact lastWithId?_append_self ts t

theorem Hold.insert (h : e.Hold ts) (t : Threat) : (e.insert t).Hold (ts ++ [t]) := by
  cases hk : e.byId.lookup t.id with
  | some i => exact h.insert_known hk
  | none => exact h.insert_new hk

theorem Hold.foldl_insert (h : e.Hold ts) (more : List Threat) :
    (more.foldl Entries.insert e).Hold (ts ++ more) := by
  induction more generalizing e ts with
  | nil => simpa using h
  | cons t more ih => simpa using ih (h.insert t)

theorem foldl_insert_hold (ts : List Threat) : (ts.foldl Entries.insert .empty).Hold ts := by
  simpa using Hold.empty.foldl_insert ts

/-- Entries are determined by the threats that were inserted. -/
theorem Hold.unique {e' : Entries} (h : e.Hold ts) (h' : e'.Hold ts) : e = e' := by
  have ids : e.threats.map Threat.id = e'.threats.map Threat.id := h.ids_eq.trans h'.ids_eq.symm
  have threats : ∀ {e : Entries}, e.Hold ts →
      (e.threats.map Threat.id).map (lastWithId? ts) = e.threats.map some := by
    intro e h
    rw [List.map_map]
    exact List.map_congr_left h.last
  have same : e.threats.map some = e'.threats.map some := by rw [← threats h, ids, threats h']
  cases e with
  | mk listed byId =>
    cases e' with
    | mk listed' byId' =>
      have listed_eq := (List.map_inj_right fun _ _ => Option.some.inj).mp same
      have byId_eq := h.positions_eq.trans ((congrArg List.zipIdx ids).trans h'.positions_eq.symm)
      exact congr (congrArg Entries.mk listed_eq) byId_eq

/-- Threats with distinct ids are all kept, each in its place. -/
theorem hold_of_distinct (distinct : (ts.map Threat.id).Nodup) :
    (Entries.mk ts (ts.map Threat.id).zipIdx).Hold ts where
  ids_eq := (eraseDups_of_nodup distinct).symm
  ids_distinct := distinct
  positions_eq := rfl
  last := fun _ ht => lastWithId?_of_mem distinct ht

end Entries

theorem ofThreats_hold (ts : List Threat) :
    (Entries.mk (ofThreats ts).threats (ofThreats ts).byId).Hold ts :=
  Entries.foldl_insert_hold ts

theorem ofThreats_byId (ts : List Threat) :
    (ofThreats ts).byId = ((ofThreats ts).threats.map Threat.id).zipIdx :=
  (ofThreats_hold ts).positions_eq

/-- What a catalogue made of threats holds, finds and points to. -/
structure ListsLatest (ts : List Threat) (c : Catalogue) : Prop where
  ids_eq : c.threats.map Threat.id = (ts.map Threat.id).eraseDups
  ids_distinct : (c.threats.map Threat.id).Nodup
  content : ∀ t ∈ c.threats, lastWithId? ts t.id = some t
  withId?_eq : ∀ id, c.withId? id = lastWithId? ts id
  withId?_isSome_iff : ∀ id, (c.withId? id).isSome ↔ id ∈ ts.map Threat.id
  /-- Threats that are added later meet a catalogue as they would meet the threats in it. -/
  ofThreats_append : ∀ more, ofThreats (ts ++ more) = ofThreats (c.threats ++ more)
  byId_within : ∀ x ∈ c.byId, x.2 < c.size
  /-- Nor does a position lead out of the list while threats are still to come. -/
  insert_within : ∀ before, before <+: ts → ∀ x ∈ (before.foldl Entries.insert .empty).byId,
    x.2 < (before.foldl Entries.insert .empty).threats.length
  byResourceType_within : c.byResourceType.Within c.size
  byProvider_within : c.byProvider.Within c.size
  byCategory_within : c.byCategory.Within c.size
  bySeverity_within : c.bySeverity.Within c.size

theorem withId?_ofThreats (ts : List Threat) (id : String) :
    (ofThreats ts).withId? id = lastWithId? ts id := by
  have h := ofThreats_hold ts
  rw [withId?, ofThreats_byId]
  cases found : ((ofThreats ts).threats.map Threat.id).zipIdx.lookup id with
  | none =>
    have absent := lookup_zipIdx_eq_none_iff.mp found
    have unknown : id ∉ ts.map Threat.id := fun hm => absent (h.mem_ids_iff.mpr hm)
    rw [Option.bind_none, lastWithId?_eq_none_iff.mpr unknown]
  | some i =>
    have there := getElem?_of_lookup_zipIdx found
    rw [List.getElem?_map] at there
    obtain ⟨t, ht, rfl⟩ := Option.map_eq_some_iff.mp there
    rw [Option.bind_some, ht, h.last t (List.mem_of_getElem? ht)]

theorem ofThreats_append (ts more : List Threat) :
    ofThreats (ts ++ more) = ofThreats ((ofThreats ts).threats ++ more) := by
  have h := ofThreats_hold ts
  have again := Entries.foldl_insert_hold (ofThreats ts).threats
  have kept := Entries.hold_of_distinct h.ids_distinct
  have entries : (ofThreats ts).threats.foldl Entries.insert .empty =
      ts.foldl Entries.insert .empty :=
    calc (ofThreats ts).threats.foldl Entries.insert .empty
      _ = ⟨(ofThreats ts).threats, ((ofThreats ts).threats.map Threat.id).zipIdx⟩ :=
        again.unique kept
      _ = ⟨(ofThreats ts).threats, (ofThreats ts).byId⟩ := by rw [ofThreats_byId]
      _ = ts.foldl Entries.insert .empty := rfl
  rw [ofThreats, ofThreats, List.foldl_append, List.foldl_append, entries]

theorem ofThreats_listsLatest (ts : List Threat) : ListsLatest ts (ofThreats ts) := by
  have h := ofThreats_hold ts
  refine ⟨h.ids_eq, h.ids_distinct, h.last, withId?_ofThreats ts, ?known, ofThreats_append ts,
    h.byId_within, fun before _ => (Entries.foldl_insert_hold before).byId_within,
    PositionIndex.build_within _ _, PositionIndex.build_within _ _,
    PositionIndex.build_within _ _, PositionIndex.build_within _ _⟩
  case known =>
    intro id
    rw [withId?_ofThreats, Option.isSome_iff_ne_none, ne_eq, lastWithId?_eq_none_iff, not_not]

end Catalogue

end CloudThreat
