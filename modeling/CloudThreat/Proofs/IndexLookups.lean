import CloudThreat.Api
import CloudThreat.Proofs.CatalogueEntries
import CloudThreat.Proofs.Tallies

namespace CloudThreat

namespace PositionIndex

variable {κ : Type} [DecidableEq κ] {index : PositionIndex κ}

theorem positions_add (key k : κ) (position : Nat) (index : PositionIndex κ) :
    (add key position index).positions k =
      index.positions k ++ if key = k then [position] else [] := by
  induction index with
  | nil => by_cases h : key = k <;> simp [add, positions, h]
  | cons x rest ih =>
    obtain ⟨first, ps⟩ := x
    rw [add]
    by_cases hf : first = key
    · subst hf
      by_cases hk : first = k <;> simp [positions, hk]
    · rw [if_neg hf, positions, positions, ih]
      by_cases hk : first = k
      · subst hk
        simp [Ne.symm hf]
      · simp [hk]

theorem positions_foldl_add (k : κ) (position : Nat) (keys : List κ) (index : PositionIndex κ) :
    (keys.foldl (fun index key => add key position index) index).positions k =
      index.positions k ++ List.replicate (keys.count k) position := by
  induction keys generalizing index with
  | nil => simp
  | cons key keys ih =>
    rw [List.foldl_cons, ih, positions_add, List.append_assoc, List.count_cons]
    by_cases h : key = k <;> simp [h, List.replicate_succ]

/-- An item has its position under a key as often as it has the key. -/
theorem positions_build {α : Type} (keys : α → List κ) (k : κ) (index : PositionIndex κ)
    (start : Nat) (items : List α) :
    (build keys index start items).positions k = index.positions k ++
      (items.zipIdx start).flatMap fun x => List.replicate ((keys x.1).count k) x.2 := by
  induction items generalizing index start with
  | nil => simp [build]
  | cons a items ih =>
    rw [build, ih, positions_foldl_add, List.zipIdx_cons, List.flatMap_cons, List.append_assoc]

/-- The counts of an index hold under the name of a key how many positions it has. -/
theorem count_counts {name : κ → String} (apart : Function.Injective name) (k : κ)
    (index : PositionIndex κ) :
    Tally.count (index.counts name) (name k) = (index.positions k).length := by
  induction index with
  | nil => rfl
  | cons x rest ih =>
    obtain ⟨first, ps⟩ := x
    rw [counts, List.map_cons, Tally.count_cons, positions]
    by_cases h : first = k
    · rw [if_pos (congrArg name h.symm), if_pos h]
    · have other : name k ≠ name first := fun same => h (apart same).symm
      rw [if_neg other, if_neg h]
      exact ih

end PositionIndex

namespace Catalogue

variable {c : Catalogue} {ts : List Threat} {t : Threat}

/-- The threats of a list, each as often as it has a key. -/
def mentions (keys : Threat → List String) (key : String) (ts : List Threat) : List Threat :=
  ts.flatMap fun t => List.replicate ((keys t).count key) t

/-- The threats of a list that have a key. -/
def withKey (keys : Threat → List String) (key : String) (ts : List Threat) : List Threat :=
  ts.filter fun t => (keys t).contains key

variable {keys : Threat → List String} {key : String}

section

variable {κ : Type} [DecidableEq κ]

theorem length_positions_build (keys : Threat → List κ) (key : κ) (ts : List Threat) :
    ((PositionIndex.build keys [] 0 ts).positions key).length =
      (ts.flatMap fun t => List.replicate ((keys t).count key) t).length := by
  have threats : ts.zipIdx.map (fun x => (keys x.1).count key) =
      ts.map fun t => (keys t).count key :=
    calc ts.zipIdx.map (fun x => (keys x.1).count key)
      _ = (ts.zipIdx.map Prod.fst).map fun t => (keys t).count key := by rw [List.map_map]; rfl
      _ = ts.map fun t => (keys t).count key := by rw [List.zipIdx_map_fst]
  rw [PositionIndex.positions_build, List.length_append, List.length_flatMap, List.length_flatMap]
  simp [PositionIndex.positions, threats]

/-- The threats at the positions of a key are those of the list, each as often as it has the key. -/
theorem collect_build (same : c.threats = ts) (keys : Threat → List κ) (key : κ) :
    c.collect ((PositionIndex.build keys [] 0 ts).positions key) =
      ts.flatMap fun t => List.replicate ((keys t).count key) t := by
  subst same
  have each : ∀ x ∈ c.threats.zipIdx,
      (List.replicate ((keys x.1).count key) x.2).filterMap (c.threats[·]?) =
        List.replicate ((keys x.1).count key) x.1 := by
    intro x hx
    have found := List.mem_zipIdx_iff_getElem?.mp hx
    simp [found]
  have threats : c.threats.zipIdx.map Prod.fst = c.threats := List.zipIdx_map_fst 0 c.threats
  calc c.collect ((PositionIndex.build keys [] 0 c.threats).positions key)
    _ = c.threats.zipIdx.flatMap fun x =>
        (List.replicate ((keys x.1).count key) x.2).filterMap (c.threats[·]?) := by
      rw [PositionIndex.positions_build, collect]
      simp [PositionIndex.positions, List.filterMap_flatMap]
    _ = c.threats.zipIdx.flatMap fun x => List.replicate ((keys x.1).count key) x.1 :=
      List.flatMap_congr each
    _ = (c.threats.zipIdx.map Prod.fst).flatMap fun t =>
        List.replicate ((keys t).count key) t := by rw [List.flatMap_map]
    _ = c.threats.flatMap fun t => List.replicate ((keys t).count key) t := by rw [threats]

end

theorem ofResourceType_ofThreats (ts : List Threat) (type : String) :
    (ofThreats ts).ofResourceType type =
      mentions Threat.resourceTypes type (ofThreats ts).threats :=
  collect_build rfl _ _

theorem ofProvider_ofThreats (ts : List Threat) (provider : String) :
    (ofThreats ts).ofProvider provider =
      mentions Threat.cloudProviders provider (ofThreats ts).threats :=
  collect_build rfl _ _

theorem statistics_byProvider_ofThreats (ts : List Threat) (provider : String) :
    Tally.count (ofThreats ts).statistics.byProvider provider =
      (mentions Threat.cloudProviders provider (ofThreats ts).threats).length := by
  rw [mentions, ← length_positions_build]
  exact PositionIndex.count_counts Function.injective_id provider _

theorem mentions_cons (t : Threat) (ts : List Threat) : mentions keys key (t :: ts) =
    List.replicate ((keys t).count key) t ++ mentions keys key ts :=
  List.flatMap_cons

theorem withKey_cons (t : Threat) (ts : List Threat) : withKey keys key (t :: ts) =
    (if key ∈ keys t then [t] else []) ++ withKey keys key ts := by
  by_cases h : key ∈ keys t <;> simp [withKey, h]

theorem length_withKey_le (keys : Threat → List String) (key : String) (ts : List Threat) :
    (withKey keys key ts).length ≤ (mentions keys key ts).length := by
  induction ts with
  | nil => exact Nat.le_refl _
  | cons t ts ih =>
    rw [withKey_cons, mentions_cons, List.length_append, List.length_append, List.length_replicate]
    by_cases h : key ∈ keys t
    · have := List.count_pos_iff.mpr h
      simp [h]
      omega
    · simp [h]
      omega

theorem mentions_eq_withKey (once : ∀ t ∈ ts, (keys t).count key ≤ 1) :
    mentions keys key ts = withKey keys key ts := by
  induction ts with
  | nil => rfl
  | cons t ts ih =>
    obtain ⟨first, others⟩ := List.forall_mem_cons.mp once
    rw [mentions_cons, withKey_cons, ih others]
    by_cases h : key ∈ keys t
    · have := List.count_pos_iff.mpr h
      have single : (keys t).count key = 1 := by omega
      simp [single, h]
    · simp [List.count_eq_zero.mpr h, h]

theorem count_le_one_of_length (shorter : (mentions keys key ts).length ≤
    (withKey keys key ts).length) : ∀ t ∈ ts, (keys t).count key ≤ 1 := by
  induction ts with
  | nil => simp
  | cons t ts ih =>
    have others := length_withKey_le keys key ts
    rw [withKey_cons, mentions_cons, List.length_append, List.length_append,
      List.length_replicate] at shorter
    by_cases h : key ∈ keys t
    · have := List.count_pos_iff.mpr h
      rw [if_pos h, List.length_singleton] at shorter
      exact List.forall_mem_cons.mpr ⟨by omega, ih (by omega)⟩
    · have := List.count_eq_zero.mpr h
      rw [if_neg h, List.length_nil] at shorter
      exact List.forall_mem_cons.mpr ⟨by omega, ih (by omega)⟩

/-- Going by mentions gives the threats that have a key just if none has it twice. -/
theorem mentions_eq_withKey_iff :
    mentions keys key ts = withKey keys key ts ↔ ∀ t ∈ ts, (keys t).count key ≤ 1 :=
  ⟨fun h => count_le_one_of_length (Nat.le_of_eq (congrArg List.length h)), mentions_eq_withKey⟩

theorem withKey_sublist (keys : Threat → List String) (key : String) (ts : List Threat) :
    (withKey keys key ts).Sublist ts :=
  List.filter_sublist

/-- What look-ups by the indexes are to have in common with a search through all threats. -/
structure AgreesWithSearch (c : Catalogue) : Prop where
  ofResourceType_eq : ∀ type, c.ofResourceType type = withKey Threat.resourceTypes type c.threats
  ofProvider_eq : ∀ provider, c.ofProvider provider =
    withKey Threat.cloudProviders provider c.threats
  ofResourceType_distinct : ∀ type, ((c.ofResourceType type).map Threat.id).Nodup
  ofProvider_distinct : ∀ provider, ((c.ofProvider provider).map Threat.id).Nodup
  byProvider_count : ∀ provider, Tally.count c.statistics.byProvider provider =
    (withKey Threat.cloudProviders provider c.threats).length
  /-- A listing by type shows no threat twice and counts no more threats than there are. -/
  listing : ∀ (request : ApiRequest) (query : ThreatQuery) (severity : Option Severity),
    ThreatQuery.ofFields? (Uri.queryFields request.uri) = some query →
    query.resourceType.isSome = true → query.severity.mapM Severity.ofText = .ok severity →
    ∃ listed : List Threat, (listed.map Threat.id).Nodup ∧ listed.length ≤ c.size ∧
      Api.listThreats c request = .ok (Json.object [
        ("total", Json.ofNat listed.length), ("threats", Json.ofList Threat.toJson listed)])

/-- A listing by type is a part of what the index finds. -/
theorem select_sublist {query : ThreatQuery} {type : String}
    (asked : query.resourceType = some type) (severity : Option Severity) :
    (Api.select c query severity).Sublist (c.ofResourceType type) := by
  rw [Api.select, asked]
  exact List.filter_sublist

theorem listThreats_of_query {request : ApiRequest} {query : ThreatQuery}
    {severity : Option Severity}
    (read : ThreatQuery.ofFields? (Uri.queryFields request.uri) = some query)
    (known : query.severity.mapM Severity.ofText = .ok severity) :
    Api.listThreats c request = .ok (Json.object [
      ("total", Json.ofNat (Api.select c query severity).length),
      ("threats", Json.ofList Threat.toJson (Api.select c query severity))]) := by
  rw [Api.listThreats, read]
  simp only [known]

theorem agreesWithSearch_of_eq (distinct : (c.threats.map Threat.id).Nodup)
    (types : ∀ type, c.ofResourceType type = withKey Threat.resourceTypes type c.threats)
    (providers : ∀ provider, c.ofProvider provider =
      withKey Threat.cloudProviders provider c.threats)
    (counts : ∀ provider, Tally.count c.statistics.byProvider provider =
      (c.ofProvider provider).length) : c.AgreesWithSearch := by
  refine ⟨types, providers, ?types, ?providers, ?counts, ?listing⟩
  case types =>
    intro type
    rw [types]
    exact ((withKey_sublist _ _ _).map Threat.id).nodup distinct
  case providers =>
    intro provider
    rw [providers]
    exact ((withKey_sublist _ _ _).map Threat.id).nodup distinct
  case counts =>
    intro provider
    rw [counts, providers]
  case listing =>
    intro request query severity read asked known
    obtain ⟨type, htype⟩ := Option.isSome_iff_exists.mp asked
    have part : (Api.select c query severity).Sublist c.threats := by
      have found := select_sublist htype severity (c := c)
      rw [types] at found
      exact found.trans (withKey_sublist _ _ _)
    exact ⟨_, (part.map Threat.id).nodup distinct, part.length_le, listThreats_of_query read known⟩

theorem mem_ofThreats_iff :
    t ∈ (ofThreats ts).threats ↔ t ∈ ts ∧ lastWithId? ts t.id = some t := by
  have h := ofThreats_hold ts
  constructor
  · intro ht
    have last := h.last t ht
    exact ⟨List.mem_of_mem_filter (List.mem_of_getLast? last), last⟩
  · rintro ⟨ht, last⟩
    have known : t.id ∈ (ofThreats ts).threats.map Threat.id :=
      h.mem_ids_iff.mpr (List.mem_map_of_mem ht)
    obtain ⟨u, hu, same⟩ := List.mem_map.mp known
    have latest := h.last u hu
    rw [same, last] at latest
    exact Option.some.inj latest ▸ hu

theorem mentions_eq_withKey_all_iff :
    (∀ key, mentions keys key ts = withKey keys key ts) ↔ ∀ t ∈ ts, (keys t).Nodup := by
  simp only [mentions_eq_withKey_iff, List.nodup_iff_count_le_one]
  exact ⟨fun h t ht key => h key t ht, fun h key t ht => h t ht key⟩

/-- The indexes of a catalogue agree with a search just if no definition that is the last under its
id mentions a type or a provider twice. -/
theorem ofThreats_agreesWithSearch_iff (ts : List Threat) :
    (ofThreats ts).AgreesWithSearch ↔
      ∀ t ∈ ts, lastWithId? ts t.id = some t → t.resourceTypes.Nodup ∧ t.cloudProviders.Nodup := by
  have members : (∀ t ∈ ts, lastWithId? ts t.id = some t →
      t.resourceTypes.Nodup ∧ t.cloudProviders.Nodup) ↔
      (∀ t ∈ (ofThreats ts).threats, t.resourceTypes.Nodup) ∧
        ∀ t ∈ (ofThreats ts).threats, t.cloudProviders.Nodup := by
    rw [← forall₂_and]
    exact forall_congr' fun t => by rw [mem_ofThreats_iff, and_imp]
  rw [members, ← mentions_eq_withKey_all_iff, ← mentions_eq_withKey_all_iff]
  constructor
  · intro agrees
    refine ⟨fun type => ?_, fun provider => ?_⟩
    · rw [← ofResourceType_ofThreats, agrees.ofResourceType_eq]
    · rw [← ofProvider_ofThreats, agrees.ofProvider_eq]
  · rintro ⟨types, providers⟩
    refine agreesWithSearch_of_eq (ofThreats_hold ts).ids_distinct ?_ ?_ ?_
    · exact fun type => (ofResourceType_ofThreats ts type).trans (types type)
    · exact fun provider => (ofProvider_ofThreats ts provider).trans (providers provider)
    · exact fun provider => by rw [statistics_byProvider_ofThreats, ofProvider_ofThreats]

/-- A rule for buckets whose type is written down twice. -/
def bucketTwice : Threat :=
  { Threat.new "S3-1" "Public bucket" .high .likely "Data Exposure" with
    resourceTypes := ["aws_s3_bucket", "aws_s3_bucket"] }

theorem typeTwice_found_twice :
    ((ofThreats [bucketTwice]).ofResourceType "aws_s3_bucket").map Threat.id = ["S3-1", "S3-1"] ∧
    ¬ (ofThreats [bucketTwice]).AgreesWithSearch := by
  have twice : ((ofThreats [bucketTwice]).ofResourceType "aws_s3_bucket").map Threat.id =
      ["S3-1", "S3-1"] := by decide
  refine ⟨twice, fun agrees => ?_⟩
  have distinct := agrees.ofResourceType_distinct "aws_s3_bucket"
  rw [twice] at distinct
  exact absurd distinct (by decide)

end Catalogue

end CloudThreat
