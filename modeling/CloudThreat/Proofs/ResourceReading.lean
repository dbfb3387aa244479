import CloudThreat.Proofs.RawResources

namespace CloudThreat

theorem Reader.natural_gives (bound : Nat) (wanted : String) :
    Reader.Gives (Reader.natural bound wanted) fun n => n ≤ bound := by
  intro j n h
  match j with
  | .num (.int i) =>
    rw [Reader.natural] at h
    split at h
    next inside =>
      obtain ⟨_, upper⟩ := Bool.and_eq_true_iff.mp inside
      have bounded : i ≤ (bound : Int) := of_decide_eq_true upper
      cases h
      omega
    next => cases h
  | .num (.float _) | .null | .bool _ | .str _ | .arr _ | .obj _ => cases h

theorem Reader.natural_ofNat {bound n : Nat} (wanted : String) (h : n ≤ bound) :
    Reader.natural bound wanted (Json.ofNat n) = .ok n := by
  have inside : (0 ≤ (n : Int) && (n : Int) ≤ (bound : Int)) = true := by simpa using h
  rw [Json.ofNat, Reader.natural, if_pos inside, Int.toNat_natCast]

namespace Resource

variable {raw : Json} {raws : List Json} {r : Resource} {rs : List Resource} {index : Nat}

/-- What holds of every resource that passed the checks. -/
structure Checked (r : Resource) : Prop extends Complete r where
  lineNumber : ∀ n, r.lineNumber = some n → n ≤ WordSize.maxUnsigned 64

/-- The fields that are written of a resource. -/
def writtenFields (r : Resource) : List (String × Json) :=
  r.commonFields ++ (r.id.map fun id => ("id", Json.str id)).toList

theorem writtenFields_keys_nodup (r : Resource) : (r.writtenFields.map Prod.fst).Nodup := by
  have names : r.writtenFields.map Prod.fst = [
      "resource_type", "name", "full_name", "cloud_provider", "location", "line_number",
      "depends_on", "properties"] ++ (r.id.map fun _ => "id").toList := by
    cases h : r.id <;> simp [writtenFields, commonFields, h]
  rw [names]
  cases r.id with
  | none => exact (by decide : ([
      "resource_type", "name", "full_name", "cloud_provider", "location", "line_number",
      "depends_on", "properties"] : List String).Nodup)
  | some id => exact (by decide : ([
      "resource_type", "name", "full_name", "cloud_provider", "location", "line_number",
      "depends_on", "properties", "id"] : List String).Nodup)

/-- A field that every resource is written with is read from there. -/
theorem reads_common {α : Type} {name : String} {read : Reader α} {absent past : Option α}
    {j : Json} {a : α} (other : name ≠ "id")
    (placed : r.commonFields.filter (fun f => [name].contains f.1) = [(name, j)])
    (back : read j = .ok a) :
    (Fields.field [name] read absent past).Reads (JsonObject.ofList r.writtenFields) a := by
  have found : r.writtenFields.filter (fun f => [name].contains f.1) = [(name, j)] := by
    rw [writtenFields, List.filter_append, placed]
    cases r.id with
    | none => rfl
    | some id => simp [Ne.symm other]
  exact .field r.writtenFields_keys_nodup found back

theorem reads_id {read : Reader String} {past : Option (Option String)}
    (back : ∀ id, read (.str id) = .ok id) :
    (Fields.field ["id"] (Reader.nullable read) (some none) past).Reads
      (JsonObject.ofList r.writtenFields) r.id := by
  have distinct := r.writtenFields_keys_nodup
  cases h : r.id with
  | none =>
    refine .field_absent distinct ?_
    simp [writtenFields, commonFields, h]
  | some id =>
    have found : r.writtenFields.filter (fun f => ["id"].contains f.1) = [("id", .str id)] := by
      simp [writtenFields, commonFields, h]
    have shown : Reader.nullable read (.str id) = .ok (some id) := by
      rw [Reader.nullable_of_ne_null Json.noConfusion, back]
      rfl
    exact .field distinct found shown

theorem read_toJson (bounded : ∀ n, r.lineNumber = some n → n ≤ WordSize.maxUnsigned 64) :
    read r.toJson = .ok r := by
  have ofText : ∀ text : Option String,
      Reader.nullable Reader.text (Json.ofOption .str text) = .ok text :=
    fun _ => Reader.nullable_ofOption fun _ _ => ⟨rfl, Json.noConfusion⟩
  have ofLine : Reader.nullable (Reader.natural (WordSize.maxUnsigned 64) "usize")
      (Json.ofOption Json.ofNat r.lineNumber) = .ok r.lineNumber :=
    Reader.nullable_ofOption fun n hn =>
      ⟨Reader.natural_ofNat "usize" (bounded n hn), Json.noConfusion⟩
  refine Fields.Reads.read "struct Resource" ?_
  change fields.Reads (JsonObject.ofList r.writtenFields)
    (mk r.id r.resourceType r.name r.fullName r.cloudProvider r.location r.lineNumber r.dependsOn
      r.properties)
  unfold fields
  iterate 8 refine Fields.Reads.seq ?_ ?_
  · exact .map _ (reads_id fun _ => rfl)
  · exact reads_common (by decide) rfl rfl
  · exact reads_common (by decide) rfl rfl
  · exact reads_common (by decide) rfl rfl
  · exact reads_common (by decide) rfl (ofText r.cloudProvider)
  · exact reads_common (by decide) rfl (ofText r.location)
  · exact reads_common (by decide) rfl ofLine
  · exact reads_common (by decide) rfl (Reader.list_ofStrings r.dependsOn)
  · exact reads_common (by decide) rfl rfl

theorem read_gives :
    Reader.Gives read fun r => ∀ n, r.lineNumber = some n → n ≤ WordSize.maxUnsigned 64 := by
  refine Fields.Gives.read ?_ "struct Resource"
  unfold fields
  iterate 2 refine .seq_any ?_
  refine .seq (P := fun line => ∀ n, line = some n → n ≤ WordSize.maxUnsigned 64) ?_
    (.field (Reader.natural_gives _ _).nullable (by simp) (by simp))
  iterate 5 refine .seq_any ?_
  exact .map (Fields.gives_of_forall fun _ _ _ _ _ _ _ bounded _ _ => bounded)

theorem Complete.completed_eq (h : r.Complete) : completed r = r := by
  have properties : (if r.properties.isNull then Json.obj [] else r.properties) = r.properties := by
    match hp : r.properties with
    | .obj _ => rfl
    | .null | .bool _ | .num _ | .str _ | .arr _ =>
      have object := h.properties
      rw [hp] at object
      cases object
  have named : r.fullName.isEmpty = false := by simpa using h.fullName
  have provided : r.cloudProvider.or (providerOfType r.resourceType) = r.cloudProvider := by
    cases known : providerOfType r.resourceType with
    | none => exact Option.or_none
    | some p =>
      obtain ⟨q, hq⟩ := h.cloudProvider p known
      rw [hq, Option.some_or]
  simp only [completed, normalized, properties, named, provided, Bool.false_eq_true, if_false]

theorem checked_of_ofRaw (h : ofRaw index raw = .ok r) : r.Checked := by
  refine ⟨complete_of_ofRaw h, ?_⟩
  obtain ⟨verdict, judged, same⟩ := exists_judged raw
  rw [same] at h
  cases judged with
  | complete _ _ _ hr =>
    cases h
    exact fun n hn => read_gives _ _ hr n hn
  | _ => cases h

theorem HasText.requiredText_eq {o : JsonObject} {name text : String} (h : HasText o name text)
    (index : Nat) : requiredText index o name = .ok text := by
  obtain ⟨found, shown⟩ := h
  simp [requiredText, found, shown]

/-- A resource with all that the checks ask for is accepted as it is. -/
theorem Checked.ofRaw_toJson (h : r.Checked) (index : Nat) : ofRaw index r.toJson = .ok r := by
  have back : read (.obj (JsonObject.ofList r.writtenFields)) = .ok r := read_toJson h.lineNumber
  obtain ⟨typed, named, properties⟩ := fields_of_object (fields_of_read back)
  have type := HasText.requiredText_eq ⟨typed, h.resourceType⟩ index
  have name := HasText.requiredText_eq ⟨named, h.name⟩ index
  have valid : ((propertiesOf (JsonObject.ofList r.writtenFields)).isObject ||
      (propertiesOf (JsonObject.ofList r.writtenFields)).isNull) = true := by
    rw [← properties, h.properties, Bool.true_or]
  change ofRaw index (.obj (JsonObject.ofList r.writtenFields)) = .ok r
  rw [ofRaw_obj, type, name, Except.bind, Except.bind, if_pos valid, back]
  exact congrArg Except.ok h.completed_eq

/-- What is written of a resource is checked to be that resource again just if it is such as the
checks let pass. -/
theorem ofRaw_toJson_iff : ofRaw index r.toJson = .ok r ↔ r.Checked :=
  ⟨checked_of_ofRaw, fun h => h.ofRaw_toJson index⟩

theorem ofRawList_toJson_iff : ofRawList (rs.map toJson) = .ok rs ↔ ∀ r ∈ rs, r.Checked := by
  rw [ofRawList, ofRawFrom_eq_ok_iff, List.forall₂_map_left_iff, List.forall₂_same]
  exact forall₂_congr fun _ _ => ofRaw_toJson_iff

theorem checked_of_ofRawList (h : ofRawList raws = .ok rs) : ∀ r ∈ rs, r.Checked := by
  have each := ofRawFrom_eq_ok_iff.mp h
  clear h
  induction each with
  | nil => simp
  | cons first _ ih => exact List.forall_mem_cons.mpr ⟨checked_of_ofRaw first, ih⟩

/-- Checking is settled after one time. What is written of accepted resources is accepted with the
same resources, and the resources of which that is so are just those that have all that the checks
ask for. -/
theorem ofRawList_toJson_back :
    (∀ raws rs, ofRawList raws = .ok rs → ofRawList (rs.map toJson) = .ok rs) ∧
    ∀ rs, ofRawList (rs.map toJson) = .ok rs ↔ ∀ r ∈ rs, r.Checked := by
  refine ⟨fun raws rs h => ?_, fun rs => ofRawList_toJson_iff⟩
  exact ofRawList_toJson_iff.mpr (checked_of_ofRawList h)

/-- A number of a line, a null for the id and for the provider, a tree of properties, and no full
name. -/
def rawDatabase : Json :=
  .obj [
    ("cloud_provider", .null), ("id", .null), ("line_number", .num (.int 42)),
    ("location", .str "db.tf"), ("name", .str "main"),
    ("properties", .obj [("settings", .arr [.obj [("tier", .null)], .num (.float .zero)])]),
    ("resource_type", .str "google_sql_database_instance")]

theorem rawDatabase_back :
    ∃ r, ofRawList [rawDatabase, rawBucket] = .ok [r, new "aws_s3_bucket" "logs" (.obj [])] ∧
      r.id = none ∧ r.fullName = "google_sql_database_instance.main" ∧
      r.cloudProvider = some "gcp" ∧ r.lineNumber = some 42 ∧
      ofRawList ([r, new "aws_s3_bucket" "logs" (.obj [])].map toJson) =
        .ok [r, new "aws_s3_bucket" "logs" (.obj [])] := by
  obtain ⟨back, _⟩ := ofRawList_toJson_back
  have accepted : ofRawList [rawDatabase, rawBucket] = .ok [
      ⟨none, "google_sql_database_instance", "main", "google_sql_database_instance.main",
        some "gcp", some "db.tf", some 42, [],
        .obj [("settings", .arr [.obj [("tier", .null)], .num (.float .zero)])]⟩,
      new "aws_s3_bucket" "logs" (.obj [])] := rfl
  exact ⟨_, accepted, rfl, rfl, rfl, rfl, back _ _ accepted⟩

end Resource

end CloudThreat
