import CloudThreat.Proofs.RecordReading
import CloudThreat.Resource

namespace CloudThreat

namespace InputError

/-- The same error at another position. -/
def placedAt (index : Nat) : InputError → InputError
  | notAnObject _ => notAnObject index
  | missingField _ field => missingField index field
  | invalidProperties _ fullName => invalidProperties index fullName
  | malformed _ reason => malformed index reason

end InputError

namespace Resource

variable {o : JsonObject} {raw : Json} {raws : List Json} {r : Resource} {rs : List Resource}
  {index : Nat} {e : InputError}

/-- A text that is not empty stands under the name. -/
def HasText (o : JsonObject) (name text : String) : Prop :=
  o.find? name = some (.str text) ∧ text ≠ ""

theorem requiredText_cases (o : JsonObject) (name : String) :
    (∃ text, HasText o name text ∧ ∀ index, requiredText index o name = .ok text) ∨
      ((∀ text, ¬ HasText o name text) ∧
        ∀ index, requiredText index o name = .error (.missingField index name)) := by
  match found : o.find? name with
  | some (.str s) =>
    by_cases empty : s = ""
    · refine .inr ⟨?_, fun index => by simp [requiredText, found, empty]⟩
      rintro text ⟨same, shown⟩
      cases found.symm.trans same
      exact shown empty
    · exact .inl ⟨s, ⟨found, empty⟩, fun index => by simp [requiredText, found, empty]⟩
  | none | some .null | some (.bool _) | some (.num _) | some (.arr _) | some (.obj _) =>
    refine .inr ⟨?_, fun index => by simp [requiredText, found]⟩
    rintro text ⟨same, _⟩
    cases found.symm.trans same

/-- The resource that is made of what was read. -/
def completed (r : Resource) : Resource :=
  { r with properties := if r.properties.isNull then .obj [] else r.properties }.normalized

def propertiesOf (o : JsonObject) : Json :=
  (o.find? "properties").getD (.obj [])

/-- What a value is judged to be at every position: the checks in their order, each made of what
passed the ones before. -/
inductive Judged : Json → (Nat → Except InputError Resource) → Prop
  | notAnObject {raw : Json} : raw.isObject = false → Judged raw fun i => .error (.notAnObject i)
  | noType {o : JsonObject} : (∀ type, ¬ HasText o "resource_type" type) →
      Judged (.obj o) fun i => .error (.missingField i "resource_type")
  | noName {o : JsonObject} {type : String} : HasText o "resource_type" type →
      (∀ name, ¬ HasText o "name" name) →
      Judged (.obj o) fun i => .error (.missingField i "name")
  | invalidProperties {o : JsonObject} {type name : String} : HasText o "resource_type" type →
      HasText o "name" name → (propertiesOf o).isObject = false → (propertiesOf o).isNull = false →
      Judged (.obj o) fun i => .error (.invalidProperties i (joinedName type name))
  | malformed {o : JsonObject} {type name : String} {reason : ReadError} :
      HasText o "resource_type" type → HasText o "name" name →
      ((propertiesOf o).isObject || (propertiesOf o).isNull) = true →
      read (.obj o) = .error reason → Judged (.obj o) fun i => .error (.malformed i reason)
  | complete {o : JsonObject} {type name : String} {r : Resource} :
      HasText o "resource_type" type → HasText o "name" name →
      ((propertiesOf o).isObject || (propertiesOf o).isNull) = true →
      read (.obj o) = .ok r → Judged (.obj o) fun _ => .ok (completed r)

theorem ofRaw_obj (index : Nat) (o : JsonObject) : ofRaw index (.obj o) =
    (requiredText index o "resource_type").bind fun type =>
      (requiredText index o "name").bind fun name =>
        if (propertiesOf o).isObject || (propertiesOf o).isNull then
          ((read (.obj o)).mapError (.malformed index)).bind fun r => .ok (completed r)
        else .error (.invalidProperties index (joinedName type name)) :=
  rfl

theorem exists_judged (raw : Json) :
    ∃ verdict, Judged raw verdict ∧ ∀ index, ofRaw index raw = verdict index := by
  cases raw with
  | obj o =>
    rcases requiredText_cases o "resource_type" with ⟨type, hasType, typed⟩ | ⟨lacks, missing⟩
    case inr =>
      refine ⟨_, .noType lacks, fun index => ?_⟩
      rw [ofRaw_obj, missing]
      rfl
    rcases requiredText_cases o "name" with ⟨name, hasName, named⟩ | ⟨lacks, missing⟩
    case inr =>
      refine ⟨_, .noName hasType lacks, fun index => ?_⟩
      rw [ofRaw_obj, typed, missing]
      rfl
    by_cases valid : ((propertiesOf o).isObject || (propertiesOf o).isNull) = true
    · cases hr : read (.obj o) with
      | error reason =>
        refine ⟨_, .malformed hasType hasName valid hr, fun index => ?_⟩
        rw [ofRaw_obj, typed, named, Except.bind, Except.bind, if_pos valid, hr]
        rfl
      | ok r =>
        refine ⟨_, .complete hasType hasName valid hr, fun index => ?_⟩
        rw [ofRaw_obj, typed, named, Except.bind, Except.bind, if_pos valid, hr]
        rfl
    · obtain ⟨noObject, noNull⟩ := Bool.or_eq_false_iff.mp (eq_false_of_ne_true valid)
      refine ⟨_, .invalidProperties hasType hasName noObject noNull, fun index => ?_⟩
      rw [ofRaw_obj, typed, named, Except.bind, Except.bind, if_neg valid]
  | _ => exact ⟨_, .notAnObject rfl, fun _ => rfl⟩

theorem find?_of_required {name text : String}
    (h : (Fields.required name Reader.text).ofObject o = .value text) :
    o.find? name = some (.str text) := by
  rcases Fields.eq_value_of_field h with ⟨j, found, back⟩ | ⟨_, absent⟩
  · cases j with
    | str s =>
      cases back
      exact found
    | _ => cases back
  · cases absent

/-- Where in an object the fields come from that are checked before it is read. -/
theorem fields_of_object (h : fields.ofObject o = .value r) :
    o.find? "resource_type" = some (.str r.resourceType) ∧
      o.find? "name" = some (.str r.name) ∧ r.properties = propertiesOf o := by
  simp only [fields, Fields.ofObject_seq] at h
  obtain ⟨_, _, h, properties, _⟩ := FieldsResult.eq_value_of_seq h
  iterate 5 obtain ⟨_, _, h, _, _⟩ := FieldsResult.eq_value_of_seq h
  obtain ⟨_, _, h, name, _⟩ := FieldsResult.eq_value_of_seq h
  obtain ⟨_, _, h, type, _⟩ := FieldsResult.eq_value_of_seq h
  rw [Fields.ofObject_map] at h
  split at h
  case h_2 => cases h
  case h_3 => cases h
  cases h
  subst_vars
  refine ⟨find?_of_required type, find?_of_required name, ?_⟩
  rw [propertiesOf]
  rcases Fields.eq_value_of_field properties with ⟨j, found, back⟩ | ⟨absent, default⟩
  · cases back
    rw [found]
    rfl
  · cases default
    rw [absent]
    rfl

theorem fields_of_read (h : read (.obj o) = .ok r) : fields.ofObject o = .value r := by
  rw [read, Fields.read] at h
  split at h
  · next a ha =>
    cases h
    exact ha
  · cases h
  · cases h

/-- What the later steps rely on. -/
structure Complete (r : Resource) : Prop where
  resourceType : r.resourceType ≠ ""
  name : r.name ≠ ""
  fullName : r.fullName ≠ ""
  properties : r.properties.isObject = true
  cloudProvider : ∀ p, providerOfType r.resourceType = some p → ∃ q, r.cloudProvider = some q

theorem joinedName_ne_empty (resourceType name : String) : joinedName resourceType name ≠ "" := by
  simp [joinedName]

theorem completed_complete {type name : String} (hasType : HasText o "resource_type" type)
    (hasName : HasText o "name" name)
    (valid : ((propertiesOf o).isObject || (propertiesOf o).isNull) = true)
    (h : read (.obj o) = .ok r) : (completed r).Complete := by
  obtain ⟨typed, named, properties⟩ := fields_of_object (fields_of_read h)
  obtain ⟨hasType, typeShown⟩ := hasType
  obtain ⟨hasName, nameShown⟩ := hasName
  cases typed.symm.trans hasType
  cases named.symm.trans hasName
  constructor
  case resourceType => exact typeShown
  case name => exact nameShown
  case fullName =>
    simp only [completed, normalized]
    split
    · exact joinedName_ne_empty _ _
    · next shown => simpa using shown
  case properties =>
    simp only [completed, normalized]
    split
    · rfl
    · next shown =>
      rw [properties] at shown ⊢
      simpa [shown] using valid
  case cloudProvider =>
    intro p known
    have derived : (completed r).cloudProvider = r.cloudProvider.or (some p) := by
      rw [← known]
      rfl
    rw [derived]
    cases r.cloudProvider with
    | none => exact ⟨p, rfl⟩
    | some q => exact ⟨q, rfl⟩

theorem complete_of_ofRaw (h : ofRaw index raw = .ok r) : r.Complete := by
  obtain ⟨verdict, judged, same⟩ := exists_judged raw
  rw [same] at h
  cases judged with
  | complete hasType hasName valid hr =>
    cases h
    exact completed_complete hasType hasName valid hr
  | _ => cases h

/-- The position of a value shows in its error only. -/
theorem ofRaw_placedAt (i j : Nat) (raw : Json) :
    ofRaw j raw = (ofRaw i raw).mapError (.placedAt j) := by
  obtain ⟨verdict, judged, same⟩ := exists_judged raw
  rw [same, same]
  cases judged <;> rfl

theorem ofRaw_eq_ok_iff (i j : Nat) : ofRaw i raw = .ok r ↔ ofRaw j raw = .ok r := by
  rw [ofRaw_placedAt i j]
  cases ofRaw i raw <;> simp [Except.mapError]

theorem ofRawFrom_cons (index : Nat) (raw : Json) (raws : List Json) :
    ofRawFrom index (raw :: raws) = (ofRaw index raw).bind fun r =>
      (ofRawFrom (index + 1) raws).bind fun rs => .ok (r :: rs) :=
  rfl

/-- A list is accepted with the resources that its values give one by one. -/
theorem ofRawFrom_eq_ok_iff : ofRawFrom index raws = .ok rs ↔
    List.Forall₂ (fun raw r => ofRaw 0 raw = .ok r) raws rs := by
  induction raws generalizing index rs with
  | nil => cases rs <;> simp [ofRawFrom]
  | cons raw raws ih =>
    rw [ofRawFrom_cons]
    constructor
    · intro h
      cases hr : ofRaw index raw with
      | error e =>
        rw [hr] at h
        cases h
      | ok r =>
        cases hs : ofRawFrom (index + 1) raws with
        | error e =>
          rw [hr, hs] at h
          cases h
        | ok rest =>
          rw [hr, hs] at h
          cases h
          exact .cons ((ofRaw_eq_ok_iff index 0).mp hr) (ih.mp hs)
    · rintro (_ | ⟨first, others⟩)
      rw [(ofRaw_eq_ok_iff index 0).mpr first, ih.mpr others]
      rfl

/-- A list is refused with the error of the first value that is refused by itself. -/
theorem ofRawFrom_eq_error_iff : ofRawFrom index raws = .error e ↔
    ∃ before raw after e', raws = before ++ raw :: after ∧
      (∀ earlier ∈ before, ∃ r, ofRaw 0 earlier = .ok r) ∧ ofRaw 0 raw = .error e' ∧
      e = e'.placedAt (index + before.length) := by
  induction raws generalizing index with
  | nil => simp [ofRawFrom]
  | cons raw raws ih =>
    rw [ofRawFrom_cons, ofRaw_placedAt 0 index]
    cases hr : ofRaw 0 raw with
    | error e' =>
      constructor
      · intro h
        cases h
        exact ⟨[], raw, raws, e', rfl, by simp, hr, rfl⟩
      · rintro ⟨before, refused, after, e'', split, accepted, hr', rfl⟩
        cases before with
        | nil =>
          cases split
          cases hr.symm.trans hr'
          rfl
        | cons first before =>
          cases split
          obtain ⟨r, hr'⟩ := accepted _ List.mem_cons_self
          cases hr.symm.trans hr'
    | ok r =>
      have later : ((Except.ok r : Except InputError Resource).mapError (.placedAt index)).bind
            (fun r => (ofRawFrom (index + 1) raws).bind fun rs => .ok (r :: rs)) = .error e ↔
          ofRawFrom (index + 1) raws = .error e := by
        cases ofRawFrom (index + 1) raws <;> simp [Except.mapError, Except.bind]
      rw [later, ih]
      constructor
      · rintro ⟨before, refused, after, e', rfl, accepted, hr', rfl⟩
        refine ⟨raw :: before, refused, after, e', rfl,
          List.forall_mem_cons.mpr ⟨⟨r, hr⟩, accepted⟩, hr', ?_⟩
        rw [List.length_cons, Nat.add_right_comm, Nat.add_assoc]
      · rintro ⟨before, refused, after, e', split, accepted, hr', rfl⟩
        cases before with
        | nil =>
          cases split
          cases hr.symm.trans hr'
        | cons first before =>
          cases split
          refine ⟨before, refused, after, e', rfl, (List.forall_mem_cons.mp accepted).2, hr', ?_⟩
          rw [List.length_cons, Nat.add_right_comm, Nat.add_assoc]

theorem ofRawList_singleton (raw : Json) :
    ofRawList [raw] = (ofRaw 0 raw).map fun r => [r] := by
  rw [ofRawList, ofRawFrom_cons]
  cases ofRaw 0 raw <;> rfl

theorem ofRawList_singleton_eq_ok_iff :
    ofRawList [raw] = .ok rs ↔ ∃ r, ofRaw 0 raw = .ok r ∧ rs = [r] := by
  rw [ofRawList_singleton]
  cases ofRaw 0 raw <;> simp [Except.map, eq_comm]

theorem ofRawList_singleton_eq_error_iff :
    ofRawList [raw] = .error e ↔ ofRaw 0 raw = .error e := by
  rw [ofRawList_singleton]
  cases ofRaw 0 raw <;> simp [Except.map]

theorem accepted_alone_iff :
    (∃ rs, ofRawList [raw] = .ok rs) ↔ ∃ r, ofRaw 0 raw = .ok r := by
  simp only [ofRawList_singleton_eq_ok_iff]
  constructor
  · rintro ⟨_, r, hr, _⟩
    exact ⟨r, hr⟩
  · rintro ⟨r, hr⟩
    exact ⟨[r], r, hr, rfl⟩

theorem accepted_iff :
    (∃ rs, ofRawList raws = .ok rs) ↔ ∀ raw ∈ raws, ∃ r, ofRaw 0 raw = .ok r := by
  simp only [ofRawList, ofRawFrom_eq_ok_iff]
  induction raws with
  | nil => simp
  | cons raw raws ih =>
    rw [List.forall_mem_cons, ← ih]
    simp only [List.forall₂_cons_left_iff]
    constructor
    · rintro ⟨_, r, rs, hr, others, _⟩
      exact ⟨⟨r, hr⟩, rs, others⟩
    · rintro ⟨⟨r, hr⟩, rs, others⟩
      exact ⟨r :: rs, r, rs, hr, others, rfl⟩

theorem forall₂_alone_iff {parts : List (List Resource)} :
    List.Forall₂ (fun raw part => ofRawList [raw] = .ok part) raws parts ↔
      ∃ rs, ofRawList raws = .ok rs ∧ parts = rs.map fun r => [r] := by
  simp only [ofRawList_singleton_eq_ok_iff]
  simp only [ofRawList, ofRawFrom_eq_ok_iff]
  induction raws generalizing parts with
  | nil => simp
  | cons raw raws ih =>
    simp only [List.forall₂_cons_left_iff, ih]
    constructor
    · rintro ⟨_, _, ⟨r, hr, rfl⟩, ⟨rs, others, rfl⟩, rfl⟩
      exact ⟨r :: rs, ⟨r, rs, hr, others, rfl⟩, rfl⟩
    · rintro ⟨_, ⟨r, rs, hr, others, rfl⟩, rfl⟩
      exact ⟨[r], _, ⟨r, hr, rfl⟩, ⟨rs, others, rfl⟩, rfl⟩

theorem complete_of_ofRawList (h : ofRawList raws = .ok rs) : ∀ r ∈ rs, r.Complete := by
  have each := ofRawFrom_eq_ok_iff.mp h
  clear h
  induction each with
  | nil => simp
  | cons first _ ih => exact List.forall_mem_cons.mpr ⟨complete_of_ofRaw first, ih⟩

/-- Lists are checked value by value. A list is accepted just when each of its values is accepted as
a list of one, with the resources of those lists put together. It is refused just when a value is
refused as a list of one after values that are not, with the same error at the position of that
value, whatever comes after it. What is accepted is complete. -/
theorem ofRawList_checks_each :
    (∀ raws, (∃ rs, ofRawList raws = .ok rs) ↔ ∀ raw ∈ raws, ∃ rs, ofRawList [raw] = .ok rs) ∧
    (∀ raws rs, ofRawList raws = .ok rs ↔
      ∃ parts, List.Forall₂ (fun raw part => ofRawList [raw] = .ok part) raws parts ∧
        rs = parts.flatten) ∧
    (∀ raws e, ofRawList raws = .error e ↔
      ∃ before raw after e', raws = before ++ raw :: after ∧
        (∀ earlier ∈ before, ∃ rs, ofRawList [earlier] = .ok rs) ∧
        ofRawList [raw] = .error e' ∧ e'.placedAt 0 = e' ∧ e = e'.placedAt before.length) ∧
    ∀ raws rs, ofRawList raws = .ok rs → ∀ r ∈ rs, r.Complete := by
  refine ⟨?accepted, ?parts, ?refused, fun _ _ => complete_of_ofRawList⟩
  case accepted =>
    intro raws
    simp only [accepted_alone_iff, accepted_iff]
  case parts =>
    intro raws rs
    have joined : ∀ rs : List Resource, (rs.map fun r => [r]).flatten = rs := fun rs => by
      rw [← List.flatMap_def, List.flatMap_singleton']
    simp only [forall₂_alone_iff]
    constructor
    · intro h
      exact ⟨_, ⟨rs, h, rfl⟩, (joined rs).symm⟩
    · rintro ⟨_, ⟨rs', h, rfl⟩, rfl⟩
      rwa [joined]
  case refused =>
    intro raws e
    simp only [accepted_alone_iff, ofRawList_singleton_eq_error_iff]
    rw [ofRawList, ofRawFrom_eq_error_iff]
    simp only [Nat.zero_add]
    constructor
    · rintro ⟨before, raw, after, e', split, accepted, hr, rfl⟩
      have alone : e'.placedAt 0 = e' := by
        have same := ofRaw_placedAt 0 0 raw
        rw [hr] at same
        exact (Except.error.inj same).symm
      exact ⟨before, raw, after, e', split, accepted, hr, alone, rfl⟩
    · rintro ⟨before, raw, after, e', split, accepted, hr, _, rfl⟩
      exact ⟨before, raw, after, e', split, accepted, hr, rfl⟩

/-- No more than a type and a name, with properties that are null. -/
def rawBucket : Json :=
  .obj [("name", .str "logs"), ("properties", .null), ("resource_type", .str "aws_s3_bucket")]

def rawOrphan : Json := .obj [("name", .str "orphan"), ("properties", .obj [])]

theorem rawBucket_checked :
    ofRawList [rawBucket, rawBucket] =
        .ok [new "aws_s3_bucket" "logs" (.obj []), new "aws_s3_bucket" "logs" (.obj [])] ∧
      (new "aws_s3_bucket" "logs" (.obj [])).Complete ∧
      (∀ earlier ∈ [rawBucket], ∃ rs, ofRawList [earlier] = .ok rs) ∧
      ofRawList [rawOrphan] = .error (.missingField 0 "resource_type") ∧
      ofRawList [rawBucket, rawOrphan, .null] = .error (.missingField 1 "resource_type") := by
  obtain ⟨accepted, _, refused, complete⟩ := ofRawList_checks_each
  have both : ofRawList [rawBucket, rawBucket] =
      .ok [new "aws_s3_bucket" "logs" (.obj []), new "aws_s3_bucket" "logs" (.obj [])] := rfl
  have one : ∀ earlier ∈ [rawBucket], ∃ rs, ofRawList [earlier] = .ok rs :=
    (accepted [rawBucket]).mp ⟨_, rfl⟩
  have orphan : ofRawList [rawOrphan] = .error (.missingField 0 "resource_type") := rfl
  have second : ofRawList [rawBucket, rawOrphan, .null] =
      .error (.missingField 1 "resource_type") :=
    (refused _ _).mpr ⟨[rawBucket], rawOrphan, [.null], _, rfl, one, orphan, rfl, rfl⟩
  exact ⟨both, complete _ _ both _ List.mem_cons_self, one, orphan, second⟩

end Resource

end CloudThreat
