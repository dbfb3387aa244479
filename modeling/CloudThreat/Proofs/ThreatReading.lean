import CloudThreat.Proofs.RecordReading
import CloudThreat.Proofs.RuleEvaluation
import CloudThreat.ThreatFile

namespace CloudThreat

namespace Operator

/-- An operator that is kept for unknown has a word that is unknown. -/
def Proper (op : Operator) : Prop :=
  ∀ word, op = .unknown word → word ∉ all.map text

theorem ofText_of_not_mem {word : String} (h : word ∉ all.map text) :
    ofText word = .unknown word := by
  simp only [all, List.map_cons, List.map_nil, text, List.mem_cons, List.not_mem_nil, or_false,
    not_or] at h
  simp [ofText, h]

theorem ofText_text_of_proper {op : Operator} (h : op.Proper) : ofText op.text = op := by
  cases op with
  | unknown word => exact ofText_of_not_mem (h word rfl)
  | _ => rfl

theorem ofText_proper (s : String) : (ofText s).Proper := by
  intro word hw hm
  by_cases known : s ∈ all.map text
  · obtain ⟨op, hop, rfl⟩ := List.mem_map.mp known
    rw [ofText_text hop] at hw
    subst hw
    simp [all] at hop
  · rw [ofText_of_not_mem known] at hw
    cases hw
    exact known hm

end Operator

theorem Severity.read_text (s : Severity) : Severity.read (.str s.text) = .ok s := by
  cases s <;> rfl

theorem Likelihood.read_text (l : Likelihood) : Likelihood.read (.str l.text) = .ok l := by
  cases l <;> rfl

theorem Logic.read_text (l : Logic) : Logic.read (.str l.text) = .ok l := by
  cases l <;> rfl

theorem Condition.read_toJson {c : Condition} (h : c.operator.Proper) :
    Condition.read c.toJson = .ok c := by
  have distinct : (["field", "operator", "value"] : List String).Nodup := by decide
  have back : Operator.read (.str c.operator.text) = .ok c.operator := by
    rw [Operator.read, Reader.text, Except.map, Operator.ofText_text_of_proper h]
  refine Fields.Reads.read "struct Condition" (a := c) ?_
  refine .seq (.seq (.map _ ?_) ?_) ?_
  · exact .field distinct rfl rfl
  · exact .field distinct rfl back
  · exact .field distinct rfl rfl

theorem Operator.read_gives : Reader.Gives Operator.read Operator.Proper := by
  intro j op hr
  obtain ⟨word, _, rfl⟩ := Reader.eq_ok_of_map_eq_ok hr
  exact Operator.ofText_proper word

theorem Condition.read_gives : Reader.Gives Condition.read fun c => c.operator.Proper := by
  refine Fields.Gives.read ?_ "struct Condition"
  refine .seq_any (.seq (P := Operator.Proper) (.map (Fields.gives_of_forall ?_)) ?_)
  · exact fun _ _ proper _ => proper
  · exact .field Operator.read_gives nofun nofun

theorem Mitigation.read_toJson (m : Mitigation) : Mitigation.read m.toJson = .ok m := by
  have distinct : (["description", "effort", "impact", "steps"] : List String).Nodup := by decide
  refine Fields.Reads.read "struct Mitigation" (a := m) ?_
  refine .seq (.seq (.seq (.map _ ?_) ?_) ?_) ?_
  · exact .field distinct rfl rfl
  · exact .field distinct rfl rfl
  · exact .field distinct rfl rfl
  · exact .field distinct rfl (Reader.list_ofStrings m.steps)

theorem ComplianceMapping.read_toJson (m : ComplianceMapping) :
    ComplianceMapping.read m.toJson = .ok m := by
  have distinct : (["framework", "control_id", "description"] : List String).Nodup := by decide
  refine Fields.Reads.read "struct ComplianceMapping" (a := m) ?_
  refine .seq (.seq (.map _ ?_) ?_) ?_
  · exact .field distinct rfl rfl
  · exact .field distinct rfl rfl
  · exact .field distinct rfl rfl

namespace LogicGroup

/-- No operator of the group passes for an unknown one. -/
def Proper (g : LogicGroup) : Prop :=
  ∀ c ∈ g.leaves, c.operator.Proper

theorem toJsons_eq_map (groups : List LogicGroup) : toJsons groups = groups.map toJson := by
  induction groups with
  | nil => rfl
  | cons g rest ih => rw [toJsons, ih, List.map_cons]

theorem toJson_mk (logic : Logic) (conditions : List Condition) (groups : List LogicGroup) :
    toJson ⟨logic, conditions, groups⟩ = Json.object [
      ("logic", .str logic.text),
      ("conditions", .arr (conditions.map Condition.toJson)),
      ("groups", .arr (groups.map toJson))] := by
  rw [toJson, toJsons_eq_map]

theorem keys_nodup : (["logic", "conditions", "groups"] : List String).Nodup := by
  decide

theorem depth_lt_toJson {g : LogicGroup} {groups : List LogicGroup} (logic : Logic)
    (conditions : List Condition) (h : g ∈ groups) :
    g.toJson.depth < (toJson ⟨logic, conditions, groups⟩).depth := by
  have inside : g.toJson.depth < (Json.arr (groups.map toJson)).depth :=
    Json.depth_lt_arr (List.mem_map_of_mem h)
  rw [toJson_mk]
  refine Nat.lt_trans inside (Json.depth_lt_object keys_nodup (List.mem_of_getElem? (i := 2) rfl))

theorem readTo_toJson {g : LogicGroup} {depth : Nat} (deep : g.toJson.depth < depth)
    (proper : g.Proper) : readTo depth g.toJson = .ok g := by
  induction g using nesting_induction generalizing depth with
  | step logic conditions groups ih =>
    rw [Proper, leaves_mk, List.forall_mem_append] at proper
    cases depth with
    | zero => omega
    | succ depth =>
      have nested : ∀ g ∈ groups, readTo depth g.toJson = .ok g := by
        intro g hg
        have around := depth_lt_toJson logic conditions hg
        exact ih g hg (by omega) fun c hc => proper.2 c (List.mem_flatMap.mpr ⟨g, hg, hc⟩)
      rw [toJson_mk]
      refine Fields.Reads.read "struct LogicGroup" (a := LogicGroup.mk logic conditions groups) ?_
      refine .seq (.seq (.map _ ?_) ?_) ?_
      · exact .field keys_nodup rfl (Logic.read_text logic)
      · exact .field keys_nodup rfl
          (Reader.list_map fun c hc => Condition.read_toJson (proper.1 c hc))
      · exact .field keys_nodup rfl (Reader.list_map nested)

theorem read_toJson {g : LogicGroup} (proper : g.Proper) : read g.toJson = .ok g :=
  readTo_toJson (Nat.lt_succ_self _) proper

theorem toJson_ne_null (g : LogicGroup) : g.toJson ≠ .null := by
  obtain ⟨logic, conditions, groups⟩ := g
  rw [toJson_mk]
  exact Json.noConfusion

theorem proper_mk {logic : Logic} {conditions : List Condition} {groups : List LogicGroup}
    (own : ∀ c ∈ conditions, c.operator.Proper) (nested : ∀ g ∈ groups, g.Proper) :
    Proper ⟨logic, conditions, groups⟩ := by
  rw [Proper, leaves_mk, List.forall_mem_append]
  refine ⟨own, fun c hc => ?_⟩
  obtain ⟨g, hg, hc⟩ := List.mem_flatMap.mp hc
  exact nested g hg c hc

theorem readTo_gives (depth : Nat) : Reader.Gives (readTo depth) Proper := by
  induction depth with
  | zero => exact fun j g hr => nomatch hr
  | succ depth ih =>
    refine Fields.Gives.read ?_ "struct LogicGroup"
    refine .seq (P := fun gs => ∀ g ∈ gs, g.Proper) (.seq
      (P := fun cs => ∀ c ∈ cs, c.operator.Proper) (.map (Fields.gives_of_forall ?_)) ?_) ?_
    · exact fun _ _ own _ nested => proper_mk own nested
    · exact .field Condition.read_gives.list (by simp) (by simp)
    · exact .field ih.list (by simp) (by simp)

theorem read_gives : Reader.Gives read Proper :=
  fun j => readTo_gives (j.depth + 1) j

end LogicGroup

namespace Threat

/-- No operator in the rule passes for an unknown one. -/
def Proper (t : Threat) : Prop :=
  ∀ rule, t.rule = some rule → rule.Proper

theorem keys_nodup : ([
    "id", "name", "description", "severity", "likelihood", "category", "resource_types",
    "cloud_providers", "condition_logic", "attack_vectors", "exploitability", "business_impact",
    "mitigations", "references", "compliance_mappings", "tags", "created_at", "updated_at",
    "risk_score"] : List String).Nodup := by
  decide

theorem read_toJson {t : Threat} (proper : t.Proper) : read t.toJson = .ok t := by
  obtain ⟨id, name, description, severity, likelihood, category, resourceTypes, cloudProviders,
    rule, attackVectors, exploitability, businessImpact, mitigations, references,
    complianceMappings, tags, createdAt, updatedAt⟩ := t
  have ofRule : Reader.nullable LogicGroup.read (Json.ofOption LogicGroup.toJson rule) = .ok rule :=
    Reader.nullable_ofOption fun g hg =>
      ⟨LogicGroup.read_toJson (proper g hg), LogicGroup.toJson_ne_null g⟩
  have ofDate : ∀ d : Option String,
      Reader.nullable Reader.text (Json.ofOption .str d) = .ok d :=
    fun _ => Reader.nullable_ofOption fun _ _ => ⟨rfl, Json.noConfusion⟩
  have ofTexts := Reader.list_ofStrings
  refine Fields.Reads.read "struct Threat" ?_
  unfold fields texts
  iterate 17 refine Fields.Reads.seq ?_ ?_
  · exact .map _ (.field keys_nodup rfl rfl)
  · exact .field keys_nodup rfl rfl
  · exact .field keys_nodup rfl rfl
  · exact .field keys_nodup rfl severity.read_text
  · exact .field keys_nodup rfl likelihood.read_text
  · exact .field keys_nodup rfl rfl
  · exact .field keys_nodup rfl (ofTexts resourceTypes)
  · exact .field keys_nodup rfl (ofTexts cloudProviders)
  · exact .field keys_nodup rfl ofRule
  · exact .field keys_nodup rfl (ofTexts attackVectors)
  · exact .field keys_nodup rfl rfl
  · exact .field keys_nodup rfl rfl
  · exact .field keys_nodup rfl (Reader.list_map fun m _ => m.read_toJson)
  · exact .field keys_nodup rfl (ofTexts references)
  · exact .field keys_nodup rfl (Reader.list_map fun m _ => m.read_toJson)
  · exact .field keys_nodup rfl (ofTexts tags)
  · exact .field keys_nodup rfl (ofDate createdAt)
  · exact .field keys_nodup rfl (ofDate updatedAt)

/-- The names under which the fields of a threat are read. -/
def names : List String := [
  "id", "name", "description", "severity", "likelihood", "category", "resource_types",
  "cloud_providers", "conditions", "condition_logic", "attack_vectors", "exploitability",
  "business_impact", "mitigations", "references", "compliance_mappings", "tags", "created_at",
  "updated_at"]

theorem fields_ignores {key : String} (other : key ∉ names) : fields.Ignores key := by
  simp only [names, List.mem_cons, List.not_mem_nil, or_false, not_or] at other
  unfold fields texts
  iterate 17 refine Fields.Ignores.seq ?_ ?_
  · refine .map _ (.field ?_)
    simp [other]
  all_goals
    refine .field ?_
    simp [other]

theorem read_gives : Reader.Gives read Proper := by
  refine Fields.Gives.read ?_ "struct Threat"
  unfold fields texts
  iterate 9 refine .seq_any ?_
  refine .seq (P := fun rule => ∀ g, rule = some g → LogicGroup.Proper g) ?_
    (.field LogicGroup.read_gives.nullable (by simp) (by simp))
  iterate 7 refine .seq_any ?_
  exact .map (Fields.gives_of_forall fun _ _ _ _ _ _ _ _ _ proper _ _ _ _ _ _ _ _ _ => proper)

theorem toJson_get? (t : Threat) :
    t.toJson.get? "condition_logic" = some (Json.ofOption LogicGroup.toJson t.rule) ∧
    t.toJson.get? "conditions" = none ∧
    t.toJson.get? "risk_score" = some (Json.ofDouble t.riskScore) := by
  refine ⟨JsonObject.get?_object keys_nodup rfl, JsonObject.get?_object_eq_none keys_nodup ?_,
    JsonObject.get?_object keys_nodup rfl⟩
  simp

end Threat

namespace ThreatFile

variable {v : YamlValue}

theorem eq_some_of_field {α : Type} {record : Record} {names : List String}
    {read : YamlValue → Option α} {absent : Option α} {a : α}
    (h : field record names read absent = some a) : absent = some a ∨ ∃ v, read v = some a := by
  rw [field] at h
  split at h
  · exact .inl h
  · exact .inr ⟨_, h⟩
  · cases h

theorem eq_some_of_nullable {α : Type} {read : YamlValue → Option α} {a : α}
    (h : nullable read v = some (some a)) : read v = some a := by
  cases v with
  | null => cases h
  | _ => simpa [nullable] using h

theorem mapM_mem {α : Type} {read : YamlValue → Option α} {items : List YamlValue} {xs : List α}
    (h : items.mapM read = some xs) : ∀ x ∈ xs, ∃ v, read v = some x := by
  induction items generalizing xs with
  | nil =>
    cases h
    simp
  | cons v items ih =>
    simp only [List.mapM_cons, Option.bind_eq_bind, Option.bind_eq_some_iff] at h
    obtain ⟨a, ha, rest, hr, same⟩ := h
    cases same
    exact List.forall_mem_cons.mpr ⟨⟨v, ha⟩, ih hr⟩

theorem list_mem {α : Type} {read : YamlValue → Option α} {xs : List α}
    (h : list read v = some xs) : ∀ x ∈ xs, ∃ v, read v = some x := by
  obtain ⟨items, _, hm⟩ := Option.bind_eq_some_iff.mp h
  exact mapM_mem hm

theorem condition_proper {c : Condition} (h : condition v = some c) : c.operator.Proper := by
  simp only [condition, Option.bind_eq_bind, Option.bind_eq_some_iff, Option.some.injEq] at h
  obtain ⟨_, _, _, _, op, hop, _, _, rfl⟩ := h
  rcases eq_some_of_field hop with hop | ⟨v, hv⟩
  · cases hop
  · obtain ⟨word, _, rfl⟩ := Option.map_eq_some_iff.mp hv
    exact Operator.ofText_proper word

theorem group_proper {depth : Nat} {g : LogicGroup} (h : group depth v = some g) : g.Proper := by
  induction depth generalizing v g with
  | zero => cases h
  | succ depth ih =>
    simp only [group, Option.bind_eq_bind, Option.bind_eq_some_iff, Option.some.injEq] at h
    obtain ⟨_, _, _, _, conditions, hc, groups, hg, rfl⟩ := h
    refine LogicGroup.proper_mk ?conditions ?groups
    case conditions =>
      rcases eq_some_of_field hc with hc | ⟨v, hv⟩
      · cases hc
        simp
      · intro c hm
        obtain ⟨v, hv⟩ := list_mem hv c hm
        exact condition_proper hv
    case groups =>
      rcases eq_some_of_field hg with hg | ⟨v, hv⟩
      · cases hg
        simp
      · intro g hm
        obtain ⟨v, hv⟩ := list_mem hv g hm
        exact ih hv

theorem threat_proper {t : Threat} (h : threat v = some t) : t.Proper := by
  rw [threat] at h
  iterate 9 obtain ⟨_, _, h⟩ := Option.bind_eq_some_iff.mp h
  obtain ⟨rule, hr, h⟩ := Option.bind_eq_some_iff.mp h
  iterate 9 obtain ⟨_, _, h⟩ := Option.bind_eq_some_iff.mp h
  cases h
  intro g hg
  cases hg
  rcases eq_some_of_field hr with hr | ⟨v, hv⟩
  · cases hr
  · exact group_proper (eq_some_of_nullable hv)

end ThreatFile

namespace Threat

/-- A threat is read back as it was from what is written of it, whose score no reader takes notice
of and whose rule goes by the second of its names. -/
theorem read_toJson_back :
    (∀ t : Threat, t.Proper → Threat.read t.toJson = .ok t ∧
      t.toJson.get? "condition_logic" = some (Json.ofOption LogicGroup.toJson t.rule) ∧
      t.toJson.get? "conditions" = none ∧
      t.toJson.get? "risk_score" = some (Json.ofDouble t.riskScore)) ∧
    (∀ (o : JsonObject) (score : Json),
      Threat.read (.obj (o.insert "risk_score" score)) = Threat.read (.obj o)) ∧
    (∀ (j : Json) (t : Threat), Threat.read j = .ok t → t.Proper) ∧
    (∀ (v : YamlValue) (t : Threat), ThreatFile.threat v = some t → t.Proper) ∧
    ∀ t : Threat, (∀ rule, t.rule = some rule → ∀ c ∈ rule.leaves,
      ∃ word, c.operator = Operator.ofText word) → t.Proper := by
  refine ⟨?back, ?score, Threat.read_gives, fun _ _ => ThreatFile.threat_proper, ?named⟩
  case back => exact fun t proper => ⟨read_toJson proper, toJson_get? t⟩
  case score =>
    intro o score
    exact (fields_ignores (by decide)).read "struct Threat" score o
  case named =>
    intro t words rule hr c hc
    obtain ⟨word, hw⟩ := words rule hr c hc
    rw [hw]
    exact Operator.ofText_proper word

/-- A threat with a rule in a rule, a word that is no operator, and fields that are not given. -/
def openDatabase : Threat :=
  { Threat.new "GCP-SQL-1" "Open database" .high .likely "Network" with
    rule := some ⟨.any, [⟨"properties.tier", .ofText "~=", .arr [.null, .num (.int 1)]⟩],
      [⟨.all, [⟨"properties.labels", .ofText "contains", .obj [("env", .str "prod")]⟩], []⟩]⟩
    mitigations := [⟨"Restrict the networks", "low", "high", ["Remove 0.0.0.0/0"]⟩]
    createdAt := some "2024-01-01" }

/-- A record with no more than a threat needs. -/
def bareRecord : YamlValue := .map [
  (.str "category", .str "Access"), (.str "description", .str ""), (.str "id", .str "IAM-1"),
  (.str "likelihood", .str "Rare"), (.str "name", .str "Key"), (.str "severity", .str "LOW")]

theorem openDatabase_read_back :
    (∀ rule, openDatabase.rule = some rule → ∀ c ∈ rule.leaves,
      ∃ word, c.operator = Operator.ofText word) ∧
    Threat.read openDatabase.toJson = .ok openDatabase ∧ openDatabase.Proper ∧
    ThreatFile.threat bareRecord = some (.new "IAM-1" "Key" .low .rare "Access") ∧
    (Threat.new "IAM-1" "Key" .low .rare "Access").Proper := by
  obtain ⟨back, _, proper, files, named⟩ := read_toJson_back
  have words : ∀ rule, openDatabase.rule = some rule → ∀ c ∈ rule.leaves,
      ∃ word, c.operator = Operator.ofText word := by
    intro rule hr c hc
    cases Option.some.inj hr
    simp only [LogicGroup.leaves_mk, List.flatMap_cons, List.flatMap_nil, List.cons_append,
      List.nil_append, List.append_nil, List.mem_cons, List.not_mem_nil, or_false] at hc
    rcases hc with rfl | rfl
    · exact ⟨"~=", rfl⟩
    · exact ⟨"contains", rfl⟩
  have readBack := (back openDatabase (named openDatabase words)).1
  have record : ThreatFile.threat bareRecord = some (.new "IAM-1" "Key" .low .rare "Access") := rfl
  exact ⟨words, readBack, proper _ _ readBack, record, files _ _ record⟩

end Threat

end CloudThreat
