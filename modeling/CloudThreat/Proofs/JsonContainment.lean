import CloudThreat.Proofs.JsonEquality
import CloudThreat.Proofs.RecordReading
import Mathlib.Logic.Relation

namespace CloudThreat

namespace JsonObject

/-- One key more, in the object or in an object that stands in it. -/
inductive Grows : JsonObject → JsonObject → Prop
  | here {o : JsonObject} {key : String} (value : Json) :
      o.find? key = none → Grows o (o.insert key value)
  | inside {o inner grown : JsonObject} {key : String} :
      o.find? key = some (.obj inner) → Grows inner grown → Grows o (o.insert key (.obj grown))

end JsonObject

namespace Json

variable {a b c : Json} {fs gs : JsonObject}

/-- The nesting of objects in objects, where a list ends it. -/
theorem object_induction {motive : Json → Prop}
    (plain : ∀ j, j.isObject = false → motive j)
    (object : ∀ fields : JsonObject, (∀ f ∈ fields, motive f.2) → motive (.obj fields))
    (j : Json) : motive j := by
  cases j with
  | obj fields =>
    refine object fields fun f hf => ?_
    have inside := depth_le_depthOfFields hf
    exact object_induction plain object f.2
  | _ => exact plain _ rfl
termination_by j.depth
decreasing_by
  rw [depth]
  omega

theorem isObject_eq_of_equal (h : a.equal b = true) : a.isObject = b.isObject := by
  cases b with
  | obj gs =>
    cases a with
    | obj fs => rfl
    | _ => cases h
  | _ =>
    cases a with
    | obj fs => cases h
    | _ => rfl

/-- What is asked of the value under a key, if another is wanted there. -/
def meets (found wanted : Json) : Bool :=
  match found, wanted with
  | .obj inner, .obj _ => contains inner wanted
  | _, _ => found.equal wanted

theorem meets_of_not_object (h : b.isObject = false) : a.meets b = a.equal b := by
  cases b with
  | obj gs => cases h
  | _ => cases a <;> rfl

theorem exists_of_meets_object (h : a.meets (obj gs) = true) : ∃ fs, a = obj fs := by
  cases a with
  | obj fs => exact ⟨fs, rfl⟩
  | _ => cases h

theorem containsFields_iff {data : JsonObject} {expected : List (String × Json)} :
    containsFields data expected = true ↔
      ∀ f ∈ expected, ∃ found, data.find? f.1 = some found ∧ found.meets f.2 = true := by
  induction expected with
  | nil => simp [containsFields]
  | cons f rest ih =>
    obtain ⟨key, wanted⟩ := f
    rw [containsFields, Bool.and_eq_true, ih, List.forall_mem_cons]
    refine and_congr_left fun _ => ?_
    cases data.find? key with
    | none => simp
    | some found =>
      simp only [Option.some.injEq, exists_eq_left']
      cases found with
      | obj inner => cases wanted <;> simp [meets, isObject, equal]
      | _ => rfl

theorem meets_obj_iff : (obj fs).meets (obj gs) = true ↔
    ∀ g ∈ gs, ∃ x, fs.find? g.1 = some x ∧ x.meets g.2 = true :=
  containsFields_iff

theorem meets_of_equal (ha : a.Proper) (hb : b.Proper) (h : a.equal b = true) :
    a.meets b = true := by
  induction b using object_induction generalizing a with
  | plain b plain => rwa [meets_of_not_object plain]
  | object gs ih =>
    cases a with
    | obj fs =>
      rw [equal_comm, equal_obj_iff hb ha] at h
      rw [meets_obj_iff]
      intro g hg
      obtain ⟨x, hx, same⟩ := h.2 g hg
      rw [equal_comm] at same
      exact ⟨x, hx, ih g hg (ha.field (JsonObject.mem_of_find? hx)) (hb.field hg) same⟩
    | _ => cases h

theorem meets_trans (hab : a.meets b = true) (hbc : b.meets c = true) : a.meets c = true := by
  induction c using object_induction generalizing a b with
  | plain c plain =>
    rw [meets_of_not_object plain] at hbc ⊢
    rw [meets_of_not_object ((isObject_eq_of_equal hbc).trans plain)] at hab
    exact equal_trans hab hbc
  | object wanted ih =>
    obtain ⟨middle, rfl⟩ := exists_of_meets_object hbc
    obtain ⟨data, rfl⟩ := exists_of_meets_object hab
    rw [meets_obj_iff] at hab hbc ⊢
    intro f hf
    obtain ⟨y, hy, below⟩ := hbc f hf
    obtain ⟨x, hx, above⟩ := hab (f.1, y) (JsonObject.mem_of_find? hy)
    exact ⟨x, hx, ih f hf above below⟩

theorem keys_subset_of_meets (h : (obj fs).meets (obj gs) = true) :
    gs.map Prod.fst ⊆ fs.map Prod.fst := by
  intro key hk
  obtain ⟨g, hg, rfl⟩ := List.mem_map.mp hk
  obtain ⟨x, hx, _⟩ := meets_obj_iff.mp h g hg
  exact List.mem_map.mpr ⟨(g.1, x), JsonObject.mem_of_find? hx, rfl⟩

theorem meets_antisymm (ha : a.Proper) (hb : b.Proper) (hab : a.meets b = true)
    (hba : b.meets a = true) : a.equal b = true := by
  induction b using object_induction generalizing a with
  | plain b plain => rwa [← meets_of_not_object plain]
  | object gs ih =>
    obtain ⟨fs, rfl⟩ := exists_of_meets_object hab
    have keys := List.Subset.antisymm_of_pairwise ha.keys_ascending hb.keys_ascending
      (keys_subset_of_meets hba) (keys_subset_of_meets hab)
    rw [equal_obj_iff ha hb]
    refine ⟨by simpa using congrArg List.length keys, fun f hf => ?_⟩
    obtain ⟨y, hy, above⟩ := meets_obj_iff.mp hba f hf
    have hg := JsonObject.mem_of_find? hy
    obtain ⟨x, hx, below⟩ := meets_obj_iff.mp hab (f.1, y) hg
    obtain rfl := entry_eq_of_mem ha.keys_nodup (JsonObject.mem_of_find? hx) hf
    exact ⟨y, hy, ih (f.1, y) hg (ha.field hf) (hb.field hg) below above⟩

theorem contains_of_grows {o grown : JsonObject} {expected : Json} (h : o.Grows grown)
    (held : contains o expected = true) : contains grown expected = true := by
  induction h generalizing expected with
  | @here o key value absent =>
    cases expected with
    | obj wanted =>
      refine containsFields_iff.mpr fun f hf => ?_
      obtain ⟨x, hx, below⟩ := containsFields_iff.mp held f hf
      have other : f.1 ≠ key := by
        rintro rfl
        rw [absent] at hx
        cases hx
      rw [JsonObject.find?_insert_of_ne other]
      exact ⟨x, hx, below⟩
    | _ => cases held
  | @inside o inner grown key found _ ih =>
    cases expected with
    | obj wanted =>
      refine containsFields_iff.mpr fun f hf => ?_
      obtain ⟨x, hx, below⟩ := containsFields_iff.mp held f hf
      by_cases other : f.1 = key
      · rw [other] at hx ⊢
        obtain rfl := Option.some.inj (found.symm.trans hx)
        refine ⟨.obj grown, JsonObject.find?_insert_self _ _ _, ?_⟩
        cases hw : f.2 with
        | obj fields =>
          rw [hw] at below
          exact ih below
        | _ =>
          rw [hw] at below
          cases below
      · rw [JsonObject.find?_insert_of_ne other]
        exact ⟨x, hx, below⟩
    | _ => cases held

/-- Containment is a partial order, and to contain each other is to be equal. What an object
contains, it contains however it grows. -/
theorem contains_partialOrder :
    (∀ a : JsonObject, (obj a).Proper → contains a (.obj a) = true) ∧
      (∀ a b c : JsonObject, contains a (.obj b) = true → contains b (.obj c) = true →
        contains a (.obj c) = true) ∧
      (∀ a b : JsonObject, (obj a).Proper → (obj b).Proper →
        (contains a (.obj b) = true ∧ contains b (.obj a) = true ↔
          (obj a).equal (.obj b) = true)) ∧
      ∀ (o grown : JsonObject) (expected : Json), Relation.ReflTransGen JsonObject.Grows o grown →
        contains o expected = true → contains grown expected = true := by
  refine ⟨?refl, ?trans, ?antisymm, ?grows⟩
  case refl =>
    intro a ha
    exact meets_of_equal (a := .obj a) (b := .obj a) ha ha (equal_self ha)
  case trans =>
    intro a b c hab hbc
    exact meets_trans (a := .obj a) (b := .obj b) (c := .obj c) hab hbc
  case antisymm =>
    intro a b ha hb
    constructor
    · rintro ⟨hab, hba⟩
      exact meets_antisymm ha hb hab hba
    · intro h
      have h' : (obj b).equal (.obj a) = true := by rwa [equal_comm]
      exact ⟨meets_of_equal (a := .obj a) ha hb h, meets_of_equal (a := .obj b) hb ha h'⟩
  case grows =>
    intro o grown expected growth held
    induction growth with
    | refl => exact held
    | tail _ step ih => exact contains_of_grows step ih

def tagged : JsonObject := [("labels", .obj [("env", .str "prod")])]

/-- With one label more. -/
def retagged : JsonObject := [("labels", .obj [("env", .str "prod"), ("team", .str "core")])]

def labelled : JsonObject := [("labels", .obj [])]

theorem retagged_contains_labelled :
    (obj tagged).Proper ∧ Relation.ReflTransGen JsonObject.Grows tagged retagged ∧
      contains tagged (.obj tagged) = true ∧ contains retagged (.obj tagged) = true ∧
      contains tagged (.obj labelled) = true ∧ contains retagged (.obj labelled) = true ∧
      contains listener (.obj listenerInDoubles) = true ∧
      contains listenerInDoubles (.obj listener) = true := by
  have proper : (obj tagged).Proper := by decide +kernel
  have whole : (obj listener).Proper := by decide +kernel
  have doubles : (obj listenerInDoubles).Proper := by decide +kernel
  have same : (obj listener).equal (obj listenerInDoubles) = true := by decide +kernel
  have part : contains tagged (.obj labelled) = true := by decide +kernel
  have inner := @JsonObject.Grows.here [("env", .str "prod")] "team" (.str "core") rfl
  have grows : Relation.ReflTransGen JsonObject.Grows tagged retagged :=
    .single (@JsonObject.Grows.inside tagged _ _ "labels" rfl inner)
  obtain ⟨refl, trans, antisymm, growth⟩ := contains_partialOrder
  have self := refl tagged proper
  have more := growth tagged retagged (.obj tagged) grows self
  exact ⟨proper, grows, self, more, part, trans retagged tagged labelled more part,
    (antisymm listener listenerInDoubles whole doubles).mpr same⟩

end Json

end CloudThreat
