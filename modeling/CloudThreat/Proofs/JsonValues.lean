import CloudThreat.Json
import CloudThreat.Proofs.DistinctKeys
import CloudThreat.WordSize
import Mathlib.Data.List.Pairwise
import Mathlib.Data.String.Basic

namespace CloudThreat

namespace Json

/-- The fields of an object ascend, each key once; `nan` is no number; and a list has no more items
than a signed word can count. -/
inductive Proper : Json → Prop
  | null : Proper .null
  | bool (value : Bool) : Proper (.bool value)
  | num {n : JsonNumber} : n ≠ .float .nan → Proper (.num n)
  | str (text : String) : Proper (.str text)
  | arr {items : List Json} : items.length ≤ WordSize.maxUnsigned 63 →
      (∀ j ∈ items, Proper j) → Proper (.arr items)
  | obj {fields : JsonObject} : fields.Pairwise (fun f g => f.1 < g.1) →
      (∀ f ∈ fields, Proper f.2) → Proper (.obj fields)

variable {fields : JsonObject} {items : List Json} {key : String} {value : Json}

theorem proper_num_iff {n : JsonNumber} : (num n).Proper ↔ n ≠ .float .nan := by
  constructor
  · intro h
    cases h with
    | num number => exact number
  · exact .num

theorem proper_arr_iff : (arr items).Proper ↔
    items.length ≤ WordSize.maxUnsigned 63 ∧ ∀ j ∈ items, j.Proper := by
  constructor
  · intro h
    cases h with
    | arr length each => exact ⟨length, each⟩
  · rintro ⟨length, each⟩
    exact .arr length each

theorem proper_obj_iff : (obj fields).Proper ↔
    fields.Pairwise (fun f g => f.1 < g.1) ∧ ∀ f ∈ fields, f.2.Proper := by
  constructor
  · intro h
    cases h with
    | obj ascending each => exact ⟨ascending, each⟩
  · rintro ⟨ascending, each⟩
    exact .obj ascending each

mutual

def decideProper : (j : Json) → Decidable j.Proper
  | .null => .isTrue .null
  | .bool b => .isTrue (.bool b)
  | .num _ => decidable_of_iff _ proper_num_iff.symm
  | .str s => .isTrue (.str s)
  | .arr items =>
    have := decideProperItems items
    decidable_of_iff _ proper_arr_iff.symm
  | .obj fields =>
    have := decideProperFields fields
    decidable_of_iff _ proper_obj_iff.symm

def decideProperItems : (items : List Json) → Decidable (∀ j ∈ items, j.Proper)
  | [] => .isTrue (List.forall_mem_nil _)
  | j :: rest =>
    have := decideProper j
    have := decideProperItems rest
    decidable_of_iff _ List.forall_mem_cons.symm

def decideProperFields : (fields : List (String × Json)) → Decidable (∀ f ∈ fields, f.2.Proper)
  | [] => .isTrue (List.forall_mem_nil _)
  | (k, j) :: rest =>
    have := decideProper j
    have := decideProperFields rest
    decidable_of_iff (j.Proper ∧ ∀ f ∈ rest, f.2.Proper)
      (List.forall_mem_cons (a := (k, j)) (p := fun f => f.2.Proper)).symm

end

instance : DecidablePred Proper :=
  decideProper

theorem Proper.keys_ascending (h : (Json.obj fields).Proper) :
    (fields.map Prod.fst).Pairwise (· < ·) :=
  List.pairwise_map.mpr (proper_obj_iff.mp h).1

theorem Proper.keys_nodup (h : (Json.obj fields).Proper) : (fields.map Prod.fst).Nodup :=
  h.keys_ascending.imp fun hlt => ne_of_lt hlt

theorem Proper.field (h : (Json.obj fields).Proper) (hm : (key, value) ∈ fields) :
    value.Proper :=
  (proper_obj_iff.mp h).2 (key, value) hm

theorem Proper.find?_eq_some_iff (h : (Json.obj fields).Proper) :
    fields.find? key = some value ↔ (key, value) ∈ fields :=
  lookup_eq_some_iff h.keys_nodup

end Json

theorem JsonObject.mem_of_find? {o : JsonObject} {key : String} {value : Json}
    (h : o.find? key = some value) : (key, value) ∈ o := by
  obtain ⟨before, after, rfl, _⟩ := List.lookup_eq_some_iff.mp h
  simp

end CloudThreat
