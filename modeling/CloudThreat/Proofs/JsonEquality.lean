import CloudThreat.JsonComparison
import CloudThreat.Proofs.JsonValues
import Mathlib.Data.List.Sort

namespace CloudThreat

/-- As functions the two sides agree at sight, whereas to compare their values would take a count up
to the units in one. -/
theorem Double.ofRatioIn_eq : @ofRatioIn = fun f negative num den =>
    match f.round (num * unitsPerOne) den with
    | some units => finite negative units
    | none => infinite negative :=
  rfl

theorem Double.ofRatioIn_ne_nan (f : FloatFormat) (negative : Bool) (num den : Nat) :
    ofRatioIn f negative num den ≠ nan := by
  rw [ofRatioIn_eq]
  dsimp only
  generalize f.round (num * unitsPerOne) den = rounded
  cases rounded <;> simp

theorem JsonNumber.toDouble_ne_nan {n : JsonNumber} (h : n ≠ .float .nan) : n.toDouble ≠ .nan := by
  cases n with
  | int i => exact Double.ofRatioIn_ne_nan .double (decide (i < 0)) i.natAbs 1
  | float x =>
    intro hx
    exact h (congrArg JsonNumber.float hx)

namespace Json

variable {fs gs : JsonObject}

theorem equalItems_self {items : List Json} (each : ∀ j ∈ items, j.equal j = true) :
    equalItems items items = true := by
  induction items with
  | nil => rfl
  | cons j rest ih =>
    obtain ⟨first, others⟩ := List.forall_mem_cons.mp each
    rw [equalItems, first, ih others]
    rfl

theorem equalFields_self (each : ∀ f ∈ fs, f.2.equal f.2 = true) : equalFields fs fs = true := by
  induction fs with
  | nil => rfl
  | cons f rest ih =>
    obtain ⟨first, others⟩ := List.forall_mem_cons.mp each
    rw [equalFields, first, ih others, beq_self_eq_true]
    rfl

theorem equal_self {j : Json} (h : j.Proper) : j.equal j = true := by
  induction h with
  | null => rfl
  | bool b => exact beq_self_eq_true b
  | num number => exact Double.eq_self (JsonNumber.toDouble_ne_nan number)
  | str s => exact beq_self_eq_true s
  | arr _ _ ih => exact equalItems_self ih
  | obj _ _ ih => exact equalFields_self ih

mutual

theorem equal_comm (a b : Json) : a.equal b = b.equal a := by
  cases a with
  | arr xs =>
    cases b with
    | arr ys => exact equalItems_comm xs ys
    | _ => rfl
  | obj fs =>
    cases b with
    | obj gs => exact equalFields_comm fs gs
    | _ => rfl
  | num m =>
    cases b with
    | num n => exact Double.eq_comm m.toDouble n.toDouble
    | _ => rfl
  | null => cases b <;> rfl
  | bool p =>
    cases b with
    | bool q => exact Bool.beq_comm
    | _ => rfl
  | str s =>
    cases b with
    | str t => exact Bool.beq_comm
    | _ => rfl

theorem equalItems_comm (xs ys : List Json) : equalItems xs ys = equalItems ys xs := by
  cases xs with
  | nil => cases ys <;> rfl
  | cons x xs =>
    cases ys with
    | nil => rfl
    | cons y ys => rw [equalItems, equalItems, equal_comm x y, equalItems_comm xs ys]

theorem equalFields_comm (fs gs : List (String × Json)) :
    equalFields fs gs = equalFields gs fs := by
  cases fs with
  | nil => cases gs <;> rfl
  | cons f fs =>
    cases gs with
    | nil => rfl
    | cons g gs =>
      obtain ⟨k, x⟩ := f
      obtain ⟨l, y⟩ := g
      have keys : (k == l) = (l == k) := Bool.beq_comm
      rw [equalFields, equalFields, keys, equal_comm x y, equalFields_comm fs gs]

end

mutual

theorem equal_trans {a b c : Json} (hab : a.equal b = true) (hbc : b.equal c = true) :
    a.equal c = true := by
  cases b with
  | arr ys =>
    cases a with
    | arr xs =>
      cases c with
      | arr zs => exact equalItems_trans hab hbc
      | _ => cases hbc
    | _ => cases hab
  | obj gs =>
    cases a with
    | obj fs =>
      cases c with
      | obj hs => exact equalFields_trans hab hbc
      | _ => cases hbc
    | _ => cases hab
  | num n =>
    cases a with
    | num m =>
      cases c with
      | num o => exact Double.eq_trans hab hbc
      | _ => cases hbc
    | _ => cases hab
  | null =>
    cases a with
    | null => exact hbc
    | _ => cases hab
  | bool q =>
    cases a with
    | bool p =>
      obtain rfl := beq_iff_eq.mp hab
      exact hbc
    | _ => cases hab
  | str t =>
    cases a with
    | str s =>
      obtain rfl := beq_iff_eq.mp hab
      exact hbc
    | _ => cases hab
termination_by structural b

theorem equalItems_trans {xs ys zs : List Json} (hxy : equalItems xs ys = true)
    (hyz : equalItems ys zs = true) : equalItems xs zs = true := by
  cases ys with
  | nil =>
    cases xs with
    | nil => exact hyz
    | cons x xs => cases hxy
  | cons y ys =>
    cases xs with
    | nil => cases hxy
    | cons x xs =>
      cases zs with
      | nil => cases hyz
      | cons z zs =>
        rw [equalItems, Bool.and_eq_true] at *
        exact ⟨equal_trans hxy.1 hyz.1, equalItems_trans hxy.2 hyz.2⟩
termination_by structural ys

theorem equalFields_trans {fs gs hs : List (String × Json)} (hfg : equalFields fs gs = true)
    (hgh : equalFields gs hs = true) : equalFields fs hs = true := by
  cases gs with
  | nil =>
    cases fs with
    | nil => exact hgh
    | cons f fs => cases hfg
  | cons g gs =>
    cases fs with
    | nil => cases hfg
    | cons f fs =>
      cases hs with
      | nil => cases hgh
      | cons h hs =>
        rw [equalFields, Bool.and_eq_true, Bool.and_eq_true, beq_iff_eq] at *
        obtain ⟨⟨keys, values⟩, rest⟩ := hfg
        obtain ⟨⟨keys', values'⟩, rest'⟩ := hgh
        exact ⟨⟨keys.trans keys', equal_trans values values'⟩, equalFields_trans rest rest'⟩
termination_by structural gs

end

theorem length_eq_of_equalFields (h : equalFields fs gs = true) : fs.length = gs.length := by
  induction fs generalizing gs with
  | nil =>
    cases gs with
    | nil => rfl
    | cons g gs => cases h
  | cons f fs ih =>
    cases gs with
    | nil => cases h
    | cons g gs =>
      rw [equalFields, Bool.and_eq_true] at h
      rw [List.length_cons, List.length_cons, ih h.2]

theorem exists_of_equalFields (h : equalFields fs gs = true) :
    ∀ f ∈ fs, ∃ y, (f.1, y) ∈ gs ∧ f.2.equal y = true := by
  induction fs generalizing gs with
  | nil => simp
  | cons f fs ih =>
    cases gs with
    | nil => cases h
    | cons g gs =>
      rw [equalFields, Bool.and_eq_true, Bool.and_eq_true, beq_iff_eq] at h
      obtain ⟨⟨keys, values⟩, rest⟩ := h
      intro f' hf
      rcases List.mem_cons.mp hf with rfl | hf
      · exact ⟨g.2, by rw [keys]; exact List.mem_cons_self, values⟩
      · obtain ⟨y, hy, same⟩ := ih rest f' hf
        exact ⟨y, List.mem_cons_of_mem g hy, same⟩

theorem equalFields_of_keys_eq (keys : fs.map Prod.fst = gs.map Prod.fst)
    (distinct : (gs.map Prod.fst).Nodup)
    (each : ∀ f ∈ fs, ∃ y, (f.1, y) ∈ gs ∧ f.2.equal y = true) : equalFields fs gs = true := by
  induction fs generalizing gs with
  | nil =>
    cases gs with
    | nil => rfl
    | cons g gs => cases keys
  | cons f fs ih =>
    cases gs with
    | nil => cases keys
    | cons g gs =>
      rw [List.map_cons, List.map_cons, List.cons.injEq] at keys
      obtain ⟨first, others⟩ := keys
      obtain ⟨fresh, later⟩ := List.nodup_cons.mp distinct
      obtain ⟨y, hy, same⟩ := each f List.mem_cons_self
      have hg : (f.1, g.2) ∈ g :: gs := by
        rw [first]
        exact List.mem_cons_self
      obtain rfl := entry_eq_of_mem distinct hy hg
      have behind : ∀ f' ∈ fs, ∃ y', (f'.1, y') ∈ gs ∧ f'.2.equal y' = true := by
        intro f' hf
        obtain ⟨y', hy', same'⟩ := each f' (List.mem_cons_of_mem f hf)
        rcases List.mem_cons.mp hy' with rfl | hy'
        · refine absurd ?_ fresh
          rw [← others]
          exact List.mem_map.mpr ⟨f', hf, rfl⟩
        · exact ⟨y', hy', same'⟩
      rw [equalFields, first, same, ih others later behind, beq_self_eq_true]
      rfl

/-- Keys that are all found on the other side, and are as many, are the same keys. -/
theorem keys_eq_of_subset (hf : (obj fs).Proper) (hg : (obj gs).Proper)
    (length : fs.length = gs.length) (found : fs.map Prod.fst ⊆ gs.map Prod.fst) :
    fs.map Prod.fst = gs.map Prod.fst := by
  have part := List.sublist_of_subperm_of_pairwise (List.subperm_of_subset hf.keys_nodup found)
    hf.keys_ascending hg.keys_ascending
  exact part.eq_of_length (by rw [List.length_map, List.length_map, length])

theorem equal_obj_iff (hf : (obj fs).Proper) (hg : (obj gs).Proper) :
    (obj fs).equal (obj gs) = true ↔ fs.length = gs.length ∧
      ∀ f ∈ fs, ∃ y, gs.find? f.1 = some y ∧ f.2.equal y = true := by
  rw [equal]
  simp only [hg.find?_eq_some_iff]
  constructor
  · intro h
    exact ⟨length_eq_of_equalFields h, exists_of_equalFields h⟩
  · rintro ⟨length, each⟩
    have found : fs.map Prod.fst ⊆ gs.map Prod.fst := by
      intro key hk
      obtain ⟨f, hm, rfl⟩ := List.mem_map.mp hk
      obtain ⟨y, hy, _⟩ := each f hm
      exact List.mem_map.mpr ⟨(f.1, y), hy, rfl⟩
    exact equalFields_of_keys_eq (keys_eq_of_subset hf hg length found) hg.keys_nodup each

/-- Equality is an equivalence on all values, whichever way their numbers are written. Of objects it
asks for as many fields on both sides and, for each field of the one, an equal value under its key
in the other. -/
theorem equal_equivalence :
    Equivalence (fun a b : {j : Json // j.Proper} => a.val.equal b.val = true) ∧
      ∀ fs gs : JsonObject, (obj fs).Proper → (obj gs).Proper →
        ((obj fs).equal (obj gs) = true ↔ fs.length = gs.length ∧
          ∀ f ∈ fs, ∃ y, gs.find? f.1 = some y ∧ f.2.equal y = true) := by
  refine ⟨⟨?refl, ?symm, ?trans⟩, fun fs gs hf hg => equal_obj_iff hf hg⟩
  case refl =>
    intro a
    exact equal_self a.property
  case symm =>
    intro a b hab
    rw [equal_comm]
    exact hab
  case trans =>
    intro a b c hab hbc
    exact equal_trans hab hbc

/-- One value with its numbers written in two ways. -/
def listener : JsonObject :=
  [("ports", .arr [.num (.int 443), .obj [("open", .bool true)]]), ("weight", .num (.int 2))]

def listenerInDoubles : JsonObject :=
  [("ports", .arr [.num (.float (.ofInt 443)), .obj [("open", .bool true)]]),
    ("weight", .num (.float (.ofInt 2)))]

theorem listener_equal_in_doubles :
    (obj listener).Proper ∧ (obj listenerInDoubles).Proper ∧
      (obj listener).equal (obj listenerInDoubles) = true ∧
      (obj listenerInDoubles).equal (obj listener) = true ∧
      ∀ f ∈ listener, ∃ y, listenerInDoubles.find? f.1 = some y ∧ f.2.equal y = true := by
  have whole : (obj listener).Proper := by decide +kernel
  have doubles : (obj listenerInDoubles).Proper := by decide +kernel
  have same : (obj listener).equal (obj listenerInDoubles) = true := by decide +kernel
  obtain ⟨equivalence, objects⟩ := equal_equivalence
  refine ⟨whole, doubles, same, ?_, ((objects _ _ whole doubles).mp same).2⟩
  exact equivalence.symm (x := ⟨obj listener, whole⟩) (y := ⟨obj listenerInDoubles, doubles⟩) same

end Json

end CloudThreat
