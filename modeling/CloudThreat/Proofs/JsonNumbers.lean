import CloudThreat.JsonParser
import CloudThreat.Proofs.IntegerComparison
import CloudThreat.Proofs.JsonValues
import Mathlib.Data.List.Induction

namespace CloudThreat

theorem JsonObject.mem_insert {o : JsonObject} {key : String} {value : Json} {f : String × Json}
    (h : f ∈ o.insert key value) : f = (key, value) ∨ f ∈ o := by
  induction o with
  | nil => exact .inl (List.mem_singleton.mp h)
  | cons g rest ih =>
    rw [insert] at h
    split at h
    · exact List.mem_cons.mp h
    · split at h
      · rcases List.mem_cons.mp h with rfl | later
        · exact .inr List.mem_cons_self
        · exact (ih later).imp_right (List.mem_cons_of_mem g)
      · exact (List.mem_cons.mp h).imp_right (List.mem_cons_of_mem g)

theorem JsonObject.mem_of_mem_ofList {fields : List (String × Json)} {f : String × Json}
    (h : f ∈ ofList fields) : f ∈ fields := by
  induction fields using List.reverseRecOn with
  | nil => exact h
  | append_singleton fields g ih =>
    rw [ofList, List.foldl_append] at h
    rcases mem_insert h with rfl | earlier
    · exact List.mem_append_right fields List.mem_cons_self
    · exact List.mem_append_left _ (ih earlier)

namespace Json

/-- Every whole number in the value is of 64 bits. -/
inductive Whole : Json → Prop
  | null : Whole .null
  | bool (value : Bool) : Whole (.bool value)
  | int {i : Int} : JsonNumber.isWhole i = true → Whole (.num (.int i))
  | float (value : Double) : Whole (.num (.float value))
  | str (text : String) : Whole (.str text)
  | arr {items : List Json} : (∀ j ∈ items, Whole j) → Whole (.arr items)
  | obj {fields : List (String × Json)} : (∀ f ∈ fields, Whole f.2) → Whole (.obj fields)

variable {j : Json} {key : String}

theorem canonicalItems_eq (items : List Json) : canonicalItems items = items.map canonical := by
  induction items with
  | nil => rw [canonicalItems, List.map_nil]
  | cons j rest ih => rw [canonicalItems, ih, List.map_cons]

theorem canonicalFields_eq (fields : List (String × Json)) :
    canonicalFields fields = fields.map fun f => (f.1, f.2.canonical) := by
  induction fields with
  | nil => rw [canonicalFields, List.map_nil]
  | cons f rest ih => rw [canonicalFields, ih, List.map_cons]

theorem Whole.canonical (h : j.Whole) : j.canonical.Whole := by
  induction h with
  | null => exact .null
  | bool b => exact .bool b
  | int fits => exact .int fits
  | float x => exact .float x
  | str s => exact .str s
  | arr _ ih =>
    rw [Json.canonical, canonicalItems_eq]
    exact .arr (List.forall_mem_map.mpr ih)
  | obj _ ih =>
    rw [Json.canonical, canonicalFields_eq]
    refine .obj fun f hf => ?_
    obtain ⟨g, hg, rfl⟩ := List.mem_map.mp (JsonObject.mem_of_mem_ofList hf)
    exact ih g hg

theorem Whole.get? {value : Json} (h : j.Whole) (found : j.get? key = some value) :
    value.Whole := by
  cases h with
  | obj each => exact each _ (JsonObject.mem_of_find? found)
  | _ => exact nomatch found

theorem Whole.nat?_lt {n : Nat} (h : j.Whole) (count : j.nat? = some n) : n < 2 ^ 64 := by
  cases h with
  | @int i fits =>
    have range := JsonNumber.isWhole_iff.mp fits
    rw [nat?, JsonNumber.toNat?] at count
    split at count
    next =>
      obtain rfl := Option.some.inj count
      omega
    next => exact nomatch count
  | _ => exact nomatch count

end Json

namespace JsonParser

variable {cs rest : List Char} {j : Json} {n : JsonNumber} {fuel depth : Nat}

theorem numberOf_whole {negative : Bool} {whole : List Char} {fraction : Option (List Char)}
    {exponent : Option Int} (h : numberOf negative whole fraction exponent = some n) :
    (Json.num n).Whole := by
  cases n with
  | float x => exact .float x
  | int i =>
    unfold numberOf at h
    dsimp only at h
    split at h
    · split at h
      · split at h
        next fits =>
          cases h
          exact .int (Bool.or_eq_true_iff.mpr (.inl (Bool.and_eq_true_iff.mp fits).2))
        next => split at h <;> cases h
      · split at h
        next fits =>
          cases h
          exact .int (Bool.or_eq_true_iff.mpr (.inr fits))
        next => split at h <;> cases h
    · split at h <;> cases h

theorem number_whole (h : number cs = some (n, rest)) : (Json.num n).Whole := by
  simp only [number, Option.bind_eq_bind, Option.bind_eq_some_iff, Option.some.injEq,
    Prod.mk.injEq] at h
  obtain ⟨_, _, _, _, _, _, m, read, rfl, _⟩ := h
  exact numberOf_whole read

theorem word_whole {w : List Char} {k : Json} (whole : k.Whole)
    (h : word w k cs = some (j, rest)) : j.Whole := by
  rw [word] at h
  split at h
  next => cases h; exact whole
  next => exact nomatch h

/-- What is read with a certain fuel holds whole numbers of 64 bits only. -/
structure ReadsWhole (fuel : Nat) : Prop where
  value : ∀ {depth cs j rest}, value fuel depth cs = some (j, rest) → j.Whole
  items : ∀ {depth cs js rest}, items fuel depth cs = some (js, rest) → ∀ j ∈ js, j.Whole
  fields : ∀ {depth cs fs rest}, fields fuel depth cs = some (fs, rest) → ∀ f ∈ fs, f.2.Whole

theorem value_whole (ih : ReadsWhole fuel) (h : value (fuel + 1) depth cs = some (j, rest)) :
    j.Whole := by
  rw [value] at h
  split at h
  next =>
    split at h
    · exact nomatch h
    · split at h
      · cases h
        exact .arr (by simp)
      · obtain ⟨⟨js, after⟩, read, eq⟩ := Option.map_eq_some_iff.mp h
        cases eq
        exact .arr (ih.items read)
  next =>
    split at h
    · exact nomatch h
    · split at h
      · cases h
        exact .obj (by simp)
      · obtain ⟨⟨fs, after⟩, read, eq⟩ := Option.map_eq_some_iff.mp h
        cases eq
        exact .obj (ih.fields read)
  next =>
    obtain ⟨⟨s, after⟩, _, eq⟩ := Option.map_eq_some_iff.mp h
    cases eq
    exact .str s
  next => exact word_whole (.bool true) h
  next => exact word_whole (.bool false) h
  next => exact word_whole .null h
  next =>
    obtain ⟨⟨n, after⟩, read, eq⟩ := Option.map_eq_some_iff.mp h
    cases eq
    exact number_whole read

theorem items_whole {js : List Json} (ih : ReadsWhole fuel)
    (h : items (fuel + 1) depth cs = some (js, rest)) : ∀ j ∈ js, j.Whole := by
  rw [items] at h
  obtain ⟨⟨j, after⟩, read, h⟩ := Option.bind_eq_some_iff.mp h
  dsimp only at h
  split at h
  · obtain ⟨⟨others, last⟩, later, eq⟩ := Option.map_eq_some_iff.mp h
    cases eq
    exact List.forall_mem_cons.mpr ⟨ih.value read, ih.items later⟩
  · cases h
    exact List.forall_mem_singleton.mpr (ih.value read)
  · exact nomatch h

theorem fields_whole {fs : List (String × Json)} (ih : ReadsWhole fuel)
    (h : fields (fuel + 1) depth cs = some (fs, rest)) : ∀ f ∈ fs, f.2.Whole := by
  rw [fields] at h
  split at h
  next =>
    obtain ⟨⟨key, after⟩, _, h⟩ := Option.bind_eq_some_iff.mp h
    dsimp only at h
    split at h
    · obtain ⟨⟨j, next⟩, read, h⟩ := Option.bind_eq_some_iff.mp h
      dsimp only at h
      split at h
      · obtain ⟨⟨others, last⟩, later, eq⟩ := Option.map_eq_some_iff.mp h
        cases eq
        exact List.forall_mem_cons.mpr ⟨ih.value read, ih.fields later⟩
      · cases h
        exact List.forall_mem_singleton.mpr (ih.value read)
      · exact nomatch h
    · exact nomatch h
  next => exact nomatch h

theorem readsWhole (fuel : Nat) : ReadsWhole fuel := by
  induction fuel with
  | zero =>
    refine ⟨?_, ?_, ?_⟩ <;> intro _ _ _ _ h
    · rw [value] at h; exact nomatch h
    · rw [items] at h; exact nomatch h
    · rw [fields] at h; exact nomatch h
  | succ fuel ih => exact ⟨value_whole ih, items_whole ih, fields_whole ih⟩

end JsonParser

theorem Json.whole_of_ofText? {s : String} {j : Json} (h : Json.ofText? s = some j) :
    j.Whole := by
  obtain ⟨written, read, rfl⟩ := Option.map_eq_some_iff.mp h
  rw [JsonParser.written?] at read
  split at read
  next parsed =>
    split at read
    next =>
      cases read
      exact ((JsonParser.readsWhole _).value parsed).canonical
    next => exact nomatch read
  next => exact nomatch read

end CloudThreat
