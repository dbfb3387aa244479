import CloudThreat.Proofs.JsonValues
import CloudThreat.Proofs.PathResolution

namespace CloudThreat

namespace Path

/-- Digits, after a sign or none, and the number that they stand for. -/
inductive Spells : List Char → Int → Prop
  | plain {ds : List Char} : ds ≠ [] → (∀ c ∈ ds, c.isDigit = true) →
      Spells ds (Nat.ofDigitChars 10 ds 0)
  | plus {ds : List Char} : ds ≠ [] → (∀ c ∈ ds, c.isDigit = true) →
      Spells ('+' :: ds) (Nat.ofDigitChars 10 ds 0)
  | minus {ds : List Char} : ds ≠ [] → (∀ c ∈ ds, c.isDigit = true) →
      Spells ('-' :: ds) (-(Nat.ofDigitChars 10 ds 0))

variable {segment : List Char} {i : Int}

theorem spells_toString (i : Int) : Spells (toString i).toList i := by
  have digits (n : Nat) : ∀ c ∈ Nat.toDigits 10 n, c.isDigit = true :=
    fun c hc => Nat.isDigit_of_mem_toDigits (by decide) (by decide) hc
  rw [Int.toString_eq_repr, Int.repr_eq_if]
  split
  · next hi =>
    have h := Spells.plain Nat.toDigits_ne_nil (digits i.toNat)
    rw [Nat.ofDigitChars_ten_toDigits, Int.toNat_of_nonneg hi] at h
    rwa [Nat.toList_repr]
  · next hi =>
    have h := Spells.minus Nat.toDigits_ne_nil (digits (-i).toNat)
    rw [Nat.ofDigitChars_ten_toDigits, Int.toNat_of_nonneg (by omega), Int.neg_neg] at h
    rw [String.toList_append, Nat.toList_repr]
    exact h

theorem Spells.not_mem_point (h : Spells segment i) : '.' ∉ segment := by
  have digits {ds : List Char} (all : ∀ c ∈ ds, c.isDigit = true) : '.' ∉ ds :=
    fun point => absurd (all '.' point) (by decide)
  cases h with
  | plain _ all => exact digits all
  | plus _ all => exact List.not_mem_cons_of_ne_of_not_mem (by decide) (digits all)
  | minus _ all => exact List.not_mem_cons_of_ne_of_not_mem (by decide) (digits all)

theorem splitSign_of_digits {ds : List Char} (digits : ∀ c ∈ ds, c.isDigit = true) :
    DecimalNumeral.splitSign ds = (false, ds) := by
  unfold DecimalNumeral.splitSign
  split
  · exact absurd (digits '-' List.mem_cons_self) (by decide)
  · exact absurd (digits '+' List.mem_cons_self) (by decide)
  · rfl

theorem valueOf_eq (ds : List Char) : DecimalNumeral.valueOf ds = Nat.ofDigitChars 10 ds 0 :=
  Nat.ofDigitChars_eq_foldl.symm

/-- The number of some digits with the sign in front of them. -/
def signedValue (negative : Bool) (ds : List Char) : Int :=
  if negative then -(DecimalNumeral.valueOf ds : Int) else DecimalNumeral.valueOf ds

theorem spells_iff : Spells segment i ↔ ∃ negative ds,
    DecimalNumeral.splitSign segment = (negative, ds) ∧ ds ≠ [] ∧
      (∀ c ∈ ds, c.isDigit = true) ∧ signedValue negative ds = i := by
  constructor
  · intro h
    cases h with
    | plain some digits =>
      refine ⟨false, segment, splitSign_of_digits digits, some, digits, ?_⟩
      rw [← valueOf_eq]
      rfl
    | @plus ds some digits =>
      refine ⟨false, ds, rfl, some, digits, ?_⟩
      rw [← valueOf_eq]
      rfl
    | @minus ds some digits =>
      refine ⟨true, ds, rfl, some, digits, ?_⟩
      rw [← valueOf_eq]
      rfl
  · rintro ⟨negative, ds, split, some, digits, rfl⟩
    rw [signedValue, valueOf_eq]
    unfold DecimalNumeral.splitSign at split
    split at split
    · cases split
      exact .minus some digits
    · cases split
      exact .plus some digits
    · cases split
      exact .plain some digits

/-- An index is a spelled number that a word can hold. -/
theorem index?_eq_some_iff :
    index? segment = some i ↔ Spells segment i ∧ WordSize.isSigned 64 i = true := by
  obtain ⟨⟨negative, ds⟩, split⟩ : ∃ parts, DecimalNumeral.splitSign segment = parts := ⟨_, rfl⟩
  have taken : index? segment = if ds.isEmpty || !ds.all Char.isDigit then none
      else if WordSize.isSigned 64 (signedValue negative ds) then
        some (signedValue negative ds) else none := by
    rw [index?, split]
    rfl
  have shape : (ds.isEmpty || !ds.all Char.isDigit) = false ↔
      ds ≠ [] ∧ ∀ c ∈ ds, c.isDigit = true := by simp
  rw [taken]
  constructor
  · intro h
    split at h
    · cases h
    · next formed =>
      obtain ⟨some, digits⟩ := shape.mp (Bool.eq_false_of_not_eq_true formed)
      split at h
      · next fits =>
        obtain rfl := Option.some.inj h
        exact ⟨spells_iff.mpr ⟨negative, ds, split, some, digits, rfl⟩, fits⟩
      · cases h
  · rintro ⟨h, fits⟩
    obtain ⟨negative', ds', split', some, digits, rfl⟩ := spells_iff.mp h
    cases split.symm.trans split'
    rw [shape.mpr ⟨some, digits⟩, if_pos fits]
    rfl

example : index? "-9223372036854775808".toList = some (-9223372036854775808) ∧
    index? "9223372036854775808".toList = none := by decide

section Items

variable {items : List Json} {value : Json} {k : Nat}

theorem position?_of_lt (hk : k < items.length) (place : i = k ∨ i = k - items.length) :
    position? items.length i = some k := by
  unfold position?
  rcases place with rfl | rfl
  · simp
  · rw [if_neg (by omega), if_pos (by omega)]
    congr 1
    omega

theorem lt_of_position? (h : position? items.length i = some k) (hk : k < items.length) :
    -(items.length : Int) ≤ i ∧ i < items.length := by
  unfold position? at h
  split at h
  · cases h
    omega
  · split at h
    · omega
    · cases h

theorem isSigned_of_place (length : items.length ≤ WordSize.maxUnsigned 63)
    (hk : k < items.length) (place : i = k ∨ i = k - items.length) :
    WordSize.isSigned 64 i = true := by
  have bits : 64 - 1 = 63 := rfl
  rw [WordSize.isSigned, bits, Bool.and_eq_true, decide_eq_true_iff, decide_eq_true_iff]
  rcases place with rfl | rfl <;> omega

/-- A position is found from either end. -/
theorem step_item (length : items.length ≤ WordSize.maxUnsigned 63)
    (found : items[k]? = some value) (place : i = k ∨ i = k - items.length)
    (spelled : Spells segment i) : step (.arr items) segment = value.nonNull? := by
  obtain ⟨hk, _⟩ := List.getElem?_eq_some_iff.mp found
  have index := index?_eq_some_iff.mpr ⟨spelled, isSigned_of_place length hk place⟩
  rw [step, index, Option.bind_some, position?_of_lt hk place, Option.bind_some, found]
  rfl

/-- Beyond both ends of a list there is nothing. -/
theorem step_beyond (out : ∀ i, Spells segment i → WordSize.isSigned 64 i = true →
    ¬ (-(items.length : Int) ≤ i ∧ i < items.length)) : step (.arr items) segment = none := by
  rw [step]
  cases index : index? segment with
  | none => rfl
  | some i =>
    obtain ⟨spelled, fits⟩ := index?_eq_some_iff.mp index
    rw [Option.bind_some]
    cases counted : position? items.length i with
    | none => rfl
    | some k =>
      rw [Option.bind_some]
      by_cases hk : k < items.length
      · exact absurd (lt_of_position? counted hk) (out i spelled fits)
      · rw [List.getElem?_eq_none (by omega)]
        rfl

end Items

/-- The names of a step into a value: the key of a field, if it has no point in it, and the number
of an item, counted from the front or, below zero, from behind. -/
inductive OneStep : Json → String → Json → Prop
  | field {fields : JsonObject} {key : String} {value : Json} :
      (key, value) ∈ fields → '.' ∉ key.toList → OneStep (.obj fields) key value
  | item {items : List Json} {k : Nat} {value : Json} {i : Int} :
      items[k]? = some value → i = k ∨ i = k - items.length →
      OneStep (.arr items) (toString i) value

/-- Steps from a value to a place in it. -/
inductive Leads : Json → List String → Json → Prop
  | here (value : Json) : Leads value [] value
  | onward {value next place : Json} {segment : String} {rest : List String} :
      OneStep value segment next → Leads next rest place → Leads value (segment :: rest) place

variable {value next place : Json} {name : String} {steps : List String}

theorem OneStep.not_mem_point (h : OneStep value name next) : '.' ∉ name.toList := by
  cases h with
  | field _ plain => exact plain
  | item _ _ => exact (spells_toString _).not_mem_point

theorem OneStep.proper (h : OneStep value name next) (proper : value.Proper) : next.Proper := by
  cases h with
  | field hm _ => exact proper.field hm
  | item found _ => exact (Json.proper_arr_iff.mp proper).2 _ (List.mem_of_getElem? found)

theorem OneStep.nonNull? (h : OneStep value name next) : value.nonNull? = some value := by
  cases h <;> rfl

theorem OneStep.step_eq (h : OneStep value name next) (proper : value.Proper) :
    step value name.toList = next.nonNull? := by
  cases h with
  | field hm _ => exact step_of_get? (proper.find?_eq_some_iff.mpr hm)
  | item found place =>
    exact step_item (Json.proper_arr_iff.mp proper).1 found place (spells_toString _)

theorem Leads.foldlM_step (h : Leads value steps place) (proper : value.Proper)
    (some : steps ≠ []) : (steps.map String.toList).foldlM step value = place.nonNull? := by
  induction h with
  | here value => exact absurd rfl some
  | @onward value next place name rest first later ih =>
    rw [List.map_cons, List.foldlM_cons, first.step_eq proper]
    cases later with
    | here => exact bind_pure _
    | onward second others =>
      rw [second.nonNull?]
      exact ih (first.proper proper) (List.cons_ne_nil _ _)

theorem segments_intercalate (some : steps ≠ []) :
    segments (".".intercalate steps) = steps.flatMap segments := by
  induction steps with
  | nil => exact absurd rfl some
  | cons first rest ih =>
    cases rest with
    | nil => simp
    | cons second rest =>
      rw [String.intercalate_cons_of_ne_nil (List.cons_ne_nil _ _), segments_append,
        ih (List.cons_ne_nil _ _)]
      rfl

theorem Leads.flatMap_segments (h : Leads value steps place) :
    steps.flatMap segments = steps.map String.toList := by
  induction h with
  | here value => rfl
  | onward first _ ih =>
    rw [List.flatMap_cons, List.map_cons, segments_of_not_mem first.not_mem_point, ih]
    rfl

theorem Leads.resolve_eq (h : Leads value steps place) (proper : value.Proper)
    (some : steps ≠ []) : resolve value (".".intercalate steps) = place.nonNull? := by
  rw [resolve, segments_intercalate some, h.flatMap_segments]
  exact h.foldlM_step proper some

theorem Leads.resolve_beyond {items : List Json} {rest : List String}
    (h : Leads value steps (.arr items)) (proper : value.Proper) (plain : '.' ∉ name.toList)
    (out : ∀ i, Spells name.toList i → WordSize.isSigned 64 i = true →
      ¬ (-(items.length : Int) ≤ i ∧ i < items.length)) :
    resolve value (".".intercalate (steps ++ name :: rest)) = none := by
  have reached : (steps.map String.toList).foldlM step value = some (.arr items) := by
    cases h with
    | here _ => rfl
    | onward first later => exact (Leads.onward first later).foldlM_step proper (by simp)
  have some : steps ++ name :: rest ≠ [] := by simp
  rw [resolve, segments_intercalate some, List.flatMap_append, List.flatMap_cons,
    h.flatMap_segments, segments_of_not_mem plain, List.foldlM_append, reached]
  change (do
    let found ← step (.arr items) name.toList
    (rest.flatMap segments).foldlM step found) = none
  rw [step_beyond out]
  rfl

/-- The steps to a place, with points between them, are a path to what stands there. A step into a
list that spells no position of it ends every path. -/
theorem resolve_reaches_places {value : Json} (proper : value.Proper) :
    (∀ (steps : List String) (place : Json), Leads value steps place → steps ≠ [] →
      resolve value (".".intercalate steps) = place.nonNull?) ∧
      ∀ (steps : List String) (items : List Json) (name : String) (rest : List String),
        Leads value steps (.arr items) → '.' ∉ name.toList →
        (∀ i, Spells name.toList i → WordSize.isSigned 64 i = true →
          ¬ (-(items.length : Int) ≤ i ∧ i < items.length)) →
        resolve value (".".intercalate (steps ++ name :: rest)) = none := by
  refine ⟨?places, ?beyond⟩
  case places =>
    intro steps place h some
    exact h.resolve_eq proper some
  case beyond =>
    intro steps items name rest h plain out
    exact h.resolve_beyond proper plain out

def firewall : Json :=
  .obj [("rules", .arr [.obj [("ports", .arr [.num (.int 22), .null])], .str "deny"])]

theorem firewall_places :
    firewall.Proper ∧
      Leads firewall ["rules", toString (-2 : Int), "ports", toString (0 : Int)]
        (.num (.int 22)) ∧
      resolve firewall "rules.-2.ports.0" = some (.num (.int 22)) ∧
      Leads firewall ["rules", toString (0 : Int), "ports", toString (-1 : Int)] .null ∧
      resolve firewall "rules.0.ports.-1" = none ∧
      resolve firewall "rules.2.ports" = none := by
  have proper : firewall.Proper := by decide +kernel
  have rules : OneStep firewall "rules"
      (.arr [.obj [("ports", .arr [.num (.int 22), .null])], .str "deny"]) :=
    .field List.mem_cons_self (by decide)
  have ports : OneStep (.obj [("ports", .arr [.num (.int 22), .null])]) "ports"
      (.arr [.num (.int 22), .null]) :=
    .field List.mem_cons_self (by decide)
  have port : Leads firewall ["rules", toString (-2 : Int), "ports", toString (0 : Int)]
      (.num (.int 22)) :=
    .onward rules (.onward (.item (k := 0) rfl (.inr rfl))
      (.onward ports (.onward (.item (k := 0) rfl (.inl rfl)) (.here _))))
  have noPort : Leads firewall ["rules", toString (0 : Int), "ports", toString (-1 : Int)] .null :=
    .onward rules (.onward (.item (k := 0) rfl (.inl rfl))
      (.onward ports (.onward (.item (k := 1) rfl (.inr rfl)) (.here _))))
  obtain ⟨places, beyond⟩ := resolve_reaches_places proper
  refine ⟨proper, port, places _ _ port (List.cons_ne_nil _ _), noPort,
    places _ _ noPort (List.cons_ne_nil _ _), ?_⟩
  refine beyond ["rules"] _ "2" ["ports"] (.onward rules (.here _)) (by decide) ?_
  intro i spelled fits
  have two : index? "2".toList = some 2 := by decide
  obtain rfl := Option.some.inj (two.symm.trans (index?_eq_some_iff.mpr ⟨spelled, fits⟩))
  decide

end Path

end CloudThreat
