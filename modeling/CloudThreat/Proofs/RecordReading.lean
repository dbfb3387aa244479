import CloudThreat.JsonReading
import Mathlib.Data.List.Perm.Basic
import Mathlib.Data.String.Basic

namespace CloudThreat

namespace JsonObject

variable {o : JsonObject} {key : String} {value : Json}

theorem key_eq_of_not_lt {k l : String} (hk : ¬ k < l) (hl : ¬ l < k) : k = l :=
  String.le_antisymm (String.not_lt.mp hl) (String.not_lt.mp hk)

theorem insert_perm (fresh : key ∉ o.map Prod.fst) :
    (o.insert key value).Perm ((key, value) :: o) := by
  induction o with
  | nil => exact .refl _
  | cons f rest ih =>
    obtain ⟨k, v⟩ := f
    obtain ⟨other, later⟩ := List.ne_and_not_mem_of_not_mem_cons fresh
    rw [insert]
    split
    · exact .refl _
    · split
      · exact ((ih later).cons (k, v)).trans (.swap _ _ _)
      · next hk hl => exact absurd (key_eq_of_not_lt hk hl) other

theorem foldl_insert_perm {fields : List (String × Json)}
    (distinct : ((o ++ fields).map Prod.fst).Nodup) :
    (fields.foldl (fun o f => insert f.1 f.2 o) o).Perm (o ++ fields) := by
  induction fields generalizing o with
  | nil => simp
  | cons f rest ih =>
    have fresh : f.1 ∉ o.map Prod.fst := by
      rw [List.map_append, List.map_cons] at distinct
      exact fun h => (List.nodup_append.mp distinct).2.2 _ h _ (by simp) rfl
    have placed : (insert f.1 f.2 o).Perm (f :: o) := insert_perm fresh
    have moved : (insert f.1 f.2 o ++ rest).Perm (o ++ f :: rest) :=
      (placed.append_right rest).trans List.perm_middle.symm
    exact (ih ((moved.map Prod.fst).nodup_iff.mpr distinct)).trans moved

/-- An object has the fields that it is made of. -/
theorem ofList_perm {fields : List (String × Json)} (distinct : (fields.map Prod.fst).Nodup) :
    (ofList fields).Perm fields :=
  foldl_insert_perm (o := []) distinct

theorem filter_ofList {fields : List (String × Json)} {p : String × Json → Bool}
    {f : String × Json} (distinct : (fields.map Prod.fst).Nodup) (found : fields.filter p = [f]) :
    (ofList fields).filter p = [f] := by
  have kept := (ofList_perm distinct).filter p
  rw [found] at kept
  exact List.perm_singleton.mp kept

theorem find?_eq_head? (o : JsonObject) (key : String) :
    o.find? key = (o.filter fun f => f.1 == key).head?.map Prod.snd := by
  induction o with
  | nil => rfl
  | cons f rest ih =>
    obtain ⟨k, v⟩ := f
    rw [find?] at ih ⊢
    by_cases h : k = key
    · simp [h]
    · have other : (key == k) = false := by simpa using Ne.symm h
      simp [List.lookup_cons, other, h, ih]

theorem get?_object {fields : List (String × Json)} (distinct : (fields.map Prod.fst).Nodup)
    (found : fields.filter (fun f => f.1 == key) = [(key, value)]) :
    (Json.object fields).get? key = some value := by
  rw [Json.object, Json.get?, find?_eq_head?, filter_ofList distinct found]
  rfl

theorem get?_object_eq_none {fields : List (String × Json)}
    (distinct : (fields.map Prod.fst).Nodup) (absent : key ∉ fields.map Prod.fst) :
    (Json.object fields).get? key = none := by
  have none : (ofList fields).filter (fun f => f.1 == key) = [] := by
    refine List.filter_eq_nil_iff.mpr fun f hf same => absent ?_
    rw [← beq_iff_eq.mp same]
    exact List.mem_map_of_mem ((ofList_perm distinct).mem_iff.mp hf)
  rw [Json.object, Json.get?, find?_eq_head?, none]
  rfl

theorem find?_insert_self (o : JsonObject) (key : String) (value : Json) :
    (o.insert key value).find? key = some value := by
  induction o with
  | nil => exact List.lookup_cons_self
  | cons f rest ih =>
    obtain ⟨k, v⟩ := f
    rw [insert]
    split
    · exact List.lookup_cons_self
    · split
      · next hk =>
        have apart : (key == k) = false := beq_false_of_ne (ne_of_gt hk)
        rw [find?, List.lookup_cons, apart]
        exact ih
      · exact List.lookup_cons_self

theorem find?_insert_of_ne {other : String} (h : other ≠ key) (o : JsonObject) (value : Json) :
    (o.insert key value).find? other = o.find? other := by
  have apart : (other == key) = false := beq_false_of_ne h
  induction o with
  | nil =>
    rw [insert, find?, List.lookup_cons, apart]
    rfl
  | cons f rest ih =>
    obtain ⟨k, v⟩ := f
    simp only [find?] at ih ⊢
    rw [insert]
    split
    · rw [List.lookup_cons, apart]
    · split
      · rw [List.lookup_cons, List.lookup_cons, ih]
      · next hk hl =>
        obtain rfl := key_eq_of_not_lt hk hl
        rw [List.lookup_cons, List.lookup_cons, apart]

/-- A field does not matter to what is found under other keys. -/
theorem filter_insert {names : List String} (other : key ∉ names) (value : Json)
    (o : JsonObject) : (o.insert key value).filter (fun f => names.contains f.1) =
      o.filter fun f => names.contains f.1 := by
  induction o with
  | nil => simp [insert, other]
  | cons f rest ih =>
    obtain ⟨k, v⟩ := f
    rw [insert]
    split
    · simp [List.filter_cons, other]
    · split
      · rw [List.filter_cons, List.filter_cons, ih]
      · next hk hl =>
        obtain rfl := key_eq_of_not_lt hk hl
        simp [other]

end JsonObject

namespace Json

variable {j : Json}

theorem depth_le_depthOfItems {items : List Json} (h : j ∈ items) :
    j.depth ≤ depthOfItems items := by
  induction items with
  | nil => cases h
  | cons first rest ih =>
    rw [depthOfItems]
    rcases List.mem_cons.mp h with rfl | h
    · exact Nat.le_max_left _ _
    · exact Nat.le_trans (ih h) (Nat.le_max_right _ _)

theorem depth_le_depthOfFields {fields : List (String × Json)} {key : String}
    (h : (key, j) ∈ fields) : j.depth ≤ depthOfFields fields := by
  induction fields with
  | nil => cases h
  | cons first rest ih =>
    obtain ⟨k, i⟩ := first
    rw [depthOfFields]
    rcases List.mem_cons.mp h with same | h
    · rw [(Prod.mk.inj same).2]
      exact Nat.le_max_left _ _
    · exact Nat.le_trans (ih h) (Nat.le_max_right _ _)

theorem depth_lt_arr {items : List Json} (h : j ∈ items) : j.depth < (arr items).depth := by
  rw [depth]
  exact Nat.lt_succ_of_le (depth_le_depthOfItems h)

theorem depth_lt_object {fields : List (String × Json)} {key : String}
    (distinct : (fields.map Prod.fst).Nodup) (h : (key, j) ∈ fields) :
    j.depth < (object fields).depth := by
  rw [object, depth]
  have placed := (JsonObject.ofList_perm distinct).mem_iff.mpr h
  exact Nat.lt_succ_of_le (depth_le_depthOfFields placed)

end Json

namespace Reader

variable {α : Type} {read : Reader α} {P : α → Prop}

/-- Values that are read back one by one are read back as a list. -/
theorem list_map {toJson : α → Json} {xs : List α} (each : ∀ x ∈ xs, read (toJson x) = .ok x) :
    list read (.arr (xs.map toJson)) = .ok xs := by
  rw [list]
  induction xs with
  | nil => rfl
  | cons x xs ih =>
    obtain ⟨first, others⟩ := List.forall_mem_cons.mp each
    rw [List.map_cons, List.mapM_cons, first, ih others]
    rfl

theorem list_ofStrings (xs : List String) : list text (Json.ofStrings xs) = .ok xs :=
  list_map fun _ _ => rfl

theorem nullable_of_ne_null {j : Json} (shown : j ≠ .null) :
    nullable read j = (read j).map some := by
  cases j <;> first | rfl | exact absurd rfl shown

theorem nullable_ofOption {toJson : α → Json} {x : Option α}
    (each : ∀ a, x = some a → read (toJson a) = .ok a ∧ toJson a ≠ .null) :
    nullable read (Json.ofOption toJson x) = .ok x := by
  cases x with
  | none => rfl
  | some a =>
    obtain ⟨back, shown⟩ := each a rfl
    rw [Json.ofOption, nullable_of_ne_null shown, back]
    rfl

theorem eq_ok_of_map_eq_ok {ε β : Type} {e : Except ε α} {f : α → β} {b : β}
    (h : e.map f = .ok b) : ∃ a, e = .ok a ∧ f a = b := by
  cases e with
  | error e => cases h
  | ok a => exact ⟨a, rfl, Except.ok.inj h⟩

/-- All that is read has a property. -/
def Gives (read : Reader α) (P : α → Prop) : Prop :=
  ∀ j a, read j = .ok a → P a

theorem mapM_mem {items : List Json} {xs : List α} (h : items.mapM read = .ok xs) :
    ∀ x ∈ xs, ∃ j ∈ items, read j = .ok x := by
  induction items generalizing xs with
  | nil =>
    cases h
    simp
  | cons j items ih =>
    rw [List.mapM_cons] at h
    cases hj : read j with
    | error e =>
      rw [hj] at h
      cases h
    | ok a =>
      cases hi : items.mapM read with
      | error e =>
        rw [hj, hi] at h
        cases h
      | ok rest =>
        rw [hj, hi] at h
        cases h
        refine List.forall_mem_cons.mpr ⟨⟨j, by simp, hj⟩, fun x hx => ?_⟩
        obtain ⟨k, hk, back⟩ := ih hi x hx
        exact ⟨k, by simp [hk], back⟩

theorem Gives.list (h : Gives read P) : Gives (Reader.list read) fun xs => ∀ x ∈ xs, P x := by
  intro j xs hr x hx
  cases j with
  | arr items =>
    obtain ⟨j, _, hj⟩ := mapM_mem hr x hx
    exact h j x hj
  | _ => cases hr

theorem Gives.nullable (h : Gives read P) :
    Gives (Reader.nullable read) fun x => ∀ a, x = some a → P a := by
  intro j x hr a hx
  by_cases shown : j = .null
  · subst shown
    cases hx.symm.trans (Except.ok.inj hr).symm
  · rw [nullable_of_ne_null shown] at hr
    obtain ⟨b, hb, same⟩ := eq_ok_of_map_eq_ok hr
    cases same.trans hx
    exact h j a hb

end Reader

theorem FieldsResult.eq_value_of_seq {α β : Type} {f : FieldsResult (α → β)} {x : FieldsResult α}
    {b : β} (h : f.seq x = .value b) : ∃ g a, f = .value g ∧ x = .value a ∧ g a = b := by
  cases f with
  | value g =>
    cases x with
    | value a => exact ⟨g, a, rfl, rfl, FieldsResult.value.inj h⟩
    | _ => cases h
  | invalid k e =>
    cases x with
    | invalid k' e' =>
      rw [FieldsResult.seq] at h
      split at h <;> cases h
    | _ => cases h
  | missing name => cases x <;> cases h

namespace Fields

variable {α β : Type} {o : JsonObject} {names : List String} {key : String}

theorem ofObject_map (f : α → β) (x : Fields α) (o : JsonObject) :
    (f <$> x).ofObject o =
      match x.ofObject o with
      | .value a => .value (f a)
      | .invalid k e => .invalid k e
      | .missing name => .missing name :=
  rfl

theorem ofObject_seq (f : Fields (α → β)) (x : Fields α) (o : JsonObject) :
    (f <*> x).ofObject o = (f.ofObject o).seq (x.ofObject o) :=
  rfl

theorem ofObject_field (names : List String) (read : Reader α) (absent past : Option α)
    (o : JsonObject) : (field names read absent past).ofObject o =
      found (names.headD "") read absent (o.filter fun f => names.contains f.1) :=
  rfl

theorem ofItems_map (f : α → β) (x : Fields α) (i : Nat) (items : List Json) :
    (f <$> x).ofItems i items =
      match x.ofItems i items with
      | .ok (a, rest) => .ok (f a, rest)
      | .error e => .error e :=
  rfl

theorem ofItems_seq (f : Fields (α → β)) (x : Fields α) (i : Nat) (items : List Json) :
    (f <*> x).ofItems i items =
      match f.ofItems i items with
      | .error e => .error e
      | .ok (g, rest) =>
        match x.ofItems (i + f.count) rest with
        | .error e => .error e
        | .ok (a, rest) => .ok (g a, rest) :=
  rfl

theorem ofItems_field_cons (names : List String) (read : Reader α) (absent past : Option α)
    (i : Nat) (j : Json) (items : List Json) :
    (field names read absent past).ofItems i (j :: items) =
      match read j with
      | .ok a => .ok (a, items)
      | .error e => .error (.inl e) :=
  rfl

/-- What reading the fields of an object gives. -/
def Reads (fields : Fields α) (o : JsonObject) (a : α) : Prop :=
  fields.ofObject o = .value a

theorem Reads.map {x : Fields α} {a : α} (f : α → β) (h : x.Reads o a) :
    (f <$> x).Reads o (f a) := by
  rw [Reads, ofObject_map, h]

theorem Reads.seq {f : Fields (α → β)} {x : Fields α} {g : α → β} {a : α} (hf : f.Reads o g)
    (hx : x.Reads o a) : (f <*> x).Reads o (g a) := by
  rw [Reads, ofObject_seq, hf, hx, FieldsResult.seq]

/-- A field is read from where it stands among those that an object is made of. -/
theorem Reads.field {fields : List (String × Json)} {j : Json} {read : Reader α}
    {absent past : Option α} {a : α} (distinct : (fields.map Prod.fst).Nodup)
    (placed : fields.filter (fun f => names.contains f.1) = [(key, j)]) (back : read j = .ok a) :
    (Fields.field names read absent past).Reads (JsonObject.ofList fields) a := by
  rw [Reads, ofObject_field, JsonObject.filter_ofList distinct placed, found, back]

/-- A field that none of those is that an object is made of stays at its default. -/
theorem Reads.field_absent {fields : List (String × Json)} {read : Reader α} {past : Option α}
    {a : α} (distinct : (fields.map Prod.fst).Nodup)
    (absent : fields.filter (fun f => names.contains f.1) = []) :
    (Fields.field names read (some a) past).Reads (JsonObject.ofList fields) a := by
  have kept := (JsonObject.ofList_perm distinct).filter fun f => names.contains f.1
  rw [absent] at kept
  rw [Reads, ofObject_field, List.perm_nil.mp kept, found]

theorem Reads.read {fields : Fields α} {a : α} (title : String) (h : fields.Reads o a) :
    fields.read title (.obj o) = .ok a := by
  rw [Fields.read, h]

/-- The fields of a record take no notice of a key. -/
def Ignores (fields : Fields α) (key : String) : Prop :=
  ∀ (value : Json) (o : JsonObject), fields.ofObject (o.insert key value) = fields.ofObject o

theorem Ignores.map {x : Fields α} (f : α → β) (h : x.Ignores key) : (f <$> x).Ignores key :=
  fun value o => by rw [ofObject_map, ofObject_map, h]

theorem Ignores.seq {f : Fields (α → β)} {x : Fields α} (hf : f.Ignores key)
    (hx : x.Ignores key) : (f <*> x).Ignores key :=
  fun value o => by rw [ofObject_seq, ofObject_seq, hf, hx]

theorem Ignores.field {read : Reader α} {absent past : Option α} (other : key ∉ names) :
    (Fields.field names read absent past).Ignores key :=
  fun value o => by rw [ofObject_field, ofObject_field, JsonObject.filter_insert other]

theorem Ignores.read {fields : Fields α} (h : fields.Ignores key) (title : String) (value : Json)
    (o : JsonObject) :
    fields.read title (.obj (o.insert key value)) = fields.read title (.obj o) := by
  rw [Fields.read, Fields.read, h]

variable {P : α → Prop} {Q : β → Prop}

/-- All that is read, from an object or from a list, has a property. -/
structure Gives (fields : Fields α) (P : α → Prop) : Prop where
  ofObject : ∀ o a, fields.ofObject o = .value a → P a
  ofItems : ∀ i items a rest, fields.ofItems i items = .ok (a, rest) → P a

theorem Gives.map {x : Fields α} {f : α → β} (h : x.Gives fun a => Q (f a)) :
    (f <$> x).Gives Q where
  ofObject := by
    intro o b hb
    rw [ofObject_map] at hb
    split at hb
    · next a ha =>
      cases hb
      exact h.ofObject o a ha
    · cases hb
    · cases hb
  ofItems := by
    intro i items b rest hb
    rw [ofItems_map] at hb
    split at hb
    · next a rest' ha =>
      cases hb
      exact h.ofItems i items a _ ha
    · cases hb

theorem Gives.seq {f : Fields (α → β)} {x : Fields α} (hf : f.Gives fun g => ∀ a, P a → Q (g a))
    (hx : x.Gives P) : (f <*> x).Gives Q where
  ofObject := by
    intro o b hb
    rw [ofObject_seq] at hb
    obtain ⟨g, a, hg, ha, rfl⟩ := FieldsResult.eq_value_of_seq hb
    exact hf.ofObject o g hg a (hx.ofObject o a ha)
  ofItems := by
    intro i items b rest hb
    rw [ofItems_seq] at hb
    split at hb
    · cases hb
    · next g rest' hg =>
      split at hb
      · cases hb
      · next a rest'' ha =>
        cases hb
        exact hf.ofItems i items g _ hg a (hx.ofItems _ _ a _ ha)

theorem gives_of_forall {fields : Fields α} (h : ∀ a, P a) : fields.Gives P :=
  ⟨fun _ a _ => h a, fun _ _ a _ _ => h a⟩

/-- A field of which nothing needs to be known. -/
theorem Gives.seq_any {f : Fields (α → β)} {x : Fields α}
    (hf : f.Gives fun g => ∀ a, Q (g a)) : (f <*> x).Gives Q := by
  refine Gives.seq (P := fun _ => True) ?_ (gives_of_forall fun _ => trivial)
  exact ⟨fun o g hg a _ => hf.ofObject o g hg a, fun i items g rest hg a _ =>
    hf.ofItems i items g rest hg a⟩

theorem Gives.field {names : List String} {read : Reader α} {absent past : Option α}
    (h : Reader.Gives read P) (missing : ∀ a, absent = some a → P a)
    (short : ∀ a, past = some a → P a) : (Fields.field names read absent past).Gives P where
  ofObject := by
    intro o a ha
    rw [ofObject_field] at ha
    cases hf : o.filter fun f => names.contains f.1 with
    | nil =>
      rw [hf] at ha
      cases absent with
      | none => cases ha
      | some b => exact missing a (congrArg some (FieldsResult.value.inj ha))
    | cons f others =>
      rw [hf] at ha
      cases others with
      | nil =>
        rw [found] at ha
        split at ha
        · next b hb =>
          cases ha
          exact h _ a hb
        · cases ha
      | cons f' others =>
        rw [found] at ha
        split at ha <;> cases ha
  ofItems := by
    intro i items a rest ha
    cases items with
    | nil =>
      cases past with
      | none => cases ha
      | some b =>
        cases ha
        exact short _ rfl
    | cons j items =>
      rw [ofItems_field_cons] at ha
      split at ha
      · next b hb =>
        cases ha
        exact h j _ hb
      · cases ha

/-- A field with one name is read from the value under that name, or left at its default. -/
theorem eq_value_of_field {name : String} {read : Reader α} {absent past : Option α} {a : α}
    (h : (Fields.field [name] read absent past).ofObject o = .value a) :
    (∃ j, o.find? name = some j ∧ read j = .ok a) ∨ (o.find? name = none ∧ absent = some a) := by
  have alone : ∀ f ∈ o, [name].contains f.1 = (f.1 == name) := by
    intro f _
    rw [Bool.eq_iff_iff]
    simp
  rw [ofObject_field, List.filter_congr alone] at h
  match hf : o.filter fun f => f.1 == name with
  | [] =>
    rw [hf] at h
    rw [JsonObject.find?_eq_head?, hf]
    cases absent with
    | none => cases h
    | some b => exact .inr ⟨rfl, congrArg some (FieldsResult.value.inj h)⟩
  | [(key, j)] =>
    rw [hf, found] at h
    rw [JsonObject.find?_eq_head?, hf]
    split at h
    · next b hb =>
      cases h
      exact .inl ⟨j, rfl, hb⟩
    · cases h
  | (key, j) :: (key', j') :: others =>
    rw [hf, found] at h
    split at h <;> cases h

theorem Gives.read {fields : Fields α} (h : fields.Gives P) (title : String) :
    Reader.Gives (fields.read title) P := by
  intro j a hr
  cases j with
  | obj o =>
    rw [Fields.read] at hr
    split at hr
    · next b hb =>
      cases hr
      exact h.ofObject o a hb
    · cases hr
    · cases hr
  | arr items =>
    rw [Fields.read] at hr
    split at hr
    · next b hb =>
      cases hr
      exact h.ofItems 0 items a [] hb
    · cases hr
    · cases hr
    · cases hr
  | _ => cases hr

end Fields

end CloudThreat
