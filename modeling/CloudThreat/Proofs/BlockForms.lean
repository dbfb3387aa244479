import CloudThreat.Proofs.ExposureRules
import Mathlib.Logic.Relation

namespace CloudThreat

/-- One value under a key is exchanged for another that is related to it. -/
inductive JsonObject.Exchanged (key : String) (related : Json → Json → Prop) :
    JsonObject → JsonObject → Prop
  | field {o : JsonObject} {j j' : Json} (found : o.find? key = some j) (h : related j j') :
    Exchanged key related o (o.insert key j')

namespace Json

/-- A block alone is put into a list, or a list gets one more item that is no block. -/
inductive Relisted : Json → Json → Prop
  | listed (o : JsonObject) : Relisted (.obj o) (.arr [.obj o])
  | padded {item : Json} (other : item.isObject = false) (before after : List Json) :
    Relisted (.arr (before ++ after)) (.arr (before ++ item :: after))

/-- One change in the form of blocks that count alike. -/
inductive Regrouped : Json → Json → Prop
  | relisted {j j' : Json} (h : Relisted j j') : Regrouped j j'
  | reordered {items items' : List Json} (h : items.Perm items') :
    Regrouped (.arr items) (.arr items')
  | repeated {o : JsonObject} {items : List Json} (h : .obj o ∈ items) :
    Regrouped (.arr items) (.arr (.obj o :: items))

/-- One change in the form of blocks of which the first counts: in how they are listed, or in the
value that one of them has under a key. -/
inductive Reformed (key : String) (inner : Json → Json → Prop) : Json → Json → Prop
  | relisted {j j' : Json} (h : Relisted j j') : Reformed key inner j j'
  | alone {o o' : JsonObject} (h : o.Exchanged key inner o') : Reformed key inner (.obj o) (.obj o')
  | among {o o' : JsonObject} (h : o.Exchanged key inner o') (before after : List Json) :
    Reformed key inner (.arr (before ++ .obj o :: after)) (.arr (before ++ .obj o' :: after))

end Json

/-- One change in the form of the blocks that the security zone of a resource depends on. -/
inductive Resource.Reformed : Resource → Resource → Prop
  | settings {o o' : JsonObject} (r : Resource)
    (h : o.Exchanged "settings"
      (Json.Reformed "ip_configuration" (Json.Reformed "authorized_networks" Json.Regrouped)) o') :
    Reformed { r with properties := .obj o } { r with properties := .obj o' }
  | ingress {o o' : JsonObject} (r : Resource) (h : o.Exchanged "ingress" Json.Regrouped o') :
    Reformed { r with properties := .obj o } { r with properties := .obj o' }

namespace JsonObject

variable {key other : String} {related : Json → Json → Prop} {o o' : JsonObject}

theorem Exchanged.find?_of_ne (h : o.Exchanged key related o') (ne : other ≠ key) :
    o'.find? other = o.find? other := by
  obtain ⟨_, _⟩ := h
  exact find?_insert_of_ne ne o _

theorem Exchanged.find?_self (h : o.Exchanged key related o') :
    ∃ j j', o.find? key = some j ∧ o'.find? key = some j' ∧ related j j' := by
  obtain ⟨found, h⟩ := h
  exact ⟨_, _, found, find?_insert_self _ _ _, h⟩

end JsonObject

namespace Exposure

variable {r r' : Resource} {j j' c c' : Json} {key : String} {inner : Json → Json → Prop}
  {o o' : JsonObject}

theorem blocks_of_relisted (h : Json.Relisted j j') : blocks (some j') = blocks (some j) := by
  cases h with
  | listed o => rfl
  | @padded item other before after =>
    have left_out : ¬ item.isObject = true := by rw [other]; exact Bool.false_ne_true
    simp only [blocks, List.filter_append, List.filter_cons_of_neg left_out]

theorem mem_blocks_of_regrouped (h : Json.Regrouped j j') (block : Json) :
    block ∈ blocks (some j') ↔ block ∈ blocks (some j) := by
  cases h with
  | relisted h => rw [blocks_of_relisted h]
  | reordered h => exact (h.filter Json.isObject).mem_iff.symm
  | @repeated o items h =>
    have already : Json.obj o ∈ blocks (some (.arr items)) := List.mem_filter.mpr ⟨h, rfl⟩
    have more : blocks (some (.arr (.obj o :: items))) = .obj o :: blocks (some (.arr items)) := rfl
    rw [more, List.mem_cons]
    exact ⟨fun hb => hb.elim (· ▸ already) id, .inr⟩

theorem any_blocks_of_regrouped (h : Json.Regrouped j j') (p : Json → Bool) :
    (blocks (some j')).any p = (blocks (some j)).any p := by
  rw [Bool.eq_iff_iff, List.any_eq_true, List.any_eq_true]
  exact exists_congr fun block => and_congr_left fun _ => mem_blocks_of_regrouped h block

/-- The first block stays, or it is the one whose value is exchanged. -/
theorem firstBlock_of_reformed (h : Json.Reformed key inner j j') :
    firstBlock (some j') = firstBlock (some j) ∨ ∃ o o' : JsonObject, o.Exchanged key inner o' ∧
      firstBlock (some j) = some (.obj o) ∧ firstBlock (some j') = some (.obj o') := by
  cases h with
  | relisted h =>
    left
    rw [firstBlock, blocks_of_relisted h, firstBlock]
  | alone h => exact .inr ⟨_, _, h, rfl, rfl⟩
  | among h before after =>
    simp only [firstBlock, blocks, List.filter_append, List.filter_cons, Json.isObject, if_true]
    cases before.filter Json.isObject with
    | nil => exact .inr ⟨_, _, h, rfl, rfl⟩
    | cons first rest => exact .inl rfl

/-- All that counts of the configuration of a public address. -/
def SameAddress (c c' : Json) : Prop :=
  c'.get? "ipv4_enabled" = c.get? "ipv4_enabled" ∧ authorizesAnyone c' = authorizesAnyone c

theorem SameAddress.refl (c : Option Json) : Option.Rel SameAddress c c := by
  cases c with
  | none => exact .none
  | some c => exact .some ⟨rfl, rfl⟩

theorem sameAddress_of_exchanged (h : o.Exchanged "authorized_networks" Json.Regrouped o') :
    SameAddress (.obj o) (.obj o') := by
  obtain ⟨j, j', found, found', networks⟩ := h.find?_self
  refine ⟨h.find?_of_ne (by decide), ?_⟩
  rw [authorizesAnyone, authorizesAnyone, Json.get?, Json.get?, found, found',
    any_blocks_of_regrouped networks]

theorem firstBlock_sameAddress
    (h : Json.Reformed "authorized_networks" Json.Regrouped j j') :
    Option.Rel SameAddress (firstBlock (some j)) (firstBlock (some j')) := by
  rcases firstBlock_of_reformed h with same | ⟨o, o', exchanged, first, first'⟩
  · rw [same]
    exact SameAddress.refl _
  · rw [first, first']
    exact .some (sameAddress_of_exchanged exchanged)

theorem addressConfiguration?_sameAddress (settings : Json.Reformed "ip_configuration"
      (Json.Reformed "authorized_networks" Json.Regrouped) j j')
    (h : r.property "settings" = some j) (h' : r'.property "settings" = some j') :
    Option.Rel SameAddress (addressConfiguration? r) (addressConfiguration? r') := by
  rw [addressConfiguration?, addressConfiguration?, h, h']
  rcases firstBlock_of_reformed settings with same | ⟨o, o', exchanged, first, first'⟩
  · rw [same]
    exact SameAddress.refl _
  · obtain ⟨c, c', found, found', reformed⟩ := exchanged.find?_self
    rw [first, first', Option.bind_some, Option.bind_some, Json.get?, Json.get?, found, found']
    exact firstBlock_sameAddress reformed

theorem addressBoundary_of_sameAddress
    (same : Option.Rel SameAddress (addressConfiguration? r) (addressConfiguration? r'))
    (encrypted : r'.property "encrypted" = r.property "encrypted") :
    addressBoundary r' = addressBoundary r := by
  rw [addressBoundary_eq, addressBoundary_eq, encrypted]
  generalize addressConfiguration? r = c, addressConfiguration? r' = c' at same ⊢
  cases same with
  | none => rfl
  | some same =>
    obtain ⟨enabled, networks⟩ := same
    rw [Option.bind_some, Option.bind_some, enabled, addressZone, networks, addressZone]

/-- Of two resources that differ in a property for blocks only what is read from the blocks has to
be compared. -/
theorem boundary_eq_of_changesOnly (h : Resource.ChangesOnly key r r')
    (reachable : key ∉ reachableKeys) (encrypted : key ∉ encryptionKeys) (acl : key ≠ "acl")
    (address : addressBoundary r' = addressBoundary r)
    (ingress : admitsIngress r' = admitsIngress r) : boundary r' = boundary r := by
  have flags : boundaryByFlags (LetterCase.lower r.resourceType) r' =
      boundaryByFlags (LetterCase.lower r.resourceType) r :=
    boundaryByFlags_eq_of_changesOnly h reachable encrypted acl ingress
  rw [boundary, h.resourceType, address, flags, boundary]

theorem changesOnly_of_exchanged {related : Json → Json → Prop} (h : o.Exchanged key related o')
    (r : Resource) : Resource.ChangesOnly key { r with properties := .obj o }
      { r with properties := .obj o' } where
  resourceType := rfl
  property other ne := by
    rw [Resource.property, Json.get?, h.find?_of_ne ne, Resource.property, Json.get?]

theorem property_of_exchanged {related : Json → Json → Prop} (h : o.Exchanged key related o')
    (shown : ∀ j j', related j j' → j.nonNull? = some j ∧ j'.nonNull? = some j') (r : Resource) :
    ∃ j j', related j j' ∧ { r with properties := .obj o }.property key = some j ∧
      { r with properties := .obj o' }.property key = some j' := by
  obtain ⟨j, j', found, found', h⟩ := h.find?_self
  refine ⟨j, j', h, ?_, ?_⟩
  · rw [Resource.property, Json.get?, found, Option.bind_some, (shown j j' h).1]
  · rw [Resource.property, Json.get?, found', Option.bind_some, (shown j j' h).2]

theorem relisted_shown (h : Json.Relisted j j') : j.nonNull? = some j ∧ j'.nonNull? = some j' := by
  cases h <;> exact ⟨rfl, rfl⟩

theorem regrouped_shown (h : Json.Regrouped j j') :
    j.nonNull? = some j ∧ j'.nonNull? = some j' := by
  cases h with
  | relisted h => exact relisted_shown h
  | reordered | repeated => exact ⟨rfl, rfl⟩

theorem reformed_shown (h : Json.Reformed key inner j j') :
    j.nonNull? = some j ∧ j'.nonNull? = some j' := by
  cases h with
  | relisted h => exact relisted_shown h
  | alone | among => exact ⟨rfl, rfl⟩

theorem boundary_of_reformed (h : r.Reformed r') : boundary r' = boundary r := by
  cases h with
  | settings r h =>
    have only := changesOnly_of_exchanged h r
    obtain ⟨j, j', reformed, found, found'⟩ := property_of_exchanged h (fun _ _ => reformed_shown) r
    have same := addressConfiguration?_sameAddress reformed found found'
    exact boundary_eq_of_changesOnly only (by decide) (by decide) (by decide)
      (addressBoundary_of_sameAddress same (only.property _ (by decide)))
      (admitsIngress_eq only (by decide))
  | ingress r h =>
    have only := changesOnly_of_exchanged h r
    obtain ⟨j, j', regrouped, found, found'⟩ :=
      property_of_exchanged h (fun _ _ => regrouped_shown) r
    refine boundary_eq_of_changesOnly only (by decide) (by decide) (by decide)
      (addressBoundary_eq_of_changesOnly only (by decide) (by decide)) ?_
    rw [admitsIngress, admitsIngress, found, found', any_blocks_of_regrouped regrouped]

/-- However the blocks of a resource are written, in one form after the other, its zone stays. -/
theorem boundary_of_forms (h : Relation.EqvGen Resource.Reformed r r') :
    boundary r' = boundary r := by
  induction h with
  | rel _ _ h => exact boundary_of_reformed h
  | refl _ => rfl
  | symm _ _ _ ih => exact ih.symm
  | trans _ _ _ _ _ first second => exact second.trans first

def warehouse (settings : Json) : Resource :=
  Resource.new "google_sql_database_instance" "warehouse" (.obj [("settings", settings)])

/-- The settings of a database that is open to all and to a private network. -/
def openSettings : JsonObject :=
  [("ip_configuration", .obj [
    ("authorized_networks", .arr [.obj [("value", .str "10.0.0.0/8")],
      .obj [("value", .str "0.0.0.0/0")]]),
    ("ipv4_enabled", .bool true)])]

/-- The same with every block in a list, the networks the other way round and a null in front. -/
def listedSettings : Json :=
  .arr [.null, .obj [("ip_configuration", .arr [.obj [
    ("authorized_networks", .arr [.obj [("value", .str "0.0.0.0/0")],
      .obj [("value", .str "10.0.0.0/8")]]),
    ("ipv4_enabled", .bool true)]])]]

theorem warehouse_listed :
    Relation.EqvGen Resource.Reformed (warehouse (.obj openSettings)) (warehouse listedSettings) ∧
    boundary (warehouse (.obj openSettings)) = .internet ∧
    boundary (warehouse listedSettings) = .internet := by
  have step : ∀ {j j'}, Json.Reformed "ip_configuration"
      (Json.Reformed "authorized_networks" Json.Regrouped) j j' →
      Relation.EqvGen Resource.Reformed (warehouse j) (warehouse j') :=
    fun {j j'} h => .rel _ _ (.settings (warehouse j) (.field rfl h))
  have forms : Relation.EqvGen Resource.Reformed (warehouse (.obj openSettings))
      (warehouse listedSettings) := by
    refine .trans _ _ _ (step (.alone (.field rfl (.alone (.field rfl (.reordered (.swap _ _ _)))))))
      ?_
    refine .trans _ _ _ (step (.alone (.field rfl (.relisted (.listed _))))) ?_
    refine .trans _ _ _ (step (.relisted (.listed _))) ?_
    exact step (.relisted (.padded rfl [] _))
  have blocks : boundary (warehouse (.obj openSettings)) = .internet := by decide +kernel
  exact ⟨forms, blocks, (boundary_of_forms forms).trans blocks⟩

end Exposure

end CloudThreat
