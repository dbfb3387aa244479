import CloudThreat.Exposure
import CloudThreat.Proofs.ResourceReading

namespace CloudThreat

namespace JsonObject

variable {o : JsonObject} {key other : String}

/-- The object with the value under a key changed; without the key it stays as it is. -/
def change (key : String) (f : Json → Json) (o : JsonObject) : JsonObject :=
  match o.find? key with
  | some j => o.insert key (f j)
  | none => o

theorem find?_change_self (key : String) (f : Json → Json) (o : JsonObject) :
    (o.change key f).find? key = (o.find? key).map f := by
  unfold change
  split
  next j hj => rw [find?_insert_self, hj, Option.map_some]
  next hn => rw [hn, Option.map_none]

theorem find?_change_of_ne (h : other ≠ key) (f : Json → Json) (o : JsonObject) :
    (o.change key f).find? other = o.find? other := by
  unfold change
  split
  next j hj => exact find?_insert_of_ne h o (f j)
  next => rfl

end JsonObject

namespace Json

/-- An object with its fields changed; anything else stays as it is. -/
def changeFields (f : JsonObject → JsonObject) : Json → Json
  | .obj fields => .obj (f fields)
  | j => j

def changeFirstObject (f : JsonObject → JsonObject) : List Json → List Json
  | [] => []
  | .obj fields :: rest => .obj (f fields) :: rest
  | j :: rest => j :: changeFirstObject f rest

/-- A value with the first of its blocks changed. -/
def changeFirst (f : JsonObject → JsonObject) : Json → Json
  | .arr items => .arr (changeFirstObject f items)
  | j => j.changeFields f

variable {key : String}

theorem get?_changeFields_of_eq {f : JsonObject → JsonObject}
    (same : ∀ o, (f o).find? key = o.find? key) (j : Json) :
    (j.changeFields f).get? key = j.get? key := by
  cases j with
  | obj fields => exact same fields
  | _ => rfl

theorem nonNull?_changeFirst (f : JsonObject → JsonObject) (j : Json) :
    (j.changeFirst f).nonNull? = j.nonNull?.map (changeFirst f) := by
  cases j <;> rfl

end Json

namespace Exposure

/-- A value with one more block: a list goes on with it, a block alone becomes a list of two. -/
def withBlock (block : Json) : Option Json → Json
  | some (.arr items) => .arr (items ++ [block])
  | some (.obj fields) => .arr [.obj fields, block]
  | _ => .arr [block]

theorem blocks_withBlock (block : Json) (value : Option Json) :
    blocks (some (withBlock block value)) = blocks value ++ [block].filter Json.isObject := by
  match value with
  | some (.arr items) => exact List.filter_append items [block]
  | some (.obj fields) => rfl
  | none | some .null | some (.bool _) | some (.num _) | some (.str _) => rfl

theorem withBlock_ne_null (block : Json) (value : Option Json) : withBlock block value ≠ .null := by
  match value with
  | some (.arr _) | some (.obj _) | none | some .null | some (.bool _) | some (.num _)
  | some (.str _) => exact Json.noConfusion

theorem isObject_of_mem_blocks {value : Option Json} {block : Json} (h : block ∈ blocks value) :
    block.isObject = true := by
  match value with
  | some (.arr items) => exact (List.mem_filter.mp h).2
  | some (.obj fields) =>
    rw [List.mem_singleton.mp h]
    rfl
  | none | some .null | some (.bool _) | some (.num _) | some (.str _) => cases h

theorem isObject_of_firstBlock {value : Option Json} {block : Json}
    (h : firstBlock value = some block) : block.isObject = true :=
  isObject_of_mem_blocks (List.mem_of_head? h)

theorem head?_filter_changeFirstObject (f : JsonObject → JsonObject) (items : List Json) :
    ((Json.changeFirstObject f items).filter Json.isObject).head? =
      (items.filter Json.isObject).head?.map (Json.changeFields f) := by
  induction items with
  | nil => rfl
  | cons j rest ih =>
    cases j with
    | obj fields => rfl
    | _ => exact ih

theorem firstBlock_map_changeFirst (f : JsonObject → JsonObject) (value : Option Json) :
    firstBlock (value.map (Json.changeFirst f)) =
      (firstBlock value).map (Json.changeFields f) := by
  match value with
  | some (.arr items) => exact head?_filter_changeFirstObject f items
  | none | some .null | some (.bool _) | some (.num _) | some (.str _) | some (.obj _) => rfl

end Exposure

namespace Resource

variable {r r' : Resource} {key : String} {value : Json}

def changeProperties (f : JsonObject → JsonObject) (r : Resource) : Resource :=
  { r with properties := r.properties.changeFields f }

def withProperty (key : String) (value : Json) (r : Resource) : Resource :=
  r.changeProperties (JsonObject.insert key value)

/-- The resource with the configuration of its public address changed, which is the first block
under `ip_configuration` in the first block of its settings. -/
def changeAddress (f : JsonObject → JsonObject) (r : Resource) : Resource :=
  r.changeProperties
    (JsonObject.change "settings"
      (Json.changeFirst (JsonObject.change "ip_configuration" (Json.changeFirst f))))

/-- Two resources of one type that differ at most in one property. -/
structure ChangesOnly (key : String) (r r' : Resource) : Prop where
  resourceType : r'.resourceType = r.resourceType
  property : ∀ other, other ≠ key → r'.property other = r.property other

theorem ChangesOnly.symm (h : ChangesOnly key r r') : ChangesOnly key r' r where
  resourceType := h.resourceType.symm
  property other ne := (h.property other ne).symm

theorem property_changeProperties_of_eq {f : JsonObject → JsonObject}
    (same : ∀ o, (f o).find? key = o.find? key) :
    (r.changeProperties f).property key = r.property key := by
  rw [property, changeProperties, Json.get?_changeFields_of_eq same, property]

theorem withProperty_changesOnly (key : String) (value : Json) (r : Resource) :
    ChangesOnly key r (r.withProperty key value) where
  resourceType := rfl
  property _ h := property_changeProperties_of_eq fun o => JsonObject.find?_insert_of_ne h o value

theorem property_withProperty_self (h : r.Checked) (shown : value ≠ .null) :
    (r.withProperty key value).property key = some value := by
  have object := h.properties
  rw [property, withProperty, changeProperties]
  cases hp : r.properties with
  | obj fields =>
    rw [Json.changeFields, Json.get?, JsonObject.find?_insert_self, Option.bind_some]
    cases value with
    | null => exact absurd rfl shown
    | _ => rfl
  | _ =>
    rw [hp] at object
    cases object

theorem changeAddress_changesOnly (f : JsonObject → JsonObject) (r : Resource) :
    ChangesOnly "settings" r (r.changeAddress f) where
  resourceType := rfl
  property _ h := property_changeProperties_of_eq (JsonObject.find?_change_of_ne h _)

theorem property_changeAddress_settings (f : JsonObject → JsonObject) :
    (r.changeAddress f).property "settings" = (r.property "settings").map
      (Json.changeFirst (JsonObject.change "ip_configuration" (Json.changeFirst f))) := by
  rw [property, changeAddress, changeProperties, property]
  cases r.properties with
  | obj fields =>
    rw [Json.changeFields, Json.get?, JsonObject.find?_change_self, Json.get?]
    cases JsonObject.find? fields "settings" with
    | none => rfl
    | some j => exact Json.nonNull?_changeFirst _ j
  | _ => rfl

end Resource

namespace Exposure

variable {r r' : Resource}

/-- The configuration of the public address of a database. -/
def addressConfiguration? (r : Resource) : Option Json :=
  (firstBlock (r.property "settings")).bind fun s => firstBlock (s.get? "ip_configuration")

/-- The zone that a public address with a configuration puts a database in. -/
def addressZone (configuration : Json) (encrypted : Bool) : TrustBoundary :=
  if authorizesAnyone configuration then .internet else if encrypted then .private_ else .dmz

theorem addressBoundary_eq (r : Resource) :
    addressBoundary r = (addressConfiguration? r).bind fun configuration =>
      if isSet (configuration.get? "ipv4_enabled") then
        some (addressZone configuration (isSet (r.property "encrypted")))
      else none := by
  rw [addressBoundary, addressConfiguration?]
  cases firstBlock (r.property "settings") with
  | none => rfl
  | some settings =>
    simp only [Option.bind_some]
    cases firstBlock (settings.get? "ip_configuration") with
    | none => rfl
    | some configuration =>
      simp only [Option.bind_some, addressZone]
      cases isSet (configuration.get? "ipv4_enabled") with
      | false => rfl
      | true =>
        simp only [Bool.not_true, Bool.false_eq_true, if_false, if_true]
        split
        next => rfl
        next => split <;> rfl

theorem addressConfiguration?_changeAddress (f : JsonObject → JsonObject) (r : Resource) :
    addressConfiguration? (r.changeAddress f) =
      (addressConfiguration? r).map (Json.changeFields f) := by
  rw [addressConfiguration?, addressConfiguration?, Resource.property_changeAddress_settings,
    firstBlock_map_changeFirst]
  cases firstBlock (r.property "settings") with
  | none => rfl
  | some settings =>
    rw [Option.map_some, Option.bind_some, Option.bind_some, ← firstBlock_map_changeFirst]
    cases settings with
    | obj fields => exact congrArg firstBlock (JsonObject.find?_change_self _ _ fields)
    | _ => rfl

theorem isObject_of_addressConfiguration? {configuration : Json}
    (h : addressConfiguration? r = some configuration) : configuration.isObject = true := by
  obtain ⟨_, _, found⟩ := Option.bind_eq_some_iff.mp h
  exact isObject_of_firstBlock found

end Exposure

end CloudThreat
