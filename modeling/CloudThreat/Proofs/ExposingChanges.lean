import CloudThreat.Proofs.ExposureRules

namespace CloudThreat.Exposure

variable {r : Resource} {key : String} {value block : Json}

theorem ne_null_of_isSet (h : isSet (some value) = true) : value ≠ .null := by
  rintro rfl
  cases h

theorem isObject_of_get? {j : Json} (h : j.get? key = some value) : j.isObject = true := by
  cases j with
  | obj _ => rfl
  | _ => cases h

theorem mem_blocks_withBlock (h : block.isObject = true) (value : Option Json) :
    block ∈ blocks (some (withBlock block value)) := by
  rw [blocks_withBlock]
  exact List.mem_append_right _ (List.mem_filter.mpr ⟨List.mem_singleton_self block, h⟩)

/-- A flag that is set counts wherever it is asked for. -/
theorem anySet_withProperty {keys : List String} (h : r.Checked) (member : key ∈ keys)
    (set : isSet (some value) = true) : anySet keys (r.withProperty key value) = true := by
  have found : (r.withProperty key value).property key = some value :=
    Resource.property_withProperty_self h (ne_null_of_isSet set)
  exact List.any_eq_true.mpr ⟨key, member, by rw [found, set]⟩

/-- One more authorized network in the configuration of a public address. -/
def authorize (network : Json) (o : JsonObject) : JsonObject :=
  o.insert "authorized_networks" (withBlock network (o.find? "authorized_networks"))

/-- The changes of a resource that expose it. -/
inductive Exposing where
  | flag (key : String) (value : Json) (known : key ∈ reachableKeys)
      (set : isSet (some value) = true)
  | publicAcl (acl : String) (shown : hasAny ["public"] acl = true)
  | openIngress (rule : Json) (opened : admitsAnyone rule = true)
  | openNetwork (network : Json) (opened : network.get? "value" = some (.str "0.0.0.0/0"))

def Exposing.apply : Exposing → Resource → Resource
  | .flag key value _ _, r => r.withProperty key value
  | .publicAcl acl _, r => r.withProperty "acl" (.str acl)
  | .openIngress rule _, r => r.withProperty "ingress" (withBlock rule (r.property "ingress"))
  | .openNetwork network _, r => r.changeAddress (authorize network)

theorem isReachable_withProperty (h : r.Checked) (known : key ∈ reachableKeys)
    (set : isSet (some value) = true) : isReachable (r.withProperty key value) = true := by
  rw [isReachable_eq]
  exact anySet_withProperty h known set

theorem hasPublicAcl_withProperty {acl : String} (h : r.Checked)
    (shown : hasAny ["public"] acl = true) :
    hasPublicAcl (r.withProperty "acl" (.str acl)) = true := by
  rw [hasPublicAcl, Resource.property_withProperty_self h Json.noConfusion]
  exact shown

theorem admitsIngress_withBlock {rule : Json} (h : r.Checked) (opened : admitsAnyone rule = true) :
    admitsIngress (r.withProperty "ingress" (withBlock rule (r.property "ingress"))) = true := by
  obtain ⟨_, _, _, _, named⟩ := admitsAnyone_iff.mp opened
  have object : rule.isObject = true := by
    rcases named with named | ⟨_, named, _⟩ <;> exact isObject_of_get? named
  rw [admitsIngress, Resource.property_withProperty_self h (withBlock_ne_null _ _)]
  exact List.any_eq_true.mpr ⟨rule, mem_blocks_withBlock object _, opened⟩

theorem authorizesAnyone_authorize {configuration network : Json}
    (object : configuration.isObject = true)
    (opened : network.get? "value" = some (.str "0.0.0.0/0")) :
    authorizesAnyone (configuration.changeFields (authorize network)) = true := by
  cases configuration with
  | obj fields =>
    rw [authorizesAnyone, Json.changeFields, authorize, Json.get?, JsonObject.find?_insert_self]
    refine List.any_eq_true.mpr ⟨network, mem_blocks_withBlock (isObject_of_get? opened) _, ?_⟩
    rw [opened]
    rfl
  | _ => cases object

/-- With a network of all addresses authorized, a public address puts a database in the least
protected zone. -/
theorem addressBoundary_authorize {network : Json}
    (opened : network.get? "value" = some (.str "0.0.0.0/0")) (r : Resource) :
    addressBoundary (r.changeAddress (authorize network)) =
      (addressBoundary r).map fun _ => .internet := by
  rw [addressBoundary_eq, addressBoundary_eq, addressConfiguration?_changeAddress]
  cases found : addressConfiguration? r with
  | none => rfl
  | some configuration =>
    have opens := authorizesAnyone_authorize (isObject_of_addressConfiguration? found) opened
    have enabled : (configuration.changeFields (authorize network)).get? "ipv4_enabled" =
        configuration.get? "ipv4_enabled" :=
      Json.get?_changeFields_of_eq (fun o => JsonObject.find?_insert_of_ne (by decide) o _) _
    rw [Option.map_some, Option.bind_some, Option.bind_some, addressZone, if_pos opens, enabled]
    split <;> rfl

theorem Exposing.asExposed (c : Exposing) (h : r.Checked) : AsExposed r (c.apply r) := by
  cases c with
  | flag key value known set =>
    have reached := isReachable_withProperty h known set
    have only := Resource.withProperty_changesOnly key value r
    obtain rfl | rfl : key = "publicly_accessible" ∨ key = "associate_public_ip_address" := by
      simpa [reachableKeys] using known
    all_goals
      exact asExposed_of_changesOnly only (by simp) (by simp) (fun _ _ => reached) (by simp)
        (by simp [encryptionKeys])
  | publicAcl acl shown =>
    exact asExposed_of_changesOnly (Resource.withProperty_changesOnly _ _ r) (by simp)
      (fun _ _ => hasPublicAcl_withProperty h shown) (by simp [reachableKeys]) (by simp)
      (by simp [encryptionKeys])
  | openIngress rule opened =>
    exact asExposed_of_changesOnly (Resource.withProperty_changesOnly _ _ r) (by simp) (by simp)
      (by simp [reachableKeys]) (fun _ _ => admitsIngress_withBlock h opened)
      (by simp [encryptionKeys])
  | openNetwork network opened =>
    refine asExposed_of_changesOnly (Resource.changeAddress_changesOnly _ r) (fun _ => ?_) (by simp)
      (by simp [reachableKeys]) (by simp) (by simp [encryptionKeys])
    rw [apply, addressBoundary_authorize opened]
    cases addressBoundary r with
    | none => exact .none
    | some b => exact .some b.securityLevel.zero_le

/-- The change that encrypts a resource. -/
structure Encrypting where
  key : String
  value : Json
  known : key ∈ encryptionKeys
  set : isSet (some value) = true

def Encrypting.apply (c : Encrypting) (r : Resource) : Resource :=
  r.withProperty c.key c.value

theorem isEncrypted_apply (c : Encrypting) (h : r.Checked) : isEncrypted (c.apply r) = true := by
  rw [isEncrypted_eq]
  exact anySet_withProperty h c.known c.set

theorem addressZone_le (configuration : Json) (encrypted : Bool) :
    (addressZone configuration encrypted).securityLevel ≤
      (addressZone configuration true).securityLevel := by
  unfold addressZone
  split
  next => exact Nat.le_refl _
  next => cases encrypted <;> decide

theorem addressLe_withProperty_encrypted (h : r.Checked) (set : isSet (some value) = true) :
    AddressLe (addressBoundary r) (addressBoundary (r.withProperty "encrypted" value)) := by
  have only := Resource.withProperty_changesOnly "encrypted" value r
  rw [addressBoundary_eq r, addressBoundary_eq, addressConfiguration?_eq only (by decide),
    Resource.property_withProperty_self h (ne_null_of_isSet set), set]
  cases addressConfiguration? r with
  | none => exact .none
  | some configuration =>
    rw [Option.bind_some, Option.bind_some]
    split
    next => exact .some (addressZone_le configuration _)
    next => exact .none

theorem Encrypting.asExposed (c : Encrypting) (h : r.Checked) : AsExposed (c.apply r) r := by
  have encrypted : isEncrypted (c.apply r) = true := isEncrypted_apply c h
  obtain ⟨key, value, known, set⟩ := c
  have only := (Resource.withProperty_changesOnly key value r).symm
  obtain rfl | rfl : key = "storage_encrypted" ∨ key = "encrypted" := by
    simpa [encryptionKeys] using known
  · exact asExposed_of_changesOnly only (by simp) (by simp) (by simp [reachableKeys]) (by simp)
      fun _ _ => encrypted
  · exact asExposed_of_changesOnly only (fun _ => addressLe_withProperty_encrypted h set) (by simp)
      (by simp [reachableKeys]) (by simp) fun _ _ => encrypted

namespace Exposing

/-- Does the change bear on a rule that is tried for the resource? -/
def concerns : Exposing → Resource → Bool
  | flag _ _ _ _, r => !addressDecides r
  | publicAcl _ _, r => isStorageType (LetterCase.lower r.resourceType) && !addressDecides r
  | openIngress _ _, r => isFirewallType (LetterCase.lower r.resourceType) && !addressDecides r
  | openNetwork _ _, r => addressDecides r

theorem isPublic_apply (c : Exposing) (h : r.Checked) (concerned : c.concerns r = true) :
    (boundary (c.apply r)).isPublic = true := by
  cases c with
  | flag key value known set =>
    have only := Resource.withProperty_changesOnly key value r
    have reached := isReachable_withProperty h known set
    have settings : key ≠ "settings" := ne_of_mem_of_not_mem known (by decide)
    have encrypted : key ≠ "encrypted" := ne_of_mem_of_not_mem known (by decide)
    have undecided : addressDecides r = false := by simpa [concerns] using concerned
    exact isPublic_boundary_of_changesOnly only settings encrypted undecided (.inr (.inl reached))
  | publicAcl acl shown =>
    have only := Resource.withProperty_changesOnly "acl" (.str acl) r
    obtain ⟨type, undecided⟩ :
        isStorageType (LetterCase.lower r.resourceType) = true ∧ addressDecides r = false := by
      simpa [concerns] using concerned
    exact isPublic_boundary_of_changesOnly only (by decide) (by decide) undecided
      (.inl ⟨type, hasPublicAcl_withProperty h shown⟩)
  | openIngress rule opened =>
    have only := Resource.withProperty_changesOnly "ingress"
      (withBlock rule (r.property "ingress")) r
    obtain ⟨type, undecided⟩ :
        isFirewallType (LetterCase.lower r.resourceType) = true ∧ addressDecides r = false := by
      simpa [concerns] using concerned
    exact isPublic_boundary_of_changesOnly only (by decide) (by decide) undecided
      (.inr (.inr ⟨type, admitsIngress_withBlock h opened⟩))
  | openNetwork network opened =>
    obtain ⟨database, addressed⟩ := Bool.and_eq_true_iff.mp concerned
    obtain ⟨b, hb⟩ := Option.isSome_iff_exists.mp addressed
    have opens := addressBoundary_authorize opened r
    rw [hb, Option.map_some] at opens
    have least : boundary (r.changeAddress (authorize network)) = .internet :=
      boundary_of_addressBoundary database opens
    rw [apply, least]
    rfl

end Exposing

/-- A database that nothing exposes is in the most protected zone once it is encrypted. -/
theorem Encrypting.boundary_apply (c : Encrypting) (h : r.Checked)
    (undecided : addressDecides r = false) (hidden : boundary r = .private_) :
    boundary (c.apply r) = .restricted := by
  have less := c.asExposed h
  have level := less.boundary_le
  have still : addressDecides (c.apply r) = false := by
    rw [addressDecides, ← less.resourceType, ← less.address.isSome_eq]
    exact undecided
  rw [boundary_of_addressDecides_eq_false undecided] at hidden level
  rw [boundary_of_addressDecides_eq_false still, ← less.resourceType] at level ⊢
  have closed :
      (boundaryByFlags (LetterCase.lower r.resourceType) (c.apply r)).isPublic = false := by
    rw [hidden] at level
    exact TrustBoundary.isPublic_eq_false_iff.mpr (Nat.le_of_succ_le level)
  have before := boundaryByFlags_of_isPublic_eq_false (congrArg TrustBoundary.isPublic hidden)
  have database : isDatabaseType (LetterCase.lower r.resourceType) = true :=
    isDatabaseType_of_shelteredBoundary (before.symm.trans hidden)
  rw [boundaryByFlags_of_isPublic_eq_false closed, shelteredBoundary, if_pos database,
    if_pos (isEncrypted_apply c h)]

/-- A change that exposes an accepted resource never raises the level of its zone, and one that
encrypts it never lowers it. Where the rule that a change bears on is tried, the zone follows it. -/
theorem boundary_of_change {raws : List Json} {rs : List Resource}
    (accepted : Resource.ofRawList raws = .ok rs) (member : r ∈ rs) :
    (∀ c : Exposing, (boundary (c.apply r)).securityLevel ≤ (boundary r).securityLevel ∧
      (c.concerns r = true → (boundary (c.apply r)).isPublic = true)) ∧
    ∀ c : Encrypting, (boundary r).securityLevel ≤ (boundary (c.apply r)).securityLevel ∧
      (addressDecides r = false → boundary r = .private_ →
        boundary (c.apply r) = .restricted) := by
  have h := Resource.checked_of_ofRawList accepted r member
  constructor
  · intro c
    exact ⟨(c.asExposed h).boundary_le, c.isPublic_apply h⟩
  · intro c
    exact ⟨(c.asExposed h).boundary_le, c.boundary_apply h⟩

def rawReports : Json :=
  .obj [
    ("name", .str "reports"),
    ("properties", .obj [
      ("settings", .arr [.obj [
        ("ip_configuration", .arr [.obj [("ipv4_enabled", .bool true)]])]])]),
    ("resource_type", .str "google_sql_database_instance")]

def reports : Resource :=
  Resource.new "google_sql_database_instance" "reports" (.obj [
    ("settings", .arr [.obj [("ip_configuration", .arr [.obj [("ipv4_enabled", .bool true)]])]])])

theorem reports_exposed :
    Resource.ofRawList [rawReports] = .ok [reports] ∧ boundary reports = .dmz ∧
    (∀ c : Exposing, (boundary (c.apply reports)).securityLevel ≤ 1) ∧
    (∀ c : Encrypting, 1 ≤ (boundary (c.apply reports)).securityLevel) ∧
    Exposing.concerns (.openNetwork (.obj [("value", .str "0.0.0.0/0")]) rfl) reports = true ∧
    boundary (Exposing.apply (.openNetwork (.obj [("value", .str "0.0.0.0/0")]) rfl) reports) =
      .internet ∧
    boundary (Encrypting.apply ⟨"encrypted", .bool true, by decide, rfl⟩ reports) = .private_ := by
  have accepted : Resource.ofRawList [rawReports] = .ok [reports] := rfl
  have zone : boundary reports = .dmz := by decide
  obtain ⟨exposing, encrypting⟩ := boundary_of_change accepted (List.mem_singleton_self reports)
  rw [zone] at exposing encrypting
  exact ⟨accepted, zone, fun c => (exposing c).1, fun c => (encrypting c).1, by decide, by decide,
    by decide⟩

end CloudThreat.Exposure
