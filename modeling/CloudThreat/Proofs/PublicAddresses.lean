import CloudThreat.Proofs.ExposureRules

namespace CloudThreat.Exposure

variable {r : Resource} {configuration value : Json}

/-- The resource with the public address turned on, by a value for it. -/
def enableAddress (value : Json) (r : Resource) : Resource :=
  r.changeAddress (JsonObject.insert "ipv4_enabled" value)

theorem addressBoundary_of_disabled (configured : addressConfiguration? r = some configuration)
    (off : isSet (configuration.get? "ipv4_enabled") = false) : addressBoundary r = none := by
  rw [addressBoundary_eq, configured, Option.bind_some, off]
  rfl

theorem addressBoundary_enableAddress (configured : addressConfiguration? r = some configuration)
    (on : isSet (some value) = true) :
    addressBoundary (enableAddress value r) =
      some (addressZone configuration (isSet (r.property "encrypted"))) := by
  have only := Resource.changeAddress_changesOnly (JsonObject.insert "ipv4_enabled" value) r
  have enabled : (configuration.changeFields (JsonObject.insert "ipv4_enabled" value)).get?
      "ipv4_enabled" = some value := by
    have object := isObject_of_addressConfiguration? configured
    cases configuration with
    | obj fields => exact JsonObject.find?_insert_self fields _ value
    | _ => cases object
  have networks : authorizesAnyone
      (configuration.changeFields (JsonObject.insert "ipv4_enabled" value)) =
        authorizesAnyone configuration := by
    rw [authorizesAnyone, authorizesAnyone, Json.get?_changeFields_of_eq]
    exact fun o => JsonObject.find?_insert_of_ne (by decide) o value
  rw [addressBoundary_eq, enableAddress, addressConfiguration?_changeAddress, configured,
    Option.map_some, Option.bind_some, enabled, if_pos on, only.property _ (by decide), addressZone,
    networks, addressZone]

theorem boundaryByFlags_enableAddress (resourceType : String) (value : Json) (r : Resource) :
    boundaryByFlags resourceType (enableAddress value r) = boundaryByFlags resourceType r := by
  have only := Resource.changeAddress_changesOnly (JsonObject.insert "ipv4_enabled" value) r
  exact boundaryByFlags_eq_of_changesOnly only (by decide) (by decide) (by decide)
    (admitsIngress_eq only (by decide))

/-- The rules behind the one for the address put the resource in a zone that is less protected than
the one by its address. -/
structure AddressHides (configuration : Json) (r : Resource) : Prop where
  database : isDatabaseType (LetterCase.lower r.resourceType) = true
  restricted : authorizesAnyone configuration = false
  exposed :
    (isStorageType (LetterCase.lower r.resourceType) = true ∧ hasPublicAcl r = true) ∨
      isSet (r.property "encrypted") = true ∧ (isReachable r = true ∨
        isFirewallType (LetterCase.lower r.resourceType) = true ∧ admitsIngress r = true)

theorem addressZone_le_boundaryByFlags_iff
    (database : isDatabaseType (LetterCase.lower r.resourceType) = true) :
    (addressZone configuration (isSet (r.property "encrypted"))).securityLevel ≤
        (boundaryByFlags (LetterCase.lower r.resourceType) r).securityLevel ↔
      ¬ AddressHides configuration r := by
  unfold addressZone
  split
  next open_ =>
    refine iff_of_true (Nat.zero_le _) fun hides => ?_
    rw [hides.restricted] at open_
    cases open_
  next restricted =>
    have restricted : authorizesAnyone configuration = false := by simpa using restricted
    split
    next encrypted =>
      rw [private_le_boundaryByFlags_iff database, ← Bool.not_eq_true, isPublic_boundaryByFlags_iff,
        not_iff_not]
      constructor
      · rintro (acl | exposed)
        · exact ⟨database, restricted, .inl acl⟩
        · exact ⟨database, restricted, .inr ⟨encrypted, exposed⟩⟩
      · intro hides
        exact hides.exposed.imp_right And.right
    next plain =>
      rw [dmz_le_boundaryByFlags_iff, not_iff_not]
      constructor
      · intro acl
        exact ⟨database, restricted, .inl acl⟩
      · intro hides
        rcases hides.exposed with acl | ⟨encrypted, _⟩
        · exact acl
        · exact absurd encrypted plain

/-- A public address that is turned on raises the level of the zone just where it hides a rule that
exposes the resource more. -/
theorem boundary_enableAddress_le_iff (configured : addressConfiguration? r = some configuration)
    (off : isSet (configuration.get? "ipv4_enabled") = false) (on : isSet (some value) = true) :
    (boundary (enableAddress value r)).securityLevel ≤ (boundary r).securityLevel ↔
      ¬ AddressHides configuration r := by
  by_cases database : isDatabaseType (LetterCase.lower r.resourceType) = true
  · have after : boundary (enableAddress value r) =
        addressZone configuration (isSet (r.property "encrypted")) :=
      boundary_of_addressBoundary database (addressBoundary_enableAddress configured on)
    rw [after, boundary, if_pos database, addressBoundary_of_disabled configured off,
      Option.getD_none]
    exact addressZone_le_boundaryByFlags_iff database
  · have after : boundary (enableAddress value r) =
        boundaryByFlags (LetterCase.lower r.resourceType) (enableAddress value r) := if_neg database
    rw [after, boundaryByFlags_enableAddress, boundary, if_neg database]
    exact iff_of_true (Nat.le_refl _) fun hides => database hides.database

/-- An encrypted database that can be reached, with its public address turned off. -/
def ledger : Resource :=
  Resource.new "google_sql_database_instance" "ledger" (.obj [
    ("encrypted", .bool true),
    ("publicly_accessible", .bool true),
    ("settings", .obj [("ip_configuration", .obj [("ipv4_enabled", .bool false)])])])

theorem ledger_addressHides :
    addressConfiguration? ledger = some (.obj [("ipv4_enabled", .bool false)]) ∧
    AddressHides (.obj [("ipv4_enabled", .bool false)]) ledger ∧
    ¬ (boundary (enableAddress (.bool true) ledger)).securityLevel ≤
      (boundary ledger).securityLevel := by
  have hides : AddressHides (.obj [("ipv4_enabled", .bool false)]) ledger :=
    ⟨by decide, by decide, .inr ⟨by decide, .inl (by decide)⟩⟩
  exact ⟨rfl, hides, fun level => (boundary_enableAddress_le_iff rfl rfl rfl).mp level hides⟩

theorem enableAddress_raises : ¬ ∀ raws rs r configuration value,
    Resource.ofRawList raws = .ok rs → r ∈ rs →
    addressConfiguration? r = some configuration →
    isSet (configuration.get? "ipv4_enabled") = false → isSet (some value) = true →
    (boundary (enableAddress value r)).securityLevel ≤ (boundary r).securityLevel := by
  intro never
  have accepted : Resource.ofRawList [ledger.toJson] = .ok [ledger] := rfl
  have member := List.mem_singleton_self ledger
  have level := never _ _ ledger _ (.bool true) accepted member rfl rfl rfl
  exact absurd level (by decide)

end CloudThreat.Exposure
