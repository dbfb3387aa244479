import CloudThreat.Proofs.PropertyChanges

namespace CloudThreat

namespace TrustBoundary

variable {low b b' : TrustBoundary}

/-- The rule for a low zone, put in front of other rules, when it applies at least as often. -/
theorem securityLevel_ite_le {c c' : Bool} (grows : c = true → c' = true)
    (lowest : low.securityLevel ≤ b.securityLevel) (rest : b'.securityLevel ≤ b.securityLevel) :
    (if c' then low else b').securityLevel ≤ (if c then low else b).securityLevel := by
  by_cases hc : c = true
  · rw [if_pos hc, if_pos (grows hc)]
  · rw [if_neg hc]
    by_cases hc' : c' = true
    · rw [if_pos hc']
      exact lowest
    · rw [if_neg hc']
      exact rest

theorem isPublic_eq_false_iff :
    b.isPublic = false ↔ TrustBoundary.internal.securityLevel ≤ b.securityLevel := by
  cases b <;> decide

end TrustBoundary

namespace Exposure

variable {r r' : Resource} {key resourceType : String}

/-- The flags that make a resource reachable. -/
def reachableKeys : List String :=
  ["publicly_accessible", "associate_public_ip_address"]

def encryptionKeys : List String :=
  ["storage_encrypted", "encrypted"]

def anySet (keys : List String) (r : Resource) : Bool :=
  keys.any fun key => isSet (r.property key)

theorem isReachable_eq (r : Resource) : isReachable r = anySet reachableKeys r := by
  simp [isReachable, anySet, reachableKeys]

theorem isEncrypted_eq (r : Resource) : isEncrypted r = anySet encryptionKeys r := by
  simp [isEncrypted, anySet, encryptionKeys]

/-- A rule lets everyone in just if one of its lists of sources names all addresses. -/
theorem admitsAnyone_iff {rule : Json} :
    admitsAnyone rule = true ↔ ∃ key ∈ sourceKeys, ∃ network ∈ openNetworks,
      rule.get? key = some (.str network) ∨
        ∃ items, rule.get? key = some (.arr items) ∧ .str network ∈ items := by
  rw [admitsAnyone, List.any_eq_true]
  constructor
  · rintro ⟨ranges, found, opens⟩
    obtain ⟨key, known, named⟩ := List.mem_filterMap.mp found
    refine ⟨key, known, ?_⟩
    match ranges with
    | .str network => exact ⟨network, List.contains_iff_mem.mp opens, .inl named⟩
    | .arr items =>
      obtain ⟨network, listed, all⟩ := List.any_eq_true.mp opens
      obtain ⟨item, member, text⟩ := List.mem_filterMap.mp listed
      have same : item = .str network := by
        cases item <;> cases text
        rfl
      exact ⟨network, List.contains_iff_mem.mp all, .inr ⟨items, named, same ▸ member⟩⟩
    | .null | .bool _ | .num _ | .obj _ => cases opens
  · rintro ⟨key, known, network, all, named⟩
    have all := List.contains_iff_mem.mpr all
    rcases named with named | ⟨items, named, member⟩
    · exact ⟨_, List.mem_filterMap.mpr ⟨key, known, named⟩, all⟩
    · refine ⟨_, List.mem_filterMap.mpr ⟨key, known, named⟩, ?_⟩
      exact List.any_eq_true.mpr ⟨network, List.mem_filterMap.mpr ⟨_, member, rfl⟩, all⟩

/-- The zone of a resource that nothing exposes. -/
def shelteredBoundary (resourceType : String) (r : Resource) : TrustBoundary :=
  if isDatabaseType resourceType then
    if isEncrypted r then .restricted else .private_
  else .internal

theorem boundaryByFlags_eq (resourceType : String) (r : Resource) :
    boundaryByFlags resourceType r =
      if isStorageType resourceType && hasPublicAcl r then .internet
      else if isReachable r then .dmz
      else if isFirewallType resourceType && admitsIngress r then .dmz
      else shelteredBoundary resourceType r :=
  rfl

theorem internal_le_shelteredBoundary (resourceType : String) (r : Resource) :
    TrustBoundary.internal.securityLevel ≤ (shelteredBoundary resourceType r).securityLevel := by
  unfold shelteredBoundary
  split
  · split <;> decide
  · decide

theorem dmz_le_shelteredBoundary (resourceType : String) (r : Resource) :
    TrustBoundary.dmz.securityLevel ≤ (shelteredBoundary resourceType r).securityLevel :=
  (internal_le_shelteredBoundary resourceType r).trans' (by decide)

theorem isDatabaseType_of_shelteredBoundary (h : shelteredBoundary resourceType r = .private_) :
    isDatabaseType resourceType = true := by
  unfold shelteredBoundary at h
  split at h
  next database => exact database
  next => cases h

theorem isPublic_shelteredBoundary (resourceType : String) (r : Resource) :
    (shelteredBoundary resourceType r).isPublic = false :=
  TrustBoundary.isPublic_eq_false_iff.mpr (internal_le_shelteredBoundary resourceType r)

theorem isPublic_boundaryByFlags_iff :
    (boundaryByFlags resourceType r).isPublic = true ↔
      (isStorageType resourceType = true ∧ hasPublicAcl r = true) ∨ isReachable r = true ∨
        isFirewallType resourceType = true ∧ admitsIngress r = true := by
  have sheltered := isPublic_shelteredBoundary resourceType r
  rw [boundaryByFlags_eq, ← Bool.and_eq_true_iff, ← Bool.and_eq_true_iff]
  split
  next acl => simp [acl, TrustBoundary.isPublic]
  next acl =>
    split
    next reached => simp [reached, TrustBoundary.isPublic]
    next reached =>
      split
      next admits => simp [admits, TrustBoundary.isPublic]
      next admits => simp [acl, reached, admits, sheltered]

theorem boundaryByFlags_of_isPublic_eq_false
    (h : (boundaryByFlags resourceType r).isPublic = false) :
    boundaryByFlags resourceType r = shelteredBoundary resourceType r := by
  rw [boundaryByFlags_eq] at h ⊢
  split at h
  next => cases h
  next acl =>
    split at h
    next => cases h
    next reached =>
      split at h
      next => cases h
      next admits => rw [if_neg acl, if_neg reached, if_neg admits]

theorem dmz_le_boundaryByFlags_iff :
    TrustBoundary.dmz.securityLevel ≤ (boundaryByFlags resourceType r).securityLevel ↔
      ¬ (isStorageType resourceType = true ∧ hasPublicAcl r = true) := by
  rw [boundaryByFlags_eq, ← Bool.and_eq_true_iff]
  split
  next acl => simp [acl, TrustBoundary.securityLevel]
  next acl =>
    refine iff_of_true ?_ acl
    split
    next => exact Nat.le_refl _
    next =>
      split
      next => exact Nat.le_refl _
      next => exact dmz_le_shelteredBoundary resourceType r

theorem private_le_boundaryByFlags_iff (database : isDatabaseType resourceType = true) :
    TrustBoundary.private_.securityLevel ≤ (boundaryByFlags resourceType r).securityLevel ↔
      (boundaryByFlags resourceType r).isPublic = false := by
  constructor
  · intro level
    exact TrustBoundary.isPublic_eq_false_iff.mpr (level.trans' (by decide))
  · intro hidden
    rw [boundaryByFlags_of_isPublic_eq_false hidden, shelteredBoundary, if_pos database]
    split <;> decide

/-- Is it the public address of a database that decides on its zone? -/
def addressDecides (r : Resource) : Bool :=
  isDatabaseType (LetterCase.lower r.resourceType) && (addressBoundary r).isSome

theorem boundary_of_addressDecides_eq_false (h : addressDecides r = false) :
    boundary r = boundaryByFlags (LetterCase.lower r.resourceType) r := by
  rw [boundary]
  split
  next database =>
    have unset : addressBoundary r = none := by simpa [addressDecides, database] using h
    rw [unset, Option.getD_none]
  next => rfl

theorem boundary_of_addressBoundary {b : TrustBoundary}
    (database : isDatabaseType (LetterCase.lower r.resourceType) = true)
    (h : addressBoundary r = some b) : boundary r = b := by
  rw [boundary, if_pos database, h, Option.getD_some]

section

variable (h : Resource.ChangesOnly key r r')

include h

theorem anySet_eq {keys : List String} (other : key ∉ keys) : anySet keys r' = anySet keys r := by
  rw [Bool.eq_iff_iff, anySet, anySet, List.any_eq_true, List.any_eq_true]
  refine exists_congr fun k => and_congr_right fun hk => ?_
  rw [h.property k (ne_of_mem_of_not_mem hk other)]

theorem hasPublicAcl_eq (other : key ≠ "acl") : hasPublicAcl r' = hasPublicAcl r := by
  rw [hasPublicAcl, h.property _ other.symm, hasPublicAcl]

theorem admitsIngress_eq (other : key ≠ "ingress") : admitsIngress r' = admitsIngress r := by
  rw [admitsIngress, h.property _ other.symm, admitsIngress]

theorem addressConfiguration?_eq (other : key ≠ "settings") :
    addressConfiguration? r' = addressConfiguration? r := by
  rw [addressConfiguration?, h.property _ other.symm, addressConfiguration?]

theorem addressBoundary_eq_of_changesOnly (settings : key ≠ "settings")
    (encrypted : key ≠ "encrypted") : addressBoundary r' = addressBoundary r := by
  rw [addressBoundary_eq, addressConfiguration?_eq h settings, h.property _ encrypted.symm,
    ← addressBoundary_eq]

theorem boundaryByFlags_eq_of_changesOnly (reachable : key ∉ reachableKeys)
    (encrypted : key ∉ encryptionKeys) (acl : key ≠ "acl")
    (ingress : admitsIngress r' = admitsIngress r) :
    boundaryByFlags resourceType r' = boundaryByFlags resourceType r := by
  have reached : isReachable r' = isReachable r := by
    rw [isReachable_eq, isReachable_eq, anySet_eq h reachable]
  have encryption : isEncrypted r' = isEncrypted r := by
    rw [isEncrypted_eq, isEncrypted_eq, anySet_eq h encrypted]
  rw [boundaryByFlags, hasPublicAcl_eq h acl, reached, ingress, encryption, boundaryByFlags]

end

/-- Where no public address decides, one open way is enough for a public zone, also after a change
that leaves the address alone. -/
theorem isPublic_boundary_of_changesOnly (h : Resource.ChangesOnly key r r')
    (settings : key ≠ "settings") (encrypted : key ≠ "encrypted")
    (undecided : addressDecides r = false)
    (exposed :
      (isStorageType (LetterCase.lower r.resourceType) = true ∧ hasPublicAcl r' = true) ∨
        isReachable r' = true ∨
          isFirewallType (LetterCase.lower r.resourceType) = true ∧ admitsIngress r' = true) :
    (boundary r').isPublic = true := by
  have still : addressDecides r' = false := by
    rw [addressDecides, h.resourceType, addressBoundary_eq_of_changesOnly h settings encrypted]
    exact undecided
  rw [boundary_of_addressDecides_eq_false still, h.resourceType]
  exact isPublic_boundaryByFlags_iff.mpr exposed

/-- The zone of a public address is at most as protected as another, if there is one at all. -/
def AddressLe : Option TrustBoundary → Option TrustBoundary → Prop :=
  Option.Rel fun b' b => b'.securityLevel ≤ b.securityLevel

theorem AddressLe.refl (b : Option TrustBoundary) : AddressLe b b := by
  cases b with
  | none => exact .none
  | some b => exact .some b.securityLevel.le_refl

theorem AddressLe.getD_le {a a' : Option TrustBoundary} {b b' : TrustBoundary}
    (h : AddressLe a' a) (rest : b'.securityLevel ≤ b.securityLevel) :
    (a'.getD b').securityLevel ≤ (a.getD b).securityLevel := by
  cases h with
  | none => exact rest
  | some lower => exact lower

theorem AddressLe.isSome_eq {a a' : Option TrustBoundary} (h : AddressLe a' a) :
    a'.isSome = a.isSome := by
  cases h <;> rfl

/-- All that exposes the first resource exposes the second one too. -/
structure AsExposed (r r' : Resource) : Prop where
  resourceType : r'.resourceType = r.resourceType
  address : AddressLe (addressBoundary r') (addressBoundary r)
  publicAcl : hasPublicAcl r = true → hasPublicAcl r' = true
  reachable : isReachable r = true → isReachable r' = true
  ingress : admitsIngress r = true → admitsIngress r' = true
  encrypted : isEncrypted r' = true → isEncrypted r = true

namespace AsExposed

variable (h : AsExposed r r')

include h

theorem shelteredBoundary_le (resourceType : String) :
    (shelteredBoundary resourceType r').securityLevel ≤
      (shelteredBoundary resourceType r).securityLevel := by
  unfold shelteredBoundary
  split
  · by_cases now : isEncrypted r' = true
    · rw [if_pos now, if_pos (h.encrypted now)]
    · rw [if_neg now]
      split <;> decide
  · exact Nat.le_refl _

theorem boundaryByFlags_le (resourceType : String) :
    (boundaryByFlags resourceType r').securityLevel ≤
      (boundaryByFlags resourceType r).securityLevel := by
  have sheltered := dmz_le_shelteredBoundary resourceType r
  have acl : (isStorageType resourceType && hasPublicAcl r) = true →
      (isStorageType resourceType && hasPublicAcl r') = true := by
    simpa using fun type shown => ⟨type, h.publicAcl shown⟩
  have ingress : (isFirewallType resourceType && admitsIngress r) = true →
      (isFirewallType resourceType && admitsIngress r') = true := by
    simpa using fun type admits => ⟨type, h.ingress admits⟩
  rw [boundaryByFlags_eq, boundaryByFlags_eq]
  refine TrustBoundary.securityLevel_ite_le acl (Nat.zero_le _) ?_
  refine TrustBoundary.securityLevel_ite_le h.reachable ?_ ?_
  · split
    next => exact Nat.le_refl _
    next => exact sheltered
  · exact TrustBoundary.securityLevel_ite_le ingress sheltered (h.shelteredBoundary_le resourceType)

theorem boundary_le : (boundary r').securityLevel ≤ (boundary r).securityLevel := by
  have flags := h.boundaryByFlags_le (LetterCase.lower r.resourceType)
  rw [boundary, boundary, h.resourceType]
  split
  next => exact h.address.getD_le flags
  next => exact flags

end AsExposed

/-- Of two resources that differ in one property only what depends on that property has to be
compared. -/
theorem asExposed_of_changesOnly (h : Resource.ChangesOnly key r r')
    (address : key = "settings" ∨ key = "encrypted" →
      AddressLe (addressBoundary r') (addressBoundary r))
    (publicAcl : key = "acl" → hasPublicAcl r = true → hasPublicAcl r' = true)
    (reachable : key ∈ reachableKeys → isReachable r = true → isReachable r' = true)
    (ingress : key = "ingress" → admitsIngress r = true → admitsIngress r' = true)
    (encrypted : key ∈ encryptionKeys → isEncrypted r' = true → isEncrypted r = true) :
    AsExposed r r' where
  resourceType := h.resourceType
  address := by
    by_cases this : key = "settings" ∨ key = "encrypted"
    · exact address this
    · obtain ⟨settings, encrypted⟩ := not_or.mp this
      rw [addressBoundary_eq_of_changesOnly h settings encrypted]
      exact AddressLe.refl _
  publicAcl := by
    by_cases this : key = "acl"
    · exact publicAcl this
    · rw [hasPublicAcl_eq h this]
      exact id
  reachable := by
    by_cases this : key ∈ reachableKeys
    · exact reachable this
    · rw [isReachable_eq, isReachable_eq, anySet_eq h this]
      exact id
  ingress := by
    by_cases this : key = "ingress"
    · exact ingress this
    · rw [admitsIngress_eq h this]
      exact id
  encrypted := by
    by_cases this : key ∈ encryptionKeys
    · exact encrypted this
    · rw [isEncrypted_eq, isEncrypted_eq, anySet_eq h this]
      exact id

end Exposure

end CloudThreat
