import CloudThreat.Proofs.ExposureRules

namespace CloudThreat

namespace NodeType

variable {t : String} {type : NodeType}

/-- One database is known by its name alone. -/
theorem known_database_iff : ∀ entry ∈ known, entry.2 = .database ↔
    hasAny ["database", "sql", "db"] entry.1 = true ∨ entry.1 = "aws_rds_cluster" := by
  decide +kernel

theorem mem_known_of_lookup (h : known.lookup t = some type) : (t, type) ∈ known := by
  obtain ⟨before, after, split, _⟩ := List.lookup_eq_some_iff.mp h
  rw [split]
  simp

theorem ofResourceType_of_known (h : known.lookup (LetterCase.lower t) = some type) :
    ofResourceType t = type := by
  simp only [ofResourceType, h]

/-- The word that decides in the first rule decides before all others. -/
theorem ofResourceType_of_unknown (h : known.lookup (LetterCase.lower t) = none) :
    ofResourceType t = .database ↔
      hasAny ["database", "sql", "db"] (LetterCase.lower t) = true := by
  have rules : keywordRules = (["database", "sql", "db"], .database) :: keywordRules.tail := rfl
  have others : ∀ rule ∈ keywordRules.tail, rule.2 ≠ .database := by decide
  simp only [ofResourceType, h]
  rw [rules, List.find?_cons]
  cases hw : hasAny ["database", "sql", "db"] (LetterCase.lower t) with
  | true => simp
  | false =>
    cases hf : keywordRules.tail.find? fun rule => hasAny rule.1 (LetterCase.lower t) with
    | none => simp
    | some rule => simpa using others rule (List.mem_of_find?_eq_some hf)

theorem ofResourceType_eq_database_iff : ofResourceType t = .database ↔
    hasAny ["database", "sql", "db"] (LetterCase.lower t) = true ∨
      LetterCase.lower t = "aws_rds_cluster" := by
  cases hk : known.lookup (LetterCase.lower t) with
  | some type =>
    rw [ofResourceType_of_known hk]
    exact known_database_iff _ (mem_known_of_lookup hk)
  | none =>
    have unnamed : LetterCase.lower t ≠ "aws_rds_cluster" := by
      intro named
      have known : known.lookup "aws_rds_cluster" = some .database := by decide
      rw [named, known] at hk
      cases hk
    rw [ofResourceType_of_unknown hk, or_iff_left unnamed]

end NodeType

namespace Exposure

variable {r : Resource} {t : String}

/-- Nothing lets anyone in from outside. -/
structure Unexposed (r : Resource) : Prop where
  address : addressBoundary r = none
  publicAcl : ¬ (isStorageType (LetterCase.lower r.resourceType) = true ∧ hasPublicAcl r = true)
  reachable : ¬ isReachable r = true
  ingress : ¬ (isFirewallType (LetterCase.lower r.resourceType) = true ∧ admitsIngress r = true)

/-- All resources of a type get the zones of databases. -/
structure ZonedAsDatabase (t : String) : Prop where
  address : ∀ r, r.resourceType = t → ∀ b, addressBoundary r = some b → boundary r = b
  sheltered : ∀ r, r.resourceType = t → Unexposed r →
    boundary r = if isEncrypted r then .restricted else .private_
  never_internal : ∀ r, r.resourceType = t → boundary r ≠ .internal

/-- The types of databases that the rules for zones do not know: those with the short word for a
database only, and the one that is known by its name. -/
def Overlooked (t : String) : Prop :=
  isDatabaseType (LetterCase.lower t) = false ∧
    (hasAny ["db"] (LetterCase.lower t) = true ∨ LetterCase.lower t = "aws_rds_cluster")

theorem ofResourceType_eq_database_iff_overlooked : NodeType.ofResourceType t = .database ↔
    isDatabaseType (LetterCase.lower t) = true ∨ Overlooked t := by
  have words : hasAny ["database", "sql", "db"] (LetterCase.lower t) =
      (isDatabaseType (LetterCase.lower t) || hasAny ["db"] (LetterCase.lower t)) := by
    simp only [hasAny, isDatabaseType, List.any_cons, List.any_nil, Bool.or_false]
    rw [Bool.or_left_comm, Bool.or_assoc]
  rw [NodeType.ofResourceType_eq_database_iff, words, Overlooked]
  cases isDatabaseType (LetterCase.lower t) <;> simp

theorem boundaryByFlags_of_unexposed (h : Unexposed r) :
    boundaryByFlags (LetterCase.lower r.resourceType) r =
      shelteredBoundary (LetterCase.lower r.resourceType) r := by
  refine boundaryByFlags_of_isPublic_eq_false ?_
  rw [← Bool.not_eq_true, isPublic_boundaryByFlags_iff]
  rintro (acl | reached | admits)
  · exact h.publicAcl acl
  · exact h.reachable reached
  · exact h.ingress admits

theorem boundary_of_unexposed (h : Unexposed r) :
    boundary r = shelteredBoundary (LetterCase.lower r.resourceType) r := by
  have undecided : addressDecides r = false := by simp [addressDecides, h.address]
  rw [boundary_of_addressDecides_eq_false undecided, boundaryByFlags_of_unexposed h]

theorem addressBoundary_ne_internal {b : TrustBoundary} (h : addressBoundary r = some b) :
    b ≠ .internal := by
  rw [addressBoundary_eq] at h
  obtain ⟨configuration, _, h⟩ := Option.bind_eq_some_iff.mp h
  split at h
  next =>
    rw [← Option.some.inj h, addressZone]
    split
    · decide
    · split <;> decide
  next => cases h

theorem boundaryByFlags_ne_internal (database : isDatabaseType t = true) :
    boundaryByFlags t r ≠ .internal := by
  intro internal
  have hidden : (boundaryByFlags t r).isPublic = false := by
    rw [internal]
    rfl
  rw [boundaryByFlags_of_isPublic_eq_false hidden, shelteredBoundary, if_pos database] at internal
  split at internal <;> cases internal

theorem zonedAsDatabase_of_isDatabaseType (database : isDatabaseType (LetterCase.lower t) = true) :
    ZonedAsDatabase t where
  address r hr b hb := by
    subst hr
    exact boundary_of_addressBoundary database hb
  sheltered r hr unexposed := by
    subst hr
    rw [boundary_of_unexposed unexposed, shelteredBoundary, if_pos database]
  never_internal r hr := by
    subst hr
    rw [boundary, if_pos database]
    cases hb : addressBoundary r with
    | none => exact boundaryByFlags_ne_internal database
    | some b => exact addressBoundary_ne_internal hb

theorem boundary_of_overlooked (h : Overlooked r.resourceType) (unexposed : Unexposed r) :
    boundary r = .internal := by
  rw [boundary_of_unexposed unexposed, shelteredBoundary, h.1]
  rfl

/-- A resource without properties is exposed by nothing. -/
theorem new_unexposed (t name : String) : Unexposed (Resource.new t name (.obj [])) := by
  have acl : hasPublicAcl (Resource.new t name (.obj [])) = false := rfl
  have reachable : isReachable (Resource.new t name (.obj [])) = false := rfl
  have ingress : admitsIngress (Resource.new t name (.obj [])) = false := rfl
  exact ⟨rfl, by simp [acl], by simp [reachable], by simp [ingress]⟩

theorem zonedAsDatabase_iff :
    ZonedAsDatabase t ↔ isDatabaseType (LetterCase.lower t) = true := by
  refine ⟨fun zoned => ?_, zonedAsDatabase_of_isDatabaseType⟩
  by_contra other
  have internal : boundary (Resource.new t "db" (.obj [])) = .internal := by
    rw [boundary_of_unexposed (new_unexposed t "db"), shelteredBoundary]
    exact if_neg other
  exact zoned.never_internal _ rfl internal

/-- How the zones of a type go with the type of its nodes. -/
structure DatabaseZones (t : String) : Prop where
  by_words : ZonedAsDatabase t ↔ isDatabaseType (LetterCase.lower t) = true
  nodes_of_zones : ZonedAsDatabase t → NodeType.ofResourceType t = .database
  zones_of_nodes : NodeType.ofResourceType t = .database → (ZonedAsDatabase t ↔ ¬ Overlooked t)
  nodes_of_overlooked : Overlooked t → NodeType.ofResourceType t = .database
  zones_of_overlooked : Overlooked t → ∀ r, r.resourceType = t → Unexposed r →
    boundary r = .internal

/-- The zones of a type are those of databases only if its nodes are databases. The nodes of some
more types are, and where nothing exposes a resource of such a type it is no more than internal. -/
theorem ofResourceType_databaseZones (t : String) : DatabaseZones t := by
  have nodes := @ofResourceType_eq_database_iff_overlooked t
  refine ⟨zonedAsDatabase_iff, fun zoned => ?nodes, fun database => ?zones,
    fun overlooked => nodes.mpr (.inr overlooked), ?overlooked⟩
  case nodes => exact nodes.mpr (.inl (zonedAsDatabase_iff.mp zoned))
  case zones =>
    rw [zonedAsDatabase_iff]
    constructor
    · intro zoned overlooked
      exact Bool.false_ne_true (overlooked.1.symm.trans zoned)
    · exact (nodes.mp database).resolve_right
  case overlooked =>
    rintro overlooked r rfl unexposed
    exact boundary_of_overlooked overlooked unexposed

theorem sqlDatabase_zoned : ZonedAsDatabase "azurerm_sql_database" ∧
    Overlooked "aws_dynamodb_table" ∧ NodeType.ofResourceType "aws_dynamodb_table" = .database ∧
    boundary (Resource.new "aws_dynamodb_table" "orders" (.obj [])) = .internal := by
  have sql : NodeType.ofResourceType "azurerm_sql_database" = .database := by decide
  have known : ¬ Overlooked "azurerm_sql_database" := fun overlooked =>
    absurd overlooked.1 (by decide)
  have short : Overlooked "aws_dynamodb_table" := ⟨by decide, .inl (by decide)⟩
  have zones := ofResourceType_databaseZones "aws_dynamodb_table"
  exact ⟨((ofResourceType_databaseZones _).zones_of_nodes sql).mpr known, short,
    zones.nodes_of_overlooked short, zones.zones_of_overlooked short _ rfl (new_unexposed _ _)⟩

/-- A database for which the words in its type are too short. -/
def usersDatabase : Resource :=
  Resource.new "aws_db_instance" "users" (.obj [("encrypted", .bool true)])

theorem databaseNode_in_internal_zone : ¬ ∀ r : Resource,
    NodeType.ofResourceType r.resourceType = .database → boundary r ≠ .internal := by
  intro never
  have database : NodeType.ofResourceType usersDatabase.resourceType = .database := by decide
  have internal : boundary usersDatabase = .internal := by decide +kernel
  exact never usersDatabase database internal

end Exposure

end CloudThreat
