import CloudThreat.Proofs.IndexLookups
import CloudThreat.Proofs.MatchRecord

namespace CloudThreat

namespace Catalogue

open Matching

variable {c : Catalogue} {ts : List Threat} {t : Threat} {m : MatchedThreat} {type provider : String}
  {resources : List Resource} {keys : Threat → List String} {key : String}

/-- The query for a type and a provider, and for nothing else. -/
def typeAndProvider (type provider : String) : ThreatQuery :=
  ⟨some type, some provider, none, none⟩

/-- The threats that are listed under a type and a provider. -/
def listed (c : Catalogue) (type provider : String) : List Threat :=
  Api.select c (typeAndProvider type provider) none

/-- What matches a resource is to be listed under its type and its provider. -/
def ListsMatches (c : Catalogue) : Prop :=
  ∀ (resources : List Resource), ∀ m ∈ (run resources c.threats true).matchedThreats,
    ∀ provider, m.resource.cloudProvider = some provider →
      m.threat ∈ c.listed m.resource.resourceType provider

/-- The threat names no type, but its rule holds for some resource of a known provider. -/
def MatchesUnnamed (t : Threat) : Prop :=
  t.resourceTypes = [] ∧ ∃ r : Resource, r.cloudProvider.isSome = true ∧ Matches true r t

theorem mem_mentions_iff : t ∈ mentions keys key ts ↔ t ∈ ts ∧ key ∈ keys t := by
  rw [mentions, List.mem_flatMap]
  constructor
  · rintro ⟨u, hu, ht⟩
    obtain ⟨some, rfl⟩ := List.mem_replicate.mp ht
    exact ⟨hu, List.count_pos_iff.mp (Nat.pos_of_ne_zero some)⟩
  · rintro ⟨ht, hk⟩
    exact ⟨t, ht, List.mem_replicate.mpr ⟨Nat.ne_of_gt (List.count_pos_iff.mpr hk), rfl⟩⟩

theorem mem_listed_iff : t ∈ (ofThreats ts).listed type provider ↔
    t ∈ (ofThreats ts).threats ∧ type ∈ t.resourceTypes ∧
      (t.cloudProviders = [] ∨ provider ∈ t.cloudProviders) := by
  have applies : t.appliesToProvider provider = true ↔
      t.cloudProviders = [] ∨ provider ∈ t.cloudProviders := by
    simp [Threat.appliesToProvider]
  have found : t ∈ (ofThreats ts).ofResourceType type ↔
      t ∈ (ofThreats ts).threats ∧ type ∈ t.resourceTypes := by
    rw [ofResourceType_ofThreats, mem_mentions_iff]
  simp only [listed, typeAndProvider, Api.select, List.mem_filter, Option.all_some,
    Option.all_none, Bool.and_true, applies, found, and_assoc]

/-- A match is listed just if its threat names any type at all. -/
theorem mem_listed_of_match (h : m ∈ (run resources (ofThreats ts).threats true).matchedThreats)
    (known : m.resource.cloudProvider = some provider) :
    m.threat ∈ (ofThreats ts).listed m.resource.resourceType provider ↔
      m.threat.resourceTypes ≠ [] := by
  obtain ⟨r, _, t, ht, held, rfl⟩ := mem_run_iff.mp h
  rw [mem_listed_iff]
  constructor
  · rintro ⟨_, named, _⟩
    exact List.ne_nil_of_mem named
  · intro some
    exact ⟨ht, (held.type rfl).resolve_left some, held.provider provider known⟩

theorem listsMatches_iff : (ofThreats ts).ListsMatches ↔
    ∀ t ∈ (ofThreats ts).threats, ¬ MatchesUnnamed t := by
  constructor
  · rintro lists t ht ⟨unnamed, r, known, held⟩
    obtain ⟨provider, hp⟩ := Option.isSome_iff_exists.mp known
    have matched : recordOf r t ∈ (run [r] (ofThreats ts).threats true).matchedThreats :=
      mem_run_iff.mpr ⟨r, List.mem_singleton_self r, t, ht, held, rfl⟩
    exact (mem_listed_of_match matched hp).mp (lists [r] _ matched provider hp) unnamed
  · intro none resources m hm provider known
    refine (mem_listed_of_match hm known).mpr fun unnamed => ?_
    obtain ⟨r, _, t, ht, held, rfl⟩ := mem_run_iff.mp hm
    exact none t ht ⟨unnamed, r, Option.isSome_of_eq_some known, held⟩

/-- The service answers a query for a type and a provider with what is listed under them, and that
has all that matches resources of theirs just if no threat of the catalogue applies to every type
and matches anything. -/
theorem ofThreats_listsMatches_iff (ts : List Threat) :
    (∀ (request : ApiRequest) (type provider : String),
      ThreatQuery.ofFields? (Uri.queryFields request.uri) = some (typeAndProvider type provider) →
        Api.listThreats (ofThreats ts) request = .ok (Json.object [
          ("total", Json.ofNat ((ofThreats ts).listed type provider).length),
          ("threats", Json.ofList Threat.toJson ((ofThreats ts).listed type provider))])) ∧
      (∀ (resources : List Resource),
        ∀ m ∈ (run resources (ofThreats ts).threats true).matchedThreats, ∀ provider,
          m.resource.cloudProvider = some provider →
            (m.threat ∈ (ofThreats ts).listed m.resource.resourceType provider ↔
              m.threat.resourceTypes ≠ [])) ∧
      ((ofThreats ts).ListsMatches ↔ ∀ t ∈ (ofThreats ts).threats, ¬ MatchesUnnamed t) :=
  ⟨fun _ _ _ read => listThreats_of_query read rfl,
    fun _ _ hm _ known => mem_listed_of_match hm known, listsMatches_iff⟩

/-- A rule that everything with a name breaks. -/
def namedAnything : Threat :=
  { threatWith ⟨.all, [⟨"name", .present, .null⟩], []⟩ with id := "ANY-1" }

theorem unnamedType_not_listed :
    recordOf bucket namedAnything ∈
      (run [bucket] (ofThreats [namedAnything]).threats true).matchedThreats ∧
    bucket.cloudProvider = some "aws" ∧
    (ofThreats [namedAnything]).listed bucket.resourceType "aws" = [] ∧
    ¬ (ofThreats [namedAnything]).ListsMatches := by
  have single : (ofThreats [namedAnything]).threats = [namedAnything] := rfl
  have matched : recordOf bucket namedAnything ∈
      (run [bucket] (ofThreats [namedAnything]).threats true).matchedThreats :=
    mem_run_iff.mpr ⟨bucket, List.mem_singleton_self _, namedAnything,
      single ▸ List.mem_singleton_self _, by decide, rfl⟩
  have nothing : (ofThreats [namedAnything]).listed bucket.resourceType "aws" = [] := by rfl
  refine ⟨matched, rfl, nothing, fun lists => ?_⟩
  have there := lists [bucket] _ matched "aws" rfl
  rw [show (recordOf bucket namedAnything).resource = bucket from rfl, nothing] at there
  exact nomatch there

end Catalogue

end CloudThreat
