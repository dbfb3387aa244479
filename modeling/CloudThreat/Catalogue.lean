import CloudThreat.Tally
import CloudThreat.Threat

namespace CloudThreat

/-- The positions of each key, in ascending order; keys stand in the order of their first mention. -/
abbrev PositionIndex (κ : Type) := List (κ × List Nat)

namespace PositionIndex

variable {κ : Type} [DecidableEq κ]

def add (key : κ) (position : Nat) : PositionIndex κ → PositionIndex κ
  | [] => [(key, [position])]
  | (k, ps) :: rest =>
    if k = key then (k, ps ++ [position]) :: rest else (k, ps) :: add key position rest

def positions (index : PositionIndex κ) (key : κ) : List Nat :=
  match index with
  | [] => []
  | (k, ps) :: rest => if k = key then ps else positions rest key

/-- The index of items that each have several keys, counting positions from `start`. -/
def build {α : Type} (keys : α → List κ) (index : PositionIndex κ) (start : Nat) :
    List α → PositionIndex κ
  | [] => index
  | a :: rest => build keys ((keys a).foldl (fun i k => add k start i) index) (start + 1) rest

/-- How many positions each key has. -/
def counts (name : κ → String) (index : PositionIndex κ) : List (String × Nat) :=
  index.map fun (k, ps) => (name k, ps.length)

end PositionIndex

structure Catalogue where
  threats : List Threat
  byId : List (String × Nat)
  byResourceType : PositionIndex String
  byProvider : PositionIndex String
  byCategory : PositionIndex String
  bySeverity : PositionIndex Severity
deriving Repr

namespace Catalogue

/-- The threats and the position of each id, while a catalogue is being built. -/
structure Entries where
  threats : List Threat
  byId : List (String × Nat)

namespace Entries

def empty : Entries := ⟨[], []⟩

/-- A threat whose id is known replaces the one there; others go to the end. -/
def insert (e : Entries) (t : Threat) : Entries :=
  match e.byId.lookup t.id with
  | some i => { e with threats := e.threats.set i t }
  | none => ⟨e.threats ++ [t], e.byId ++ [(t.id, e.threats.length)]⟩

end Entries

def ofThreats (threats : List Threat) : Catalogue :=
  let e := threats.foldl Entries.insert .empty
  { threats := e.threats
    byId := e.byId
    byResourceType := PositionIndex.build Threat.resourceTypes [] 0 e.threats
    byProvider := PositionIndex.build Threat.cloudProviders [] 0 e.threats
    byCategory := PositionIndex.build (fun t => [t.category]) [] 0 e.threats
    bySeverity := PositionIndex.build (fun t => [t.severity]) [] 0 e.threats }

def size (c : Catalogue) : Nat :=
  c.threats.length

def isEmpty (c : Catalogue) : Bool :=
  c.threats.isEmpty

def collect (c : Catalogue) (positions : List Nat) : List Threat :=
  positions.filterMap (c.threats[·]?)

def withId? (c : Catalogue) (id : String) : Option Threat :=
  (c.byId.lookup id).bind (c.threats[·]?)

/-- The threats that name the type, once for each mention. -/
def ofResourceType (c : Catalogue) (resourceType : String) : List Threat :=
  c.collect (c.byResourceType.positions resourceType)

def ofProvider (c : Catalogue) (provider : String) : List Threat :=
  c.collect (c.byProvider.positions provider)

def ofCategory (c : Catalogue) (category : String) : List Threat :=
  c.collect (c.byCategory.positions category)

def ofSeverity (c : Catalogue) (severity : Severity) : List Threat :=
  c.collect (c.bySeverity.positions severity)

end Catalogue

structure CatalogueStatistics where
  totalThreats : Nat
  bySeverity : List (String × Nat)
  byCategory : List (String × Nat)
  byProvider : List (String × Nat)
  uniqueResourceTypes : Nat
  uniqueCategories : Nat
deriving Repr

namespace CatalogueStatistics

def toJson (s : CatalogueStatistics) : Json :=
  Json.object [
    ("total_threats", Json.ofNat s.totalThreats),
    ("by_severity", Tally.toJson s.bySeverity),
    ("by_category", Tally.toJson s.byCategory),
    ("by_cloud_provider", Tally.toJson s.byProvider),
    ("unique_resource_types", Json.ofNat s.uniqueResourceTypes),
    ("unique_categories", Json.ofNat s.uniqueCategories)]

end CatalogueStatistics

namespace Catalogue

def statistics (c : Catalogue) : CatalogueStatistics :=
  { totalThreats := c.size
    bySeverity := c.bySeverity.counts Severity.text
    byCategory := c.byCategory.counts id
    byProvider := c.byProvider.counts id
    uniqueResourceTypes := (c.threats.flatMap Threat.resourceTypes).eraseDups.length
    uniqueCategories := c.byCategory.length }

end Catalogue

end CloudThreat
