import CloudThreat.NodeType
import CloudThreat.Resource
import CloudThreat.TrustBoundary

namespace CloudThreat.Exposure

/-- Is a flag set? Numbers other than zero and the word `true` count as set. -/
def isSet : Option Json → Bool
  | some (.bool b) => b
  | some (.num n) => !n.toDouble.eq .zero
  | some (.str s) => LetterCase.equalAscii s "true"
  | _ => false

/-- The objects of a block that stands alone or in a list. -/
def blocks : Option Json → List Json
  | some (.arr items) => items.filter Json.isObject
  | some (.obj fields) => [.obj fields]
  | _ => []

def firstBlock (value : Option Json) : Option Json :=
  (blocks value).head?

def openNetworks : List String :=
  ["0.0.0.0/0", "::/0"]

/-- Does a list of address ranges, or a single one, hold every address? -/
def isOpen : Json → Bool
  | .arr items => (items.filterMap Json.text?).any openNetworks.contains
  | .str s => openNetworks.contains s
  | _ => false

def sourceKeys : List String :=
  ["cidr_blocks", "ipv6_cidr_blocks", "source_ranges"]

/-- Does a rule for incoming traffic let everyone in? -/
def admitsAnyone (rule : Json) : Bool :=
  (sourceKeys.filterMap rule.get?).any isOpen

/-- Is one of the authorized networks the whole address space? -/
def authorizesAnyone (ipConfiguration : Json) : Bool :=
  (blocks (ipConfiguration.get? "authorized_networks")).any fun network =>
    (network.get? "value").bind Json.text? = some "0.0.0.0/0"

/-- The zone that the public address of a database puts it in; nothing when it has none. -/
def addressBoundary (r : Resource) : Option TrustBoundary :=
  match firstBlock (r.property "settings") with
  | none => none
  | some settings =>
    match firstBlock (settings.get? "ip_configuration") with
    | none => none
    | some ipConfiguration =>
      if !isSet (ipConfiguration.get? "ipv4_enabled") then none
      else if authorizesAnyone ipConfiguration then some .internet
      else if isSet (r.property "encrypted") then some .private_
      else some .dmz

def isDatabaseType (resourceType : String) : Bool :=
  hasAny ["sql", "database"] resourceType

def isStorageType (resourceType : String) : Bool :=
  hasAny ["bucket", "storage"] resourceType

def isFirewallType (resourceType : String) : Bool :=
  hasAny ["security_group", "firewall"] resourceType

def hasPublicAcl (r : Resource) : Bool :=
  ((r.property "acl").bind Json.text?).any (hasAny ["public"])

def isReachable (r : Resource) : Bool :=
  isSet (r.property "publicly_accessible") || isSet (r.property "associate_public_ip_address")

def admitsIngress (r : Resource) : Bool :=
  (blocks (r.property "ingress")).any admitsAnyone

def isEncrypted (r : Resource) : Bool :=
  isSet (r.property "storage_encrypted") || isSet (r.property "encrypted")

/-- The zone by everything but the public address of a database. -/
def boundaryByFlags (resourceType : String) (r : Resource) : TrustBoundary :=
  if isStorageType resourceType && hasPublicAcl r then .internet
  else if isReachable r then .dmz
  else if isFirewallType resourceType && admitsIngress r then .dmz
  else if isDatabaseType resourceType then
    if isEncrypted r then .restricted else .private_
  else .internal

/-- The zone of a resource; of several reasons the first decides. -/
def boundary (r : Resource) : TrustBoundary :=
  let resourceType := LetterCase.lower r.resourceType
  if isDatabaseType resourceType then
    (addressBoundary r).getD (boundaryByFlags resourceType r)
  else boundaryByFlags resourceType r

end CloudThreat.Exposure
