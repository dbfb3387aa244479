import CloudThreat.Cut
import CloudThreat.JsonReading

namespace CloudThreat

inductive NodeType where
  | service
  | database
  | storage
  | compute
  | network
  | api
  | cache
  | queue
  | function
  | external
  | loadBalancer
  | firewall
  | vpc
  | subnet
  | user
  | admin
deriving Repr, DecidableEq

namespace NodeType

def text : NodeType → String
  | service => "service"
  | database => "database"
  | storage => "storage"
  | compute => "compute"
  | network => "network"
  | api => "api"
  | cache => "cache"
  | queue => "queue"
  | function => "function"
  | external => "external"
  | loadBalancer => "load_balancer"
  | firewall => "firewall"
  | vpc => "vpc"
  | subnet => "subnet"
  | user => "user"
  | admin => "admin"

def all : List NodeType :=
  [service, database, storage, compute, network, api, cache, queue, function, external,
    loadBalancer, firewall, vpc, subnet, user, admin]

def read : Reader NodeType :=
  Reader.variant (all.map fun t => (t.text, t))

/-- Types where the traffic of an application begins. -/
def isWorkload : NodeType → Bool
  | service => true
  | api => true
  | compute => true
  | _ => false

/-- Types that offer an interface and are split in two in a component diagram. -/
def isSplit : NodeType → Bool
  | service => true
  | api => true
  | _ => false

/-- Resource types that are known by name. -/
def known : List (String × NodeType) := [
  ("google_sql_database_instance", database),
  ("google_compute_instance", compute),
  ("google_storage_bucket", storage),
  ("google_cloud_run_service", service),
  ("google_compute_backend_service", api),
  ("google_redis_instance", cache),
  ("google_pubsub_topic", queue),
  ("google_cloudfunctions_function", function),
  ("google_compute_network", network),
  ("google_compute_firewall", firewall),
  ("google_compute_subnetwork", subnet),
  ("aws_db_instance", database),
  ("aws_rds_cluster", database),
  ("aws_dynamodb_table", database),
  ("aws_instance", compute),
  ("aws_ec2_instance", compute),
  ("aws_s3_bucket", storage),
  ("aws_ecs_service", service),
  ("aws_lambda_function", function),
  ("aws_api_gateway_rest_api", api),
  ("aws_elasticache_cluster", cache),
  ("aws_sqs_queue", queue),
  ("aws_vpc", vpc),
  ("aws_subnet", subnet),
  ("aws_security_group", firewall),
  ("aws_lb", loadBalancer),
  ("aws_elb", loadBalancer),
  ("azurerm_sql_database", database),
  ("azurerm_virtual_machine", compute),
  ("azurerm_storage_account", storage),
  ("azurerm_app_service", service),
  ("azurerm_function_app", function),
  ("azurerm_api_management", api),
  ("azurerm_redis_cache", cache),
  ("azurerm_servicebus_queue", queue),
  ("azurerm_virtual_network", network),
  ("azurerm_network_security_group", firewall)]

/-- Words that tell the type of others; the first rule with a word in the type decides. -/
def keywordRules : List (List String × NodeType) := [
  (["database", "sql", "db"], database),
  (["storage", "bucket"], storage),
  (["compute", "instance", "vm"], compute),
  (["function", "lambda"], function),
  (["cache", "redis"], cache),
  (["queue", "pubsub", "sqs"], queue),
  (["api", "gateway"], api),
  (["network", "vpc"], network),
  (["firewall", "security_group"], firewall),
  (["load_balancer", "lb", "elb"], loadBalancer)]

/-- The node type of a resource type, without regard to letter case. -/
def ofResourceType (resourceType : String) : NodeType :=
  let resourceType := LetterCase.lower resourceType
  match known.lookup resourceType with
  | some t => t
  | none =>
    match keywordRules.find? fun rule => hasAny rule.1 resourceType with
    | some rule => rule.2
    | none => service

end NodeType

end CloudThreat
