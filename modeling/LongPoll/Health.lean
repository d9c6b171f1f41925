import LongPoll.Json.Decode

/-!
Health data: checks, and instances of services with their checks.
-/

namespace LongPoll.Health

/-- The state of a check. -/
inductive State where
  | pass
  | warn
  | fail
  | any
  | unknown
  deriving DecidableEq, Repr

namespace State

def all : List State := [pass, warn, fail, any, unknown]

def name : State → String
  | pass => "passing"
  | warn => "warning"
  | fail => "critical"
  | any => "any"
  | unknown => "unknown"

def shortName : State → String
  | pass => "pass"
  | warn => "warn"
  | fail => "fail"
  | any => "any"
  | unknown => "unknown"

def title : State → String
  | pass => "Pass"
  | warn => "Warn"
  | fail => "Fail"
  | any => "Any"
  | unknown => "Unknown"

def ofName? (text : String) : Option State :=
  all.find? fun s => s.name == text || s.shortName == text

/-- What is said about a text that names no state. -/
def unknownMessage (text : String) : String := "unknown health state: " ++ text

end State

/-- A check. -/
structure Check where
  node : String
  checkId : String
  name : String
  status : String
  notes : String
  output : String
  serviceId : String
  serviceName : String
  serviceTags : List String
  deriving DecidableEq, Repr

/-- A text that may be missing or null, and is empty then. -/
def optionalText? : Option Json → Option String :=
  Json.defaulted? "" (Json.nullable? "" Json.text?)

/-- A list that may be missing or null, and is empty then. -/
def optionalList? {α : Type} (read : Json → Option α) : Option Json → Option (List α) :=
  Json.defaulted? [] (Json.nullable? [] (Json.list? read))

namespace Check

def fieldNames : List String :=
  ["Node", "CheckID", "Name", "Status", "Notes", "Output", "ServiceID", "ServiceName",
    "ServiceTags"]

/-- Read a check. The first four fields have to be there. -/
def ofJson? (j : Json) : Option Check := do
  match ← j.slots? fieldNames with
  | [node, checkId, name, status, notes, output, serviceId, serviceName, serviceTags] =>
    return {
      node := ← Json.required? Json.text? node
      checkId := ← Json.required? Json.text? checkId
      name := ← Json.required? Json.text? name
      status := ← Json.required? Json.text? status
      notes := ← optionalText? notes
      output := ← optionalText? output
      serviceId := ← optionalText? serviceId
      serviceName := ← optionalText? serviceName
      serviceTags := ← optionalList? Json.text? serviceTags }
  | _ => none

end Check

/-- The node that an instance runs on. -/
structure Node where
  name : String
  address : String
  datacenter : Option String
  deriving DecidableEq, Repr

namespace Node

def fieldNames : List String := ["Node", "Address", "Datacenter"]

def ofJson? (j : Json) : Option Node := do
  match ← j.slots? fieldNames with
  | [name, address, datacenter] =>
    return {
      name := ← Json.required? Json.text? name
      address := ← optionalText? address
      datacenter := ← Json.defaulted? none (Json.nullable? none fun j => (Json.text? j).map some)
        datacenter }
  | _ => none

end Node

/-- A service as it is registered on a node. -/
structure Service where
  id : String
  name : String
  tags : List String
  address : String
  port : UInt16
  deriving DecidableEq, Repr

namespace Service

def fieldNames : List String := ["ID", "Service", "Tags", "Address", "Port"]

def ofJson? (j : Json) : Option Service := do
  match ← j.slots? fieldNames with
  | [id, name, tags, address, port] =>
    return {
      id := ← Json.required? Json.text? id
      name := ← Json.required? Json.text? name
      tags := ← optionalList? Json.text? tags
      address := ← optionalText? address
      port := ← Json.defaulted? 0 Json.port? port }
  | _ => none

end Service

/-- A service on its node, with its checks. -/
structure Instance where
  node : Node
  service : Service
  checks : List Check
  deriving DecidableEq, Repr

/-- What tells the instances of a service apart. -/
structure InstanceKey where
  serviceId : String
  host : String
  port : UInt16
  deriving DecidableEq, Repr

namespace InstanceKey

/-- Keys in order: by service, then host, then port. -/
def before (a b : InstanceKey) : Bool :=
  if a.serviceId ≠ b.serviceId then a.serviceId < b.serviceId
  else if a.host ≠ b.host then a.host < b.host
  else a.port < b.port

end InstanceKey

namespace Instance

def fieldNames : List String := ["Node", "Service", "Checks"]

def ofJson? (j : Json) : Option Instance := do
  match ← j.slots? fieldNames with
  | [node, service, checks] =>
    return {
      node := ← Json.required? Node.ofJson? node
      service := ← Json.required? Service.ofJson? service
      checks := ← optionalList? Check.ofJson? checks }
  | _ => none

/-- The address under which the instance is reached: its own, or that of its node. -/
def host (i : Instance) : String :=
  if i.service.address = "" then i.node.address else i.service.address

def key (i : Instance) : InstanceKey := ⟨i.service.id, i.host, i.service.port⟩

end Instance

/-- The path segments of a request for health data. -/
def segments (kind name : String) : List String := ["v1", "health", kind, name]

end LongPoll.Health
