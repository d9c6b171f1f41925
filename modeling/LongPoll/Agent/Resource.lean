import LongPoll.Agent.Client
import LongPoll.Agent.Reply
import LongPoll.Cache
import LongPoll.Health
import LongPoll.Kv

/-!
The sets that an agent lets one watch.

A resource says which path and parameters the set has, how an entry of it is read, and by which key
its entries are told apart.
-/

namespace LongPoll.Agent

open LongPoll.Text

/-- What became of a request: a reply, or `none` if no complete one arrived. -/
abbrev Delivery := Option Reply

/-- The entries and the index that a request brought. -/
def receive {V : Type} (read : Json → Option V) (lenient : Bool) :
    Delivery → Except FetchFault (List V × Index)
  | none => .error (.transport "no complete answer arrived")
  | some reply => reply.read read lenient

/-- A watched set. -/
structure Resource (K V : Type) where
  description : String
  segments : List String
  /-- Parameters of its own, after those of the query. -/
  extra : List (String × String)
  /-- That nothing was found means no entries. -/
  lenient : Bool
  read : Json → Option V
  keyOf : V → K
  showKey : K → String
  /-- The order in which entries are shown. -/
  before : K → K → Bool

namespace Resource

variable {K V : Type}

/-- What a cache of the resource is made of. -/
def feed (r : Resource K V) (settings : Settings) (base : Query) (consumer : Nat → Reaction) :
    Feed K V where
  source := r.description
  keyOf := fun v => .ok (r.keyOf v)
  showKey := r.showKey
  settings := settings
  base := base
  consumer := consumer

def request? (r : Resource K V) (client : Client) (query : Query) : Option Request :=
  client.request? r.segments query r.extra

/-- What a delivery answers to the cache. -/
def answer (r : Resource K V) (delivery : Delivery) : Answer V :=
  match receive r.read r.lenient delivery with
  | .ok (list, index) => .entries list index
  | .error fault => .failed fault

/-- The entries of a snapshot in the order of their keys. -/
def sorted (r : Resource K V) (s : Snapshot K V) : List (K × V) :=
  s.entries.mergeSort fun a b => !r.before b.1 a.1

end Resource

/-- Text in the order of its characters. -/
def textBefore (a b : String) : Bool := a < b

/-- The subtree of the key/value store under a root. -/
def subtree (root : String) : Resource String Kv.Entry :=
  let root := Kv.normalizeRoot root
  { description := "kv:" ++ root
    segments := Kv.segments root
    extra := [("recurse", "true")]
    lenient := true
    read := Kv.Entry.ofJson?
    keyOf := fun e => Kv.relativeKeyString root e.key
    showKey := Quoted.encode
    before := textBefore }

/-- Checks, keyed by their identifiers. -/
def checks (kind name : String) : Resource String Health.Check where
  description := "v1/health/" ++ kind ++ "/" ++ name
  segments := Health.segments kind name
  extra := []
  lenient := false
  read := Health.Check.ofJson?
  keyOf := Health.Check.checkId
  showKey := Quoted.encode
  before := textBefore

def nodeChecks (node : String) : Resource String Health.Check := checks "node" node

def stateChecks (state : Health.State) : Resource String Health.Check := checks "state" state.name

/-- The instances of a service, or only those that pass all checks. -/
def instances (service : String) (passing : Bool) :
    Resource Health.InstanceKey Health.Instance where
  description := "v1/health/service/" ++ service
  segments := Health.segments "service" service
  extra := if passing then [("passing", "true")] else []
  lenient := false
  read := Health.Instance.ofJson?
  keyOf := Health.Instance.key
  showKey := fun k =>
    "ServiceHealthKey \x7b service_id: " ++ Quoted.encode k.serviceId ++ ", host: " ++
      Quoted.encode k.host ++ ", port: " ++ writeNatural k.port.toNat ++ " \x7d"
  before := Health.InstanceKey.before

end LongPoll.Agent
