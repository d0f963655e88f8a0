import ClusterLookup.Failure
import ClusterLookup.Identity
import ClusterLookup.Log

/-!
# Journals

What a lookup does besides answering, in the order in which it does it: every call to a collaborator
with the answer that came back, every log record, and every count.
-/

namespace ClusterLookup

/-- A resource as the API's own discovery reports it; whether it is namespaced may be left open. -/
structure Resource where
  name : String
  namespaced : Option Bool
  deriving DecidableEq, Repr, Inhabited

/-- A request to read objects of a resource; what is not there is not sent. -/
structure ReadRequest where
  resource : Resource
  name : Option String
  inNamespace : Option String
  selector : Option String
  deriving DecidableEq, Repr, Inhabited

/-- A request to the API itself, and its answer. -/
inductive WireExchange where
  | resource (apiVersion kind : String) (answer : Except Failure Resource)
  | read (request : ReadRequest) (answer : Except Failure Document)

/-- A call to the cluster client, and its answer. -/
inductive ClientExchange where
  | discover (type : GroupVersionKind) (answer : Except Failure Descriptor)
  | get (descriptor : Descriptor) (kind inNamespace name : String) (answer : Except Failure Document)
  | list (descriptor : Descriptor) (kind inNamespace selector : String)
      (answer : Except Failure (List Document))

/-- A call to the registry, and its answer. -/
inductive RegistryExchange where
  | resolveType (type : GroupVersionKind) (answer : Except Failure Descriptor)
  | get (watcher : Identity) (type : GroupVersionKind) (inNamespace name : String)
      (answer : Except Failure Document)
  | list (watcher : Identity) (type : GroupVersionKind) (inNamespace selector : String)
      (answer : Except Failure (List Document))

inductive Path where
  | cacheFirst
  | reactive
  deriving DecidableEq, Repr, Inhabited

def Path.name : Path → String
  | cacheFirst => "cache_first"
  | reactive => "reactive"

inductive Ending where
  | found
  | empty
  | notFound
  | error
  deriving DecidableEq, Repr, Inhabited

def Ending.name : Ending → String
  | found => "found"
  | empty => "empty"
  | notFound => "not_found"
  | error => "error"

inductive Guard where
  | namespaces
  | clusterScope
  deriving DecidableEq, Repr, Inhabited

def Guard.reason : Guard → String
  | namespaces => "namespace"
  | clusterScope => "cluster_scoped"

inductive Counter where
  | lookups (path : Path) (ending : Ending)
  | probes (hit : Bool)
  | denials (guard : Guard)
  deriving DecidableEq, Repr, Inhabited

/-- What a collaborator may enter into the journal. -/
inductive Notice where
  | wire (exchange : WireExchange)
  | log (record : LogRecord)

/-- One thing that a lookup did. -/
inductive Entry where
  | client (exchange : ClientExchange)
  | registry (exchange : RegistryExchange)
  | wire (exchange : WireExchange)
  | log (record : LogRecord)
  | count (counter : Counter)

def Notice.entry : Notice → Entry
  | wire exchange => .wire exchange
  | log record => .log record

/-- What a lookup did, from the first thing on. -/
abbrev Journal := List Entry

namespace Journal

def records (journal : Journal) : List LogRecord :=
  journal.filterMap fun
    | .log record => some record
    | _ => none

def counters (journal : Journal) : List Counter :=
  journal.filterMap fun
    | .count counter => some counter
    | _ => none

def clientExchanges (journal : Journal) : List ClientExchange :=
  journal.filterMap fun
    | .client exchange => some exchange
    | _ => none

def registryExchanges (journal : Journal) : List RegistryExchange :=
  journal.filterMap fun
    | .registry exchange => some exchange
    | _ => none

def wireExchanges (journal : Journal) : List WireExchange :=
  journal.filterMap fun
    | .wire exchange => some exchange
    | _ => none

end Journal

end ClusterLookup
