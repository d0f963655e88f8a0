import ClusterLookup.Cluster
import ClusterLookup.Text.Split

/-!
# A cluster in memory

A cluster that is a list of served types and a list of objects, seen through a client and through a
registry. Outages may be laid down: a call of an operation, the n-th one or every one, then fails.
-/

namespace ClusterLookup

open Text (after before pieces)

inductive Operation where
  | discover
  | get
  | list
  | resolveType
  | registryGet
  | registryList
  deriving DecidableEq, Repr, Inhabited

/-- A call that fails: the n-th one of an operation, counted from one, or every one. -/
structure Outage where
  operation : Operation
  occurrence : Option Nat
  failure : Failure
  deriving DecidableEq, Repr, Inhabited

/-- An object of the cluster. Its place is given by group, kind, namespace and name; a cluster-scoped
object has the empty namespace. -/
structure StoredObject where
  group : String
  kind : String
  inNamespace : String
  name : String
  labels : List (String × String)
  document : Document
  deriving BEq, Repr, Inhabited

def StoredObject.isAt (object : StoredObject) (group kind inNamespace name : String) : Bool :=
  object.group == group && object.kind == kind && object.inNamespace == inNamespace &&
    object.name == name

def StoredObject.hasLabel (object : StoredObject) (key value : String) : Bool :=
  (object.labels.find? (·.1 == key)).any (·.2 == value)

/-- Whether the labels of an object match a selector. Only `key=value` pieces are understood: each
piece between commas is cut at its first equals sign. -/
def StoredObject.matchesSelector (object : StoredObject) (selector : String) : Bool :=
  selector.isEmpty ||
    (pieces ',' selector.toList).all fun piece =>
      object.hasLabel (String.ofList (before '=' piece)) (String.ofList (after '=' piece))

/-- A cluster in memory, with the calls made so far, the latest first. -/
structure ObjectStore where
  types : List (GroupVersionKind × Descriptor)
  objects : List StoredObject
  outages : List Outage
  calls : List Operation
  deriving BEq, Repr, Inhabited

namespace ObjectStore

def empty : ObjectStore := ⟨[], [], [], []⟩

def resolve (store : ObjectStore) (type : GroupVersionKind) : Except Failure Descriptor :=
  match store.types.find? (·.1 == type) with
  | some served => .ok served.2
  | none => .error (.missingType type)

def find? (store : ObjectStore) (group kind inNamespace name : String) : Option StoredObject :=
  store.objects.find? (·.isAt group kind inNamespace name)

/-- The namespace in which objects of a type have their place. -/
def placeOf (descriptor : Descriptor) (inNamespace : String) : String :=
  if descriptor.namespaced then inNamespace else ""

/-- Whether a list of a type in a namespace takes in an object; the empty namespace stands for all. -/
def selects (descriptor : Descriptor) (kind inNamespace selector : String) (object : StoredObject) :
    Bool :=
  object.group == descriptor.group && object.kind == kind &&
    (inNamespace.isEmpty || !descriptor.namespaced || object.inNamespace == inNamespace) &&
    object.matchesSelector selector

def select (store : ObjectStore) (descriptor : Descriptor) (kind inNamespace selector : String) :
    List Document :=
  (store.objects.filter (selects descriptor kind inNamespace selector)).map (·.document)

def getDocument (store : ObjectStore) (descriptor : Descriptor) (kind inNamespace name : String) :
    Except Failure Document :=
  match store.find? descriptor.group kind (placeOf descriptor inNamespace) name with
  | some object => .ok object.document
  | none => .error (.notFound descriptor.group descriptor.resource inNamespace name)

/-- The first outage that the latest call of an operation meets. -/
def outage? (store : ObjectStore) (operation : Operation) : Option Failure :=
  let nth := store.calls.count operation
  (store.outages.find? fun o => o.operation == operation && o.occurrence.all (· == nth)).map
    (·.failure)

/-- A call of an operation: it is counted, and answers unless it meets an outage. -/
def call {α : Type} (operation : Operation) (answer : ObjectStore → Except Failure α) :
    Action Notice ObjectStore α := fun store =>
  let store := { store with calls := operation :: store.calls }
  match store.outage? operation with
  | some failure => ⟨.error failure, store, []⟩
  | none => ⟨answer store, store, []⟩

def client : ClusterClient ObjectStore where
  discover type := call .discover (·.resolve type)
  get descriptor kind inNamespace name := call .get (·.getDocument descriptor kind inNamespace name)
  list descriptor kind inNamespace selector :=
    call .list fun store => .ok (store.select descriptor kind inNamespace selector)

/-- The cluster as a registry shows it. Objects are found under the group of the type asked for. -/
def registry : Registry ObjectStore where
  resolveType type := call .resolveType (·.resolve type)
  get _watcher type inNamespace name := call .registryGet fun store => do
    let descriptor ← store.resolve type
    let place := placeOf descriptor inNamespace
    .ok (((store.find? type.group type.kind place name).map (·.document)).getD .null)
  list _watcher type inNamespace selector := call .registryList fun store => do
    let descriptor ← store.resolve type
    .ok (store.select descriptor type.kind inNamespace selector)

/-- Objects with one more: in place of the first one at its place, else at the end. -/
def putObject (object : StoredObject) : List StoredObject → List StoredObject
  | [] => [object]
  | o :: os =>
    if o.isAt object.group object.kind object.inNamespace object.name then object :: os
    else o :: putObject object os

def put (store : ObjectStore) (object : StoredObject) : ObjectStore :=
  { store with objects := putObject object store.objects }

def delete (store : ObjectStore) (group kind inNamespace name : String) : ObjectStore :=
  { store with objects := store.objects.filter fun o => !o.isAt group kind inNamespace name }

/-- The cluster with one more served type, behind those that it serves already. -/
def serve (store : ObjectStore) (type : GroupVersionKind) (descriptor : Descriptor) : ObjectStore :=
  { store with types := store.types ++ [(type, descriptor)] }

end ObjectStore

end ClusterLookup
