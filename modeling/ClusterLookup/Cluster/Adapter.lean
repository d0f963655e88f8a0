import ClusterLookup.Cluster

/-!
# A cluster client over the API

The API finds the resource of an apiVersion and kind, and reads objects of a resource. The adapter
makes a cluster client of it: it keeps the resources that discovery has reported, by descriptor,
turns faults of the API and of the transport into failures of the lookup family, and gives the items
of a list the apiVersion and kind that list answers leave out. Faults of other kinds are passed on.
-/

namespace ClusterLookup

structure ClusterApi (σ : Type) where
  resource (apiVersion kind : String) : σ → Except Failure Resource × σ
  read (request : ReadRequest) : σ → Except Failure Document × σ

/-- The state of an adapter: the resources discovered so far, the latest first, and the API's own. -/
structure AdapterState (σ : Type) where
  resources : List (Descriptor × Resource)
  api : σ

namespace AdapterState
variable {σ : Type}

def start (api : σ) : AdapterState σ := ⟨[], api⟩

/-- The resource that was last discovered under a descriptor. -/
def resource? (state : AdapterState σ) (descriptor : Descriptor) : Option Resource :=
  (state.resources.find? (·.1 == descriptor)).map (·.2)

def discovered (state : AdapterState σ) (descriptor : Descriptor) (resource : Resource) :
    AdapterState σ :=
  { state with resources := (descriptor, resource) :: state.resources }

end AdapterState

/-- The descriptor of a kind that is served as a resource; a resource that leaves open whether it is
namespaced is not. -/
def Resource.descriptor (resource : Resource) (type : GroupVersionKind) : Descriptor :=
  ⟨type.group, type.version, resource.name, resource.namespaced.getD false⟩

namespace Adapter
variable {σ : Type}

/-- A request for a resource, noted with its answer. -/
def askResource (api : ClusterApi σ) (apiVersion kind : String) :
    Action Notice (AdapterState σ) Resource := fun state =>
  let (answer, remote) := api.resource apiVersion kind state.api
  ⟨answer, { state with api := remote }, [.wire (.resource apiVersion kind answer)]⟩

/-- A request for objects, noted with its answer. -/
def askRead (api : ClusterApi σ) (request : ReadRequest) : Action Notice (AdapterState σ) Document :=
  fun state =>
    let (answer, remote) := api.read request state.api
    ⟨answer, { state with api := remote }, [.wire (.read request answer)]⟩

def discoveryFailure (type : GroupVersionKind) : Failure → Failure
  | .unknownResource _ => .missingType type
  | .ambiguousResource detail => .wrapped "discovery" (.ambiguousResource detail)
  | failure =>
    if failure.isApi || failure.isTransport then .wrapped "discovery" failure else failure

/-- A fault met while one object is read: the API's 404 says that it does not exist. -/
def getFailure (descriptor : Descriptor) (inNamespace name : String) : Failure → Failure
  | .api fault status reason =>
    if status = some 404 then .notFound descriptor.group descriptor.resource inNamespace name
    else .wrapped "get" (.api fault status reason)
  | failure => if failure.isTransport then .wrapped "get" failure else failure

def listFailure (failure : Failure) : Failure :=
  if failure.isApi || failure.isTransport then .wrapped "list" failure else failure

def discoveryRecord (kind : String) (descriptor : Descriptor) : LogRecord where
  component := "lookup.backends"
  event := "resource_type_discovered"
  level := .debug
  fields := [("kind", .text kind), ("resource", .text descriptor.resource),
    ("namespaced", .boolean descriptor.namespaced)]

/-- Discovers a kind and keeps its resource. -/
def discover (api : ClusterApi σ) (type : GroupVersionKind) :
    Action Notice (AdapterState σ) Descriptor := do
  match ← (askResource api type.apiVersion type.kind).attempt with
  | .error failure => Action.fail (discoveryFailure type failure)
  | .ok resource =>
    let descriptor := resource.descriptor type
    Action.modify (·.discovered descriptor resource)
    Action.note [.log (discoveryRecord type.kind descriptor)]
    pure descriptor

/-- The resource of a descriptor, discovered now if it was not before. -/
def resourceOf (api : ClusterApi σ) (descriptor : Descriptor) (kind : String) :
    Action Notice (AdapterState σ) Resource := do
  match (← Action.read).resource? descriptor with
  | some resource => pure resource
  | none =>
    let _ ← discover api ⟨descriptor.group, descriptor.version, kind⟩
    match (← Action.read).resource? descriptor with
    | some resource => pure resource
    | none => Action.fail .noEntry

/-- The namespace that is sent: none for cluster-scoped resources and for all namespaces. -/
def sentNamespace (descriptor : Descriptor) (inNamespace : String) : Option String :=
  if descriptor.namespaced && !inNamespace.isEmpty then some inNamespace else none

def get (api : ClusterApi σ) (descriptor : Descriptor) (kind inNamespace name : String) :
    Action Notice (AdapterState σ) Document := do
  let resource ← resourceOf api descriptor kind
  let request := ⟨resource, some name, sentNamespace descriptor inNamespace, none⟩
  match ← (askRead api request).attempt with
  | .ok document => pure document
  | .error failure => Action.fail (getFailure descriptor inNamespace name failure)

/-- An item of a list with the apiVersion and kind that it lacks. -/
def completeItem (apiVersion kind : String) : Document → Except Failure Document
  | .object fields =>
    .ok (.object (Document.withDefault "kind" (.text kind)
      (Document.withDefault "apiVersion" (.text apiVersion) fields)))
  | _ => .error .noOperation

/-- The items of a list answer; an answer with a vacant value for them, or none, has no items. -/
def listItems (apiVersion kind : String) : Document → Except Failure (List Document)
  | .object fields =>
    let items := (Document.fieldIn? "items" fields).getD .null
    if items.isVacant then .ok []
    else match items with
      | .array items => items.mapM (completeItem apiVersion kind)
      | .object _ => .error .noOperation
      | .text _ => .error .noOperation
      | _ => .error .notAList
  | _ => .error .noOperation

def list (api : ClusterApi σ) (descriptor : Descriptor) (kind inNamespace selector : String) :
    Action Notice (AdapterState σ) (List Document) := do
  let resource ← resourceOf api descriptor kind
  let sentSelector := if selector.isEmpty then none else some selector
  let request := ⟨resource, none, sentNamespace descriptor inNamespace, sentSelector⟩
  match ← (askRead api request).attempt with
  | .error failure => Action.fail (listFailure failure)
  | .ok body =>
    Action.ofExcept (listItems (joinApiVersion descriptor.group descriptor.version) kind body)

end Adapter

def ClusterApi.client {σ : Type} (api : ClusterApi σ) : ClusterClient (AdapterState σ) where
  discover := Adapter.discover api
  get := Adapter.get api
  list := Adapter.list api

end ClusterLookup
