import ClusterLookup.Action
import ClusterLookup.Journal

/-!
# Collaborators

An evaluation reads from one of two collaborators: a cluster client, which answers each call by
itself, or a registry, which also makes a watcher follow what it reads. Each of them works on a
state of its own, of which nothing is assumed.
-/

namespace ClusterLookup

/-- Direct access to a cluster. `get` fails with `notFound` when there is no such object. -/
structure ClusterClient (σ : Type) where
  discover (type : GroupVersionKind) : Action Notice σ Descriptor
  get (descriptor : Descriptor) (kind inNamespace name : String) : Action Notice σ Document
  list (descriptor : Descriptor) (kind inNamespace selector : String) :
    Action Notice σ (List Document)

/-- A live view of a cluster. `get` answers null when there is no such object. -/
structure Registry (σ : Type) where
  resolveType (type : GroupVersionKind) : Action Notice σ Descriptor
  get (watcher : Identity) (type : GroupVersionKind) (inNamespace name : String) :
    Action Notice σ Document
  list (watcher : Identity) (type : GroupVersionKind) (inNamespace selector : String) :
    Action Notice σ (List Document)

variable {σ τ : Type}

/-- A client that works on a part of a larger state. -/
def ClusterClient.onPart (part : τ → σ) (withPart : τ → σ → τ) (client : ClusterClient σ) :
    ClusterClient τ where
  discover type := (client.discover type).onPart part withPart
  get descriptor kind inNamespace name :=
    (client.get descriptor kind inNamespace name).onPart part withPart
  list descriptor kind inNamespace selector :=
    (client.list descriptor kind inNamespace selector).onPart part withPart

/-- A registry that works on a part of a larger state. -/
def Registry.onPart (part : τ → σ) (withPart : τ → σ → τ) (registry : Registry σ) : Registry τ where
  resolveType type := (registry.resolveType type).onPart part withPart
  get watcher type inNamespace name :=
    (registry.get watcher type inNamespace name).onPart part withPart
  list watcher type inNamespace selector :=
    (registry.list watcher type inNamespace selector).onPart part withPart

end ClusterLookup
