import ClusterLookup.Identity
import ClusterLookup.Policy
import ClusterLookup.Selector.Parser

/-!
# Lookup arguments

The arguments of a lookup as a template gives them, and the question they stand for under a policy.
They are checked in a fixed order: apiVersion and kind are there, the namespace is allowed, the
apiVersion splits, the selector can be read.
-/

namespace ClusterLookup

structure Arguments where
  apiVersion : String
  kind : String
  inNamespace : String
  name : String
  selector : Option String
  deriving DecidableEq, Repr, Inhabited

/-- The canonical text of a selector argument; none at all is a blank one. -/
def canonicalSelector (selector : Option String) : Except Failure String :=
  let text := selector.getD ""
  match Selector.canonical text.toList with
  | .ok word => .ok (String.ofList word)
  | .error fault => .error (.invalidSelector text fault.message)

namespace Arguments

def groupVersion (apiVersion : String) : Except Failure (String × String) :=
  match splitApiVersion apiVersion with
  | some parts => .ok parts
  | none => .error (.invalidArguments s!"unexpected GroupVersion string: {apiVersion}")

/-- The question that the arguments stand for. -/
def identity (policy : Policy) (arguments : Arguments) : Except Failure Identity := do
  if arguments.apiVersion.isEmpty || arguments.kind.isEmpty then
    .error (.invalidArguments "the apiVersion and kind are required")
  let inNamespace ← policy.effectiveNamespace arguments.inNamespace
  let (group, version) ← groupVersion arguments.apiVersion
  let selector ← canonicalSelector arguments.selector
  .ok ⟨⟨group, version, arguments.kind⟩, inNamespace, arguments.name, selector⟩

end Arguments

end ClusterLookup
