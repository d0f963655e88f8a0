import ClusterLookup.ApiVersion

/-!
# Identities

What a lookup asks for: one object of a kind by namespace and name, or, with an empty name, the
objects of a kind that match a selector. The identity is also the place of the answer in an
answer cache, so two lookups with equal fields share one.
-/

namespace ClusterLookup

/-- A question to the cluster after its arguments have been checked. -/
structure Identity where
  type : GroupVersionKind
  inNamespace : String
  name : String
  selector : String
  deriving DecidableEq, Repr, Inhabited

def Identity.isList (identity : Identity) : Bool := identity.name.isEmpty

end ClusterLookup
