import ClusterLookup.Allowlist
import ClusterLookup.Failure

/-!
# Lookup policy

An evaluation may be restricted to one namespace. Lookups in other namespaces are then refused, and
so are cluster-scoped objects that the allowlist does not cover. An empty restriction restricts
nothing.
-/

namespace ClusterLookup

structure Policy where
  restriction : String
  allowlist : Allowlist
  deriving DecidableEq, Repr, Inhabited

namespace Policy

def unrestricted : Policy := ⟨"", []⟩

/-- The namespace that a lookup uses: under a restriction an empty target means the restricted
namespace, and any other one is refused. -/
def effectiveNamespace (policy : Policy) (target : String) : Except Failure String :=
  if policy.restriction.isEmpty then .ok target
  else if target.isEmpty then .ok policy.restriction
  else if target = policy.restriction then .ok target
  else .error (.restrictedNamespace target policy.restriction)

/-- Whether an object of a resolved type may be read: objects in namespaces may, cluster-scoped ones
only without a restriction or by the allowlist. An empty name stands for a list of all objects. -/
def admits (policy : Policy) (descriptor : Descriptor) (kind name : String) : Bool :=
  descriptor.namespaced || policy.restriction.isEmpty ||
    policy.allowlist.allows descriptor.group kind name

theorem effectiveNamespace_of_unrestricted {policy : Policy} (h : policy.restriction.isEmpty = true)
    (target : String) : policy.effectiveNamespace target = .ok target := by
  simp [effectiveNamespace, h]

theorem eq_restriction_of_effectiveNamespace {policy : Policy} {target inNamespace : String}
    (hr : policy.restriction.isEmpty = false)
    (h : policy.effectiveNamespace target = .ok inNamespace) : inNamespace = policy.restriction := by
  simp only [effectiveNamespace, hr, Bool.false_eq_true, if_false] at h
  split at h
  · cases h; rfl
  · split at h
    · next heq => cases h; exact heq
    · cases h

end Policy

end ClusterLookup
