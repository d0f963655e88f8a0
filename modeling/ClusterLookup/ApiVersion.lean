import ClusterLookup.Text.Split

/-!
# API versions and kinds

An apiVersion names an API group and a version in it, `group/version`, or a version alone for the
core group. With a kind it names a type of resource.
-/

namespace ClusterLookup

open Text (pieces)

/-- The group and version named by an apiVersion: a version alone belongs to the core group, whose
name is empty, and a group needs a version. -/
def splitApiVersion (apiVersion : String) : Option (String × String) :=
  match pieces '/' apiVersion.toList with
  | [_] => some ("", apiVersion)
  | [group, version] =>
    if group.isEmpty || version.isEmpty then none
    else some (String.ofList group, String.ofList version)
  | _ => none

structure GroupVersionKind where
  group : String
  version : String
  kind : String
  deriving DecidableEq, Repr, Inhabited

def joinApiVersion (group version : String) : String :=
  if group.isEmpty then version else group ++ "/" ++ version

namespace GroupVersionKind

def apiVersion (type : GroupVersionKind) : String := joinApiVersion type.group type.version

end GroupVersionKind

/-- What the cluster serves for a kind: the resource, and whether its objects live in namespaces. -/
structure Descriptor where
  group : String
  version : String
  resource : String
  namespaced : Bool
  deriving DecidableEq, Repr, Inhabited

end ClusterLookup
