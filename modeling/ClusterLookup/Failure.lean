import ClusterLookup.ApiVersion
import ClusterLookup.Text.Quoted

/-!
# Failures

Everything that can go wrong in a lookup. The lookup family is what a caller has to expect: refused
or malformed arguments, types and objects that are not there, and failures of the cluster wrapped
with the operation in which they arose. The others belong to the API, to the transport or to the
running system, and reach a caller only where nothing wraps them.
-/

namespace ClusterLookup

inductive ApiFault where
  | general
  | notFound
  | forbidden
  | service
  deriving DecidableEq, Repr, Inhabited

inductive TransportFault where
  | client
  | connection
  | payload
  | disconnected
  deriving DecidableEq, Repr, Inhabited

inductive SystemFault where
  | general
  | badValue
  | timeout
  | connectionReset
  | connectionRefused
  | noPermission
  deriving DecidableEq, Repr, Inhabited

inductive Failure where
  /-- The arguments of a lookup are missing or malformed. -/
  | invalidArguments (detail : String)
  /-- A label selector cannot be read. -/
  | invalidSelector (selector detail : String)
  /-- A lookup asks for another namespace than the one it is restricted to. -/
  | restrictedNamespace (requested restriction : String)
  /-- The cluster serves no such kind. -/
  | missingType (type : GroupVersionKind)
  /-- A cluster-scoped object is not on the allowlist. -/
  | clusterScoped (group kind name : String)
  /-- No object has that name. -/
  | notFound (group resource inNamespace name : String)
  /-- The cluster or the registry failed during an operation. -/
  | wrapped (operation : String) (cause : Failure)
  /-- Another failure of the lookup family. -/
  | lookup (detail : String)
  | api (fault : ApiFault) (status : Option Int) (reason : Option String)
  | transport (fault : TransportFault) (detail : Option String)
  | system (fault : SystemFault) (detail : String)
  /-- Discovery knows no such resource. -/
  | unknownResource (detail : String)
  /-- Discovery knows several such resources. -/
  | ambiguousResource (detail : String)
  /-- No configuration of a cluster was found. -/
  | noConfiguration
  /-- A table has no entry under a key. -/
  | noEntry
  /-- A value is of a kind without the operation that is asked of it. -/
  | noOperation
  /-- A value that cannot be gone through is used as a list. -/
  | notAList
  /-- A call is given one of its own parts a second time, by name. -/
  | doubledPart
  deriving DecidableEq, Repr, Inhabited

namespace Failure

/-- Whether a failure is one that callers of a lookup have to expect. -/
def isLookup : Failure → Bool
  | invalidArguments _ => true
  | invalidSelector _ _ => true
  | restrictedNamespace _ _ => true
  | missingType _ => true
  | clusterScoped _ _ _ => true
  | notFound _ _ _ _ => true
  | wrapped _ _ => true
  | lookup _ => true
  | _ => false

/-- Whether a failure says that a named object does not exist. -/
def isNotFound : Failure → Bool
  | notFound _ _ _ _ => true
  | _ => false

def isApi : Failure → Bool
  | api _ _ _ => true
  | _ => false

def isTransport : Failure → Bool
  | transport _ _ => true
  | _ => false

/-- A value that may be missing, as it stands in a message. -/
def orNone (text : Option String) : String := text.getD "None"

def message : Failure → String
  | invalidArguments detail => detail
  | invalidSelector selector detail =>
    s!"unable to parse label selector {Text.quoted selector.toList}: {detail}"
  | restrictedNamespace _ restriction => s!"the namespace argument is restricted to {restriction}"
  | missingType type =>
    s!"the given kind {type.kind} with apiVersion {type.apiVersion} is not available on the cluster"
  | clusterScoped _ kind name => s!"lookup of cluster-scoped resource '{kind}/{name}' is not allowed"
  | notFound group resource _ name =>
    let owner := if group.isEmpty then resource else s!"{resource}.{group}"
    s!"{owner} \"{name}\" not found"
  | wrapped operation cause => s!"{operation} failed: {cause.message}"
  | lookup detail => detail
  | api _ status reason => s!"({orNone (status.map toString)})\nReason: {orNone reason}\n"
  | transport .disconnected none => "Server disconnected"
  | transport _ detail => detail.getD ""
  | system _ detail => detail
  | unknownResource detail => detail
  | ambiguousResource detail => detail
  | noConfiguration => "no cluster configuration"
  | noEntry => ""
  | noOperation => ""
  | notAList => ""
  | doubledPart => ""

/-- A failure met during an operation: one of the lookup family stands as it is, any other is
wrapped. -/
def during (operation : String) (failure : Failure) : Failure :=
  if failure.isLookup then failure else wrapped operation failure

theorem during_of_isLookup {operation : String} {failure : Failure} (h : failure.isLookup = true) :
    failure.during operation = failure := by
  simp [during, h]

end Failure

end ClusterLookup
