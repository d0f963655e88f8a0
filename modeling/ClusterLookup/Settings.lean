import ClusterLookup.Identity
import ClusterLookup.Log
import ClusterLookup.Policy
import ClusterLookup.Text.Uppercase

/-!
# Settings

The lookup policy, the sensitive kind and the log level of a deployment, read from named variables.
They are read in a fixed order, and the first faulty one is reported.
-/

namespace ClusterLookup

open Text (isUppercase quoted strip)

/-- What the lookups of all evaluations have in common. -/
structure LookupSettings where
  policy : Policy
  sensitiveKind : String
  deriving DecidableEq, Repr, Inhabited

/-- The kind whose documents are sensitive unless another one is set. -/
def defaultSensitiveKind : String := "Secret"

/-- No restriction, and the default sensitive kind. -/
def LookupSettings.standard : LookupSettings := ⟨.unrestricted, defaultSensitiveKind⟩

structure Settings where
  lookup : LookupSettings
  logLevel : Level
  deriving DecidableEq, Repr, Inhabited

/-- The policy of one evaluation, and the object that follows what the evaluation reads, if any. -/
structure Options where
  policy : Policy
  watcher : Option Identity
  deriving DecidableEq, Repr, Inhabited

/-- The options that an evaluation gets by the settings. -/
def LookupSettings.options (settings : LookupSettings) (watcher : Option Identity) : Options :=
  ⟨settings.policy, watcher⟩

namespace Settings

/-- A kind that may be the sensitive one starts with a capital letter. -/
def checkKind (kind : String) : Except String String :=
  if kind.toList.head?.any isUppercase then .ok kind
  else .error
    s!"Invalid sensitive kind: {quoted kind.toList}. Must be a capitalised Kubernetes kind"

/-- A level is set by its name in any case. The levels in the message are a set, to be written with
quotes around the names and in any order: here they stand without quotes, the least serious one first. -/
def checkLevel (name : String) : Except String Level :=
  match Level.ofName? name.toLower with
  | some level => .ok level
  | none =>
    let names := ", ".intercalate (Level.settable.map Level.name)
    .error (s!"Invalid log level: {name}. Must be one of " ++ "\x7b" ++ names ++ "\x7d")

/-- The settings given by named variables. -/
def load (setting? : String → Option String) : Except String Settings := do
  let restriction := strip ((setting? "LOOKUP_NAMESPACE").getD "").toList
  let allowlist ← Allowlist.parse ((setting? "CLUSTER_SCOPED_ALLOWLIST").getD "").toList
  let kind ← checkKind ((setting? "SENSITIVE_KIND").getD defaultSensitiveKind)
  let level ← checkLevel ((setting? "LOG_LEVEL").getD Level.info.name)
  .ok ⟨⟨⟨String.ofList restriction, allowlist⟩, kind⟩, level⟩

end Settings

end ClusterLookup
