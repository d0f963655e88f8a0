import ClusterLookup.CommandLine.Arguments
import ClusterLookup.Document.Printer
import ClusterLookup.Session
import ClusterLookup.Text.ControlSequence

/-!
# Running a command line

The command does the lookup that a template would do, on a fresh evaluation under the policy of the
settings as the options change it, and prints the answer. Settings are read and the log level is set
before the words behind the command are looked at; the cluster is reached for only after them.
-/

namespace ClusterLookup.CommandLine

/-- Where the configuration of a cluster may come from. -/
inductive ConfigSource where
  | inCluster
  | kubeconfig
  deriving DecidableEq, Repr, Inhabited

inductive Result where
  | help
  | misuse (fault : UsageFault)
  | badSettings (message : String)
  | badAllowlist (message : String)
  | failed (failure : Failure)
  /-- The lookup answered; the kind of sensitive data is named if there is some in the answer. -/
  | answered (answer : Answer) (sensitive : Option String)

def helpText : String :=
  "Usage: [--log-level LEVEL] lookup [-n NAMESPACE] [-l SELECTOR] [--restrict-namespace NAMESPACE] " ++
    "[--allow GROUP/KIND/NAME]... API_VERSION KIND [NAME]\n"

namespace Result

/-- The exit code: two for a command line or settings that cannot be used, one for a failed lookup. -/
def exitCode : Result → Nat
  | help => 0
  | misuse _ => 2
  | badSettings _ => 2
  | badAllowlist _ => 2
  | failed _ => 1
  | answered _ _ => 0

def output : Result → String
  | help => helpText
  | answered answer _ => answer.toDocument.print ++ "\n"
  | _ => ""

/-- What is said beside the output. A failure outside the lookup family is not for the user to
read. -/
def remark : Result → String
  | help => ""
  | misuse fault => s!"Error: {fault.message}\n"
  | badSettings message => s!"Error: {message}\n"
  | badAllowlist message => s!"Error: Invalid value for --allow: {message}\n"
  | failed failure => if failure.isLookup then s!"Error: {failure.message}\n" else ""
  | answered _ (some kind) => s!"warning: result contains {kind} data\n"
  | answered _ none => ""

/-- What is printed beside the output: the remark without control sequences, of which the output
itself has none, since a printed document has no escape character. -/
def errorOutput (result : Result) : String :=
  String.ofList (Text.plain result.remark.toList)

end Result

/-- What running a command line did: its result, the log level that was set, the sources of
configuration that were tried, and the journal of the lookup. -/
structure RunReport where
  result : Result
  level : Option Level
  tried : List ConfigSource
  journal : Journal

/-- The policy of the settings as the options change it: a restriction given replaces the one set,
and so do the allowlist entries given, if there are any. -/
def policyOf (policy : Policy) (words : LookupWords) : Except String Policy := do
  let restriction := words.restriction.getD policy.restriction
  let allowlist ←
    if words.allow.isEmpty then .ok policy.allowlist
    else Allowlist.parse (",".intercalate words.allow).toList
  .ok ⟨restriction, allowlist⟩

/-- The sources of configuration that are tried, the last of them being the one in use if any is. -/
def triedSources (available : ConfigSource → Bool) : List ConfigSource :=
  if available .inCluster then [.inCluster] else [.inCluster, .kubeconfig]

def canConnect (available : ConfigSource → Bool) : Bool :=
  available .inCluster || available .kubeconfig

def LookupWords.arguments (words : LookupWords) : Arguments :=
  ⟨words.apiVersion, words.kind, words.inNamespace, words.name, words.selector⟩

variable {σ : Type}

def runLookup (available : ConfigSource → Bool) (client : ClusterClient σ) (world : σ)
    (level : Level) (settings : LookupSettings) (arguments : Arguments) : RunReport :=
  let tried := triedSources available
  if canConnect available then
    let evaluation : Evaluation σ := ⟨settings.policy, .cluster client, settings.sensitiveKind⟩
    let outcome := evaluation.lookup arguments (.fresh world)
    match outcome.result with
    | .ok answer =>
      let sensitive := if outcome.state.sensitive then some settings.sensitiveKind else none
      ⟨.answered answer sensitive, some level, tried, outcome.journal⟩
    | .error failure => ⟨.failed failure, some level, tried, outcome.journal⟩
  else ⟨.failed .noConfiguration, some level, tried, []⟩

def runCommand (available : ConfigSource → Bool) (client : ClusterClient σ) (world : σ)
    (level : Level) (settings : LookupSettings) (words : List String) : RunReport :=
  match readCommand words with
  | .error fault => ⟨.misuse fault, some level, [], []⟩
  | .ok .help => ⟨.help, some level, [], []⟩
  | .ok (.lookup words) =>
    match policyOf settings.policy words with
    | .error message => ⟨.badAllowlist message, some level, [], []⟩
    | .ok policy =>
      runLookup available client world level { settings with policy } words.arguments

/-- Runs a command line, given the variables of its environment, the sources of configuration that
are available, and the client of the cluster that these lead to. -/
def run (setting? : String → Option String) (available : ConfigSource → Bool)
    (client : ClusterClient σ) (world : σ) (words : List String) : RunReport :=
  match readPrologue words with
  | .error fault => ⟨.misuse fault, none, [], []⟩
  | .ok .help => ⟨.help, none, [], []⟩
  | .ok (.command level words) =>
    match Settings.load setting? with
    | .error message => ⟨.badSettings message, none, [], []⟩
    | .ok settings =>
      runCommand available client world (level.getD settings.logLevel) settings.lookup words

end ClusterLookup.CommandLine
