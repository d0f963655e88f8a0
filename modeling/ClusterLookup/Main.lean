import ClusterLookup.Cluster.ObjectStore
import ClusterLookup.CommandLine.Run

/-!
# The program

Runs its command line against the environment it is started in. It has no transport to a cluster, so
no source of configuration is available, and a lookup ends where the cluster would be reached for.
-/

namespace ClusterLookup

/-- What stands in front of the names of the program's variables. -/
def variableStart : String := "CLUSTER_LOOKUP_"

def variableNames : List String :=
  ["LOOKUP_NAMESPACE", "CLUSTER_SCOPED_ALLOWLIST", "SENSITIVE_KIND", "LOG_LEVEL"]

/-- Runs the program on the words of its command line; the answer is the exit code. -/
def runProgram (words : List String) : IO UInt32 := do
  let values ← variableNames.mapM fun name => IO.getEnv (variableStart ++ name)
  let given := variableNames.zip values
  let setting? (name : String) := (valueOf? name given).getD none
  let report := CommandLine.run setting? (fun _ => false) ObjectStore.client ObjectStore.empty words
  IO.print report.result.output
  IO.eprint report.result.errorOutput
  pure report.result.exitCode.toUInt32

end ClusterLookup

def main (words : List String) : IO UInt32 := ClusterLookup.runProgram words
