import ClusterLookup.Document
import ClusterLookup.Failure

/-!
# Log records

A record is an event of a component with a level and fields. Before a record is written, documents
among its fields are replaced by a short summary, since they may hold secrets: what is left of a
document is at most the number of its items. A caller may give fields of any names but those that the
parts of a logging call go by.
-/

namespace ClusterLookup

inductive Level where
  | debug
  | info
  | warning
  | error
  | critical
  deriving DecidableEq, Repr, Inhabited

namespace Level

def name : Level → String
  | debug => "debug"
  | info => "info"
  | warning => "warning"
  | error => "error"
  | critical => "critical"

def severity : Level → Nat
  | debug => 1
  | info => 2
  | warning => 3
  | error => 4
  | critical => 5

/-- The levels that may be set, from the least serious one. -/
def settable : List Level := [debug, info, warning, error]

def ofName? (name : String) : Option Level := settable.find? fun level => level.name == name

end Level

abbrev Threshold := Nat

/-- The capital of a character, if that is an ASCII letter: of the small ASCII letters, of the
dotless i and of the long s. -/
def asciiCapital (c : Char) : Char :=
  if c = 'ı' then 'I' else if c = 'ſ' then 'S' else c.toUpper

/-- The threshold of a name in any case: the names of the levels, two short and old ones, and one
for no threshold at all. Any other name means that of informative records. -/
def Threshold.ofName (name : String) : Threshold :=
  match String.ofList (name.toList.map asciiCapital) with
  | "NOTSET" => 0
  | "DEBUG" => Level.debug.severity
  | "WARNING" | "WARN" => Level.warning.severity
  | "ERROR" => Level.error.severity
  | "CRITICAL" | "FATAL" => Level.critical.severity
  | _ => Level.info.severity

structure LogRecord where
  component : String
  event : String
  level : Level
  fields : List (String × Document)
  deriving BEq, Repr, Inhabited

namespace LogRecord

/-- All fields of a record, those of the record itself included; a field of the caller stands in
place of the component of that name, but never of the event or the level. -/
def allFields (record : LogRecord) : List (String × Document) :=
  let own := record.fields.foldl (fun fields (name, value) => Document.withField name value fields)
    [("component", .text record.component)]
  Document.withField "level" (.text record.level.name)
    (Document.withField "event" (.text record.event) own)

end LogRecord

/-- What a log shows in place of a value: of a document that holds a list of items, how many they
are; of a list of documents, how many they are; of another document, that it is one. Other values
are shown as they are. -/
def summary : Document → Document
  | .object fields =>
    match Document.fieldIn? "items" fields with
    | some (.array items) => .text s!"<list of {items.length} documents>"
    | _ => .text "<document>"
  | .array items =>
    if !items.isEmpty && items.all Document.isObject then .text s!"<{items.length} documents>"
    else .array items
  | value => value

def summarised (fields : List (String × Document)) : List (String × Document) :=
  fields.map fun (name, value) => (name, summary value)

theorem map_fst_summarised (fields : List (String × Document)) :
    (summarised fields).map Prod.fst = fields.map Prod.fst := by
  simp [summarised]

namespace LogRecord

/-- The record of an error that was met as an exception; its fields say so unless they say otherwise. -/
def ofException (component event : String) (fields : List (String × Document)) : LogRecord :=
  ⟨component, event, .error, Document.withDefault "exc_info" (.boolean true) fields⟩

def passes (threshold : Threshold) (record : LogRecord) : Bool :=
  decide (threshold ≤ record.level.severity)

/-- The parts of a logging call: those that every call has, and one more if its record is written. -/
def callParts (passes : Bool) : List String :=
  if passes then ["self", "event", "method_name"] else ["self", "event"]

/-- The field that asks for the stack of calls, which is never written itself. -/
def stackField : String := "stack_info"

/-- The fields that are written for a record, if it is written. No field may have the name of a part
of the call. -/
def written (threshold : Threshold) (record : LogRecord) :
    Except Failure (Option (List (String × Document))) :=
  let passes := record.passes threshold
  if record.fields.any fun field => (callParts passes).contains field.1 then .error .doubledPart
  else if passes then .ok (some ((summarised record.allFields).filter fun field => field.1 != stackField))
  else .ok none

end LogRecord

end ClusterLookup
