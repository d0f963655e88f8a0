import ClusterLookup.Log
import ClusterLookup.Text.Split

/-!
# Command line arguments

The words of a command line as options and positional words. Every option takes a value, but for the
one that asks for help; a value stands in the next word, behind an equals sign after a long name, or
right behind a short name. A lone `--` ends the options. Before the name of the command the first
positional word ends them too; behind it, options and positional words may be mixed.
-/

namespace ClusterLookup.CommandLine

open Text (after before)

inductive Flag where
  | help
  | logLevel
  | inNamespace
  | selector
  | restriction
  | allow
  deriving DecidableEq, Repr, Inhabited

inductive UsageFault where
  | unknownOption (name : String)
  | missingValue (flag : Flag)
  | unwantedValue (flag : Flag)
  | unknownLevel (name : String)
  | missingCommand
  | unknownCommand (name : String)
  | missingArgument
  | extraArguments (count : Nat)
  deriving DecidableEq, Repr

namespace UsageFault

def message : UsageFault → String
  | unknownOption name => s!"No such option: {name}"
  | missingValue _ => "An option requires an argument."
  | unwantedValue _ => "An option does not take a value."
  | unknownLevel name => s!"No such log level: {name}"
  | missingCommand => "Missing command."
  | unknownCommand name => s!"No such command: {name}"
  | missingArgument => "Missing argument."
  | extraArguments count => s!"Got unexpected extra arguments: {count}"

end UsageFault

/-- The options that a part of the command line knows, by long name without its hyphens and by
short name without its hyphen. -/
structure Flags where
  long : List (String × Flag)
  short : List (Char × Flag)

def globalFlags : Flags := ⟨[("help", .help), ("log-level", .logLevel)], []⟩

def lookupFlags : Flags where
  long := [("help", .help), ("namespace", .inNamespace), ("selector", .selector),
    ("restrict-namespace", .restriction), ("allow", .allow)]
  short := [('n', .inNamespace), ('l', .selector)]

inductive WordClass where
  /-- The word that ends the options. -/
  | terminator
  | positional
  /-- An option, with its value if that is in the word. -/
  | option (flag : Flag) (value : Option String)
  | unknown
  deriving DecidableEq, Repr

/-- The option of a long name, with the value behind an equals sign. -/
def longOption? (flags : Flags) (name : List Char) : Option (Flag × Option String) :=
  (flags.long.find? (·.1 == String.ofList (before '=' name))).map fun (_, flag) =>
    (flag, if name.contains '=' then some (String.ofList (after '=' name)) else none)

/-- What a word is among the words of a part of the command line. -/
def classify (flags : Flags) (word : String) : WordClass :=
  match word.toList with
  | ['-', '-'] => .terminator
  | '-' :: '-' :: name =>
    match longOption? flags name with
    | some (flag, value) => .option flag value
    | none => .unknown
  | '-' :: c :: value =>
    match flags.short.find? (·.1 == c) with
    | some (_, flag) => .option flag (if value.isEmpty then none else some (String.ofList value))
    | none => .unknown
  | _ => .positional

structure Words where
  options : List (Flag × String)
  positional : List String
  deriving DecidableEq, Repr

namespace Words

def withOption (flag : Flag) (value : String) (words : Words) : Words :=
  { words with options := (flag, value) :: words.options }

def withPositional (word : String) (words : Words) : Words :=
  { words with positional := word :: words.positional }

def values (words : Words) (flag : Flag) : List String :=
  (words.options.filter (·.1 == flag)).map (·.2)

/-- The value given last for an option. -/
def value? (words : Words) (flag : Flag) : Option String := (words.values flag).getLast?

def asksHelp (words : Words) : Bool := words.options.any (·.1 == .help)

end Words

/-- Sorts words into options and positional words. Unless the two may be mixed, the first positional
word ends the options. -/
def readWords (flags : Flags) (mixed : Bool) : List String → Except UsageFault Words
  | [] => .ok ⟨[], []⟩
  | word :: rest =>
    match classify flags word with
    | .terminator => .ok ⟨[], rest⟩
    | .positional =>
      if mixed then (readWords flags mixed rest).map (·.withPositional word)
      else .ok ⟨[], word :: rest⟩
    | .unknown => .error (.unknownOption word)
    | .option .help none => (readWords flags mixed rest).map (·.withOption .help "")
    | .option .help (some _) => .error (.unwantedValue .help)
    | .option flag (some value) => (readWords flags mixed rest).map (·.withOption flag value)
    | .option flag none =>
      match rest with
      | [] => .error (.missingValue flag)
      | value :: rest => (readWords flags mixed rest).map (·.withOption flag value)

/-- What stands before the command: whether help is asked for, the log level, and the words behind
the name of the command. -/
inductive Prologue where
  | help
  | command (level : Option Level) (words : List String)
  deriving DecidableEq, Repr

def commandName : String := "lookup"

/-- Reads a command line up to the name of the command. -/
def readPrologue (words : List String) : Except UsageFault Prologue := do
  let words ← readWords globalFlags false words
  if words.asksHelp then
    return .help
  let level ← match words.value? .logLevel with
    | none => .ok none
    | some name =>
      match Level.ofName? name with
      | some level => .ok (some level)
      | none => .error (.unknownLevel name)
  match words.positional with
  | [] => .error .missingCommand
  | name :: rest =>
    if name = commandName then .ok (.command level rest) else .error (.unknownCommand name)

/-- The arguments of the command, as far as they are given. -/
structure LookupWords where
  apiVersion : String
  kind : String
  name : String
  inNamespace : String
  selector : Option String
  restriction : Option String
  allow : List String
  deriving DecidableEq, Repr

inductive Command where
  | help
  | lookup (words : LookupWords)
  deriving DecidableEq, Repr

def readCommand (words : List String) : Except UsageFault Command := do
  let words ← readWords lookupFlags true words
  if words.asksHelp then
    return .help
  let lookup (apiVersion kind name : String) : Command := .lookup
    { apiVersion, kind, name
      inNamespace := (words.value? .inNamespace).getD ""
      selector := words.value? .selector
      restriction := words.value? .restriction
      allow := words.values .allow }
  match words.positional with
  | [apiVersion, kind] => .ok (lookup apiVersion kind "")
  | [apiVersion, kind, name] => .ok (lookup apiVersion kind name)
  | _ :: _ :: _ :: extra => .error (.extraArguments extra.length)
  | _ => .error .missingArgument

end ClusterLookup.CommandLine
