import ClusterLookup.Text.Blank
import ClusterLookup.Text.Quoted
import ClusterLookup.Text.Split

/-!
# Allowlists

Which cluster-scoped objects a restricted evaluation may read. An entry gives a group, a kind and a
name, each of them literal or the wildcard `*`; an empty allowlist allows nothing. As text an entry
is `group/kind/name`, and an allowlist is entries with commas between them.
-/

namespace ClusterLookup

open Text (allBlank pieces quoted strip)

structure Permit where
  group : String
  kind : String
  name : String
  deriving DecidableEq, Repr, Inhabited

def wildcard : String := "*"

namespace Permit

def accepts (pattern value : String) : Bool := pattern == wildcard || pattern == value

def covers (permit : Permit) (group kind name : String) : Bool :=
  accepts permit.group group && accepts permit.kind kind && accepts permit.name name

/-- The entry written as that text, blanks at its ends aside; kind and name may not be empty. -/
def ofText? (text : List Char) : Option Permit :=
  match pieces '/' (strip text) with
  | [group, kind, name] =>
    if kind.isEmpty || name.isEmpty then none
    else some ⟨String.ofList group, String.ofList kind, String.ofList name⟩
  | _ => none

def text (permit : Permit) : String := s!"{permit.group}/{permit.kind}/{permit.name}"

def malformed (text : List Char) : String :=
  s!"Invalid cluster-scoped allowlist entry: {quoted text} (expected group/kind/name)"

/-- The entry written as that text, or what is wrong with it. -/
def parse (text : List Char) : Except String Permit :=
  match ofText? text with
  | some permit => .ok permit
  | none => .error (malformed text)

end Permit

/-- The objects that may be read: those covered by one of the entries. -/
abbrev Allowlist := List Permit

namespace Allowlist

def allows (allowlist : Allowlist) (group kind name : String) : Bool :=
  allowlist.any fun permit => permit.covers group kind name

/-- The entries written with commas between them; blank pieces are skipped, and the first malformed
one is reported. -/
def parse (text : List Char) : Except String Allowlist :=
  ((pieces ',' text).filter fun piece => !allBlank piece).mapM Permit.parse

def text (allowlist : Allowlist) : String := ",".intercalate (allowlist.map Permit.text)

theorem allows_of_mem {permit : Permit} {allowlist : Allowlist} {group kind name : String}
    (h : permit ∈ allowlist) (hc : permit.covers group kind name = true) :
    allowlist.allows group kind name = true :=
  List.any_eq_true.2 ⟨permit, h, hc⟩

end Allowlist

end ClusterLookup
