import ClusterLookup.Selector.Token
import ClusterLookup.Text.Order

/-!
# Requirements

A label selector is a list of requirements, each on the label of one key. The canonical order of
requirements is by key, then by the text of the operator, then by the values in order; words are
compared character by character by code point.
-/

namespace ClusterLookup.Selector

open Text (StrictOrder listLt mergeSort_eq_of_perm notAfter textLt)

/-- The operators that compare a label with one value. -/
inductive Comparison where
  | equal
  | doubleEqual
  | notEqual
  | less
  | greater
  deriving DecidableEq, Repr, Inhabited

def Comparison.sign : Comparison → Sign
  | equal => .equal
  | doubleEqual => .doubleEqual
  | notEqual => .notEqual
  | less => .less
  | greater => .greater

/-- The operators that compare a label with a set of values. -/
inductive Membership where
  | inside
  | outside
  deriving DecidableEq, Repr, Inhabited

def Membership.word : Membership → Word
  | inside => ['i', 'n']
  | outside => ['n', 'o', 't', 'i', 'n']

/-- What is required of a label. A set has at least one value. -/
inductive Condition where
  | present
  | absent
  | compare (operator : Comparison) (value : Word)
  | member (operator : Membership) (first : Word) (others : List Word)
  deriving DecidableEq, Repr, Inhabited

structure Requirement where
  key : Word
  condition : Condition
  deriving DecidableEq, Repr, Inhabited

namespace Condition

/-- The text that stands for the operator when conditions are ordered. -/
def operatorText : Condition → Word
  | present => ['e', 'x', 'i', 's', 't', 's']
  | absent => ['!']
  | compare operator _ => operator.sign.text
  | member operator _ _ => operator.word

/-- The values of a condition as they were written. -/
def values : Condition → List Word
  | present => []
  | absent => []
  | compare _ value => [value]
  | member _ first others => first :: others

end Condition

def sortWords (ws : List Word) : List Word := ws.mergeSort (notAfter textLt)

namespace Requirement

/-- What requirements are ordered by: key, operator, and values in order. -/
def rank (r : Requirement) : List Word :=
  r.key :: r.condition.operatorText :: sortWords r.condition.values

/-- Whether a requirement comes no later than another one. -/
def precedes (a b : Requirement) : Bool := notAfter (listLt textLt) a.rank b.rank

end Requirement

/-- The canonical order of requirements; requirements of one rank stay in their order. -/
def sortRequirements (rs : List Requirement) : List Requirement := rs.mergeSort Requirement.precedes

theorem sortWords_perm (ws : List Word) : (sortWords ws).Perm ws := List.mergeSort_perm ws _

theorem sortWords_eq_of_perm {vs ws : List Word} (h : vs.Perm ws) : sortWords vs = sortWords ws :=
  mergeSort_eq_of_perm StrictOrder.text h

theorem sortRequirements_perm (rs : List Requirement) : (sortRequirements rs).Perm rs :=
  List.mergeSort_perm rs _

end ClusterLookup.Selector
