import ClusterLookup.Selector.Requirement
import ClusterLookup.Text.Split

/-!
# Printed selectors

The canonical text of a selector: requirements separated by commas, no blanks but those around a
membership operator, and the values of a set in ascending order.
-/

namespace ClusterLookup.Selector

open Text (join)

def Requirement.text (r : Requirement) : Word :=
  match r.condition with
  | .present => r.key
  | .absent => '!' :: r.key
  | .compare operator value => r.key ++ operator.sign.text ++ value
  | .member operator first others =>
    r.key ++ ' ' :: operator.word ++ ' ' :: '(' :: join [','] (sortWords (first :: others)) ++ [')']

/-- The canonical text of requirements in the order given. -/
def printRequirements (rs : List Requirement) : Word := join [','] (rs.map Requirement.text)

end ClusterLookup.Selector
