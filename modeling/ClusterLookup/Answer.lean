import ClusterLookup.Document
import ClusterLookup.Journal

/-!
# Answers

What a lookup answers: nothing for an object that is not there, a document, or the items of a list.
-/

namespace ClusterLookup

inductive Answer where
  | absent
  | document (value : Document)
  | items (documents : List Document)
  deriving BEq, Repr, Inhabited

namespace Answer

/-- The answer that a single document is: a null one is none, and an array is shown as a list. -/
def ofDocument : Document → Answer
  | .null => absent
  | .array documents => items documents
  | value => document value

/-- The answer as a document: null for none, and a list as the items of an object. -/
def toDocument : Answer → Document
  | absent => .null
  | document d => d
  | items documents => .object [("items", .array documents)]

/-- How a lookup with this answer ended; a list is empty only as the answer to a list lookup. -/
def ending (isList : Bool) : Answer → Ending
  | absent => .notFound
  | document _ => .found
  | items documents => if isList && documents.isEmpty then .empty else .found

def isPresent : Answer → Bool
  | absent => false
  | _ => true

end Answer

end ClusterLookup
