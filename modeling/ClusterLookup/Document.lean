/-!
# Documents

The values that a cluster answers with: objects with ordered fields, arrays, and scalars. Nothing
here depends on what a document means.
-/

namespace ClusterLookup

/-- A document. A number is its digits and how many of them stand behind the point; an object keeps
its fields in the order in which they were given. -/
inductive Document where
  | null
  | boolean (value : Bool)
  | number (digits : Int) (places : Nat)
  | text (value : String)
  | array (items : List Document)
  | object (fields : List (String × Document))
  deriving BEq, Repr, Inhabited

namespace Document

def isNull : Document → Bool
  | null => true
  | _ => false

def isObject : Document → Bool
  | object _ => true
  | _ => false

/-- Whether a value holds nothing: null, false, zero, and the empty text, array and object. -/
def isVacant : Document → Bool
  | null => true
  | boolean value => !value
  | number digits _ => digits == 0
  | text value => value.isEmpty
  | array items => items.isEmpty
  | object fields => fields.isEmpty

/-- The field of that name in a list of fields. -/
def fieldIn? (name : String) (fields : List (String × Document)) : Option Document :=
  (fields.find? (·.1 == name)).map (·.2)

/-- The fields with one more at the end, unless that name is there already. -/
def withDefault (name : String) (value : Document) (fields : List (String × Document)) :
    List (String × Document) :=
  if (fieldIn? name fields).isSome then fields else fields ++ [(name, value)]

/-- The fields with that one set, at its place when the name is there already. -/
def withField (name : String) (value : Document) : List (String × Document) → List (String × Document)
  | [] => [(name, value)]
  | (n, v) :: fields => if n = name then (n, value) :: fields else (n, v) :: withField name value fields

theorem withDefault_of_some {name : String} {fields : List (String × Document)} {found : Document}
    (h : fieldIn? name fields = some found) (value : Document) :
    withDefault name value fields = fields := by
  simp [withDefault, h]

theorem withDefault_of_none {name : String} {fields : List (String × Document)}
    (h : fieldIn? name fields = none) (value : Document) :
    withDefault name value fields = fields ++ [(name, value)] := by
  simp [withDefault, h]

end Document

end ClusterLookup
