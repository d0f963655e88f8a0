import ClusterLookup.Text.Blank

/-!
# Selector tokens

A label selector is read as a list of operators and words. Blanks separate and are dropped; an
operator is the longest that fits; a word is a maximal run of other characters.
-/

namespace ClusterLookup.Selector

open Text (isBlank)

abbrev Word := List Char

inductive Sign where
  | notEqual
  | doubleEqual
  | equal
  | bang
  | less
  | greater
  | opening
  | closing
  | comma
  deriving DecidableEq, Repr, Inhabited

def Sign.text : Sign → Word
  | notEqual => ['!', '=']
  | doubleEqual => ['=', '=']
  | equal => ['=']
  | bang => ['!']
  | less => ['<']
  | greater => ['>']
  | opening => ['(']
  | closing => [')']
  | comma => [',']

/-- One element of a selector's text. -/
inductive Token where
  | sign (sign : Sign)
  | word (word : Word)
  deriving DecidableEq, Repr, Inhabited

def Token.text : Token → Word
  | sign s => s.text
  | word w => w

/-- Whether a character starts a sign. -/
def isSignChar (c : Char) : Bool :=
  c = '!' || c = '=' || c = '<' || c = '>' || c = '(' || c = ')' || c = ','

def isWordChar (c : Char) : Bool := !isBlank c && !isSignChar c

/-- The longest sign at the start of text, and the text behind it. -/
def sign? : List Char → Option (Sign × List Char)
  | '!' :: '=' :: s => some (.notEqual, s)
  | '=' :: '=' :: s => some (.doubleEqual, s)
  | '=' :: s => some (.equal, s)
  | '!' :: s => some (.bang, s)
  | '<' :: s => some (.less, s)
  | '>' :: s => some (.greater, s)
  | '(' :: s => some (.opening, s)
  | ')' :: s => some (.closing, s)
  | ',' :: s => some (.comma, s)
  | _ => none

theorem eq_of_sign? {s rest : List Char} {sign : Sign} (h : sign? s = some (sign, rest)) :
    s = sign.text ++ rest := by
  unfold sign? at h
  split at h <;> cases h <;> rfl

theorem length_of_sign? {s rest : List Char} {sign : Sign} (h : sign? s = some (sign, rest)) :
    rest.length < s.length := by
  rw [eq_of_sign? h, List.length_append]
  have : 0 < sign.text.length := by cases sign <;> decide
  omega

def tokens (s : List Char) : List Token :=
  match s with
  | [] => []
  | c :: r =>
    if isBlank c then tokens r
    else match _found : sign? (c :: r) with
      | some (sign, rest) => .sign sign :: tokens rest
      | none => .word (c :: r.takeWhile isWordChar) :: tokens (r.dropWhile isWordChar)
termination_by s.length
decreasing_by
  · simp
  · exact length_of_sign? _found
  · have := (List.dropWhile_sublist isWordChar (l := r)).length_le
    simp only [List.length_cons]
    omega

end ClusterLookup.Selector
