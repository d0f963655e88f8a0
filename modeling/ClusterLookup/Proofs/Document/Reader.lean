import ClusterLookup.Document
import Mathlib.Algebra.Group.Int.Defs
import Mathlib.Algebra.Group.Nat.Defs
import Mathlib.Data.List.Forall2

/-!
# The document that a text stands for

Documents are read by the rules of their notation, whatever way they were printed in: blanks stand between
any two parts, a character stands for itself or is escaped, and fields come in any order. Numbers are read
without an exponent, and an escape of half a character is not read.
-/

namespace ClusterLookup.Document

def isGap (c : Char) : Bool := c == ' ' || c == '\n' || c == '\r' || c == '\t'

def skipGap (s : List Char) : List Char := s.dropWhile isGap

/-! ## Text -/

def hexValue? (c : Char) : Option Nat :=
  let n := c.toNat
  if 0x30 ≤ n ∧ n ≤ 0x39 then some (n - 0x30)
  else if 0x61 ≤ n ∧ n ≤ 0x66 then some (n - 0x61 + 10)
  else if 0x41 ≤ n ∧ n ≤ 0x46 then some (n - 0x41 + 10)
  else none

def hexNumber? (digits : List Char) : Option Nat :=
  digits.foldlM (fun n c => (hexValue? c).map (16 * n + ·)) 0

/-- The UTF-16 unit that four hexadecimal digits at the front stand for, and the text behind them. -/
def readUnit? (s : List Char) : Option (Nat × List Char) :=
  if s.length < 4 then none else (hexNumber? (s.take 4)).map fun unit => (unit, s.drop 4)

def charOf? (code : Nat) : Option Char := if code.isValidChar then some (Char.ofNat code) else none

/-- The character of one unit, or of two of them that each begin with an escape. -/
def readCode? (s : List Char) : Option (Char × List Char) := do
  let (unit, s) ← readUnit? s
  if 0xD800 ≤ unit ∧ unit < 0xDC00 then
    match s with
    | '\\' :: 'u' :: s =>
      let (low, s) ← readUnit? s
      if 0xDC00 ≤ low ∧ low < 0xE000 then
        (charOf? (0x10000 + (unit - 0xD800) * 0x400 + (low - 0xDC00))).map (·, s)
      else none
    | _ => none
  else (charOf? unit).map (·, s)

/-- The character that stands for another one behind a backslash. -/
def escaped? (c : Char) : Option Char :=
  if c = '\x22' ∨ c = '\\' ∨ c = '/' then some c
  else if c = 'n' then some '\n'
  else if c = 'r' then some '\r'
  else if c = 't' then some '\t'
  else if c = 'b' then some '\x08'
  else if c = 'f' then some '\x0c'
  else none

def readEscape? : List Char → Option (Char × List Char)
  | [] => none
  | c :: s => if c = 'u' then readCode? s else (escaped? c).map (·, s)

def readChar? : List Char → Option (Char × List Char)
  | [] => none
  | c :: s =>
    if c = '\\' then readEscape? s
    else if c.toNat < 0x20 then none
    else some (c, s)

/-- The characters up to a closing quote, of which there are fewer than that. -/
def readChars? : Nat → List Char → Option (List Char × List Char)
  | 0, _ => none
  | _ + 1, [] => none
  | bound + 1, c :: s =>
    if c = '\x22' then some ([], s)
    else do
      let (first, s) ← readChar? (c :: s)
      let (cs, s) ← readChars? bound s
      some (first :: cs, s)

/-! ## Numbers -/

/-- Whether digits make up a whole number: there are some, and no zero is in front of others. -/
def isWhole : List Char → Bool
  | [] => false
  | c :: cs => c != '0' || cs.isEmpty

/-- The digits of a number, how many of them stand behind the point, and the text behind it. -/
def readMagnitude? (s : List Char) : Option (Nat × Nat × List Char) :=
  let whole := s.takeWhile Char.isDigit
  let rest := s.dropWhile Char.isDigit
  if !isWhole whole then none
  else if rest.head? = some '.' then
    let behind := rest.tail.takeWhile Char.isDigit
    if behind.isEmpty then none
    else some (Nat.ofDigitChars 10 (whole ++ behind) 0, behind.length,
      rest.tail.dropWhile Char.isDigit)
  else some (Nat.ofDigitChars 10 whole 0, 0, rest)

def readNumber? : List Char → Option (Document × List Char)
  | [] => none
  | c :: s =>
    if c = '-' then (readMagnitude? s).map fun (n, places, s) => (number (-n) places, s)
    else (readMagnitude? (c :: s)).map fun (n, places, s) => (number n places, s)

/-! ## Documents -/

section Members
variable {α : Type}

/-- Members with commas between them up to a closing bracket, not more of them than that. -/
def readMembers? (read? : List Char → Option (α × List Char)) (closing : Char) :
    Nat → List Char → Option (List α × List Char)
  | 0, _ => none
  | bound + 1, s => do
    let (member, s) ← read? s
    match skipGap s with
    | [] => none
    | c :: s =>
      if c = closing then some ([member], s)
      else if c = ',' then do
        let (members, s) ← readMembers? read? closing bound s
        some (member :: members, s)
      else none

/-- What stands behind an opening bracket, up to the closing one. -/
def readBracketed? (read? : List Char → Option (α × List Char)) (closing : Char) (s : List Char) :
    Option (List α × List Char) :=
  match skipGap s with
  | [] => none
  | c :: rest => if c = closing then some ([], rest) else readMembers? read? closing s.length s

end Members

/-- The name of a field, a colon and its value. -/
def readField? (read? : List Char → Option (Document × List Char)) (s : List Char) :
    Option ((String × Document) × List Char) :=
  match skipGap s with
  | '\x22' :: s => do
    let (name, s) ← readChars? s.length s
    match skipGap s with
    | ':' :: s => do
      let (value, s) ← read? s
      some ((String.ofList name, value), s)
    | _ => none
  | _ => none

def readConstant? : List Char → Option (Document × List Char)
  | 'n' :: 'u' :: 'l' :: 'l' :: s => some (null, s)
  | 't' :: 'r' :: 'u' :: 'e' :: s => some (boolean true, s)
  | 'f' :: 'a' :: 'l' :: 's' :: 'e' :: s => some (boolean false, s)
  | _ => none

/-- The document at the front, nested less deep than that, and the text behind it. -/
def readValue? : Nat → List Char → Option (Document × List Char)
  | 0, _ => none
  | depth + 1, s =>
    match skipGap s with
    | [] => none
    | c :: s =>
      if c = '\x22' then (readChars? s.length s).map fun (cs, s) => (text (String.ofList cs), s)
      else if c = '[' then
        (readBracketed? (readValue? depth) ']' s).map fun (items, s) => (array items, s)
      else if c = '\x7b' then
        (readBracketed? (readField? (readValue? depth)) '\x7d' s).map fun (fields, s) =>
          (object fields, s)
      else if c = '-' ∨ c.isDigit then readNumber? (c :: s)
      else readConstant? (c :: s)

/-- The document that a text stands for, if it stands for one. -/
def read? (text : String) : Option Document :=
  match readValue? text.toList.length text.toList with
  | some (document, rest) => if (skipGap rest).isEmpty then some document else none
  | none => none

example : read? "\x7b\"b\":-1.50,\n\"a\" : [ \"\\u00e9\\/\" ]\x7d" =
    some (object [("b", number (-150) 2), ("a", array [text "é/"])]) := by rfl

/-! ## Documents of one value -/

/-- Whether two documents have one value: numbers by what they amount to and by whether they are written
with a point, objects whatever the order of their fields is. -/
inductive SameValue : Document → Document → Prop
  | null : SameValue null null
  | boolean (value : Bool) : SameValue (boolean value) (boolean value)
  | number {digits other : Int} {places others : Nat} (hv : digits * 10 ^ others = other * 10 ^ places)
      (hp : places = 0 ↔ others = 0) : SameValue (number digits places) (number other others)
  | text (value : String) : SameValue (text value) (text value)
  | array {items others : List Document} (h : List.Forall₂ SameValue items others) :
      SameValue (array items) (array others)
  | object {fields ordered others : List (String × Document)} (ho : ordered.Perm others)
      (hn : fields.map Prod.fst = ordered.map Prod.fst)
      (hv : List.Forall₂ SameValue (fields.map Prod.snd) (ordered.map Prod.snd)) :
      SameValue (object fields) (object others)

end ClusterLookup.Document
