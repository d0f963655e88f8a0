import ClusterLookup.Document
import ClusterLookup.Text.Order
import ClusterLookup.Text.Quoted

/-!
# Printed documents

A document as indented text: two blanks a level, the fields of an object in the order of their
names, and every character escaped that is not a visible ASCII character or the space. Characters
above U+FFFF are escaped as their two UTF-16 units.
-/

namespace ClusterLookup

open Text (hex notAfter textLt)

namespace Document

def unitEscape (n : Nat) : List Char := '\\' :: 'u' :: hex 4 n

/-- A character as it stands inside printed text. -/
def printedChar (c : Char) : List Char :=
  let n := c.toNat
  if c = '\x22' ∨ c = '\\' then ['\\', c]
  else if c = '\n' then ['\\', 'n']
  else if c = '\r' then ['\\', 'r']
  else if c = '\t' then ['\\', 't']
  else if c = '\x08' then ['\\', 'b']
  else if c = '\x0c' then ['\\', 'f']
  else if n < 0x20 then unitEscape n
  else if n < 0x7F then [c]
  else if n < 0x10000 then unitEscape n
  else unitEscape (0xD800 + (n - 0x10000) / 0x400) ++ unitEscape (0xDC00 + (n - 0x10000) % 0x400)

def printedText (s : String) : List Char := '\x22' :: s.toList.flatMap printedChar ++ ['\x22']

/-- The decimal digits of a number with that many of them behind the point, without zeros at the end
but for one right behind the point. -/
def printedDecimal : Nat → Nat → List Char
  | n, 0 => Nat.toDigits 10 n
  | n, places + 1 =>
    if n % 10 = 0 ∧ 0 < places then printedDecimal (n / 10) places
    else
      let scale := 10 ^ (places + 1)
      let behind := Nat.toDigits 10 (n % scale)
      Nat.toDigits 10 (n / scale) ++ '.' :: List.replicate (places + 1 - behind.length) '0' ++ behind

/-- A number: without a point when it is whole by its form. -/
def printedNumber (digits : Int) (places : Nat) : List Char :=
  let magnitude := printedDecimal digits.natAbs places
  if digits < 0 then '-' :: magnitude else magnitude

/-- A line break followed by the indentation of a level. -/
def lineAt (level : Nat) : List Char := '\n' :: List.replicate (2 * level) ' '

/-- The printed members of an array or object, each on a line of its own, between brackets. -/
def bracketed (level : Nat) (opening closing : Char) (members : List (List Char)) : List Char :=
  match members with
  | [] => [opening, closing]
  | m :: ms =>
    opening :: lineAt (level + 1) ++ m ++ ms.flatMap (fun x => ',' :: lineAt (level + 1) ++ x) ++
      lineAt level ++ [closing]

def sortedFields (fields : List (String × List Char)) : List (String × List Char) :=
  fields.mergeSort fun a b => notAfter textLt a.1.toList b.1.toList

mutual

/-- A document that starts at a level of indentation. -/
def printedAt (level : Nat) : Document → List Char
  | null => ['n', 'u', 'l', 'l']
  | boolean true => ['t', 'r', 'u', 'e']
  | boolean false => ['f', 'a', 'l', 's', 'e']
  | number digits places => printedNumber digits places
  | text value => printedText value
  | array items => bracketed level '[' ']' (printedItems (level + 1) items)
  | object fields =>
    bracketed level '\x7b' '\x7d'
      ((sortedFields (printedFields (level + 1) fields)).map fun (name, value) =>
        printedText name ++ ':' :: ' ' :: value)

/-- Each item of an array at a level of indentation. -/
def printedItems (level : Nat) : List Document → List (List Char)
  | [] => []
  | item :: items => printedAt level item :: printedItems level items

/-- Each field of an object, its value at a level of indentation. -/
def printedFields (level : Nat) : List (String × Document) → List (String × List Char)
  | [] => []
  | (name, value) :: fields => (name, printedAt level value) :: printedFields level fields

end

def print (d : Document) : String := String.ofList (printedAt 0 d)

end Document

end ClusterLookup
