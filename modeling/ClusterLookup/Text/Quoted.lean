import ClusterLookup.Text.Printable

/-!
# Quoted text

How text is shown inside a message: between single quotes, or between double quotes when it holds a
single quote and no double one. The quote in use and the backslash are escaped, and so is every
character without a visible form.
-/

namespace ClusterLookup.Text

/-- A number in lowercase hexadecimal, filled up with zeros to a width. -/
def hex (width n : Nat) : List Char :=
  let digits := Nat.toDigits 16 n
  List.replicate (width - digits.length) '0' ++ digits

/-- The escape of a character by its code point, in two, four or eight hexadecimal digits. -/
def codeEscape (c : Char) : List Char :=
  let n := c.toNat
  if n < 0x100 then '\\' :: 'x' :: hex 2 n
  else if n < 0x10000 then '\\' :: 'u' :: hex 4 n
  else '\\' :: 'U' :: hex 8 n

/-- A character as it stands between the given quotes. -/
def quotedChar (quote c : Char) : List Char :=
  if c = quote ∨ c = '\\' then ['\\', c]
  else if c = '\n' then ['\\', 'n']
  else if c = '\r' then ['\\', 'r']
  else if c = '\t' then ['\\', 't']
  else if isPrintable c then [c]
  else codeEscape c

def quoteFor (s : List Char) : Char :=
  if s.contains '\x27' && !s.contains '\x22' then '\x22' else '\x27'

def quoted (s : List Char) : String :=
  let quote := quoteFor s
  String.ofList (quote :: s.flatMap (quotedChar quote) ++ [quote])

end ClusterLookup.Text
