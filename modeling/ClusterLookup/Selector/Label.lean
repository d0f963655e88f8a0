import ClusterLookup.Selector.Token
import ClusterLookup.Text.Split

/-!
# Labels

The form of label keys and label values. A key is a name, possibly behind a DNS subdomain and a
slash; a value is empty or a name. All of it is ASCII.
-/

namespace ClusterLookup.Selector

open Text (pieces splitLast?)

def isNameChar (c : Char) : Bool := c.isAlphanum || c = '-' || c = '_' || c = '.'

/-- Whether a word has the form of a label name: name characters, of which the first and the last
are letters or digits. -/
def isName (w : Word) : Bool :=
  match w.head?, w.getLast? with
  | some first, some last => first.isAlphanum && last.isAlphanum && w.all isNameChar
  | _, _ => false

def nameLimit : Nat := 63

def isDomainChar (c : Char) : Bool := c.isLower || c.isDigit || c = '-'

/-- Whether a word is one label of a DNS subdomain: domain characters, neither the first nor the
last of them a hyphen. -/
def isDomainLabel (w : Word) : Bool :=
  match w.head?, w.getLast? with
  | some first, some last => first != '-' && last != '-' && w.all isDomainChar
  | _, _ => false

/-- The most characters that the domain of a label key may have. -/
def domainLimit : Nat := 253

/-- Whether a word is a DNS subdomain: labels with points between them. -/
def isDomain (w : Word) : Bool := decide (w.length ≤ domainLimit) && (pieces '.' w).all isDomainLabel

/-- Whether a word is a label name of an allowed length. -/
def isShortName (w : Word) : Bool := decide (w.length ≤ nameLimit) && isName w

def isLabelValue (w : Word) : Bool := w.isEmpty || isShortName w

/-- Whether a word is an integer in decimal digits. -/
def isInteger : Word → Bool
  | '-' :: digits => !digits.isEmpty && digits.all Char.isDigit
  | digits => !digits.isEmpty && digits.all Char.isDigit

inductive KeyFault where
  | domain (domain : Word)
  | name
  deriving DecidableEq, Repr

/-- What is wrong with a word as a label key, if anything; the domain is looked at first. -/
def keyFault? (w : Word) : Option KeyFault :=
  match splitLast? '/' w with
  | none => if isShortName w then none else some .name
  | some (domain, name) =>
    if !isDomain domain then some (.domain domain)
    else if isShortName name then none
    else some .name

def isLabelKey (w : Word) : Bool := (keyFault? w).isNone

end ClusterLookup.Selector
