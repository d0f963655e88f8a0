/-!
# Splitting text at a separator

`pieces` cuts at every separator and loses nothing but the separators; `before` and `after` cut at
the first one, `splitLast?` at the last one.
-/

namespace ClusterLookup.Text

/-- The pieces of text between the separators; there is always at least one. -/
def pieces (sep : Char) : List Char → List (List Char)
  | [] => [[]]
  | c :: s =>
    if c = sep then [] :: pieces sep s
    else match pieces sep s with
      | [] => [[c]]
      | p :: ps => (c :: p) :: ps

/-- Pieces of text put together again, with a separator between two of them. -/
def join (sep : List Char) : List (List Char) → List Char
  | [] => []
  | [p] => p
  | p :: q :: ps => p ++ sep ++ join sep (q :: ps)

def before (sep : Char) (s : List Char) : List Char := s.takeWhile (· ≠ sep)

/-- The text behind the first separator, empty when there is none. -/
def after (sep : Char) (s : List Char) : List Char := (s.dropWhile (· ≠ sep)).drop 1

/-- The text in front of and behind the last separator, if there is one. -/
def splitLast? (sep : Char) (s : List Char) : Option (List Char × List Char) :=
  match s.reverse.dropWhile (· ≠ sep) with
  | [] => none
  | _ :: front => some (front.reverse, (s.reverse.takeWhile (· ≠ sep)).reverse)

theorem pieces_ne_nil (sep : Char) (s : List Char) : pieces sep s ≠ [] := by
  cases s with
  | nil => simp [pieces]
  | cons c s =>
    rw [pieces]
    split
    · simp
    · split <;> simp

theorem join_pieces (sep : Char) (s : List Char) : join [sep] (pieces sep s) = s := by
  induction s with
  | nil => rfl
  | cons c s ih =>
    rw [pieces]
    cases hp : pieces sep s with
    | nil => exact absurd hp (pieces_ne_nil sep s)
    | cons p ps =>
      rw [hp] at ih
      split
      · next h =>
        subst h
        simpa [join] using ih
      · cases ps with
        | nil => simpa [join] using ih
        | cons q qs => simpa [join] using ih

end ClusterLookup.Text
