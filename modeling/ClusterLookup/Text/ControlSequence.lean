/-!
# Control sequences

A terminal takes the escape character and an opening bracket for the start of a control sequence:
parameter characters follow, then intermediate ones, then one final character. Text for a reader is
shown without them. A sequence that is never finished is no control sequence, and what is left when
the sequences are gone is not looked at again.
-/

namespace ClusterLookup.Text

/-- Whether a character is a parameter of a control sequence, from `0` to `?`. -/
def isParameter (c : Char) : Bool := 0x30 ≤ c.toNat && c.toNat ≤ 0x3F

/-- Whether a character stands between the parameters and the end of a control sequence, from the
space to `/`. -/
def isIntermediate (c : Char) : Bool := 0x20 ≤ c.toNat && c.toNat ≤ 0x2F

/-- Whether a character ends a control sequence, from `@` to `~`. -/
def isFinal (c : Char) : Bool := 0x40 ≤ c.toNat && c.toNat ≤ 0x7E

/-- The text behind a control sequence whose start has been read, if it has an end. -/
def afterSequence? (s : List Char) : Option (List Char) :=
  match (s.dropWhile isParameter).dropWhile isIntermediate with
  | [] => none
  | c :: rest => if isFinal c then some rest else none

/-- The text behind the control sequence at the front, if there is one. -/
def afterControl? : List Char → Option (List Char)
  | '\x1b' :: '[' :: s => afterSequence? s
  | _ => none

theorem afterSequence?_suffix {s rest : List Char} (h : afterSequence? s = some rest) :
    rest <:+ s := by
  unfold afterSequence? at h
  split at h
  · cases h
  · next c r hr =>
    split at h
    · cases h
      have hc : c :: rest <:+ s := by
        rw [← hr]
        exact (List.dropWhile_suffix _).trans (List.dropWhile_suffix _)
      exact (List.suffix_cons c rest).trans hc
    · cases h

theorem afterControl?_suffix {c : Char} {s rest : List Char}
    (h : afterControl? (c :: s) = some rest) : rest <:+ s := by
  unfold afterControl? at h
  split at h
  · next r heq =>
    cases heq
    exact (afterSequence?_suffix h).trans (List.suffix_cons '[' r)
  · cases h

def plain (s : List Char) : List Char :=
  match s with
  | [] => []
  | c :: s =>
    match _found : afterControl? (c :: s) with
    | some rest => plain rest
    | none => c :: plain s
termination_by s.length
decreasing_by
  · have := (afterControl?_suffix _found).length_le
    simp only [List.length_cons]
    omega
  · simp

@[simp] theorem plain_nil : plain [] = [] := by
  rw [plain]

theorem plain_cons_of_ne {c : Char} (hc : c ≠ '\x1b') (s : List Char) :
    plain (c :: s) = c :: plain s := by
  rw [plain]
  split
  · next r hr =>
    unfold afterControl? at hr
    split at hr
    · next heq =>
      cases heq
      exact absurd rfl hc
    · cases hr
  · rfl

end ClusterLookup.Text
