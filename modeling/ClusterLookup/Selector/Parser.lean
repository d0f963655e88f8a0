import ClusterLookup.Selector.Label
import ClusterLookup.Selector.Printer
import ClusterLookup.Text.Quoted

/-!
# Reading selectors

A label selector is requirements separated by single commas. Each reader takes tokens off the front
and hands on the rest; the first fault it meets is the one reported.
-/

namespace ClusterLookup.Selector

open Text (allBlank quoted)

/-- What kind of word a reader was looking for. -/
inductive Wanted where
  | key
  | value
  | integer
  deriving DecidableEq, Repr

inductive Fault where
  | missing (wanted : Wanted) (found : Option Token)
  | badDomain (domain : Word)
  | badKey (key : Word)
  | badValue (value : Word)
  | notInteger (operator : Comparison) (found : Word)
  | unopened (operator : Membership)
  | unclosed (operator : Membership)
  | unknownOperator (operator : Token) (key : Word)
  | missingComma (found : Token)
  | trailingComma
  deriving DecidableEq, Repr

/-- The noun for a kind of word. -/
def Wanted.text : Wanted → String
  | key => "label key"
  | value => "label value"
  | integer => "integer value"

def Fault.message : Fault → String
  | missing wanted none => s!"expected {wanted.text}, found end of string"
  | missing wanted (some token) => s!"expected {wanted.text}, found {String.ofList token.text}"
  | badDomain domain => s!"invalid label key prefix {quoted domain}"
  | badKey key => s!"invalid label key {quoted key}"
  | badValue value => s!"invalid label value {quoted value}"
  | notInteger operator found =>
    s!"for '{String.ofList operator.sign.text}' operator, the value must be an integer, found {quoted found}"
  | unopened operator => s!"expected '(' after '{String.ofList operator.word}'"
  | unclosed operator => s!"expected ')' to close '{String.ofList operator.word}' values"
  | unknownOperator operator key => s!"unknown operator {quoted operator.text} after key {quoted key}"
  | missingComma found => s!"expected ',' after requirement, found {String.ofList found.text}"
  | trailingComma => "trailing ','"

/-- A word at the front. -/
def readWord (wanted : Wanted) : List Token → Except Fault (Word × List Token)
  | .word w :: ts => .ok (w, ts)
  | ts => .error (.missing wanted ts.head?)

def readKey (ts : List Token) : Except Fault (Word × List Token) := do
  let (key, rest) ← readWord .key ts
  match keyFault? key with
  | none => .ok (key, rest)
  | some (.domain domain) => .error (.badDomain domain)
  | some .name => .error (.badKey key)

/-- A word that has to be a label value. -/
def checkValue (w : Word) : Except Fault Word :=
  if isLabelValue w then .ok w else .error (.badValue w)

/-- The value behind a comparison operator; it is empty when the requirement ends there. -/
def readValue : List Token → Except Fault (Word × List Token)
  | .word w :: ts => (checkValue w).map (·, ts)
  | [] => .ok ([], [])
  | .sign .comma :: ts => .ok ([], .sign .comma :: ts)
  | .sign .closing :: ts => .ok ([], .sign .closing :: ts)
  | t :: _ => .error (.missing .value (some t))

/-- The values of a set, the first of them apart; a value may be empty. -/
def readValues : List Token → Except Fault (Word × List Word × List Token)
  | .word w :: .sign .comma :: ts => do
    let w ← checkValue w
    let (v, vs, rest) ← readValues ts
    .ok (w, v :: vs, rest)
  | .sign .comma :: ts => do
    let (v, vs, rest) ← readValues ts
    .ok ([], v :: vs, rest)
  | ts => do
    let (w, rest) ← readValue ts
    .ok (w, [], rest)

/-- The comparison of a sign, if it is one with a label value. -/
def Comparison.ofSign? : Sign → Option Comparison
  | .equal => some .equal
  | .doubleEqual => some .doubleEqual
  | .notEqual => some .notEqual
  | .less => some .less
  | .greater => some .greater
  | _ => none

def Membership.ofWord? (w : Word) : Option Membership :=
  if w = Membership.inside.word then some .inside
  else if w = Membership.outside.word then some .outside
  else none

/-- The operand of a comparison: an integer behind `<` and `>`, else a label value. -/
def readOperand (operator : Comparison) (ts : List Token) : Except Fault (Word × List Token) :=
  match operator with
  | .less | .greater => do
    let (w, rest) ← readWord .integer ts
    if isInteger w then .ok (w, rest) else .error (.notInteger operator w)
  | .equal | .doubleEqual | .notEqual => readValue ts

def readSet (operator : Membership) : List Token → Except Fault (Condition × List Token)
  | .sign .opening :: ts => do
    let (first, others, rest) ← readValues ts
    match rest with
    | .sign .closing :: rest => .ok (.member operator first others, rest)
    | _ => .error (.unclosed operator)
  | _ => .error (.unopened operator)

def readCondition (key : Word) : List Token → Except Fault (Condition × List Token)
  | [] => .ok (.present, [])
  | .sign .comma :: ts => .ok (.present, .sign .comma :: ts)
  | .sign s :: ts =>
    match Comparison.ofSign? s with
    | some operator => do
      let (value, rest) ← readOperand operator ts
      .ok (.compare operator value, rest)
    | none => .error (.unknownOperator (.sign s) key)
  | .word w :: ts =>
    match Membership.ofWord? w with
    | some operator => readSet operator ts
    | none => .error (.unknownOperator (.word w) key)

def readRequirement : List Token → Except Fault (Requirement × List Token)
  | .sign .bang :: ts => do
    let (key, rest) ← readKey ts
    .ok (⟨key, .absent⟩, rest)
  | ts => do
    let (key, rest) ← readKey ts
    let (condition, rest) ← readCondition key rest
    .ok (⟨key, condition⟩, rest)

/-! ## Readers take tokens off the front -/

theorem length_of_readWord {wanted : Wanted} {ts rest : List Token} {w : Word}
    (h : readWord wanted ts = .ok (w, rest)) : rest.length < ts.length := by
  unfold readWord at h
  split at h
  · cases h; simp
  · cases h

theorem length_of_readKey {ts rest : List Token} {key : Word} (h : readKey ts = .ok (key, rest)) :
    rest.length < ts.length := by
  unfold readKey at h
  cases hw : readWord .key ts with
  | error e => simp [hw, bind, Except.bind] at h
  | ok p =>
    simp only [hw, bind, Except.bind] at h
    split at h
    · cases h; exact length_of_readWord hw
    · cases h
    · cases h

theorem length_of_readValue {ts rest : List Token} {w : Word} (h : readValue ts = .ok (w, rest)) :
    rest.length ≤ ts.length := by
  unfold readValue at h
  split at h
  · unfold checkValue at h
    split at h
    · cases h; simp
    · cases h
  all_goals cases h
  all_goals simp

theorem length_of_readValues {ts rest : List Token} {w : Word} {ws : List Word}
    (h : readValues ts = .ok (w, ws, rest)) : rest.length ≤ ts.length := by
  fun_induction readValues ts generalizing w ws rest with
  | case1 v ts ih =>
    cases hv : checkValue v with
    | error e => simp [hv, bind, Except.bind] at h
    | ok v =>
      cases hr : readValues ts with
      | error e => simp [hv, hr, bind, Except.bind] at h
      | ok p =>
        simp only [hv, hr, bind, Except.bind, Except.ok.injEq, Prod.mk.injEq] at h
        obtain ⟨_, _, rfl⟩ := h
        have := ih hr
        simp only [List.length_cons]
        omega
  | case2 ts ih =>
    cases hr : readValues ts with
    | error e => simp [hr, bind, Except.bind] at h
    | ok p =>
      simp only [hr, bind, Except.bind, Except.ok.injEq, Prod.mk.injEq] at h
      obtain ⟨_, _, rfl⟩ := h
      have := ih hr
      simp only [List.length_cons]
      omega
  | case3 ts =>
    cases hr : readValue ts with
    | error e => simp [hr, bind, Except.bind] at h
    | ok p =>
      simp only [hr, bind, Except.bind, Except.ok.injEq, Prod.mk.injEq] at h
      obtain ⟨_, _, rfl⟩ := h
      exact length_of_readValue hr

theorem length_of_readOperand {operator : Comparison} {ts rest : List Token} {w : Word}
    (h : readOperand operator ts = .ok (w, rest)) : rest.length ≤ ts.length := by
  unfold readOperand at h
  split at h
  case h_3 | h_4 | h_5 => exact length_of_readValue h
  all_goals
    cases hw : readWord .integer ts with
    | error e => simp [hw, bind, Except.bind] at h
    | ok p =>
      simp only [hw, bind, Except.bind] at h
      split at h
      · cases h; exact Nat.le_of_lt (length_of_readWord hw)
      · cases h

theorem length_of_readSet {operator : Membership} {ts rest : List Token} {condition : Condition}
    (h : readSet operator ts = .ok (condition, rest)) : rest.length ≤ ts.length := by
  unfold readSet at h
  split at h
  · next ts =>
    cases hv : readValues ts with
    | error e => simp [hv, bind, Except.bind] at h
    | ok p =>
      simp only [hv, bind, Except.bind] at h
      have := length_of_readValues hv
      split at h
      · next hp =>
        cases h
        rw [hp] at this
        simp only [List.length_cons] at this ⊢
        omega
      · cases h
  · cases h

theorem length_of_readCondition {key : Word} {ts rest : List Token} {condition : Condition}
    (h : readCondition key ts = .ok (condition, rest)) : rest.length ≤ ts.length := by
  unfold readCondition at h
  split at h
  · cases h; simp
  · cases h; simp
  · next s ts _ =>
    cases hs : Comparison.ofSign? s with
    | none => simp [hs] at h
    | some operator =>
      cases ho : readOperand operator ts with
      | error e => simp [hs, ho, bind, Except.bind] at h
      | ok p =>
        simp only [hs, ho, bind, Except.bind] at h
        cases h
        have := length_of_readOperand ho
        simp only [List.length_cons]
        omega
  · next w ts =>
    cases hs : Membership.ofWord? w with
    | none => simp [hs] at h
    | some operator =>
      simp only [hs] at h
      have := length_of_readSet h
      simp only [List.length_cons]
      omega

theorem length_of_readRequirement {ts rest : List Token} {r : Requirement}
    (h : readRequirement ts = .ok (r, rest)) : rest.length < ts.length := by
  unfold readRequirement at h
  split at h
  · next ts =>
    cases hk : readKey ts with
    | error e => simp [hk, bind, Except.bind] at h
    | ok p =>
      simp only [hk, bind, Except.bind] at h
      cases h
      have := length_of_readKey hk
      simp only [List.length_cons]
      omega
  · cases hk : readKey ts with
    | error e => simp [hk, bind, Except.bind] at h
    | ok p =>
      cases hc : readCondition p.1 p.2 with
      | error e => simp [hk, hc, bind, Except.bind] at h
      | ok q =>
        simp only [hk, hc, bind, Except.bind] at h
        cases h
        exact Nat.lt_of_le_of_lt (length_of_readCondition hc) (length_of_readKey hk)

/-! ## Whole selectors -/

/-- The requirements of all tokens, one at least. -/
def readRequirements (ts : List Token) : Except Fault (List Requirement) :=
  match _read : readRequirement ts with
  | .error fault => .error fault
  | .ok (r, []) => .ok [r]
  | .ok (_, [.sign .comma]) => .error .trailingComma
  | .ok (r, .sign .comma :: t :: rest) => (readRequirements (t :: rest)).map (r :: ·)
  | .ok (_, t :: _) => .error (.missingComma t)
termination_by ts.length
decreasing_by
  have := length_of_readRequirement _read
  simp only [List.length_cons] at this ⊢
  omega

/-- The requirements of a text; a blank text requires nothing. -/
def parse (s : List Char) : Except Fault (List Requirement) :=
  if allBlank s then .ok [] else readRequirements (tokens s)

/-- The canonical text of a selector: equivalent selectors written in different orders have one. -/
def canonical (s : List Char) : Except Fault Word :=
  (parse s).map fun rs => printRequirements (sortRequirements rs)

end ClusterLookup.Selector
