import ClusterLookup.Proofs.Results
import ClusterLookup.Proofs.Selector.Labels
import ClusterLookup.Request

/-!
# The grammar of selectors

Which tokens spell which requirements, as rules without a reader. Main statement: a text that is not
blank is read exactly when its tokens follow the rules, and any other one is reported as an invalid
selector.
-/

namespace ClusterLookup.Selector

/-- The tokens of a value; an empty one may be left out. -/
inductive ValueTokens : Word → List Token → Prop where
  | omitted : ValueTokens [] []
  | word {w : Word} : IsValue w → ValueTokens w [.word w]

/-- The tokens of the values of a set, with commas between them. -/
inductive ValuesTokens : Word → List Word → List Token → Prop where
  | single {v : Word} {ts : List Token} : ValueTokens v ts → ValuesTokens v [] ts
  | cons {v u : Word} {us : List Word} {ts rest : List Token} : ValueTokens v ts →
      ValuesTokens u us rest → ValuesTokens v (u :: us) (ts ++ .sign .comma :: rest)

inductive RequirementTokens : Requirement → List Token → Prop where
  | absent {key : Word} : IsKey key → RequirementTokens ⟨key, .absent⟩ [.sign .bang, .word key]
  | present {key : Word} : IsKey key → RequirementTokens ⟨key, .present⟩ [.word key]
  | equality {key v : Word} {operator : Comparison} {ts : List Token} : IsKey key →
      operator = .equal ∨ operator = .doubleEqual ∨ operator = .notEqual → ValueTokens v ts →
      RequirementTokens ⟨key, .compare operator v⟩ (.word key :: .sign operator.sign :: ts)
  | order {key w : Word} {operator : Comparison} : IsKey key →
      operator = .less ∨ operator = .greater → IsInteger w →
      RequirementTokens ⟨key, .compare operator w⟩ [.word key, .sign operator.sign, .word w]
  | member {key v : Word} {vs : List Word} {operator : Membership} {ts : List Token} : IsKey key →
      ValuesTokens v vs ts → RequirementTokens ⟨key, .member operator v vs⟩
        (.word key :: .word operator.word :: .sign .opening :: ts ++ [.sign .closing])

/-- The tokens of a selector: one requirement at least, and single commas between them. -/
inductive SelectorTokens : List Requirement → List Token → Prop where
  | single {r : Requirement} {ts : List Token} : RequirementTokens r ts → SelectorTokens [r] ts
  | cons {r : Requirement} {rs : List Requirement} {ts rest : List Token} : RequirementTokens r ts →
      SelectorTokens rs rest → SelectorTokens (r :: rs) (ts ++ .sign .comma :: rest)

variable {ts rest : List Token} {key v w : Word} {vs : List Word}

theorem isValue_of_valueTokens (h : ValueTokens v ts) : IsValue v := by
  cases h with
  | omitted => exact .inl rfl
  | word hv => exact hv

theorem isValue_of_valuesTokens (h : ValuesTokens v vs ts) :
    ∀ u ∈ v :: vs, IsValue u := by
  induction h with
  | single hv => exact List.forall_mem_singleton.mpr (isValue_of_valueTokens hv)
  | cons hv _ ih => exact List.forall_mem_cons.mpr ⟨isValue_of_valueTokens hv, ih⟩

theorem exists_of_mem_selectorTokens {rs : List Requirement}
    (h : SelectorTokens rs ts) : ∀ r ∈ rs, ∃ front, RequirementTokens r front := by
  induction h with
  | single hr => exact List.forall_mem_singleton.mpr ⟨_, hr⟩
  | cons hr _ ih => exact List.forall_mem_cons.mpr ⟨⟨_, hr⟩, ih⟩

theorem ne_nil_of_selectorTokens {rs : List Requirement}
    (h : SelectorTokens rs ts) : rs ≠ [] := by
  cases h <;> simp

/-! ## Words, keys and values -/

theorem readWord_eq_ok_iff {wanted : Wanted} :
    readWord wanted ts = .ok (w, rest) ↔ ts = .word w :: rest := by
  unfold readWord
  split
  · simp
  · next h =>
    simp only [reduceCtorEq, false_iff]
    exact h w rest

theorem readKey_eq_ok_iff : readKey ts = .ok (key, rest) ↔ ts = .word key :: rest ∧ IsKey key := by
  unfold readKey
  simp only [Results.bind_eq_ok_iff, Prod.exists, readWord_eq_ok_iff, ← isLabelKey_iff, isLabelKey]
  constructor
  · intro hx
    obtain ⟨found, behind, rfl, h⟩ := hx
    cases hf : keyFault? found with
    | none =>
      simp only [hf, Except.ok.injEq, Prod.mk.injEq] at h
      obtain ⟨rfl, rfl⟩ := h
      exact ⟨rfl, by rw [hf]; rfl⟩
    | some fault => cases fault <;> simp [hf] at h
  · intro hx
    obtain ⟨rfl, hk⟩ := hx
    exact ⟨key, rest, rfl, by rw [Option.isNone_iff_eq_none.mp hk]⟩

theorem checkValue_eq_ok_iff {u : Word} : checkValue w = .ok u ↔ u = w ∧ IsValue w := by
  unfold checkValue
  split
  · next h => simp [isLabelValue_iff.mp h, eq_comm]
  · next h =>
    rw [isLabelValue_iff] at h
    simp [h]

/-- Whether no value can start here: the tokens end, or go on with a comma or a bracket. -/
def AtEnd (ts : List Token) : Prop :=
  ts = [] ∨ ∃ rest, ts = .sign .comma :: rest ∨ ts = .sign .closing :: rest

theorem readValue_eq_ok_iff : readValue ts = .ok (v, rest) ↔
    ∃ front, ValueTokens v front ∧ ts = front ++ rest ∧ (front = [] → AtEnd rest) := by
  constructor
  · intro h
    unfold readValue at h
    split at h
    · obtain ⟨u, hu, heq⟩ := Results.map_eq_ok_iff.mp h
      obtain ⟨rfl, hv⟩ := checkValue_eq_ok_iff.mp hu
      cases heq
      exact ⟨_, .word hv, rfl, by simp⟩
    · cases h
      exact ⟨[], .omitted, rfl, fun _ => .inl rfl⟩
    · cases h
      exact ⟨[], .omitted, rfl, fun _ => .inr ⟨_, .inl rfl⟩⟩
    · cases h
      exact ⟨[], .omitted, rfl, fun _ => .inr ⟨_, .inr rfl⟩⟩
    · cases h
  · intro hx
    obtain ⟨front, hv, rfl, hend⟩ := hx
    cases hv with
    | omitted => rcases hend rfl with rfl | ⟨rest, rfl | rfl⟩ <;> rfl
    | word hv =>
      change (checkValue v).map (·, rest) = _
      rw [checkValue_eq_ok_iff.mpr ⟨rfl, hv⟩]
      rfl

/-! ## Sets -/

theorem valuesTokens_of_readValues (h : readValues ts = .ok (v, vs, rest)) :
    ∃ front, ValuesTokens v vs front ∧ ts = front ++ rest := by
  fun_induction readValues ts generalizing v vs rest with
  | case1 w ts ih =>
    simp only [Results.bind_eq_ok_iff, Prod.exists, checkValue_eq_ok_iff] at h
    obtain ⟨_, ⟨rfl, hw⟩, u, us, behind, hr, heq⟩ := h
    cases heq
    obtain ⟨front, hf, rfl⟩ := ih hr
    exact ⟨_, .cons (.word hw) hf, rfl⟩
  | case2 ts ih =>
    simp only [Results.bind_eq_ok_iff, Prod.exists] at h
    obtain ⟨u, us, behind, hr, heq⟩ := h
    cases heq
    obtain ⟨front, hf, rfl⟩ := ih hr
    exact ⟨_, .cons .omitted hf, rfl⟩
  | case3 ts =>
    simp only [Results.bind_eq_ok_iff, Prod.exists, readValue_eq_ok_iff] at h
    obtain ⟨_, _, ⟨front, hf, rfl, _⟩, heq⟩ := h
    cases heq
    exact ⟨front, .single hf, rfl⟩

theorem readValues_of_valuesTokens {front : List Token} (h : ValuesTokens v vs front) :
    readValues (front ++ .sign .closing :: rest) = .ok (v, vs, .sign .closing :: rest) := by
  induction h with
  | @single v ts hv =>
    -- The last value is followed by the bracket, so the first two equations do not apply.
    have hr : readValue (ts ++ .sign .closing :: rest) = .ok (v, .sign .closing :: rest) :=
      readValue_eq_ok_iff.mpr ⟨ts, hv, rfl, fun _ => .inr ⟨rest, .inr rfl⟩⟩
    cases hv with
    | omitted =>
      rw [List.nil_append, readValues, ← List.nil_append (_ :: rest), hr]
      · rfl
      all_goals simp
    | word hv =>
      rw [List.singleton_append, readValues, ← List.singleton_append, hr]
      · rfl
      all_goals simp
  | @cons v u us ts front hv _ ih =>
    rw [List.append_assoc, List.cons_append]
    cases hv with
    | omitted =>
      rw [List.nil_append, readValues, ih]
      rfl
    | word hv =>
      rw [List.singleton_append, readValues, ih, checkValue_eq_ok_iff.mpr ⟨rfl, hv⟩]
      rfl

theorem readSet_eq_ok_iff {operator : Membership} {condition : Condition} :
    readSet operator ts = .ok (condition, rest) ↔ ∃ v vs front, ValuesTokens v vs front ∧
      condition = .member operator v vs ∧ ts = .sign .opening :: front ++ .sign .closing :: rest := by
  constructor
  · intro h
    unfold readSet at h
    split at h
    · simp only [Results.bind_eq_ok_iff, Prod.exists] at h
      obtain ⟨v, vs, behind, hr, h⟩ := h
      obtain ⟨front, hf, rfl⟩ := valuesTokens_of_readValues hr
      split at h
      · cases h
        exact ⟨v, vs, front, hf, rfl, rfl⟩
      · cases h
    · cases h
  · intro hx
    obtain ⟨v, vs, front, hf, rfl, rfl⟩ := hx
    simp only [List.cons_append, readSet, readValues_of_valuesTokens hf]
    rfl

/-! ## Requirements -/

theorem readOperand_eq_ok_iff {operator : Comparison} :
    readOperand operator ts = .ok (v, rest) ↔
      (operator = .less ∨ operator = .greater) ∧ IsInteger v ∧ ts = .word v :: rest ∨
      (operator = .equal ∨ operator = .doubleEqual ∨ operator = .notEqual) ∧
        ∃ front, ValueTokens v front ∧ ts = front ++ rest ∧ (front = [] → AtEnd rest) := by
  have hint : operator = .less ∨ operator = .greater →
      (readOperand operator ts = .ok (v, rest) ↔ IsInteger v ∧ ts = .word v :: rest) := by
    intro ho
    rcases ho with rfl | rfl
    all_goals
      simp only [readOperand, Results.bind_eq_ok_iff, Prod.exists, readWord_eq_ok_iff,
        ← isInteger_iff]
      constructor
      · intro hx
        obtain ⟨w, behind, rfl, h⟩ := hx
        split at h
        · next hw => cases h; exact ⟨hw, rfl⟩
        · cases h
      · intro hx
        obtain ⟨hw, rfl⟩ := hx
        exact ⟨v, rest, rfl, by rw [if_pos hw]⟩
  cases operator with
  | less => simpa using hint (.inl rfl)
  | greater => simpa using hint (.inr rfl)
  | equal => simpa [readOperand] using readValue_eq_ok_iff
  | doubleEqual => simpa [readOperand] using readValue_eq_ok_iff
  | notEqual => simpa [readOperand] using readValue_eq_ok_iff

theorem ofSign?_eq_some_iff {s : Sign} {operator : Comparison} :
    Comparison.ofSign? s = some operator ↔ s = operator.sign := by
  cases s <;> cases operator <;> simp [Comparison.ofSign?, Comparison.sign]

theorem ofWord?_eq_some_iff {operator : Membership} :
    Membership.ofWord? w = some operator ↔ w = operator.word := by
  unfold Membership.ofWord?
  constructor
  · intro h
    split at h
    · next hw => cases h; exact hw
    · split at h
      · next hw => cases h; exact hw
      · cases h
  · rintro rfl
    cases operator <;> rfl

/-- Where a requirement may end: at the end of the tokens or in front of a comma. -/
def AtComma (ts : List Token) : Prop := ts = [] ∨ ∃ rest, ts = .sign .comma :: rest

theorem AtComma.atEnd (h : AtComma ts) : AtEnd ts := h.imp_right fun ⟨rest, h⟩ => ⟨rest, .inl h⟩

theorem requirementTokens_of_readCondition {condition : Condition} (hk : IsKey key)
    (h : readCondition key ts = .ok (condition, rest)) :
    ∃ front, RequirementTokens ⟨key, condition⟩ (.word key :: front) ∧ ts = front ++ rest := by
  unfold readCondition at h
  split at h
  · cases h
    exact ⟨[], .present hk, rfl⟩
  · cases h
    exact ⟨[], .present hk, rfl⟩
  · next s ts _ =>
    split at h
    · next operator hs =>
      obtain rfl := ofSign?_eq_some_iff.mp hs
      simp only [Results.bind_eq_ok_iff, Prod.exists, readOperand_eq_ok_iff] at h
      obtain ⟨v, behind, ⟨ho, hv, rfl⟩ | ⟨ho, front, hv, rfl, _⟩, heq⟩ := h
      · cases heq
        exact ⟨_, .order hk ho hv, rfl⟩
      · cases heq
        exact ⟨_, .equality hk ho hv, rfl⟩
    · cases h
  · next w ts =>
    split at h
    · next operator hw =>
      obtain rfl := ofWord?_eq_some_iff.mp hw
      obtain ⟨v, vs, front, hv, rfl, rfl⟩ := readSet_eq_ok_iff.mp h
      refine ⟨_, .member hk hv, ?_⟩
      simp
    · cases h

theorem requirementTokens_of_readRequirement {r : Requirement}
    (h : readRequirement ts = .ok (r, rest)) :
    ∃ front, RequirementTokens r front ∧ ts = front ++ rest := by
  unfold readRequirement at h
  split at h
  · simp only [Results.bind_eq_ok_iff, Prod.exists, readKey_eq_ok_iff] at h
    obtain ⟨key, behind, ⟨rfl, hk⟩, heq⟩ := h
    cases heq
    exact ⟨_, .absent hk, rfl⟩
  · simp only [Results.bind_eq_ok_iff, Prod.exists, readKey_eq_ok_iff] at h
    obtain ⟨key, behind, ⟨rfl, hk⟩, condition, remaining, hc, heq⟩ := h
    cases heq
    obtain ⟨front, hf, rfl⟩ := requirementTokens_of_readCondition hk hc
    exact ⟨_, hf, rfl⟩

theorem readRequirement_word (hk : IsKey key) : readRequirement (.word key :: ts) =
    (readCondition key ts).map fun p => (⟨key, p.1⟩, p.2) := by
  simp only [readRequirement]
  rw [readKey_eq_ok_iff.mpr ⟨rfl, hk⟩]
  rfl

theorem readCondition_sign (operator : Comparison) : readCondition key (.sign operator.sign :: ts) =
    (readOperand operator ts).map fun p => (.compare operator p.1, p.2) := by
  cases operator <;> rfl

theorem readCondition_word (operator : Membership) :
    readCondition key (.word operator.word :: ts) = readSet operator ts := by
  have ho : Membership.ofWord? operator.word = some operator := ofWord?_eq_some_iff.mpr rfl
  simp only [readCondition, ho]

theorem readRequirement_of_requirementTokens {r : Requirement} {front : List Token}
    (h : RequirementTokens r front) (hr : AtComma rest) :
    readRequirement (front ++ rest) = .ok (r, rest) := by
  cases h with
  | absent hk =>
    simp only [List.cons_append, List.nil_append, readRequirement]
    rw [readKey_eq_ok_iff.mpr ⟨rfl, hk⟩]
    rfl
  | present hk =>
    rw [List.singleton_append, readRequirement_word hk]
    rcases hr with rfl | ⟨rest, rfl⟩ <;> rfl
  | equality hk ho hv =>
    have hread := readOperand_eq_ok_iff.mpr (.inr ⟨ho, _, hv, rfl, fun _ => hr.atEnd⟩)
    rw [List.cons_append, List.cons_append, readRequirement_word hk, readCondition_sign, hread]
    rfl
  | @order key w operator hk ho hv =>
    have hread := readOperand_eq_ok_iff.mpr (.inl ⟨ho, hv, @rfl _ (Token.word w :: rest)⟩)
    simp only [List.cons_append, List.nil_append]
    rw [readRequirement_word hk, readCondition_sign, hread]
    rfl
  | @member key v vs operator ts hk hv =>
    have hread : readSet operator (.sign .opening :: ts ++ .sign .closing :: rest) =
        .ok (.member operator v vs, rest) := readSet_eq_ok_iff.mpr ⟨v, vs, ts, hv, rfl, rfl⟩
    simp only [List.cons_append, List.append_assoc, List.nil_append] at hread ⊢
    rw [readRequirement_word hk, readCondition_word, hread]
    rfl

/-! ## Whole selectors -/

theorem requirementTokens_ne_nil {r : Requirement} (h : RequirementTokens r ts) : ts ≠ [] := by
  cases h <;> simp

theorem selectorTokens_ne_nil {rs : List Requirement} (h : SelectorTokens rs ts) : ts ≠ [] := by
  cases h with
  | single h => exact requirementTokens_ne_nil h
  | cons _ _ => simp

theorem selectorTokens_of_readRequirements {rs : List Requirement}
    (h : readRequirements ts = .ok rs) : SelectorTokens rs ts := by
  fun_induction readRequirements ts generalizing rs with
  | case1 ts fault hr => cases h
  | case2 ts r hr =>
    cases h
    obtain ⟨front, hf, rfl⟩ := requirementTokens_of_readRequirement hr
    rw [List.append_nil]
    exact .single hf
  | case3 ts r hr => cases h
  | case4 ts r t rest hr ih =>
    obtain ⟨others, ho, rfl⟩ := Results.map_eq_ok_iff.mp h
    obtain ⟨front, hf, rfl⟩ := requirementTokens_of_readRequirement hr
    exact .cons hf (ih ho)
  | case5 => cases h

theorem readRequirements_of_last {r : Requirement} (h : readRequirement ts = .ok (r, [])) :
    readRequirements ts = .ok [r] := by
  rw [readRequirements]
  split
  all_goals rename_i hr; rw [h] at hr; cases hr
  rfl

theorem readRequirements_of_comma {r : Requirement} {t : Token}
    (h : readRequirement ts = .ok (r, .sign .comma :: t :: rest)) :
    readRequirements ts = (readRequirements (t :: rest)).map (r :: ·) := by
  rw [readRequirements]
  split
  all_goals rename_i hr; rw [h] at hr; cases hr
  · rfl
  · next hne => exact (hne t rest rfl rfl).elim

theorem readRequirements_of_selectorTokens {rs : List Requirement} (h : SelectorTokens rs ts) :
    readRequirements ts = .ok rs := by
  induction h with
  | @single r ts hr =>
    have h := readRequirement_of_requirementTokens hr (.inl rfl : AtComma [])
    rw [List.append_nil] at h
    exact readRequirements_of_last h
  | @cons r rs ts rest hr hs ih =>
    have h := readRequirement_of_requirementTokens hr (.inr ⟨rest, rfl⟩)
    obtain ⟨t, rest, rfl⟩ := List.exists_cons_of_ne_nil (selectorTokens_ne_nil hs)
    rw [readRequirements_of_comma h, ih]
    rfl

theorem readRequirements_eq_ok_iff {rs : List Requirement} :
    readRequirements ts = .ok rs ↔ SelectorTokens rs ts :=
  ⟨selectorTokens_of_readRequirements, readRequirements_of_selectorTokens⟩

theorem parse_eq_ok_iff {s : List Char} (h : Text.allBlank s = false) {rs : List Requirement} :
    parse s = .ok rs ↔ SelectorTokens rs (tokens s) := by
  rw [parse, h, if_neg (by decide)]
  exact readRequirements_eq_ok_iff

/-- The values that an operator goes with: none for presence and absence, one for a comparison, and
at least one for a set. -/
structure Condition.Filled (condition : Condition) : Prop where
  none : condition.operatorText = Condition.present.operatorText ∨
    condition.operatorText = Condition.absent.operatorText → condition.values.length = 0
  one : ∀ operator : Comparison, condition.operatorText = operator.sign.text →
    condition.values.length = 1
  some : ∀ operator : Membership, condition.operatorText = operator.word →
    1 ≤ condition.values.length

theorem Condition.filled (condition : Condition) : condition.Filled := by
  constructor
  · intro h
    cases condition with
    | present => rfl
    | absent => rfl
    | compare operator v =>
      cases operator <;> simp [operatorText, Comparison.sign, Sign.text] at h
    | member operator v vs => cases operator <;> simp [operatorText, Membership.word] at h
  · intro operator h
    cases condition with
    | present => cases operator <;> simp [operatorText, Comparison.sign, Sign.text] at h
    | absent => cases operator <;> simp [operatorText, Comparison.sign, Sign.text] at h
    | compare _ v => rfl
    | member other v vs =>
      cases operator <;> cases other <;>
        simp [operatorText, Comparison.sign, Sign.text, Membership.word] at h
  · intro operator h
    cases condition with
    | present => cases operator <;> simp [operatorText, Membership.word] at h
    | absent => cases operator <;> simp [operatorText, Membership.word] at h
    | compare _ v => exact Nat.le_refl 1
    | member _ v vs => exact Nat.succ_le_succ (Nat.zero_le _)

theorem canonicalSelector_eq (s : String) : canonicalSelector (some s) =
    match parse s.toList with
    | .ok rs => .ok (String.ofList (printRequirements (sortRequirements rs)))
    | .error fault => .error (.invalidSelector s fault.message) := by
  simp only [canonicalSelector, Option.getD_some, canonical]
  cases parse s.toList <;> rfl

/-- A selector is read exactly when it is blank or its tokens follow the grammar, to the requirements
that they spell; any other text is reported, whole, as an invalid selector. -/
theorem canonicalSelector_exact (s : String) :
    ((∃ c, canonicalSelector (some s) = .ok c) ↔
      Text.allBlank s.toList = true ∨ ∃ rs, SelectorTokens rs (tokens s.toList)) ∧
    (∀ failure, canonicalSelector (some s) = .error failure →
      ∃ detail, failure = .invalidSelector s detail) ∧
    (Text.allBlank s.toList = false → ∀ rs, parse s.toList = .ok rs ↔
      SelectorTokens rs (tokens s.toList)) ∧
    ∀ rs, parse s.toList = .ok rs → ∀ r ∈ rs, r.condition.Filled := by
  refine ⟨?_, ?_, fun h rs => parse_eq_ok_iff h, fun rs _ r _ => r.condition.filled⟩
  · rw [canonicalSelector_eq]
    cases hb : Text.allBlank s.toList with
    | true => simp [parse, hb]
    | false =>
      simp only [← parse_eq_ok_iff hb, Bool.false_eq_true, false_or]
      cases parse s.toList <;> simp
  · intro failure h
    rw [canonicalSelector_eq] at h
    split at h
    · cases h
    · cases h
      exact ⟨_, rfl⟩

end ClusterLookup.Selector
