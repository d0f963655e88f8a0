import ClusterLookup.Proofs.Selector.Grammar
import ClusterLookup.Proofs.Selector.Patterns
import ClusterLookup.Proofs.Selector.Spacing

/-!
# Refused labels

Where in a selector a word is read as a label key or as a label value, and what becomes of the selector
when the word has not the form of one. Main statement: the checks accept exactly the words of these
forms, and a word that is refused fails the whole selector, which the failure names.
-/

namespace ClusterLookup.Selector

variable {front ts rest : List Token} {key v w : Word} {vs : List Word} {rs : List Requirement}
  {t : Token} {fault : Fault}

/-! ## Places of keys and values -/

/-- The tokens in front of a requirement: none, or requirements and a comma. -/
inductive Leading : List Token → Prop where
  | start : Leading []
  | comma {rs : List Requirement} {ts : List Token} : SelectorTokens rs ts →
      Leading (ts ++ [.sign .comma])

/-- The tokens in front of a word that is read as a key. -/
inductive KeyPlace : List Token → Prop where
  | plain {front : List Token} : Leading front → KeyPlace front
  | negated {front : List Token} : Leading front → KeyPlace (front ++ [.sign .bang])

/-- The tokens in front of a value of a set, behind the bracket: none, or values and a comma. -/
inductive LeadingValues : List Token → Prop where
  | start : LeadingValues []
  | comma {v : Word} {vs : List Word} {ts : List Token} : ValuesTokens v vs ts →
      LeadingValues (ts ++ [.sign .comma])

/-- The tokens in front of a word that is read as a value. -/
inductive ValuePlace : List Token → Prop where
  | compared {front : List Token} {key : Word} {operator : Comparison} : Leading front → IsKey key →
      operator = .equal ∨ operator = .doubleEqual ∨ operator = .notEqual →
      ValuePlace (front ++ [.word key, .sign operator.sign])
  | member {front ts : List Token} {key : Word} {operator : Membership} : Leading front → IsKey key →
      LeadingValues ts →
      ValuePlace (front ++ .word key :: .word operator.word :: .sign .opening :: ts)

/-- Whether a fault is one of a word that is there but has not the form it should have. -/
def Fault.IsRefusal : Fault → Prop
  | .badDomain _ | .badKey _ | .badValue _ => True
  | _ => False

/-- The fault of a word in the place of a key or a value. -/
inductive Refused : List Token → Fault → Prop where
  | key {front rest : List Token} {w : Word} {fault : Fault} : KeyPlace front →
      readKey (.word w :: rest) = .error fault → Refused (front ++ .word w :: rest) fault
  | value {front rest : List Token} {w : Word} : ValuePlace front → ¬IsValue w →
      Refused (front ++ .word w :: rest) (.badValue w)

/-! ## Faults of the parts -/

theorem exists_of_keyFault?_eq_domain {domain : Word} (h : keyFault? w = some (.domain domain)) :
    ∃ name, w = domain ++ '/' :: name ∧ '/' ∉ name ∧ ¬DomainShape domain := by
  unfold keyFault? at h
  split at h
  · split at h <;> cases h
  · next found name hs =>
    split at h
    · next hd =>
      cases h
      rw [Bool.not_eq_true', Bool.eq_false_iff, ne_eq, isDomain_iff, ← domainShape_iff] at hd
      obtain ⟨hw, hname⟩ := Text.splitLast?_eq_some_iff.mp hs
      exact ⟨name, hw, hname, hd⟩
    · split at h <;> cases h

/-- A word that is no key is reported with its domain, if that is not one, or else as a whole. -/
theorem readKey_of_not_isKey (h : ¬IsKey w) (rest : List Token) :
    ∃ fault, readKey (.word w :: rest) = .error fault ∧ (fault = .badKey w ∨
      ∃ domain name, w = domain ++ '/' :: name ∧ '/' ∉ name ∧ ¬DomainShape domain ∧
        fault = .badDomain domain) := by
  rw [← isLabelKey_iff, isLabelKey, Option.isNone_iff_eq_none] at h
  obtain ⟨found, hfound⟩ := Option.ne_none_iff_exists'.mp h
  cases found with
  | name => exact ⟨.badKey w, by simp [readKey, readWord, hfound, bind, Except.bind], .inl rfl⟩
  | domain domain =>
    obtain ⟨name, hw, hname, hd⟩ := exists_of_keyFault?_eq_domain hfound
    exact ⟨.badDomain domain, by simp [readKey, readWord, hfound, bind, Except.bind],
      .inr ⟨domain, name, hw, hname, hd, rfl⟩⟩

theorem checkValue_of_not_isValue (h : ¬IsValue w) : checkValue w = .error (.badValue w) := by
  rw [checkValue, if_neg (isLabelValue_iff.not.mpr h)]

theorem readValue_of_not_isValue (h : ¬IsValue w) :
    readValue (.word w :: rest) = .error (.badValue w) := by
  change (checkValue w).map (·, rest) = _
  rw [checkValue_of_not_isValue h]
  rfl

theorem readValues_of_not_isValue (h : ¬IsValue w) :
    readValues (.word w :: rest) = .error (.badValue w) := by
  rw [readValues.eq_def]
  split
  · next heq =>
    cases heq
    rw [checkValue_of_not_isValue h]
    rfl
  · next heq => cases heq
  · rw [readValue_of_not_isValue h]
    rfl

/-- A fault behind some values of a set is the fault of the whole. -/
theorem readValues_comma (hv : ValueTokens v ts) (h : readValues rest = .error fault) :
    readValues (ts ++ .sign .comma :: rest) = .error fault := by
  cases hv with
  | omitted =>
    rw [List.nil_append, readValues, h]
    rfl
  | word hv =>
    rw [List.singleton_append, readValues, checkValue_eq_ok_iff.mpr ⟨rfl, hv⟩, h]
    rfl

theorem readValues_append (hv : ValuesTokens v vs ts) (h : readValues rest = .error fault) :
    readValues (ts ++ .sign .comma :: rest) = .error fault := by
  induction hv with
  | single hv => exact readValues_comma hv h
  | cons hv _ ih =>
    rw [List.append_assoc, List.cons_append]
    exact readValues_comma hv ih

theorem readValues_leading (hts : LeadingValues ts) (h : readValues rest = .error fault) :
    readValues (ts ++ rest) = .error fault := by
  cases hts with
  | start => exact h
  | comma hv =>
    rw [List.append_assoc, List.singleton_append]
    exact readValues_append hv h

theorem readRequirement_of_negated (h : readKey ts = .error fault) :
    readRequirement (.sign .bang :: ts) = .error fault := by
  simp only [readRequirement, h]
  rfl

theorem readRequirement_of_key (h : readKey (.word w :: rest) = .error fault) :
    readRequirement (.word w :: rest) = .error fault := by
  simp only [readRequirement, h]
  rfl

theorem readSet_of_values {operator : Membership} (h : readValues ts = .error fault) :
    readSet operator (.sign .opening :: ts) = .error fault := by
  simp only [readSet, h]
  rfl

theorem readOperand_of_not_isValue {operator : Comparison}
    (ho : operator = .equal ∨ operator = .doubleEqual ∨ operator = .notEqual) (h : ¬IsValue w) :
    readOperand operator (.word w :: rest) = .error (.badValue w) := by
  rcases ho with rfl | rfl | rfl <;> exact readValue_of_not_isValue h

/-! ## Faults of the whole -/

theorem readRequirements_of_error (h : readRequirement ts = .error fault) :
    readRequirements ts = .error fault := by
  rw [readRequirements]
  split
  all_goals rename_i hr; rw [h] at hr; cases hr
  rfl

theorem readRequirements_append (hs : SelectorTokens rs ts)
    (h : readRequirements (t :: rest) = .error fault) :
    readRequirements (ts ++ .sign .comma :: t :: rest) = .error fault := by
  induction hs with
  | @single r ts hr =>
    have hread := readRequirement_of_requirementTokens hr (.inr ⟨t :: rest, rfl⟩)
    rw [readRequirements_of_comma hread, h]
    rfl
  | @cons r rs ts others hr hs ih =>
    obtain ⟨u, us, rfl⟩ := List.exists_cons_of_ne_nil (selectorTokens_ne_nil hs)
    have hread := readRequirement_of_requirementTokens hr
      (.inr ⟨u :: us ++ .sign .comma :: t :: rest, rfl⟩)
    rw [List.append_assoc, List.cons_append, readRequirements_of_comma hread]
    exact Results.map_eq_error_iff.mpr ih

theorem readRequirements_leading (hf : Leading front)
    (h : readRequirement (t :: rest) = .error fault) :
    readRequirements (front ++ t :: rest) = .error fault := by
  cases hf with
  | start => exact readRequirements_of_error h
  | comma hs =>
    rw [List.append_assoc, List.singleton_append]
    exact readRequirements_append hs (readRequirements_of_error h)

theorem readRequirements_of_refused (h : Refused ts fault) : readRequirements ts = .error fault := by
  cases h with
  | key hf h =>
    cases hf with
    | plain hf => exact readRequirements_leading hf (readRequirement_of_key h)
    | negated hf =>
      rw [List.append_assoc, List.singleton_append]
      exact readRequirements_leading hf (readRequirement_of_negated h)
  | value hf h =>
    cases hf with
    | compared hf hk ho =>
      simp only [List.append_assoc, List.cons_append, List.nil_append]
      apply readRequirements_leading hf
      rw [readRequirement_word hk, readCondition_sign, readOperand_of_not_isValue ho h]
      rfl
    | @member front values key operator hf hk hts =>
      simp only [List.append_assoc, List.cons_append]
      apply readRequirements_leading hf
      rw [readRequirement_word hk, readCondition_word,
        readSet_of_values (readValues_leading hts (readValues_of_not_isValue h))]
      rfl

theorem Refused.ne_nil (h : Refused ts fault) : ts ≠ [] := by
  cases h <;> simp

/-! ## No other word is refused -/

theorem not_isRefusal_of_readWord {wanted : Wanted} (h : readWord wanted ts = .error fault) :
    ¬fault.IsRefusal := by
  unfold readWord at h
  split at h
  · cases h
  · cases h
    exact id

theorem exists_word_of_readKey (h : readKey ts = .error fault) (hf : fault.IsRefusal) :
    ∃ w rest, ts = .word w :: rest := by
  rcases Results.bind_eq_error_iff.mp h with h | ⟨⟨w, rest⟩, hread, _⟩
  · exact absurd hf (not_isRefusal_of_readWord h)
  · exact ⟨w, rest, readWord_eq_ok_iff.mp hread⟩

theorem exists_of_readValue (h : readValue ts = .error fault) (hf : fault.IsRefusal) :
    ∃ w rest, ts = .word w :: rest ∧ ¬IsValue w ∧ fault = .badValue w := by
  unfold readValue at h
  split at h
  · next w rest =>
    have hc : checkValue w = .error fault := Results.map_eq_error_iff.mp h
    by_cases hv : IsValue w
    · rw [checkValue_eq_ok_iff.mpr ⟨rfl, hv⟩] at hc
      cases hc
    · rw [checkValue_of_not_isValue hv] at hc
      cases hc
      exact ⟨w, rest, rfl, hv, rfl⟩
  · cases h
  · cases h
  · cases h
  · cases h
    exact hf.elim

theorem LeadingValues.cons {front : List Token} (hv : ValueTokens v ts) (h : LeadingValues front) :
    LeadingValues (ts ++ .sign .comma :: front) := by
  cases h with
  | start => exact .comma (.single hv)
  | comma hvs =>
    rw [← List.cons_append, ← List.append_assoc]
    exact .comma (.cons hv hvs)

theorem exists_of_checkValue (h : checkValue w = .error fault) : ¬IsValue w ∧ fault = .badValue w := by
  unfold checkValue at h
  split at h
  · cases h
  · next hw =>
    cases h
    exact ⟨isLabelValue_iff.not.mp hw, rfl⟩

theorem exists_of_readValues (h : readValues ts = .error fault) (hf : fault.IsRefusal) :
    ∃ front w rest, ts = front ++ .word w :: rest ∧ LeadingValues front ∧ ¬IsValue w ∧
      fault = .badValue w := by
  fun_induction readValues ts with
  | case1 v ts ih =>
    simp only [Results.bind_eq_error_iff, reduceCtorEq, and_false, exists_false, or_false] at h
    rcases h with hc | ⟨u, hc, hr⟩
    · obtain ⟨hv, heq⟩ := exists_of_checkValue hc
      exact ⟨[], v, _, rfl, .start, hv, heq⟩
    · obtain ⟨front, w, rest, rfl, hfront, hw⟩ := ih hr
      have hv := (checkValue_eq_ok_iff.mp hc).2
      exact ⟨_, w, rest, rfl, hfront.cons (.word hv), hw⟩
  | case2 ts ih =>
    simp only [Results.bind_eq_error_iff, reduceCtorEq, and_false, exists_false, or_false] at h
    obtain ⟨front, w, rest, rfl, hfront, hw⟩ := ih h
    exact ⟨_, w, rest, rfl, hfront.cons .omitted, hw⟩
  | case3 ts =>
    simp only [Results.bind_eq_error_iff, reduceCtorEq, and_false, exists_false, or_false] at h
    obtain ⟨w, rest, rfl, hw⟩ := exists_of_readValue h hf
    exact ⟨[], w, rest, rfl, .start, hw⟩

theorem exists_of_readOperand {operator : Comparison} (h : readOperand operator ts = .error fault)
    (hf : fault.IsRefusal) :
    (operator = .equal ∨ operator = .doubleEqual ∨ operator = .notEqual) ∧
      ∃ w rest, ts = .word w :: rest ∧ ¬IsValue w ∧ fault = .badValue w := by
  cases operator with
  | less | greater =>
    rcases Results.bind_eq_error_iff.mp h with h | ⟨⟨w, rest⟩, _, h⟩
    · exact absurd hf (not_isRefusal_of_readWord h)
    · dsimp only at h
      split at h
      · cases h
      · cases h
        exact hf.elim
  | equal => exact ⟨.inl rfl, exists_of_readValue h hf⟩
  | doubleEqual => exact ⟨.inr (.inl rfl), exists_of_readValue h hf⟩
  | notEqual => exact ⟨.inr (.inr rfl), exists_of_readValue h hf⟩

theorem exists_of_readSet {operator : Membership} (h : readSet operator ts = .error fault)
    (hf : fault.IsRefusal) :
    ∃ front w rest, ts = .sign .opening :: front ++ .word w :: rest ∧ LeadingValues front ∧
      ¬IsValue w ∧ fault = .badValue w := by
  unfold readSet at h
  split at h
  · rcases Results.bind_eq_error_iff.mp h with h | ⟨⟨v, vs, behind⟩, _, h⟩
    · obtain ⟨front, w, rest, rfl, hfront, hw⟩ := exists_of_readValues h hf
      exact ⟨front, w, rest, rfl, hfront, hw⟩
    · dsimp only at h
      split at h
      · cases h
      · cases h
        exact hf.elim
  · cases h
    exact hf.elim

theorem Refused.condition {before : List Token} (hb : Leading before) (hk : IsKey key)
    (h : readCondition key ts = .error fault) (hf : fault.IsRefusal) :
    Refused (before ++ .word key :: ts) fault := by
  unfold readCondition at h
  split at h
  · cases h
  · cases h
  · next s ts _ =>
    split at h
    · next operator hs =>
      obtain rfl := ofSign?_eq_some_iff.mp hs
      rcases Results.bind_eq_error_iff.mp h with h | ⟨_, _, h⟩
      · obtain ⟨ho, w, rest, rfl, hw, rfl⟩ := exists_of_readOperand h hf
        have hplace := @Refused.value _ rest _ (.compared hb hk ho) hw
        rwa [List.append_assoc] at hplace
      · cases h
    · cases h
      exact hf.elim
  · next w ts =>
    split at h
    · next operator hw =>
      obtain rfl := ofWord?_eq_some_iff.mp hw
      obtain ⟨front, w, rest, rfl, hfront, hw, rfl⟩ := exists_of_readSet h hf
      have hplace := @Refused.value _ rest _ (@ValuePlace.member _ _ _ operator hb hk hfront) hw
      rwa [List.append_assoc] at hplace
    · cases h
      exact hf.elim

theorem Refused.requirement {before : List Token} (hb : Leading before)
    (h : readRequirement ts = .error fault) (hf : fault.IsRefusal) : Refused (before ++ ts) fault := by
  unfold readRequirement at h
  split at h
  · rcases Results.bind_eq_error_iff.mp h with h | ⟨_, _, h⟩
    · obtain ⟨w, rest, rfl⟩ := exists_word_of_readKey h hf
      have hplace := Refused.key (.negated hb) h
      rwa [List.append_assoc] at hplace
    · cases h
  · rcases Results.bind_eq_error_iff.mp h with h | ⟨⟨key, rest⟩, hread, hcondition⟩
    · obtain ⟨w, rest, rfl⟩ := exists_word_of_readKey h hf
      exact .key (.plain hb) h
    · obtain ⟨rfl, hk⟩ := readKey_eq_ok_iff.mp hread
      rcases Results.bind_eq_error_iff.mp hcondition with hcondition | ⟨_, _, heq⟩
      · exact .condition hb hk hcondition hf
      · cases heq

theorem selectorTokens_snoc {r : Requirement} (hs : SelectorTokens rs ts)
    (hr : RequirementTokens r rest) :
    SelectorTokens (rs ++ [r]) (ts ++ .sign .comma :: rest) := by
  induction hs with
  | single h => exact .cons h (.single hr)
  | cons h _ ih =>
    rw [List.append_assoc, List.cons_append]
    exact .cons h ih

theorem Leading.snoc {r : Requirement} (h : Leading front) (hr : RequirementTokens r ts) :
    Leading (front ++ (ts ++ [.sign .comma])) := by
  cases h with
  | start => exact .comma (.single hr)
  | comma hs =>
    rw [← List.append_assoc, List.append_assoc _ [_], List.singleton_append]
    exact .comma (selectorTokens_snoc hs hr)

theorem Refused.requirements {before : List Token} (hb : Leading before)
    (h : readRequirements ts = .error fault) (hf : fault.IsRefusal) :
    Refused (before ++ ts) fault := by
  fun_induction readRequirements ts generalizing before with
  | case1 ts fault' hr =>
    cases h
    exact .requirement hb hr hf
  | case2 ts r hr => cases h
  | case3 ts r hr =>
    cases h
    exact hf.elim
  | case4 ts r t rest hr ih =>
    obtain ⟨front, hfront, rfl⟩ := requirementTokens_of_readRequirement hr
    have hrest := ih (hb.snoc hfront) (Results.map_eq_error_iff.mp h)
    simpa only [List.append_assoc, List.singleton_append] using hrest
  | case5 =>
    cases h
    exact hf.elim

/-- A selector is refused for the form of a word exactly if that word stands in the place of a key or a
value and has not the form of one, and all in front of it can be read. -/
theorem parse_eq_error_iff_refused {s : List Char} (hf : fault.IsRefusal) :
    parse s = .error fault ↔ Refused (tokens s) fault := by
  unfold parse
  cases hb : Text.allBlank s with
  | true =>
    rw [if_pos rfl, tokens_of_allBlank hb]
    constructor
    · intro h
      cases h
    · intro h
      exact absurd rfl h.ne_nil
  | false =>
    rw [if_neg Bool.false_ne_true]
    constructor
    · intro h
      exact Refused.requirements .start h hf
    · exact readRequirements_of_refused

theorem canonicalSelector_of_refused {s : String} (h : Refused (tokens s.toList) fault)
    (hf : fault.IsRefusal) :
    canonicalSelector (some s) = .error (.invalidSelector s fault.message) := by
  rw [canonicalSelector_eq, (parse_eq_error_iff_refused hf).mpr h]

/-- A word of a selector is accepted as a key or as a value exactly if it has the form of one, which is
also what the patterns say. Any other word is refused, and in the place of a key or a value it fails the
selector by a failure that carries the selector as a whole. -/
theorem labels_exact {s : String} {front rest : List Token} {w : Word}
    (h : tokens s.toList = front ++ .word w :: rest) :
    (readKey (.word w :: rest) = .ok (w, rest) ↔ SplitsInto DomainShape NameShape w) ∧
    (readKey (.word w :: rest) = .ok (w, rest) ↔
      SplitsInto (Matches domainLimit domainPattern) (Matches nameLimit namePattern) w) ∧
    (checkValue w = .ok w ↔ NameShape w) ∧
    (checkValue w = .ok w ↔ Matches nameLimit namePattern w) ∧
    (¬SplitsInto DomainShape NameShape w →
      ∃ fault, readKey (.word w :: rest) = .error fault ∧
        (fault = .badKey w ∨ ∃ domain name, w = domain ++ '/' :: name ∧ '/' ∉ name ∧
          ¬DomainShape domain ∧ fault = .badDomain domain) ∧
        (KeyPlace front →
          canonicalSelector (some s) = .error (.invalidSelector s fault.message))) ∧
    (¬NameShape w → checkValue w = .error (.badValue w) ∧
      (ValuePlace front →
        canonicalSelector (some s) = .error (.invalidSelector s (Fault.badValue w).message))) := by
  have hw : (Token.word w).Proper := proper_of_tokens_eq_append h
  have hblank : ∀ c ∈ w, Text.isBlank c = false := fun c hc => (hw.2 c hc).1
  have hvalue : IsValue w ↔ NameShape w := by
    rw [nameShape_iff, IsValue, or_iff_right hw.1]
  have hkeys : readKey (.word w :: rest) = .ok (w, rest) ↔ SplitsInto DomainShape NameShape w := by
    rw [readKey_eq_ok_iff, splitsInto_iff_isKey]
    exact and_iff_right rfl
  have hvalues : checkValue w = .ok w ↔ NameShape w := by
    rw [checkValue_eq_ok_iff, hvalue]
    exact and_iff_right rfl
  refine ⟨hkeys, ?_, hvalues, ?_, ?_, ?_⟩
  · rw [hkeys, splitsInto_matches_iff hblank]
  · rw [hvalues, matches_namePattern_iff hblank]
  · intro hno
    rw [splitsInto_iff_isKey] at hno
    obtain ⟨fault, hread, hfault⟩ := readKey_of_not_isKey hno rest
    have hrefusal : fault.IsRefusal := by
      rcases hfault with rfl | ⟨_, _, _, _, _, rfl⟩ <;> trivial
    exact ⟨fault, hread, hfault, fun hf =>
      canonicalSelector_of_refused (h ▸ .key hf hread) hrefusal⟩
  · intro hno
    rw [← hvalue] at hno
    exact ⟨checkValue_of_not_isValue hno, fun hf =>
      canonicalSelector_of_refused (h ▸ .value hf hno) trivial⟩

theorem labels_exact_refused :
    let s := "a in (x,-y)"
    let front : List Token :=
      [.word ['a'], .word ['i', 'n'], .sign .opening, .word ['x'], .sign .comma]
    tokens s.toList = front ++ .word ['-', 'y'] :: [.sign .closing] ∧
      ValuePlace front ∧ ¬NameShape ['-', 'y'] ∧
      checkValue ['-', 'y'] = .error (.badValue ['-', 'y']) ∧
      canonicalSelector (some s) = .error (.invalidSelector s "invalid label value '-y'") := by
  intro s front
  have hs : tokens "a in (x,-y)".toList = front ++ .word ['-', 'y'] :: [.sign .closing] := by cbv
  have hkey : IsKey ['a'] := isLabelKey_iff.mp (by decide)
  have hx : IsValue ['x'] := isLabelValue_iff.mp (by decide)
  have hplace : ValuePlace front :=
    @ValuePlace.member [] _ _ .inside .start hkey (.comma (.single (.word hx)))
  have hno : ¬NameShape ['-', 'y'] := fun h => absurd (h.first '-' rfl) (by decide)
  obtain ⟨_, _, _, _, _, hvalue⟩ := labels_exact hs
  exact ⟨hs, hplace, hno, (hvalue hno).1, (hvalue hno).2 hplace⟩

end ClusterLookup.Selector
