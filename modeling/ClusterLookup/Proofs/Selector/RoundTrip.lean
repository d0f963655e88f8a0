import ClusterLookup.Proofs.Selector.Grammar
import ClusterLookup.Proofs.Selector.Tokens
import Mathlib.Data.List.Permutation

/-!
# Canonical selectors

The canonical text of a selector is read back. Its tokens spell the requirements of the selector in
canonical order, each with its values in ascending order, and it is its own canonical text.

The text of a requirement is followed by the end or by a comma. Neither goes on with a word or turns
a sign into a longer one, so the tokens of the whole are those of the parts.
-/

namespace ClusterLookup.Selector

open Text (join notAfter textLt)

variable {key v w : Word} {vs : List Word} {s rest : List Char} {r : Requirement}

/-! ## Conditions with their values in order -/

def Condition.sorted : Condition → Condition
  | .member operator v vs =>
    match sortWords (v :: vs) with
    | [] => .member operator v vs
    | u :: us => .member operator u us
  | condition => condition

theorem Condition.exists_sorted_member (operator : Membership) (v : Word) (vs : List Word) :
    ∃ u us, sortWords (v :: vs) = u :: us ∧
      (Condition.member operator v vs).sorted = .member operator u us := by
  have hp := sortWords_perm (v :: vs)
  cases hs : sortWords (v :: vs) with
  | nil =>
    rw [hs] at hp
    exact absurd hp (List.not_perm_nil_cons v vs)
  | cons u us => exact ⟨u, us, rfl, by simp [Condition.sorted, hs]⟩

def Requirement.sorted (r : Requirement) : Requirement := ⟨r.key, r.condition.sorted⟩

theorem sortWords_pairwise (ws : List Word) :
    (sortWords ws).Pairwise fun v w => notAfter textLt v w = true :=
  Text.pairwise_mergeSort_notAfter Text.StrictOrder.text ws

theorem sortWords_sortWords (ws : List Word) : sortWords (sortWords ws) = sortWords ws :=
  sortWords_eq_of_perm (sortWords_perm ws)

theorem Condition.operatorText_sorted (condition : Condition) :
    condition.sorted.operatorText = condition.operatorText := by
  cases condition with
  | member operator v vs =>
    obtain ⟨u, us, _, h⟩ := exists_sorted_member operator v vs
    rw [h]
    rfl
  | _ => rfl

theorem Condition.values_sorted (condition : Condition) :
    condition.sorted.values = sortWords condition.values := by
  cases condition with
  | present => exact List.mergeSort_nil.symm
  | absent => exact List.mergeSort_nil.symm
  | compare operator v => exact (List.mergeSort_singleton v).symm
  | member operator v vs =>
    obtain ⟨u, us, hs, h⟩ := exists_sorted_member operator v vs
    rw [h]
    exact hs.symm

theorem Requirement.rank_sorted (r : Requirement) : r.sorted.rank = r.rank := by
  simp only [rank, sorted, Condition.operatorText_sorted, Condition.values_sorted,
    sortWords_sortWords]

theorem Requirement.text_sorted (r : Requirement) : r.sorted.text = r.text := by
  obtain ⟨key, condition⟩ := r
  cases condition with
  | member operator v vs =>
    obtain ⟨u, us, hs, h⟩ := Condition.exists_sorted_member operator v vs
    have hsort : sortWords (u :: us) = sortWords (v :: vs) := by rw [← hs, sortWords_sortWords]
    simp only [sorted, h, text, hsort]
  | _ => rfl

/-! ## Tokens of the parts -/

/-- What stands behind a requirement in canonical text: nothing, or a comma and more. -/
def BeforeComma (s : List Char) : Prop := s = [] ∨ ∃ rest, s = ',' :: rest

theorem BeforeComma.endsWord (h : BeforeComma s) : EndsWord s := by
  rcases h with rfl | ⟨rest, rfl⟩
  · exact endsWord_nil
  · exact endsWord_cons rfl

theorem BeforeComma.head_ne (h : BeforeComma s) : s.head? ≠ some '=' := by
  rcases h with rfl | ⟨rest, rfl⟩ <;> simp

theorem endsWord_sign (sign : Sign) : EndsWord (sign.text ++ s) := by
  cases sign <;> exact endsWord_cons rfl

theorem head_append_ne (hw : ∀ c ∈ w, isWordChar c = true) (hr : rest.head? ≠ some '=') :
    (w ++ rest).head? ≠ some '=' := by
  cases w with
  | nil => exact hr
  | cons c w =>
    intro h
    obtain rfl : c = '=' := by simpa using h
    exact absurd (hw '=' List.mem_cons_self) (by decide)

theorem tokens_comma : tokens (',' :: s) = .sign .comma :: tokens s :=
  @tokens_sign s .comma (by simp)

theorem exists_valueTokens (hv : IsValue v) (hr : EndsWord rest) :
    ∃ ts, ValueTokens v ts ∧ tokens (v ++ rest) = ts ++ tokens rest := by
  by_cases hne : v = []
  · subst hne
    exact ⟨[], .omitted, rfl⟩
  · exact ⟨_, .word hv, tokens_word hne (isWordChar_of_mem_value hv) hr⟩

theorem exists_valuesTokens (hv : ∀ u ∈ v :: vs, IsValue u) (hr : EndsWord rest) :
    ∃ ts, ValuesTokens v vs ts ∧ tokens (join [','] (v :: vs) ++ rest) = ts ++ tokens rest := by
  induction vs generalizing v with
  | nil =>
    obtain ⟨ts, hts, heq⟩ := exists_valueTokens (hv v List.mem_cons_self) hr
    exact ⟨ts, .single hts, heq⟩
  | cons u us ih =>
    obtain ⟨others, ho, hothers⟩ := ih fun x hx => hv x (List.mem_cons_of_mem v hx)
    have hcomma : EndsWord (',' :: (join [','] (u :: us) ++ rest)) := endsWord_cons rfl
    obtain ⟨ts, hts, heq⟩ := exists_valueTokens (hv v List.mem_cons_self) hcomma
    refine ⟨ts ++ .sign .comma :: others, .cons hts ho, ?_⟩
    simp only [join, List.append_assoc, List.cons_append, List.nil_append]
    rw [heq, tokens_comma, hothers]

/-- The canonical text of a requirement spells it with its values in order, whatever stands behind
it in canonical text. -/
theorem exists_requirementTokens {front : List Token} (h : RequirementTokens r front)
    (hr : BeforeComma rest) :
    ∃ ts, RequirementTokens r.sorted ts ∧ tokens (r.text ++ rest) = ts ++ tokens rest := by
  cases h with
  | @absent key hk =>
    refine ⟨_, .absent hk, ?_⟩
    have hbang := @tokens_sign (key ++ rest) .bang fun _ =>
      head_append_ne (isWordChar_of_mem_key hk) hr.head_ne
    have hkey := tokens_word (key_ne_nil hk) (isWordChar_of_mem_key hk) hr.endsWord
    rw [hkey] at hbang
    exact hbang
  | present hk =>
    exact ⟨_, .present hk, tokens_word (key_ne_nil hk) (isWordChar_of_mem_key hk) hr.endsWord⟩
  | @equality key v operator ts hk ho hv =>
    have hvalue := isValue_of_valueTokens hv
    obtain ⟨us, hus, heq⟩ := exists_valueTokens hvalue hr.endsWord
    refine ⟨_, .equality hk ho hus, ?_⟩
    have hkey := tokens_word (key_ne_nil hk) (isWordChar_of_mem_key hk)
      (@endsWord_sign (v ++ rest) operator.sign)
    have hsign := @tokens_sign (v ++ rest) operator.sign fun _ =>
      head_append_ne (isWordChar_of_mem_value hvalue) hr.head_ne
    simp only [Requirement.text, List.append_assoc]
    rw [hkey, hsign, heq]
    rfl
  | @order key w operator hk ho hw =>
    refine ⟨_, .order hk ho hw, ?_⟩
    have hkey := tokens_word (key_ne_nil hk) (isWordChar_of_mem_key hk)
      (@endsWord_sign (w ++ rest) operator.sign)
    have hsign := @tokens_sign (w ++ rest) operator.sign fun _ =>
      head_append_ne (isWordChar_of_mem_integer hw) hr.head_ne
    have hvalue := tokens_word (integer_ne_nil hw) (isWordChar_of_mem_integer hw) hr.endsWord
    simp only [Requirement.text, List.append_assoc]
    rw [hkey, hsign, hvalue]
    rfl
  | @member key v vs operator ts hk hv =>
    obtain ⟨u, us, hs, hsorted⟩ := Condition.exists_sorted_member operator v vs
    have hus : ∀ x ∈ u :: us, IsValue x := by
      intro x hx
      rw [← hs] at hx
      exact isValue_of_valuesTokens hv x ((sortWords_perm _).mem_iff.mp hx)
    have hclosing : EndsWord (')' :: rest) := endsWord_cons rfl
    obtain ⟨inner, hinner, heq⟩ := exists_valuesTokens hus hclosing
    refine ⟨.word key :: .word operator.word :: .sign .opening :: inner ++ [.sign .closing], ?_, ?_⟩
    · rw [Requirement.sorted, hsorted]
      exact .member hk hinner
    · have hblank : ∀ s, EndsWord (' ' :: s) := fun s => endsWord_cons rfl
      have hword : ∀ c ∈ operator.word, isWordChar c = true :=
        List.all_eq_true.mp (by cases operator <;> rfl)
      have hne : operator.word ≠ [] := by cases operator <;> simp [Membership.word]
      simp only [Requirement.text, List.append_assoc, List.cons_append, List.nil_append]
      rw [tokens_word (key_ne_nil hk) (isWordChar_of_mem_key hk) (hblank _), tokens_blank rfl,
        tokens_word hne hword (hblank _), tokens_blank rfl]
      have hopening := @tokens_sign (join [','] (u :: us) ++ ')' :: rest) .opening (by simp)
      have hend := @tokens_sign rest .closing (by simp)
      simp only [Sign.text, List.cons_append, List.nil_append] at hopening hend
      rw [hs, hopening, heq, hend]

/-! ## Whole selectors -/

theorem selectorTokens_printRequirements {rs : List Requirement} (hne : rs ≠ [])
    (h : ∀ r ∈ rs, ∃ front, RequirementTokens r front) :
    SelectorTokens (rs.map Requirement.sorted) (tokens (printRequirements rs)) := by
  induction rs with
  | nil => exact absurd rfl hne
  | cons r rs ih =>
    obtain ⟨front, hf⟩ := h r List.mem_cons_self
    cases rs with
    | nil =>
      obtain ⟨ts, hts, heq⟩ := exists_requirementTokens hf (.inl rfl : BeforeComma [])
      rw [List.append_nil, tokens_nil, List.append_nil] at heq
      change SelectorTokens [r.sorted] (tokens r.text)
      rw [heq]
      exact .single hts
    | cons q rs =>
      have hrest := ih (by simp) fun p hp => h p (List.mem_cons_of_mem r hp)
      have hcomma : BeforeComma (',' :: printRequirements (q :: rs)) := .inr ⟨_, rfl⟩
      obtain ⟨ts, hts, heq⟩ := exists_requirementTokens hf hcomma
      rw [tokens_comma] at heq
      have hprint : printRequirements (r :: q :: rs) =
          r.text ++ ',' :: printRequirements (q :: rs) := by
        simp [printRequirements, join]
      rw [hprint, heq]
      exact .cons hts hrest

theorem sortRequirements_pairwise (rs : List Requirement) :
    (sortRequirements rs).Pairwise fun a b => a.precedes b = true := by
  have horder := Text.StrictOrder.text.list
  apply List.pairwise_mergeSort
  · intro a b c
    exact horder.notAfter_trans
  · intro a b
    exact horder.notAfter_total a.rank b.rank

theorem Requirement.precedes_sorted (a b : Requirement) :
    a.sorted.precedes b.sorted = a.precedes b := by
  simp only [precedes, rank_sorted]

/-- The requirements of a selector's canonical text: in order, and each with its values in order. -/
def normalForm (rs : List Requirement) : List Requirement :=
  (sortRequirements rs).map Requirement.sorted

theorem normalForm_pairwise (rs : List Requirement) :
    (normalForm rs).Pairwise fun a b => a.precedes b = true := by
  apply List.pairwise_map.mpr
  simpa only [Requirement.precedes_sorted] using sortRequirements_pairwise rs

theorem printRequirements_map_sorted (rs : List Requirement) :
    printRequirements (rs.map Requirement.sorted) = printRequirements rs := by
  simp only [printRequirements, List.map_map, Function.comp_def, Requirement.text_sorted]

theorem sortRequirements_normalForm (rs : List Requirement) :
    sortRequirements (normalForm rs) = normalForm rs :=
  List.mergeSort_of_pairwise (normalForm_pairwise rs)

theorem parse_printRequirements {rs : List Requirement} (h : parse s = .ok rs) :
    parse (printRequirements (sortRequirements rs)) = .ok (normalForm rs) := by
  cases hb : Text.allBlank s with
  | true =>
    obtain rfl : [] = rs := by simpa [parse, hb] using h
    simp [normalForm, sortRequirements, printRequirements, join, parse]
  | false =>
    have hts := (parse_eq_ok_iff hb).mp h
    have hp := sortRequirements_perm rs
    have hne : sortRequirements rs ≠ [] := by
      intro hnil
      rw [hnil] at hp
      exact ne_nil_of_selectorTokens hts hp.symm.eq_nil
    have hspelled := selectorTokens_printRequirements hne fun r hr =>
      exists_of_mem_selectorTokens hts r (hp.mem_iff.mp hr)
    -- A blank text has no tokens, but a requirement has some.
    have hprinted : Text.allBlank (printRequirements (sortRequirements rs)) = false := by
      rw [Bool.eq_false_iff]
      intro hblank
      exact selectorTokens_ne_nil hspelled (tokens_of_allBlank hblank)
    exact (parse_eq_ok_iff hprinted).mpr hspelled

/-- The same requirement but for the order of its values, which ascend. -/
structure SortedForm (r n : Requirement) : Prop where
  key : n.key = r.key
  operator : n.condition.operatorText = r.condition.operatorText
  values : n.condition.values.Perm r.condition.values
  ascending : n.condition.values.Pairwise fun v w => notAfter textLt v w = true

theorem Requirement.sortedForm_sorted (r : Requirement) : SortedForm r r.sorted where
  key := rfl
  operator := r.condition.operatorText_sorted
  values := by
    rw [sorted, Condition.values_sorted]
    exact sortWords_perm _
  ascending := by
    rw [sorted, Condition.values_sorted]
    exact sortWords_pairwise _

/-- Canonical text is read back as the requirements of the selector, none lost, added or altered:
in canonical order, each with its values in ascending order. It is its own canonical text. -/
theorem canonicalSelector_roundTrip {s c : String} (h : canonicalSelector (some s) = .ok c) :
    ∃ rs ms ns, parse s.toList = .ok rs ∧ parse c.toList = .ok ns ∧
      ms.Perm rs ∧ List.Forall₂ SortedForm ms ns ∧
      ns.Pairwise (fun a b => a.precedes b = true) ∧
      canonicalSelector (some c) = .ok c := by
  rw [canonicalSelector_eq] at h
  split at h
  · next rs hrs =>
    cases h
    have hparse := parse_printRequirements hrs
    rw [← String.toList_ofList (l := printRequirements (sortRequirements rs))] at hparse
    refine ⟨rs, sortRequirements rs, normalForm rs, hrs, hparse, sortRequirements_perm rs, ?_,
      normalForm_pairwise rs, ?_⟩
    · rw [normalForm, List.forall₂_map_right_iff, List.forall₂_same]
      intro r _
      exact r.sortedForm_sorted
    · rw [canonicalSelector_eq, hparse]
      simp only [sortRequirements_normalForm]
      rw [normalForm, printRequirements_map_sorted]
  · cases h

theorem canonicalSelector_roundTrip_sets :
    canonicalSelector (some "in in (notin,,a),b==,!c") = .ok "b==,!c,in in (,a,notin)" ∧
      ∃ rs ms ns, parse "in in (notin,,a),b==,!c".toList = .ok rs ∧
        parse "b==,!c,in in (,a,notin)".toList = .ok ns ∧
        ms.Perm rs ∧ List.Forall₂ SortedForm ms ns ∧
        ns.Pairwise (fun a b => a.precedes b = true) ∧
        canonicalSelector (some "b==,!c,in in (,a,notin)") = .ok "b==,!c,in in (,a,notin)" :=
  ⟨by cbv, canonicalSelector_roundTrip (by cbv)⟩

end ClusterLookup.Selector
