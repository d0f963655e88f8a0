import ClusterLookup.Proofs.Selector.RoundTrip
import Mathlib.Data.Multiset.MapFold

/-!
# Selectors that require the same

What a selector requires does not depend on the order of its requirements, nor on the order of the values
of a set. Two selectors have one canonical text exactly when they require the same: the canonical text is
read back as a normal form, and the normal form is all that the requirements say but for their order.
-/

namespace ClusterLookup.Selector

open Text (StrictOrder listLt mergeSort_eq_of_perm notAfter textLt)

variable {rs qs : List Requirement} {r q : Requirement}

/-- What a requirement says: the key, the operator, and the values in no order. -/
def Requirement.content (r : Requirement) : Word × Word × Multiset Word :=
  (r.key, r.condition.operatorText, (r.condition.values : Multiset Word))

/-- What requirements say together, in no order. -/
def content (rs : List Requirement) : Multiset (Word × Word × Multiset Word) :=
  (rs.map Requirement.content : Multiset (Word × Word × Multiset Word))

/-! ## Single requirements -/

theorem Requirement.content_sorted (r : Requirement) : r.sorted.content = r.content := by
  have hvalues : (r.sorted.condition.values : Multiset Word) = r.condition.values := by
    rw [sorted, Condition.values_sorted]
    exact Multiset.coe_eq_coe.mpr (sortWords_perm _)
  simp only [content, hvalues]
  rw [sorted, Condition.operatorText_sorted]

theorem sign_text_injective {first second : Comparison} (h : first.sign.text = second.sign.text) :
    first = second := by
  cases first <;> cases second <;> first | rfl | simp [Comparison.sign, Sign.text] at h

theorem sign_text_ne_word (operator : Comparison) (other : Membership) :
    operator.sign.text ≠ other.word := by
  cases operator <;> cases other <;> simp [Comparison.sign, Sign.text, Membership.word]

/-- A condition is its operator and its values as they were written. -/
theorem Condition.eq_of_operatorText_of_values {first second : Condition}
    (ho : first.operatorText = second.operatorText) (hv : first.values = second.values) :
    first = second := by
  cases first with
  | present =>
    cases second with
    | present => rfl
    | absent => simp [operatorText] at ho
    | compare => simp [values] at hv
    | member => simp [values] at hv
  | absent =>
    cases second with
    | absent => rfl
    | present => simp [operatorText] at ho
    | compare => simp [values] at hv
    | member => simp [values] at hv
  | compare operator v =>
    cases second with
    | present => simp [values] at hv
    | absent => simp [values] at hv
    | compare other w =>
      obtain rfl := sign_text_injective ho
      obtain rfl := List.singleton_inj.mp hv
      rfl
    | member other => exact absurd ho (sign_text_ne_word operator other)
  | member operator v vs =>
    cases second with
    | present => simp [values] at hv
    | absent => simp [values] at hv
    | compare other => exact absurd ho.symm (sign_text_ne_word other operator)
    | member other w ws =>
      obtain ⟨rfl, rfl⟩ := List.cons_eq_cons.mp hv
      cases operator <;> cases other <;> first | rfl | simp [operatorText, Membership.word] at ho

theorem Requirement.sorted_eq_of_rank_eq (h : r.rank = q.rank) : r.sorted = q.sorted := by
  simp only [rank, List.cons.injEq] at h
  obtain ⟨hk, ho, hv⟩ := h
  have hcondition : r.condition.sorted = q.condition.sorted := by
    apply Condition.eq_of_operatorText_of_values
    · rw [Condition.operatorText_sorted, Condition.operatorText_sorted, ho]
    · rw [Condition.values_sorted, Condition.values_sorted, hv]
  simp only [sorted, hk, hcondition]

/-- The rank of a requirement, of what it says. -/
def rankOf (content : Word × Word × Multiset Word) : List Word :=
  content.1 :: content.2.1 :: Quot.lift sortWords (fun _ _ => sortWords_eq_of_perm) content.2.2

theorem rankOf_content (r : Requirement) : rankOf r.content = r.rank := rfl

/-! ## Lists of requirements -/

theorem content_eq_of_perm (h : rs.Perm qs) : content rs = content qs :=
  Multiset.coe_eq_coe.mpr (h.map Requirement.content)

theorem content_normalForm (rs : List Requirement) : content (normalForm rs) = content rs := by
  rw [← content_eq_of_perm (sortRequirements_perm rs)]
  simp only [content, normalForm, List.map_map, Function.comp_def, Requirement.content_sorted]

theorem map_rank_sortRequirements (rs : List Requirement) :
    (sortRequirements rs).map Requirement.rank =
      (rs.map Requirement.rank).mergeSort (notAfter (listLt textLt)) :=
  List.map_mergeSort fun _ _ _ _ => rfl

theorem map_sorted_eq_of_map_rank_eq (h : rs.map Requirement.rank = qs.map Requirement.rank) :
    rs.map Requirement.sorted = qs.map Requirement.sorted := by
  induction rs generalizing qs with
  | nil =>
    cases qs with
    | nil => rfl
    | cons q qs => cases h
  | cons r rs ih =>
    cases qs with
    | nil => cases h
    | cons q qs =>
      obtain ⟨hr, hrs⟩ := List.cons_eq_cons.mp h
      simp only [List.map_cons, Requirement.sorted_eq_of_rank_eq hr, ih hrs]

theorem normalForm_eq_of_content_eq (h : content rs = content qs) : normalForm rs = normalForm qs := by
  -- Requirements that say the same have one rank, and the sorted list of ranks is unique.
  apply map_sorted_eq_of_map_rank_eq
  rw [map_rank_sortRequirements, map_rank_sortRequirements]
  have hranks : ((rs.map Requirement.content).map rankOf).Perm
      ((qs.map Requirement.content).map rankOf) := (Multiset.coe_eq_coe.mp h).map rankOf
  simp only [List.map_map, Function.comp_def, rankOf_content] at hranks
  exact mergeSort_eq_of_perm StrictOrder.text.list hranks

/-- The normal form says the same and nothing more. -/
theorem normalForm_eq_iff : normalForm rs = normalForm qs ↔ content rs = content qs := by
  constructor
  · intro h
    rw [← content_normalForm rs, ← content_normalForm qs, h]
  · exact normalForm_eq_of_content_eq

theorem printRequirements_eq_iff {s t : List Char} (hs : parse s = .ok rs) (ht : parse t = .ok qs) :
    printRequirements (sortRequirements rs) = printRequirements (sortRequirements qs) ↔
      content rs = content qs := by
  rw [← normalForm_eq_iff]
  constructor
  · intro h
    have hr := parse_printRequirements hs
    rw [h] at hr
    exact Except.ok.inj (hr.symm.trans (parse_printRequirements ht))
  · intro h
    have hprint : ∀ rs : List Requirement,
        printRequirements (normalForm rs) = printRequirements (sortRequirements rs) :=
      fun rs => printRequirements_map_sorted (sortRequirements rs)
    rw [← hprint, ← hprint, h]

/-- A selector argument is read, none at all as a blank one, and has the canonical text of what is
read. -/
theorem parse_of_canonicalSelector {selector : Option String} {c : String}
    (h : canonicalSelector selector = .ok c) :
    ∃ rs, parse (selector.getD "").toList = .ok rs ∧
      c.toList = printRequirements (sortRequirements rs) := by
  have hsome : canonicalSelector (some (selector.getD "")) = .ok c := h
  rw [canonicalSelector_eq] at hsome
  split at hsome
  · next rs hrs =>
    cases hsome
    exact ⟨rs, hrs, String.toList_ofList⟩
  · cases hsome

/-- Selectors have one canonical text exactly when they require the same. -/
theorem canonicalSelector_eq_iff {first second : Option String} {c d : String}
    (hc : canonicalSelector first = .ok c) (hd : canonicalSelector second = .ok d) :
    c = d ↔ ∃ rs qs, parse (first.getD "").toList = .ok rs ∧
      parse (second.getD "").toList = .ok qs ∧ content rs = content qs := by
  obtain ⟨rs, hrs, hr⟩ := parse_of_canonicalSelector hc
  obtain ⟨qs, hqs, hq⟩ := parse_of_canonicalSelector hd
  rw [← String.toList_inj, hr, hq, printRequirements_eq_iff hrs hqs]
  constructor
  · intro h
    exact ⟨rs, qs, hrs, hqs, h⟩
  · rintro ⟨rs', qs', hrs', hqs', h⟩
    obtain rfl := Except.ok.inj (hrs.symm.trans hrs')
    obtain rfl := Except.ok.inj (hqs.symm.trans hqs')
    exact h

-- A value that is given twice is required twice.
example : canonicalSelector (some " b in (y, x,x) , a") = .ok "a,b in (x,x,y)" := by cbv

end ClusterLookup.Selector
