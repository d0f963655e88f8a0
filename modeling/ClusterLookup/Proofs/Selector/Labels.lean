import ClusterLookup.Proofs.Splitting
import ClusterLookup.Selector.Label

/-!
# The forms of labels

Label names, DNS subdomains, keys, values and integers described by what they consist of, and the
checks of a selector as deciding exactly these forms.
-/

namespace ClusterLookup.Selector

open Text (join pieces)

/-- A word that starts and ends with a character of one class and has characters of another one in
between. -/
def Framed (ends inner : Char → Prop) (w : Word) : Prop :=
  ∃ first, ends first ∧ (w = [first] ∨
    ∃ middle last, w = first :: middle ++ [last] ∧ ends last ∧ ∀ c ∈ middle, inner c)

def IsLabelName (w : Word) : Prop :=
  Framed (fun c => c.isAlphanum = true)
    (fun c => c.isAlphanum = true ∨ c = '-' ∨ c = '_' ∨ c = '.') w

def IsDomainLabel (w : Word) : Prop :=
  Framed (fun c => c.isLower = true ∨ c.isDigit = true)
    (fun c => c.isLower = true ∨ c.isDigit = true ∨ c = '-') w

def IsDomain (w : Word) : Prop :=
  ∃ labels, labels ≠ [] ∧ w = join ['.'] labels ∧ ∀ label ∈ labels, IsDomainLabel label

/-- A name of at most 63 characters, alone or behind a DNS subdomain of at most 253 and a slash. -/
def IsKey (w : Word) : Prop :=
  ∃ name, IsLabelName name ∧ name.length ≤ 63 ∧
    (w = name ∨ ∃ domain, IsDomain domain ∧ domain.length ≤ 253 ∧ w = domain ++ '/' :: name)

def IsValue (w : Word) : Prop := w = [] ∨ (IsLabelName w ∧ w.length ≤ 63)

def IsInteger (w : Word) : Prop :=
  ∃ digits, digits ≠ [] ∧ (∀ c ∈ digits, c.isDigit = true) ∧ (w = digits ∨ w = '-' :: digits)

theorem framed_iff {ends inner : Char → Prop} (h : ∀ c, ends c → inner c) {w : Word} :
    Framed ends inner w ↔ ∃ first last, w.head? = some first ∧ w.getLast? = some last ∧
      ends first ∧ ends last ∧ ∀ c ∈ w, inner c := by
  constructor
  · intro hx
    rcases hx with ⟨first, hf, rfl | ⟨middle, last, rfl, hl, hm⟩⟩
    · exact ⟨first, first, rfl, rfl, hf, hf, by simpa using h first hf⟩
    · refine ⟨first, last, rfl, List.getLast?_concat, hf, hl, ?_⟩
      intro c hc
      simp only [List.cons_append, List.mem_cons, List.mem_append, List.not_mem_nil, or_false] at hc
      rcases hc with rfl | hc | rfl
      · exact h _ hf
      · exact hm c hc
      · exact h _ hl
  · intro hx
    obtain ⟨first, last, hf, hl, ef, el, ha⟩ := hx
    obtain ⟨rest, rfl⟩ : ∃ rest, w = first :: rest := List.head?_eq_some_iff.mp hf
    refine ⟨first, ef, ?_⟩
    rcases List.eq_nil_or_concat rest with rfl | ⟨middle, c, rfl⟩
    · exact .inl rfl
    · rw [List.concat_eq_append] at hl ha ⊢
      rw [← List.cons_append, List.getLast?_concat, Option.some.injEq] at hl
      subst hl
      refine .inr ⟨middle, c, by simp, el, ?_⟩
      intro d hd
      exact ha d (by simp [hd])

theorem Framed.forall_mem {ends inner : Char → Prop} {w : Word} (hw : Framed ends inner w)
    (h : ∀ c, ends c → inner c) : ∀ c ∈ w, inner c := by
  obtain ⟨_, _, _, _, _, _, ha⟩ := (framed_iff h).mp hw
  exact ha

theorem IsLabelName.forall_mem {w : Word} (h : IsLabelName w) :
    ∀ c ∈ w, c.isAlphanum = true ∨ c = '-' ∨ c = '_' ∨ c = '.' :=
  Framed.forall_mem h fun _ => Or.inl

theorem hyphened_of_end (c : Char) (h : c.isLower = true ∨ c.isDigit = true) :
    c.isLower = true ∨ c.isDigit = true ∨ c = '-' :=
  h.imp_right Or.inl

theorem IsDomainLabel.forall_mem {w : Word} (h : IsDomainLabel w) :
    ∀ c ∈ w, c.isLower = true ∨ c.isDigit = true ∨ c = '-' :=
  Framed.forall_mem h hyphened_of_end

theorem Framed.ne_nil {ends inner : Char → Prop} {w : Word} (hw : Framed ends inner w) :
    w ≠ [] := by
  obtain ⟨first, _, rfl | ⟨middle, last, rfl, _, _⟩⟩ := hw <;> simp

theorem isName_iff {w : Word} : isName w = true ↔ IsLabelName w := by
  unfold IsLabelName
  rw [framed_iff fun c => Or.inl]
  unfold isName
  cases hf : w.head? with
  | none => simp
  | some first =>
    cases hl : w.getLast? with
    | none => simp
    | some last => simp [isNameChar, and_assoc, or_assoc]

theorem isDomainChar_iff {c : Char} :
    isDomainChar c = true ↔ c.isLower = true ∨ c.isDigit = true ∨ c = '-' := by
  simp [isDomainChar, or_assoc]

theorem isDomainLabel_iff {w : Word} : isDomainLabel w = true ↔ IsDomainLabel w := by
  unfold IsDomainLabel
  rw [framed_iff hyphened_of_end]
  unfold isDomainLabel
  constructor
  · intro h
    split at h
    · next first last hf hl =>
      simp only [Bool.and_eq_true, bne_iff_ne, List.all_eq_true, isDomainChar_iff] at h
      obtain ⟨⟨hf', hl'⟩, ha⟩ := h
      have ef := ha first (List.mem_of_mem_head? hf)
      have el := ha last (List.mem_of_getLast? hl)
      refine ⟨first, last, hf, hl, ?_, ?_, ha⟩
      · simpa [hf'] using ef
      · simpa [hl'] using el
    · cases h
  · intro hx
    obtain ⟨first, last, hf, hl, ef, el, ha⟩ := hx
    have hyphen : ∀ c : Char, c.isLower = true ∨ c.isDigit = true → c ≠ '-' := by
      rintro c hc rfl
      simp at hc
    simp only [hf, hl, Bool.and_eq_true, bne_iff_ne, List.all_eq_true, isDomainChar_iff]
    exact ⟨⟨hyphen first ef, hyphen last el⟩, ha⟩

theorem not_mem_of_isDomainLabel {w : Word} (h : IsDomainLabel w) : '.' ∉ w := by
  intro hm
  rcases h.forall_mem '.' hm with hc | hc | hc <;> exact absurd hc (by decide)

theorem not_mem_of_isLabelName {w : Word} (h : IsLabelName w) : '/' ∉ w := by
  intro hm
  rcases h.forall_mem '/' hm with hc | hc | hc | hc <;> exact absurd hc (by decide)

theorem isDomain_iff {w : Word} : isDomain w = true ↔ IsDomain w ∧ w.length ≤ 253 := by
  simp only [isDomain, Bool.and_eq_true, decide_eq_true_eq, List.all_eq_true,
    isDomainLabel_iff]
  constructor
  · intro hx
    obtain ⟨hl, hp⟩ := hx
    exact ⟨⟨pieces '.' w, Text.pieces_ne_nil '.' w, (Text.join_pieces '.' w).symm, hp⟩, hl⟩
  · intro hx
    obtain ⟨⟨labels, hne, rfl, hp⟩, hl⟩ := hx
    rw [Text.pieces_join hne fun label hm => not_mem_of_isDomainLabel (hp label hm)]
    exact ⟨hl, hp⟩

theorem isShortName_iff {w : Word} : isShortName w = true ↔ IsLabelName w ∧ w.length ≤ 63 := by
  simp only [isShortName, Bool.and_eq_true, decide_eq_true_eq, isName_iff]
  exact and_comm

theorem isLabelValue_iff {w : Word} : isLabelValue w = true ↔ IsValue w := by
  simp only [isLabelValue, Bool.or_eq_true, List.isEmpty_iff, isShortName_iff, IsValue]

theorem isLabelKey_iff {w : Word} : isLabelKey w = true ↔ IsKey w := by
  unfold isLabelKey keyFault? IsKey
  cases hs : Text.splitLast? '/' w with
  | none =>
    have hm := Text.splitLast?_eq_none_iff.mp hs
    constructor
    · intro h
      have hn : isShortName w = true := by simpa using h
      rw [isShortName_iff] at hn
      exact ⟨w, hn.1, hn.2, .inl rfl⟩
    · intro hx
      rcases hx with ⟨name, hn, hl, rfl | ⟨domain, _, _, rfl⟩⟩
      · simp [isShortName_iff.mpr ⟨hn, hl⟩]
      · simp at hm
  | some parts =>
    obtain ⟨domain, name⟩ := parts
    obtain ⟨rfl, hm⟩ := Text.splitLast?_eq_some_iff.mp hs
    constructor
    · intro h
      have hb : isDomain domain = true ∧ isShortName name = true := by
        simp only at h
        split at h
        · cases h
        · split at h
          · next hd hn => exact ⟨by simpa using hd, hn⟩
          · cases h
      rw [isDomain_iff, isShortName_iff] at hb
      exact ⟨name, hb.2.1, hb.2.2, .inr ⟨domain, hb.1.1, hb.1.2, rfl⟩⟩
    · intro hx
      rcases hx with ⟨other, hn, hl, heq | ⟨front, hd, hdl, heq⟩⟩
      · exact absurd (heq ▸ List.mem_append_right domain List.mem_cons_self)
          (not_mem_of_isLabelName hn)
      · have hsplit := Text.splitLast?_eq_some_iff.mpr ⟨heq, not_mem_of_isLabelName hn⟩
        rw [hs, Option.some.injEq, Prod.mk.injEq] at hsplit
        obtain ⟨rfl, rfl⟩ := hsplit
        simp [isDomain_iff.mpr ⟨hd, hdl⟩, isShortName_iff.mpr ⟨hn, hl⟩]

theorem isInteger_iff {w : Word} : isInteger w = true ↔ IsInteger w := by
  unfold IsInteger
  constructor
  · intro h
    unfold isInteger at h
    split at h
    · next digits =>
      simp only [Bool.and_eq_true, Bool.not_eq_true', List.isEmpty_eq_false_iff,
        List.all_eq_true] at h
      exact ⟨digits, h.1, h.2, .inr rfl⟩
    · simp only [Bool.and_eq_true, Bool.not_eq_true', List.isEmpty_eq_false_iff,
        List.all_eq_true] at h
      exact ⟨_, h.1, h.2, .inl rfl⟩
  · intro hx
    rcases hx with ⟨digits, hne, hd, rfl | rfl⟩
    · unfold isInteger
      split
      · exact absurd (hd '-' List.mem_cons_self) (by decide)
      · simpa using ⟨hne, hd⟩
    · simpa [isInteger] using ⟨hne, hd⟩

end ClusterLookup.Selector
