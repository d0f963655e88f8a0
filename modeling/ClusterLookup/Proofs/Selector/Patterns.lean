import ClusterLookup.Proofs.Selector.Labels
import Mathlib.Computability.RegularExpressions

/-!
# Patterns of labels

The forms of label names, values and keys twice more: as regular expressions, and character by
character. Main statements: the words that the patterns match are the names and the DNS subdomains, and
a key is what the characters on both sides of its last slash make it.

An end anchor also matches in front of a line break that ends the text, so the patterns alone would let
one more character through; a word of a selector has no line break.
-/

namespace ClusterLookup.Selector

open Text (isBlank pieces)

variable {c first last : Char} {cs : List Char} {w domain name : Word}

/-! ## Regular expressions -/

/-- The characters from the first to the last one by code point. -/
def charRange (first last : Char) : List Char :=
  ((List.range (last.toNat + 1)).map Char.ofNat).filter fun c =>
    first.toNat ≤ c.toNat && c.toNat ≤ last.toNat

/-- One character of a class. -/
def oneOf (cs : List Char) : RegularExpression Char := (cs.map .char).foldr (· + ·) 0

/-- A character of the first class, and maybe more that end with another one of it. -/
def framedPattern (ends inner : List Char) : RegularExpression Char :=
  oneOf ends * (1 + (oneOf inner).star * oneOf ends)

def nameEnds : List Char := charRange 'A' 'Z' ++ charRange 'a' 'z' ++ charRange '0' '9'

def namePattern : RegularExpression Char := framedPattern nameEnds ('-' :: nameEnds ++ ['_', '.'])

def domainEnds : List Char := charRange 'a' 'z' ++ charRange '0' '9'

def domainLabelPattern : RegularExpression Char := framedPattern domainEnds ('-' :: domainEnds)

def domainPattern : RegularExpression Char :=
  domainLabelPattern * (oneOf ['.'] * domainLabelPattern).star

/-- Whether a word matches from its start to an end anchor, which also matches in front of a last
line break. -/
def Anchored (pattern : RegularExpression Char) (w : Word) : Prop :=
  w ∈ pattern.matches' ∨ ∃ v ∈ pattern.matches', w = v ++ ['\n']

/-- Whether a word is not empty, no longer than a limit, and matches. -/
def Matches (limit : Nat) (pattern : RegularExpression Char) (w : Word) : Prop :=
  w ≠ [] ∧ w.length ≤ limit ∧ Anchored pattern w

theorem mem_charRange_iff :
    c ∈ charRange first last ↔ first.toNat ≤ c.toNat ∧ c.toNat ≤ last.toNat := by
  simp only [charRange, List.mem_filter, List.mem_map, List.mem_range, Bool.and_eq_true,
    decide_eq_true_eq]
  constructor
  · intro h
    exact h.2
  · intro h
    exact ⟨⟨c.toNat, by omega, Char.ofNat_toNat c⟩, h⟩

theorem mem_lower_iff : c ∈ charRange 'a' 'z' ↔ c.isLower = true := by
  rw [mem_charRange_iff]
  delta Char.isLower
  simp [UInt32.le_iff_toNat_le]

theorem mem_upper_iff : c ∈ charRange 'A' 'Z' ↔ c.isUpper = true := by
  rw [mem_charRange_iff]
  delta Char.isUpper
  simp [UInt32.le_iff_toNat_le]

theorem mem_digit_iff : c ∈ charRange '0' '9' ↔ c.isDigit = true := by
  rw [mem_charRange_iff]
  delta Char.isDigit
  simp [UInt32.le_iff_toNat_le]

theorem mem_nameEnds_iff : c ∈ nameEnds ↔ c.isAlphanum = true := by
  delta Char.isAlphanum Char.isAlpha
  simp only [nameEnds, List.mem_append, mem_upper_iff, mem_lower_iff, mem_digit_iff, Bool.or_eq_true]

theorem mem_domainEnds_iff : c ∈ domainEnds ↔ c.isLower = true ∨ c.isDigit = true := by
  simp only [domainEnds, List.mem_append, mem_lower_iff, mem_digit_iff]

theorem mem_oneOf_iff : w ∈ (oneOf cs).matches' ↔ ∃ c ∈ cs, w = [c] := by
  induction cs with
  | nil => simp [oneOf, RegularExpression.matches'_zero]
  | cons c cs ih =>
    change w ∈ (RegularExpression.char c + oneOf cs).matches' ↔ _
    rw [RegularExpression.matches'_add, Language.mem_add, ih, List.exists_mem_cons_iff]
    rfl

theorem mem_star_oneOf_iff : w ∈ (oneOf cs).star.matches' ↔ ∀ c ∈ w, c ∈ cs := by
  rw [RegularExpression.matches'_star, Language.mem_kstar]
  constructor
  · rintro ⟨parts, rfl, hparts⟩ c hc
    obtain ⟨part, hpart, hc⟩ := List.mem_flatten.mp hc
    obtain ⟨d, hd, rfl⟩ := mem_oneOf_iff.mp (hparts part hpart)
    obtain rfl := List.mem_singleton.mp hc
    exact hd
  · intro h
    refine ⟨w.map fun c => [c], (List.flatMap_singleton' w).symm, ?_⟩
    intro part hpart
    obtain ⟨c, hc, rfl⟩ := List.mem_map.mp hpart
    exact mem_oneOf_iff.mpr ⟨c, h c hc, rfl⟩

theorem mem_framedPattern_iff {ends inner : List Char} :
    w ∈ (framedPattern ends inner).matches' ↔ Framed (· ∈ ends) (· ∈ inner) w := by
  simp only [framedPattern, RegularExpression.matches'_mul, RegularExpression.matches'_add,
    RegularExpression.matches'_epsilon, Language.mem_mul, Language.mem_add, Language.mem_one,
    mem_oneOf_iff, mem_star_oneOf_iff]
  constructor
  · rintro ⟨_, ⟨first, hfirst, rfl⟩, _, rfl | ⟨middle, hm, _, ⟨last, hlast, rfl⟩, rfl⟩, rfl⟩
    · exact ⟨first, hfirst, .inl rfl⟩
    · exact ⟨first, hfirst, .inr ⟨middle, last, rfl, hlast, hm⟩⟩
  · rintro ⟨first, hfirst, rfl | ⟨middle, last, rfl, hlast, hm⟩⟩
    · exact ⟨[first], ⟨first, hfirst, rfl⟩, [], .inl rfl, rfl⟩
    · exact ⟨[first], ⟨first, hfirst, rfl⟩, middle ++ [last],
        .inr ⟨middle, hm, [last], ⟨last, hlast, rfl⟩, rfl⟩, rfl⟩

theorem Framed.congr {ends inner ends' inner' : Char → Prop} (he : ∀ c, ends c ↔ ends' c)
    (hi : ∀ c, inner c ↔ inner' c) : Framed ends inner w ↔ Framed ends' inner' w := by
  obtain rfl : ends = ends' := funext fun c => propext (he c)
  obtain rfl : inner = inner' := funext fun c => propext (hi c)
  rfl

theorem mem_namePattern_iff : w ∈ namePattern.matches' ↔ IsLabelName w := by
  rw [namePattern, mem_framedPattern_iff, IsLabelName]
  apply Framed.congr
  · exact fun c => mem_nameEnds_iff
  · intro c
    simp only [List.cons_append, List.mem_cons, List.mem_append, mem_nameEnds_iff, List.not_mem_nil,
      or_false]
    exact or_left_comm

theorem mem_domainLabelPattern_iff : w ∈ domainLabelPattern.matches' ↔ IsDomainLabel w := by
  rw [domainLabelPattern, mem_framedPattern_iff, IsDomainLabel]
  apply Framed.congr
  · exact fun c => mem_domainEnds_iff
  · intro c
    rw [List.mem_cons, mem_domainEnds_iff, or_comm, or_assoc]

/-- The labels behind the first one, each with its point in front. -/
theorem exists_labels {parts : List Word}
    (h : ∀ part ∈ parts, part ∈ (oneOf ['.'] * domainLabelPattern).matches') :
    ∃ labels : List Word, parts = labels.map ('.' :: ·) ∧ ∀ label ∈ labels, IsDomainLabel label := by
  induction parts with
  | nil => exact ⟨[], rfl, by simp⟩
  | cons part parts ih =>
    obtain ⟨hpart, hparts⟩ := List.forall_mem_cons.mp h
    obtain ⟨labels, rfl, hlabels⟩ := ih hparts
    rw [RegularExpression.matches'_mul, Language.mem_mul] at hpart
    obtain ⟨point, hpoint, label, hlabel, rfl⟩ := hpart
    obtain ⟨c, hc, rfl⟩ := mem_oneOf_iff.mp hpoint
    obtain rfl := List.mem_singleton.mp hc
    exact ⟨label :: labels, rfl,
      List.forall_mem_cons.mpr ⟨mem_domainLabelPattern_iff.mp hlabel, hlabels⟩⟩

theorem mem_domainPattern_iff : w ∈ domainPattern.matches' ↔ IsDomain w := by
  rw [domainPattern, RegularExpression.matches'_mul, RegularExpression.matches'_star,
    Language.mem_mul]
  constructor
  · rintro ⟨label, hlabel, _, hrest, rfl⟩
    obtain ⟨parts, rfl, hparts⟩ := Language.mem_kstar.mp hrest
    obtain ⟨labels, rfl, hlabels⟩ := exists_labels hparts
    exact ⟨label :: labels, List.cons_ne_nil _ _, (Text.join_cons '.' label labels).symm,
      List.forall_mem_cons.mpr ⟨mem_domainLabelPattern_iff.mp hlabel, hlabels⟩⟩
  · rintro ⟨labels, hne, rfl, hlabels⟩
    obtain ⟨label, others, rfl⟩ := List.exists_cons_of_ne_nil hne
    obtain ⟨hlabel, hothers⟩ := List.forall_mem_cons.mp hlabels
    refine ⟨label, mem_domainLabelPattern_iff.mpr hlabel, _, ?_, (Text.join_cons '.' label others).symm⟩
    apply Language.join_mem_kstar
    intro part hpart
    obtain ⟨other, ho, rfl⟩ := List.mem_map.mp hpart
    exact Language.append_mem_mul (mem_oneOf_iff.mpr ⟨'.', List.mem_singleton_self '.', rfl⟩)
      (mem_domainLabelPattern_iff.mpr (hothers other ho))

theorem anchored_iff {pattern : RegularExpression Char} (h : ∀ c ∈ w, isBlank c = false) :
    Anchored pattern w ↔ w ∈ pattern.matches' := by
  constructor
  · rintro (hm | ⟨v, _, rfl⟩)
    · exact hm
    · exact absurd (h '\n' (by simp)) (by decide)
  · exact .inl

/-! ## Character by character -/

/-- A label name of 1 to 63 characters. -/
structure NameShape (w : Word) : Prop where
  length : 1 ≤ w.length ∧ w.length ≤ 63
  chars : ∀ c ∈ w, c.isAlphanum = true ∨ c = '_' ∨ c = '.' ∨ c = '-'
  first : ∀ c ∈ w.head?, c.isAlphanum = true
  last : ∀ c ∈ w.getLast?, c.isAlphanum = true

/-- One label of a DNS subdomain. -/
structure DomainLabelShape (w : Word) : Prop where
  ne_nil : w ≠ []
  chars : ∀ c ∈ w, c.isLower = true ∨ c.isDigit = true ∨ c = '-'
  first : w.head? ≠ some '-'
  last : w.getLast? ≠ some '-'

/-- A DNS subdomain of 1 to 253 characters. -/
structure DomainShape (w : Word) : Prop where
  length : 1 ≤ w.length ∧ w.length ≤ 253
  labels : ∀ label ∈ pieces '.' w, DomainLabelShape label

/-- Whether a word is a name, or behind and in front of its last slash a name and a domain. -/
def SplitsInto (isDomain isName : Word → Prop) (w : Word) : Prop :=
  ('/' ∉ w ∧ isName w) ∨
    ∃ domain name, w = domain ++ '/' :: name ∧ '/' ∉ name ∧ isDomain domain ∧ isName name

theorem nameShape_iff : NameShape w ↔ IsLabelName w ∧ w.length ≤ 63 := by
  unfold IsLabelName
  rw [framed_iff fun c => Or.inl]
  constructor
  · intro h
    have hne : w ≠ [] := List.length_pos_iff.mp h.length.1
    refine ⟨⟨w.head hne, w.getLast hne, List.head?_eq_some_head hne, List.getLast?_eq_some_getLast hne,
      h.first _ (List.head?_eq_some_head hne), h.last _ (List.getLast?_eq_some_getLast hne), ?_⟩,
      h.length.2⟩
    intro c hc
    have := h.chars c hc
    tauto
  · rintro ⟨⟨first, last, hf, hl, ef, el, ha⟩, hlength⟩
    refine ⟨⟨List.length_pos_of_mem (List.mem_of_mem_head? hf), hlength⟩, ?_, ?_, ?_⟩
    · intro c hc
      have := ha c hc
      tauto
    · intro c hc
      obtain rfl := Option.some.inj (hf.symm.trans hc)
      exact ef
    · intro c hc
      obtain rfl := Option.some.inj (hl.symm.trans hc)
      exact el

theorem domainLabelShape_iff : DomainLabelShape w ↔ isDomainLabel w = true := by
  constructor
  · intro h
    have hf := List.head?_eq_some_head h.ne_nil
    have hl := List.getLast?_eq_some_getLast h.ne_nil
    simp only [isDomainLabel, hf, hl, Bool.and_eq_true, bne_iff_ne, List.all_eq_true,
      isDomainChar_iff]
    exact ⟨⟨fun hc => h.first (hf.trans (congrArg some hc)),
      fun hc => h.last (hl.trans (congrArg some hc))⟩, h.chars⟩
  · intro h
    unfold isDomainLabel at h
    split at h
    · next first last hf hl =>
      simp only [Bool.and_eq_true, bne_iff_ne, List.all_eq_true, isDomainChar_iff] at h
      obtain ⟨⟨hfirst, hlast⟩, hall⟩ := h
      refine ⟨?_, hall, ?_, ?_⟩
      · rintro rfl
        cases hf
      · rwa [hf, ne_eq, Option.some.injEq]
      · rwa [hl, ne_eq, Option.some.injEq]
    · cases h

theorem domainShape_iff : DomainShape w ↔ IsDomain w ∧ w.length ≤ 253 := by
  simp only [← isDomain_iff, isDomain, Bool.and_eq_true, decide_eq_true_eq, List.all_eq_true,
    ← domainLabelShape_iff]
  constructor
  · intro h
    exact ⟨h.length.2, h.labels⟩
  · rintro ⟨hlength, hlabels⟩
    refine ⟨⟨?_, hlength⟩, hlabels⟩
    -- Empty text has one piece, which is empty and no label.
    rw [Nat.one_le_iff_ne_zero, ne_eq, List.length_eq_zero_iff]
    rintro rfl
    exact (hlabels [] List.mem_cons_self).ne_nil rfl

theorem splitsInto_iff_isKey : SplitsInto DomainShape NameShape w ↔ IsKey w := by
  simp only [SplitsInto, nameShape_iff, domainShape_iff]
  constructor
  · rintro (⟨_, hname, hlength⟩ | ⟨domain, name, rfl, _, ⟨hdomain, hlimit⟩, hname, hlength⟩)
    · exact ⟨w, hname, hlength, .inl rfl⟩
    · exact ⟨name, hname, hlength, .inr ⟨domain, hdomain, hlimit, rfl⟩⟩
  · rintro ⟨name, hname, hlength, rfl | ⟨domain, hdomain, hlimit, rfl⟩⟩
    · exact .inl ⟨not_mem_of_isLabelName hname, hname, hlength⟩
    · exact .inr ⟨domain, name, rfl, not_mem_of_isLabelName hname, ⟨hdomain, hlimit⟩, hname, hlength⟩

/-! ## Patterns and characters agree -/

theorem matches_namePattern_iff (h : ∀ c ∈ w, isBlank c = false) :
    Matches nameLimit namePattern w ↔ NameShape w := by
  rw [Matches, anchored_iff h, mem_namePattern_iff, nameShape_iff]
  constructor
  · rintro ⟨_, hlength, hname⟩
    exact ⟨hname, hlength⟩
  · rintro ⟨hname, hlength⟩
    exact ⟨hname.ne_nil, hlength, hname⟩

theorem matches_domainPattern_iff (h : ∀ c ∈ w, isBlank c = false) :
    Matches domainLimit domainPattern w ↔ DomainShape w := by
  rw [Matches, anchored_iff h, mem_domainPattern_iff]
  constructor
  · rintro ⟨_, hlength, hdomain⟩
    exact domainShape_iff.mpr ⟨hdomain, hlength⟩
  · intro hshape
    have hdomain := domainShape_iff.mp hshape
    exact ⟨List.length_pos_iff.mp hshape.length.1, hdomain.2, hdomain.1⟩

theorem splitsInto_matches_iff (h : ∀ c ∈ w, isBlank c = false) :
    SplitsInto (Matches domainLimit domainPattern) (Matches nameLimit namePattern) w ↔
      SplitsInto DomainShape NameShape w := by
  unfold SplitsInto
  apply or_congr
  · rw [matches_namePattern_iff h]
  · apply exists_congr
    intro domain
    apply exists_congr
    intro name
    apply and_congr_right
    rintro rfl
    have hdomain : ∀ c ∈ domain, isBlank c = false := fun c hc => h c (List.mem_append_left _ hc)
    have hname : ∀ c ∈ name, isBlank c = false := fun c hc =>
      h c (List.mem_append_right _ (List.mem_cons_of_mem _ hc))
    rw [matches_domainPattern_iff hdomain, matches_namePattern_iff hname]

end ClusterLookup.Selector
