import ClusterLookup.Proofs.Selector.Labels

/-!
# Tokens of concatenated text

What the tokens of a text are when a blank, a sign or a whole word stands in front of it. Words are
maximal, so a word is followed by the end, a blank or a sign; and a sign that begins a longer one is
not followed by the rest of that.
-/

namespace ClusterLookup.Selector

open Text (allBlank isBlank)

variable {c : Char} {w s rest : List Char} {sign : Sign}

/-- Whether a word in front of the text ends where the text starts. -/
def EndsWord (s : List Char) : Prop := ∀ c ∈ s.head?, isWordChar c = false

theorem endsWord_nil : EndsWord [] := by simp [EndsWord]

theorem endsWord_cons (h : isWordChar c = false) : EndsWord (c :: s) := by
  intro d hd
  cases hd
  exact h

theorem isWordChar_iff : isWordChar c = true ↔ isBlank c = false ∧ isSignChar c = false := by
  simp [isWordChar]

theorem isBlank_of_mem_sign (h : c ∈ sign.text) : isBlank c = false := by
  cases sign <;> simp only [Sign.text, List.mem_cons, List.not_mem_nil, or_false] at h
  all_goals first | (subst h; rfl) | (rcases h with rfl | rfl <;> rfl)

theorem sign?_eq_none (h : isSignChar c = false) : sign? (c :: s) = none := by
  unfold sign?
  split
  case h_10 => rfl
  all_goals
    rename_i heq
    cases heq
    cases h

theorem isSignChar_of_sign?_eq_none (h : sign? (c :: s) = none) : isSignChar c = false := by
  unfold sign? at h
  split at h
  case h_10 hnotEqual hdoubleEqual hequal hbang hless hgreater hopening hclosing hcomma =>
    rw [Bool.eq_false_iff]
    intro hc
    simp only [isSignChar, Bool.or_eq_true, decide_eq_true_eq, or_assoc] at hc
    rcases hc with rfl | rfl | rfl | rfl | rfl | rfl | rfl
    · exact hbang s rfl
    · exact hequal s rfl
    · exact hless s rfl
    · exact hgreater s rfl
    · exact hopening s rfl
    · exact hclosing s rfl
    · exact hcomma s rfl
  all_goals cases h

theorem sign?_append
    (h : sign = .bang ∨ sign = .equal → rest.head? ≠ some '=') :
    sign? (sign.text ++ rest) = some (sign, rest) := by
  cases sign with
  | bang =>
    cases rest with
    | nil => rfl
    | cons c rest =>
      have hc : c ≠ '=' := by simpa using h (.inl rfl)
      simp [Sign.text, sign?, hc]
  | equal =>
    cases rest with
    | nil => rfl
    | cons c rest =>
      have hc : c ≠ '=' := by simpa using h (.inr rfl)
      simp [Sign.text, sign?, hc]
  | _ => rfl

@[simp] theorem tokens_nil : tokens [] = [] := by rw [tokens.eq_def]

theorem tokens_blank (h : isBlank c = true) : tokens (c :: s) = tokens s := by
  rw [tokens.eq_def]
  simp only [h, if_true]

theorem tokens_of_allBlank (h : allBlank s = true) : tokens s = [] := by
  induction s with
  | nil => exact tokens_nil
  | cons c s ih =>
    rw [Text.allBlank_cons, Bool.and_eq_true] at h
    rw [tokens_blank h.1, ih h.2]

theorem tokens_sign (h : sign = .bang ∨ sign = .equal → rest.head? ≠ some '=') :
    tokens (sign.text ++ rest) = .sign sign :: tokens rest := by
  have hs := sign?_append h
  obtain ⟨c, tail, htext⟩ : ∃ c tail, sign.text = c :: tail := by
    cases sign <;> exact ⟨_, _, rfl⟩
  have hc : isBlank c = false := isBlank_of_mem_sign (by rw [htext]; exact List.mem_cons_self)
  rw [htext, List.cons_append] at hs ⊢
  rw [tokens.eq_def]
  simp only [hc, Bool.false_eq_true, if_false]
  split
  · next found =>
    rw [hs] at found
    cases found
    rfl
  · next found =>
    rw [hs] at found
    cases found

theorem tokens_word (hne : w ≠ []) (hw : ∀ c ∈ w, isWordChar c = true) (hr : EndsWord rest) :
    tokens (w ++ rest) = .word w :: tokens rest := by
  obtain ⟨c, tail, rfl⟩ := List.exists_cons_of_ne_nil hne
  obtain ⟨hblank, hsign⟩ := isWordChar_iff.mp (hw c List.mem_cons_self)
  have htail : ∀ d ∈ tail, isWordChar d = true := fun d hd => hw d (List.mem_cons_of_mem c hd)
  have htake : rest.takeWhile isWordChar = [] := by
    cases rest with
    | nil => rfl
    | cons d rest => simp [hr d rfl]
  have hdrop : rest.dropWhile isWordChar = rest := by
    cases rest with
    | nil => rfl
    | cons d rest => simp [hr d rfl]
  rw [List.cons_append, tokens.eq_def]
  simp only [hblank, Bool.false_eq_true, if_false]
  split
  · next found =>
    rw [sign?_eq_none hsign] at found
    cases found
  · rw [List.takeWhile_append_of_pos htail, List.dropWhile_append_of_pos htail, htake, hdrop,
      List.append_nil]

/-! ## Labels are words -/

theorem isBlank_of_isAlphanum (h : c.isAlphanum = true) : isBlank c = false := by
  have hr : 48 ≤ c.toNat ∧ c.toNat ≤ 122 := by
    delta Char.isAlphanum Char.isAlpha Char.isUpper Char.isLower Char.isDigit at h
    simp [UInt32.le_iff_toNat_le] at h
    omega
  simp only [isBlank, Bool.or_eq_false_iff, Bool.and_eq_false_iff, decide_eq_false_iff_not,
    beq_eq_false_iff_ne]
  omega

theorem isSignChar_of_isAlphanum (h : c.isAlphanum = true) : isSignChar c = false := by
  cases hs : isSignChar c with
  | false => rfl
  | true =>
    simp only [isSignChar, Bool.or_eq_true, decide_eq_true_eq, or_assoc] at hs
    rcases hs with rfl | rfl | rfl | rfl | rfl | rfl | rfl <;> cases h

theorem isWordChar_of_isAlphanum (h : c.isAlphanum = true) : isWordChar c = true :=
  isWordChar_iff.mpr ⟨isBlank_of_isAlphanum h, isSignChar_of_isAlphanum h⟩

theorem isAlphanum_of_isLower_or_isDigit (h : c.isLower = true ∨ c.isDigit = true) :
    c.isAlphanum = true := by
  change ((c.isUpper || c.isLower) || c.isDigit) = true
  rcases h with h | h <;> simp [h]

theorem isWordChar_of_mem_labelName (h : IsLabelName w) : ∀ c ∈ w, isWordChar c = true := by
  intro c hc
  rcases h.forall_mem c hc with hc | rfl | rfl | rfl
  · exact isWordChar_of_isAlphanum hc
  all_goals rfl

theorem isWordChar_of_mem_domainLabel (h : IsDomainLabel w) : ∀ c ∈ w, isWordChar c = true := by
  intro c hc
  rcases h.forall_mem c hc with hc | hc | rfl
  · exact isWordChar_of_isAlphanum (isAlphanum_of_isLower_or_isDigit (.inl hc))
  · exact isWordChar_of_isAlphanum (isAlphanum_of_isLower_or_isDigit (.inr hc))
  · rfl

theorem isWordChar_of_mem_domain (h : IsDomain w) : ∀ c ∈ w, isWordChar c = true := by
  obtain ⟨labels, _, rfl, hl⟩ := h
  intro c hc
  rcases Text.mem_of_mem_join hc with hc | ⟨label, hm, hc⟩
  · obtain rfl := List.mem_singleton.mp hc
    rfl
  · exact isWordChar_of_mem_domainLabel (hl label hm) c hc

theorem isWordChar_of_mem_key (h : IsKey w) : ∀ c ∈ w, isWordChar c = true := by
  obtain ⟨name, hn, _, rfl | ⟨domain, hd, _, rfl⟩⟩ := h
  · exact isWordChar_of_mem_labelName hn
  · intro c hc
    rw [List.mem_append, List.mem_cons] at hc
    rcases hc with hc | rfl | hc
    · exact isWordChar_of_mem_domain hd c hc
    · rfl
    · exact isWordChar_of_mem_labelName hn c hc

theorem key_ne_nil (h : IsKey w) : w ≠ [] := by
  obtain ⟨name, hn, _, rfl | ⟨domain, _, _, rfl⟩⟩ := h
  · exact hn.ne_nil
  · simp

theorem isWordChar_of_mem_value (h : IsValue w) : ∀ c ∈ w, isWordChar c = true := by
  rcases h with rfl | ⟨hn, _⟩
  · simp
  · exact isWordChar_of_mem_labelName hn

theorem isWordChar_of_mem_integer (h : IsInteger w) : ∀ c ∈ w, isWordChar c = true := by
  obtain ⟨digits, _, hd, hw⟩ := h
  have hdigits : ∀ c ∈ digits, isWordChar c = true := fun c hc =>
    isWordChar_of_isAlphanum (isAlphanum_of_isLower_or_isDigit (.inr (hd c hc)))
  rcases hw with rfl | rfl
  · exact hdigits
  · exact List.forall_mem_cons.mpr ⟨rfl, hdigits⟩

theorem integer_ne_nil (h : IsInteger w) : w ≠ [] := by
  obtain ⟨digits, hne, _, rfl | rfl⟩ := h
  · exact hne
  · simp

end ClusterLookup.Selector
