import ClusterLookup.Proofs.Selector.Tokens

/-!
# Spacing of tokens

A text is its tokens in order, with blanks in front of, between and behind them. Where no blank stands
between two tokens, the first ends because the second cannot go on with it; so more blanks change
nothing, and single blanks between any tokens are enough to read them back.

Everything follows from what stands behind one token: it is read off the front of a text exactly when
the rest does not go on with it.
-/

namespace ClusterLookup.Selector

open Text (allBlank isBlank join)

variable {c : Char} {s rest front gap back v w : List Char} {sign : Sign} {t : Token}
  {ts us : List Token}

/-- Whether a token is a sign, or a word of some characters, none of them a blank or of a sign. -/
def Token.Proper : Token → Prop
  | .sign _ => True
  | .word w => w ≠ [] ∧ ∀ c ∈ w, isBlank c = false ∧ isSignChar c = false

/-- Whether a token in front of the text ends where the text starts. -/
def Token.EndsAt : Token → List Char → Prop
  | .sign s, rest => s = .bang ∨ s = .equal → rest.head? ≠ some '='
  | .word _, rest => EndsWord rest

/-- Whether a text is these tokens in order, with any blanks around them. -/
def Spaced : List Token → List Char → Prop
  | [], s => allBlank s = true
  | t :: ts, s => ∃ gap rest, allBlank gap = true ∧ s = gap ++ (t.text ++ rest) ∧ Spaced ts rest

/-! ## One token -/

namespace Token

theorem isWordChar_of_mem (h : (word w).Proper) : ∀ c ∈ w, isWordChar c = true :=
  fun c hc => isWordChar_iff.mpr (h.2 c hc)

theorem proper_word (hne : w ≠ []) (h : ∀ c ∈ w, isWordChar c = true) : (word w).Proper :=
  ⟨hne, fun c hc => isWordChar_iff.mp (h c hc)⟩

theorem isBlank_of_mem_text (h : t.Proper) (hc : c ∈ t.text) : isBlank c = false := by
  cases t with
  | sign s => exact isBlank_of_mem_sign hc
  | word w => exact (h.2 c hc).1

theorem endsAt_nil (t : Token) : t.EndsAt [] := by
  cases t with
  | sign s => simp [EndsAt]
  | word w => exact endsWord_nil

/-- Only the first character behind a token matters. -/
theorem endsAt_cons_iff : t.EndsAt (c :: s) ↔ t.EndsAt [c] := by
  cases t <;> exact Iff.rfl

theorem endsAt_blank (h : isBlank c = true) : t.EndsAt (c :: s) := by
  cases t with
  | sign s =>
    intro _ hc
    obtain rfl : c = '=' := by simpa using hc
    exact absurd h (by decide)
  | word w => exact endsWord_cons (by simp [isWordChar, h])

theorem EndsAt.insert (h : t.EndsAt (s ++ back)) (hg : allBlank gap = true) :
    t.EndsAt (s ++ (gap ++ back)) := by
  cases s with
  | cons c s => exact endsAt_cons_iff.mpr (endsAt_cons_iff.mp h)
  | nil =>
    cases gap with
    | nil => exact h
    | cons c gap =>
      rw [Text.allBlank_cons, Bool.and_eq_true] at hg
      exact endsAt_blank hg.1

end Token

open Token (endsAt_nil endsAt_blank isWordChar_of_mem proper_word isBlank_of_mem_text)

theorem tokens_text_append (ht : t.Proper) (hr : t.EndsAt rest) :
    tokens (t.text ++ rest) = t :: tokens rest := by
  cases t with
  | sign s => exact tokens_sign hr
  | word w => exact tokens_word ht.1 (isWordChar_of_mem ht) hr

theorem endsWord_dropWhile (s : List Char) : EndsWord (s.dropWhile isWordChar) := by
  intro c hc
  have h := List.head?_dropWhile_not isWordChar s
  rw [Option.mem_def.mp hc] at h
  simpa using h

theorem endsAt_of_tokens (ht : t.Proper) (h : tokens (t.text ++ rest) = t :: ts) :
    t.EndsAt rest := by
  cases t with
  | sign s =>
    -- With an equals sign behind it, a longer sign would have been read.
    intro hs heq
    obtain ⟨others, rfl⟩ := List.head?_eq_some_iff.mp heq
    rcases hs with rfl | rfl
    · have hlonger := @tokens_sign others .notEqual (by simp)
      exact absurd (h.symm.trans hlonger) (by simp)
    · have hlonger := @tokens_sign others .doubleEqual (by simp)
      exact absurd (h.symm.trans hlonger) (by simp)
  | word w =>
    -- The word that is read takes all that could go on with it.
    have hword : ∀ c ∈ w ++ rest.takeWhile isWordChar, isWordChar c = true := by
      intro c hc
      rcases List.mem_append.mp hc with hc | hc
      · exact isWordChar_of_mem ht c hc
      · exact List.mem_takeWhile_imp hc
    have hread := tokens_word (by simp [ht.1]) hword (endsWord_dropWhile rest)
    rw [List.append_assoc, List.takeWhile_append_dropWhile] at hread
    have heq := (List.cons.inj (h.symm.trans hread)).1
    have hnone : rest.takeWhile isWordChar = [] := by simpa using heq
    have hdrop := endsWord_dropWhile rest
    rwa [← @List.takeWhile_append_dropWhile _ isWordChar rest, hnone]

/-- A token is the first of a text that it starts exactly when the rest does not go on with it. -/
theorem tokens_text_append_iff (ht : t.Proper) :
    tokens (t.text ++ rest) = t :: ts ↔ t.EndsAt rest ∧ tokens rest = ts := by
  constructor
  · intro h
    have hr := endsAt_of_tokens ht h
    rw [tokens_text_append ht hr] at h
    exact ⟨hr, (List.cons.inj h).2⟩
  · rintro ⟨hr, rfl⟩
    exact tokens_text_append ht hr

/-! ## The tokens of a text -/

theorem tokens_gap_append (h : allBlank gap = true) : tokens (gap ++ s) = tokens s := by
  induction gap with
  | nil => rfl
  | cons c gap ih =>
    rw [Text.allBlank_cons, Bool.and_eq_true] at h
    rw [List.cons_append, tokens_blank h.1, ih h.2]

theorem proper_of_mem_tokens (h : t ∈ tokens s) : t.Proper := by
  fun_induction tokens s with
  | case1 => simp at h
  | case2 c r hc ih => exact ih h
  | case3 c r hc sign rest found ih =>
    rcases List.mem_cons.mp h with rfl | h
    · trivial
    · exact ih h
  | case4 c r hc found ih =>
    rcases List.mem_cons.mp h with rfl | h
    · apply proper_word (List.cons_ne_nil _ _)
      intro d hd
      rcases List.mem_cons.mp hd with rfl | hd
      · exact isWordChar_iff.mpr ⟨by simpa using hc, isSignChar_of_sign?_eq_none found⟩
      · exact List.mem_takeWhile_imp hd
    · exact ih h

theorem proper_of_tokens_eq_append (h : tokens s = ts ++ t :: us) : t.Proper := by
  apply proper_of_mem_tokens
  rw [h]
  exact List.mem_append_right ts List.mem_cons_self

theorem Spaced.blank (hc : isBlank c = true) (h : Spaced ts s) : Spaced ts (c :: s) := by
  cases ts with
  | nil => simpa [Spaced, hc] using h
  | cons t ts =>
    obtain ⟨gap, rest, hg, rfl, hr⟩ := h
    exact ⟨c :: gap, rest, by simp [hc, hg], rfl, hr⟩

theorem spaced_tokens (s : List Char) : Spaced (tokens s) s := by
  fun_induction tokens s with
  | case1 => rfl
  | case2 c r hc ih => exact ih.blank hc
  | case3 c r hc sign rest found ih => exact ⟨[], rest, rfl, eq_of_sign? found, ih⟩
  | case4 c r hc found ih =>
    refine ⟨[], r.dropWhile isWordChar, rfl, ?_, ih⟩
    simp [Token.text, List.takeWhile_append_dropWhile]

theorem flatMap_text_of_spaced (hs : Spaced ts s) (ht : ∀ t ∈ ts, t.Proper) :
    ts.flatMap Token.text = s.filter fun c => !isBlank c := by
  induction ts generalizing s with
  | nil =>
    symm
    rw [List.flatMap_nil, List.filter_eq_nil_iff]
    intro c hc
    simp [List.all_eq_true.mp hs c hc]
  | cons t ts ih =>
    obtain ⟨gap, rest, hg, rfl, hr⟩ := hs
    obtain ⟨htext, hts⟩ := List.forall_mem_cons.mp ht
    have hgap : gap.filter (fun c => !isBlank c) = [] := by
      rw [List.filter_eq_nil_iff]
      intro c hc
      simp [List.all_eq_true.mp hg c hc]
    have hkept : t.text.filter (fun c => !isBlank c) = t.text := by
      rw [List.filter_eq_self]
      intro c hc
      simp [isBlank_of_mem_text htext hc]
    rw [List.flatMap_cons, ih hr hts, List.filter_append, List.filter_append, hgap, hkept,
      List.nil_append]

/-- Every place between tokens is one of the text. -/
theorem exists_cut_of_spaced (h : Spaced (ts ++ us) s) :
    ∃ front back, s = front ++ back ∧ Spaced ts front ∧ Spaced us back := by
  induction ts generalizing s with
  | nil => exact ⟨[], s, rfl, rfl, h⟩
  | cons t ts ih =>
    obtain ⟨gap, rest, hg, rfl, hr⟩ := h
    obtain ⟨front, back, rfl, hf, hb⟩ := ih hr
    exact ⟨gap ++ (t.text ++ front), back, by simp, ⟨gap, front, hg, rfl, hf⟩, hb⟩

/-! ## Places between tokens -/

/-- The tokens behind a place are those of the text behind it, whatever blanks are put there. -/
theorem tokens_of_spaced (hs : Spaced ts front) (h : tokens (front ++ back) = ts ++ us) :
    tokens back = us := by
  induction ts generalizing front with
  | nil => rwa [tokens_gap_append hs] at h
  | cons t ts ih =>
    obtain ⟨gap, rest, hg, rfl, hr⟩ := hs
    have ht : t.Proper := @proper_of_tokens_eq_append _ t [] (ts ++ us) h
    rw [List.append_assoc, tokens_gap_append hg, List.append_assoc, List.cons_append,
      tokens_text_append_iff ht] at h
    exact ih hr h.2

theorem tokens_insert (hs : Spaced ts front) (h : tokens (front ++ back) = ts ++ us)
    (hg : allBlank gap = true) : tokens (front ++ (gap ++ back)) = ts ++ us := by
  induction ts generalizing front with
  | nil =>
    rw [tokens_gap_append hs] at h ⊢
    rwa [tokens_gap_append hg]
  | cons t ts ih =>
    obtain ⟨before, rest, hb, rfl, hr⟩ := hs
    have ht : t.Proper := @proper_of_tokens_eq_append _ t [] (ts ++ us) h
    rw [List.append_assoc, tokens_gap_append hb, List.append_assoc, List.cons_append,
      tokens_text_append_iff ht] at h ⊢
    exact ⟨h.1.insert hg, ih hr h.2⟩

theorem endsAt_of_spaced (hs : Spaced ts front)
    (h : tokens (front ++ (t.text ++ back)) = ts ++ t :: us) : t.EndsAt back :=
  endsAt_of_tokens (proper_of_tokens_eq_append h) (tokens_of_spaced hs h)

theorem tokens_join (h : ∀ t ∈ ts, t.Proper) : tokens (join [' '] (ts.map Token.text)) = ts := by
  induction ts with
  | nil => exact tokens_nil
  | cons t ts ih =>
    obtain ⟨ht, hts⟩ := List.forall_mem_cons.mp h
    cases ts with
    | nil =>
      change tokens t.text = [t]
      rw [← List.append_nil t.text, tokens_text_append ht (endsAt_nil t), tokens_nil]
    | cons u us =>
      change tokens (t.text ++ [' '] ++ join [' '] ((u :: us).map Token.text)) = t :: u :: us
      rw [List.append_assoc, List.singleton_append, tokens_text_append ht (endsAt_blank rfl),
        tokens_blank rfl, ih hts]

/-- That a text and its tokens say the same: only blanks are dropped, no token could be longer, and
more blanks between tokens change nothing. -/
structure Lossless (s : List Char) : Prop where
  text : (tokens s).flatMap Token.text = s.filter fun c => !isBlank c
  proper : ∀ t ∈ tokens s, t.Proper
  cut : ∀ {ts us}, tokens s = ts ++ us →
    ∃ front back, s = front ++ back ∧ Spaced ts front ∧ Spaced us back
  apart : ∀ {ts us v w front gap back}, tokens s = ts ++ .word v :: .word w :: us →
    s = front ++ (v ++ (gap ++ (w ++ back))) → Spaced ts front → allBlank gap = true → gap ≠ []
  longest : ∀ {ts us sign front back}, tokens s = ts ++ .sign sign :: us →
    s = front ++ (sign.text ++ back) → Spaced ts front →
    sign = .bang ∨ sign = .equal → back.head? ≠ some '='
  insert : ∀ {ts us front gap back}, tokens s = ts ++ us → s = front ++ back → Spaced ts front →
    allBlank gap = true → tokens (front ++ (gap ++ back)) = tokens s

theorem lossless (s : List Char) : Lossless s where
  text := flatMap_text_of_spaced (spaced_tokens s) fun _ => proper_of_mem_tokens
  proper := fun _ => proper_of_mem_tokens
  cut h := exists_cut_of_spaced (h ▸ spaced_tokens s)
  apart := by
    rintro ts us v w front gap back h rfl hs hg rfl
    -- The first word would go on with the second.
    have hend : (Token.word v).EndsAt (w ++ back) := endsAt_of_spaced hs h
    have hw : (Token.word w).Proper := by
      apply @proper_of_tokens_eq_append _ _ (ts ++ [.word v]) us
      rw [h, List.append_assoc, List.singleton_append]
    obtain ⟨c, tail, rfl⟩ := List.exists_cons_of_ne_nil hw.1
    have hc := isWordChar_of_mem hw c List.mem_cons_self
    rw [hend c rfl] at hc
    cases hc
  longest := by
    rintro ts us sign front back h rfl hs
    exact @endsAt_of_spaced _ _ (.sign sign) _ _ hs h
  insert := by
    rintro ts us front gap back h rfl hs hg
    rw [tokens_insert hs h hg, h]

/-- A text can be got back from its tokens but for its blanks, and any tokens can be got back from
text. -/
theorem tokens_reversible (s : List Char) {ts : List Token} (h : ∀ t ∈ ts, t.Proper) :
    Lossless s ∧ tokens (join [' '] (ts.map Token.text)) = ts :=
  ⟨lossless s, tokens_join h⟩

theorem tokens_reversible_signs :
    let ts := [.word ['a'], .word ['b'], .sign .bang, .sign .equal, .word ['c']]
    (∀ t ∈ ts, t.Proper) ∧ tokens "a b! =c".toList = ts ∧ tokens "a b! \t =c".toList = ts ∧
      tokens "a b ! = c".toList = ts := by
  intro ts
  have hts : tokens "a b! =c".toList = ts := by cbv
  have hproper : ∀ t ∈ ts, t.Proper := fun t ht => proper_of_mem_tokens (hts ▸ ht)
  have hread := tokens_reversible "a b! =c".toList hproper
  have hfront : Spaced [.word ['a'], .word ['b'], .sign .bang] "a b!".toList :=
    ⟨[], [' ', 'b', '!'], rfl, rfl, [' '], ['!'], rfl, rfl, [], [], rfl, rfl, rfl⟩
  have hinsert : tokens ("a b!".toList ++ ([' ', '\t'] ++ " =c".toList)) = tokens "a b! =c".toList :=
    hread.1.insert hts rfl hfront rfl
  exact ⟨hproper, hts, hinsert.trans hts, hread.2⟩

end ClusterLookup.Selector
