import ClusterLookup.Document.Printer
import ClusterLookup.Proofs.Document.Reader
import Mathlib.Data.List.TakeWhile

/-!
# Printed documents are read back

What is printed of a document stands for a document of the same value: the parts come back one by one,
whatever text is behind them, and so the whole comes back. The fields of an object come back in the order
of their names, and a number without zeros at its end.
-/

namespace ClusterLookup.Document

open Text (hex)

/-! ## Characters and text -/

theorem hexValue?_digitChar : ∀ d < 16, hexValue? d.digitChar = some d := by decide

theorem hexNumber?_append (front back : List Char) : hexNumber? (front ++ back) =
    (hexNumber? front).bind fun n =>
      back.foldlM (fun n c => (hexValue? c).map (16 * n + ·)) n := by
  simp only [hexNumber?, List.foldlM_append]
  rfl

theorem hexNumber?_toDigits (n : Nat) : hexNumber? (Nat.toDigits 16 n) = some n := by
  induction n using Nat.strongRecOn with
  | ind n ih =>
    rw [Nat.toDigits_eq_if (by decide)]
    split
    · next h => simp [hexNumber?, hexValue?_digitChar n h]
    · next h =>
      have hlast : hexValue? (n % 16).digitChar = some (n % 16) :=
        hexValue?_digitChar _ (Nat.mod_lt n (by decide))
      rw [hexNumber?_append, ih (n / 16) (by omega)]
      simp [hlast, Nat.div_add_mod]

theorem hexNumber?_zeros (count : Nat) (digits : List Char) :
    hexNumber? (List.replicate count '0' ++ digits) = hexNumber? digits := by
  induction count with
  | zero => rfl
  | succ count ih =>
    rw [List.replicate_succ, List.cons_append, ← ih]
    rfl

theorem length_hex {n : Nat} (h : n < 0x10000) : (hex 4 n).length = 4 := by
  have hlength : (Nat.toDigits 16 n).length ≤ 4 :=
    (Nat.length_toDigits_le_iff (by decide) (by decide)).mpr h
  simp only [hex, List.length_append, List.length_replicate]
  omega

theorem readUnit?_hex {n : Nat} (h : n < 0x10000) (s : List Char) :
    readUnit? (hex 4 n ++ s) = some (n, s) := by
  have hlength := length_hex h
  have hnumber : hexNumber? (hex 4 n) = some n := by
    rw [hex, hexNumber?_zeros, hexNumber?_toDigits]
  have hlong : ¬ (hex 4 n ++ s).length < 4 := by
    rw [List.length_append]
    omega
  simp only [readUnit?, hlong, if_false, List.take_left' hlength, List.drop_left' hlength, hnumber,
    Option.map_some]

theorem toNat_valid (c : Char) : c.toNat < 0xD800 ∨ 0xDFFF < c.toNat ∧ c.toNat < 0x110000 := c.valid

theorem charOf?_toNat (c : Char) : charOf? c.toNat = some c := by
  have hvalid : c.toNat.isValidChar := c.valid
  unfold charOf?
  rw [if_pos hvalid, Char.ofNat_toNat]

/-- A character that one unit stands for. -/
theorem readCode?_unit {c : Char} (h : c.toNat < 0x10000) (s : List Char) :
    readCode? (hex 4 c.toNat ++ s) = some (c, s) := by
  have hc := toNat_valid c
  have hunit : ¬ (0xD800 ≤ c.toNat ∧ c.toNat < 0xDC00) := by omega
  unfold readCode?
  rw [readUnit?_hex h]
  simp only [Option.bind_eq_bind, Option.bind_some]
  rw [if_neg hunit, charOf?_toNat]
  rfl

/-- A character that two units stand for. -/
theorem readCode?_pair {c : Char} {high low : Nat} (hh : 0xD800 ≤ high ∧ high < 0xDC00)
    (hl : 0xDC00 ≤ low ∧ low < 0xE000)
    (hc : 0x10000 + (high - 0xD800) * 0x400 + (low - 0xDC00) = c.toNat) (s : List Char) :
    readCode? (hex 4 high ++ (unitEscape low ++ s)) = some (c, s) := by
  have hhigh : high < 0x10000 := by omega
  have hlow : low < 0x10000 := by omega
  unfold readCode? unitEscape
  rw [readUnit?_hex hhigh]
  simp only [Option.bind_eq_bind, Option.bind_some, List.cons_append]
  rw [if_pos hh, readUnit?_hex hlow]
  simp only [Option.bind_some]
  rw [if_pos hl, hc, charOf?_toNat]
  rfl

theorem readChar?_unitEscape (n : Nat) (s : List Char) :
    readChar? (unitEscape n ++ s) = readCode? (hex 4 n ++ s) := by
  simp [unitEscape, readChar?, readEscape?]

theorem readChar?_printedChar (c : Char) (s : List Char) :
    readChar? (printedChar c ++ s) = some (c, s) := by
  simp only [printedChar]
  split
  · next h => rcases h with rfl | rfl <;> rfl
  split
  · next h => subst h; rfl
  split
  · next h => subst h; rfl
  split
  · next h => subst h; rfl
  split
  · next h => subst h; rfl
  split
  · next h => subst h; rfl
  split
  · rw [readChar?_unitEscape]
    exact readCode?_unit (by omega) s
  split
  · next hquote _ _ _ _ _ hcontrol _ =>
    rw [not_or] at hquote
    simp [readChar?, hquote.2, hcontrol]
  split
  · next h =>
    rw [readChar?_unitEscape]
    exact readCode?_unit h s
  · have hc := toNat_valid c
    rw [List.append_assoc, readChar?_unitEscape]
    exact readCode?_pair (by omega) (by omega) (by omega) s

theorem head_printedChar (c : Char) : ∃ first rest, printedChar c = first :: rest ∧ first ≠ '\x22' := by
  simp only [printedChar]
  split
  · exact ⟨_, _, rfl, by decide⟩
  split
  · exact ⟨_, _, rfl, by decide⟩
  split
  · exact ⟨_, _, rfl, by decide⟩
  split
  · exact ⟨_, _, rfl, by decide⟩
  split
  · exact ⟨_, _, rfl, by decide⟩
  split
  · exact ⟨_, _, rfl, by decide⟩
  split
  · exact ⟨_, _, rfl, by decide⟩
  split
  · next hquote _ _ _ _ _ _ _ => exact ⟨_, _, rfl, fun h => hquote (.inl h)⟩
  split
  · exact ⟨_, _, rfl, by decide⟩
  · exact ⟨_, _, rfl, by decide⟩

/-- The characters of a text come back one by one, and its closing quote ends them. -/
theorem readChars?_printed (cs s : List Char) {bound : Nat} (h : cs.length < bound) :
    readChars? bound (cs.flatMap printedChar ++ '\x22' :: s) = some (cs, s) := by
  induction cs generalizing bound with
  | nil =>
    obtain ⟨bound, rfl⟩ := Nat.exists_eq_add_one_of_ne_zero (Nat.ne_of_gt h)
    simp [readChars?]
  | cons c cs ih =>
    obtain ⟨bound, rfl⟩ := Nat.exists_eq_add_one_of_ne_zero (Nat.ne_of_gt (Nat.zero_lt_of_lt h))
    obtain ⟨first, rest, hfirst, hquote⟩ := head_printedChar c
    have hchar := readChar?_printedChar c (cs.flatMap printedChar ++ '\x22' :: s)
    rw [List.flatMap_cons, List.append_assoc]
    rw [hfirst, List.cons_append] at hchar ⊢
    rw [readChars?, if_neg hquote, hchar]
    simp only [Option.bind_eq_bind, Option.bind_some, ih (Nat.lt_of_succ_lt_succ h)]

theorem length_le_flatMap_printedChar (cs : List Char) :
    cs.length ≤ (cs.flatMap printedChar).length := by
  induction cs with
  | nil => simp
  | cons c cs ih =>
    obtain ⟨first, rest, hfirst, _⟩ := head_printedChar c
    simp only [List.flatMap_cons, hfirst, List.length_append, List.length_cons]
    omega

/-- A printed text comes back behind its opening quote. -/
theorem readChars?_printedText (value : String) (s : List Char) :
    let rest := value.toList.flatMap printedChar ++ '\x22' :: s
    printedText value ++ s = '\x22' :: rest ∧
      readChars? rest.length rest = some (value.toList, s) := by
  intro rest
  refine ⟨by simp [printedText, rest], readChars?_printed _ _ ?_⟩
  have hlength := length_le_flatMap_printedChar value.toList
  simp only [rest, List.length_append, List.length_cons]
  omega

/-! ## Numbers -/

/-- Whether a number ends where a text begins. -/
def Follows (rest : List Char) : Prop := ∀ c, rest.head? = some c → c.isDigit = false ∧ c ≠ '.'

theorem takeWhile_digits {digits rest : List Char} (hd : ∀ c ∈ digits, c.isDigit = true)
    (hr : ∀ c, rest.head? = some c → c.isDigit = false) :
    (digits ++ rest).takeWhile Char.isDigit = digits ∧
      (digits ++ rest).dropWhile Char.isDigit = rest := by
  rw [List.takeWhile_append_of_pos hd, List.dropWhile_append_of_pos hd]
  cases rest with
  | nil => simp
  | cons c rest => simp [hr c rfl]

theorem isDigit_of_mem_toDigits {n : Nat} : ∀ c ∈ Nat.toDigits 10 n, c.isDigit = true := by
  intro c hc
  exact Nat.isDigit_of_mem_toDigits (by decide) (by decide) hc

theorem isWhole_toDigits (n : Nat) : isWhole (Nat.toDigits 10 n) = true := by
  -- No zero is in front of the digits of a positive number.
  have hfront : ∀ m, 0 < m → (Nat.toDigits 10 m).head? ≠ some '0' := by
    intro m
    induction m using Nat.strongRecOn with
    | ind m ih =>
      intro hm
      rw [Nat.toDigits_eq_if (by decide)]
      split
      · next hlt => simpa [Nat.digitChar_eq_zero] using Nat.ne_of_gt hm
      · next hle =>
        rw [List.head?_append_of_ne_nil _ Nat.toDigits_ne_nil]
        exact ih (m / 10) (by omega) (by omega)
  rcases Nat.eq_zero_or_pos n with rfl | hn
  · rfl
  · have hne := hfront n hn
    cases h : Nat.toDigits 10 n with
    | nil => exact absurd h Nat.toDigits_ne_nil
    | cons c cs =>
      rw [h] at hne
      simp only [List.head?_cons, ne_eq, Option.some.injEq] at hne
      simp [isWhole, hne]

/-- The digits behind the point, filled up with zeros in front of them. -/
theorem ofDigitChars_filled {n places : Nat} (whole : Nat) (h : n < 10 ^ places) (hp : 0 < places) :
    let digits := Nat.toDigits 10 n
    let behind := List.replicate (places - digits.length) '0' ++ digits
    behind.length = places ∧ Nat.ofDigitChars 10 behind whole = 10 ^ places * whole + n := by
  intro digits behind
  have hlength : digits.length ≤ places := (Nat.length_toDigits_le_iff (by decide) hp).mpr h
  have hsum : digits.length + (places - digits.length) = places := by omega
  constructor
  · simp only [behind, List.length_append, List.length_replicate]
    omega
  · simp only [behind]
    rw [Nat.ofDigitChars_append, Nat.ofDigitChars_replicate_zero, Nat.ofDigitChars_eq_ofDigitChars_zero,
      Nat.ofDigitChars_toDigits (by decide) (by decide), ← Nat.mul_assoc, ← Nat.pow_add, hsum]

theorem readMagnitude?_whole (n : Nat) {rest : List Char} (hr : Follows rest) :
    readMagnitude? (Nat.toDigits 10 n ++ rest) = some (n, 0, rest) := by
  obtain ⟨htake, hdrop⟩ := takeWhile_digits (@isDigit_of_mem_toDigits n) fun c hc => (hr c hc).1
  have hpoint : rest.head? ≠ some '.' := fun h => (hr '.' h).2 rfl
  simp only [readMagnitude?, htake, hdrop, isWhole_toDigits, if_neg hpoint,
    Nat.ofDigitChars_toDigits (b := 10) (by decide) (by decide)]
  rfl

theorem readMagnitude?_point (whole : Nat) {behind rest : List Char} (hne : behind ≠ [])
    (hb : ∀ c ∈ behind, c.isDigit = true) (hr : Follows rest) :
    readMagnitude? (Nat.toDigits 10 whole ++ '.' :: behind ++ rest) =
      some (Nat.ofDigitChars 10 behind whole, behind.length, rest) := by
  have hpoint : ∀ c, ('.' :: (behind ++ rest)).head? = some c → c.isDigit = false := by
    rintro c ⟨⟩
    rfl
  obtain ⟨htake, hdrop⟩ := takeWhile_digits (@isDigit_of_mem_toDigits whole) hpoint
  obtain ⟨htail, hrest⟩ := takeWhile_digits hb fun c hc => (hr c hc).1
  have hempty : behind.isEmpty = false := List.isEmpty_eq_false_iff.mpr hne
  rw [List.append_assoc, List.cons_append]
  simp only [readMagnitude?, htake, hdrop, isWhole_toDigits, List.head?_cons, List.tail_cons, htail,
    hrest, hempty, Nat.ofDigitChars_append, Nat.ofDigitChars_toDigits (b := 10) (by decide) (by decide)]
  rfl

theorem printedDecimal_succ (n places : Nat) : printedDecimal n (places + 1) =
    if n % 10 = 0 ∧ 0 < places then printedDecimal (n / 10) places
    else
      let behind := Nat.toDigits 10 (n % 10 ^ (places + 1))
      Nat.toDigits 10 (n / 10 ^ (places + 1)) ++
        '.' :: List.replicate (places + 1 - behind.length) '0' ++ behind := rfl

/-- A printed number is read as one of the same value, with a point if it had one. -/
theorem readMagnitude?_printedDecimal (n places : Nat) :
    ∃ m others, (∀ rest, Follows rest →
        readMagnitude? (printedDecimal n places ++ rest) = some (m, others, rest)) ∧
      m * 10 ^ places = n * 10 ^ others ∧ (others = 0 ↔ places = 0) := by
  induction places generalizing n with
  | zero => exact ⟨n, 0, fun _ hr => readMagnitude?_whole n hr, rfl, Iff.rfl⟩
  | succ places ih =>
    rw [printedDecimal_succ]
    split
    · next hz =>
      -- A zero at the end is left out.
      obtain ⟨m, others, hread, hvalue, hpoint⟩ := ih (n / 10)
      refine ⟨m, others, hread, ?_, by omega⟩
      have hn : n = n / 10 * 10 := by omega
      calc m * 10 ^ (places + 1) = m * 10 ^ places * 10 := by rw [Nat.pow_succ, Nat.mul_assoc]
        _ = n / 10 * 10 * 10 ^ others := by rw [hvalue, Nat.mul_right_comm]
        _ = n * 10 ^ others := by rw [← hn]
    · have hscale : n % 10 ^ (places + 1) < 10 ^ (places + 1) := Nat.mod_lt n (Nat.pow_pos (by decide))
      obtain ⟨hlength, hvalue⟩ :=
        ofDigitChars_filled (n / 10 ^ (places + 1)) hscale (Nat.succ_pos places)
      have hdigits : ∀ c ∈ List.replicate
          (places + 1 - (Nat.toDigits 10 (n % 10 ^ (places + 1))).length) '0' ++
            Nat.toDigits 10 (n % 10 ^ (places + 1)), c.isDigit = true := by
        intro c hc
        rcases List.mem_append.mp hc with hc | hc
        · rw [List.eq_of_mem_replicate hc]
          rfl
        · exact isDigit_of_mem_toDigits c hc
      refine ⟨n, places + 1, ?_, rfl, Iff.rfl⟩
      intro rest hr
      have hread := readMagnitude?_point (n / 10 ^ (places + 1)) (by simp) hdigits hr
      rw [hlength, hvalue, Nat.div_add_mod] at hread
      simpa only [List.append_assoc, List.cons_append] using hread

theorem head_printedDecimal (n places : Nat) :
    ∃ c cs, printedDecimal n places = c :: cs ∧ c.isDigit = true := by
  have hhead : ∀ m (s : List Char), ∃ c cs, Nat.toDigits 10 m ++ s = c :: cs ∧ c.isDigit = true := by
    intro m s
    cases h : Nat.toDigits 10 m with
    | nil => exact absurd h Nat.toDigits_ne_nil
    | cons c cs =>
      have hc : c ∈ Nat.toDigits 10 m := by simp [h]
      exact ⟨c, cs ++ s, rfl, isDigit_of_mem_toDigits c hc⟩
  induction places generalizing n with
  | zero =>
    have hwhole : printedDecimal n 0 = Nat.toDigits 10 n ++ [] := (List.append_nil _).symm
    rw [hwhole]
    exact hhead n []
  | succ places ih =>
    rw [printedDecimal_succ]
    split
    · exact ih (n / 10)
    · rw [List.append_assoc]
      exact hhead _ _

theorem readNumber?_printedNumber (digits : Int) (places : Nat) :
    ∃ value, SameValue value (number digits places) ∧ ∀ rest, Follows rest →
      readNumber? (printedNumber digits places ++ rest) = some (value, rest) := by
  obtain ⟨m, others, hread, hvalue, hpoint⟩ := readMagnitude?_printedDecimal digits.natAbs places
  obtain ⟨c, cs, hhead, hdigit⟩ := head_printedDecimal digits.natAbs places
  have hcast : (m : Int) * 10 ^ places = digits.natAbs * 10 ^ others := by exact_mod_cast hvalue
  by_cases hneg : digits < 0
  · refine ⟨number (-m) others, .number ?_ hpoint, ?_⟩
    · rw [Int.neg_mul, hcast, ← Int.neg_mul]
      congr 1
      omega
    · intro rest hr
      simp [printedNumber, hneg, readNumber?, hread rest hr]
  · refine ⟨number m others, .number ?_ hpoint, ?_⟩
    · rw [hcast]
      congr 1
      omega
    · intro rest hr
      have hminus : c ≠ '-' := by
        rintro rfl
        cases hdigit
      have hmagnitude := hread rest hr
      rw [hhead, List.cons_append] at hmagnitude
      simp [printedNumber, hneg, hhead, readNumber?, hminus, hmagnitude]

theorem head_printedNumber (digits : Int) (places : Nat) :
    ∃ c cs, printedNumber digits places = c :: cs ∧ (c = '-' ∨ c.isDigit = true) := by
  obtain ⟨c, cs, hhead, hdigit⟩ := head_printedDecimal digits.natAbs places
  by_cases hneg : digits < 0
  · exact ⟨'-', printedDecimal digits.natAbs places, by simp [printedNumber, hneg], .inl rfl⟩
  · exact ⟨c, cs, by simp [printedNumber, hneg, hhead], .inr hdigit⟩

/-! ## Members between brackets -/

/-- Whether a reader reads that value from a text, whatever blanks are in front of it and whatever stands
behind it, and no closing bracket is at its front. -/
structure Reads {α : Type} (read? : List Char → Option (α × List Char)) (text : List Char)
    (value : α) : Prop where
  front : ∃ c cs, text = c :: cs ∧ isGap c = false ∧ c ≠ ']' ∧ c ≠ '\x7d'
  reads : ∀ gap rest, (∀ c ∈ gap, isGap c = true) → Follows rest →
    read? (gap ++ (text ++ rest)) = some (value, rest)

theorem skipGap_append {gap : List Char} (hg : ∀ c ∈ gap, isGap c = true) {c : Char}
    (hc : isGap c = false) (s : List Char) : skipGap (gap ++ c :: s) = c :: s := by
  rw [skipGap, List.dropWhile_append_of_pos hg]
  simp [hc]

theorem skipGap_cons {c : Char} (hc : isGap c = false) (s : List Char) : skipGap (c :: s) = c :: s := by
  simp [skipGap, hc]

theorem isGap_of_mem_lineAt {level : Nat} : ∀ c ∈ lineAt level, isGap c = true := by
  intro c hc
  rcases List.mem_cons.mp hc with rfl | hc
  · rfl
  · rw [List.eq_of_mem_replicate hc]
    rfl

theorem follows_cons {c : Char} (hd : c.isDigit = false) (hp : c ≠ '.') (rest : List Char) :
    Follows (c :: rest) := by
  rintro found ⟨⟩
  exact ⟨hd, hp⟩

theorem follows_lineAt (level : Nat) (rest : List Char) : Follows (lineAt level ++ rest) :=
  follows_cons (by decide) (by decide) _

section Members
variable {α : Type} {read? : List Char → Option (α × List Char)} {closing : Char} {level : Nat}
variable {texts : List (List Char)} {values : List α}

/-- The members that stand behind another one, each behind a comma and on a line of its own. -/
def moreMembers (level : Nat) (texts : List (List Char)) : List Char :=
  texts.flatMap fun x => ',' :: lineAt (level + 1) ++ x

theorem length_le_moreMembers (level : Nat) (texts : List (List Char)) :
    texts.length ≤ (moreMembers level texts).length := by
  induction texts with
  | nil => simp
  | cons text texts ih =>
    simp only [moreMembers, List.flatMap_cons, List.length_append, List.length_cons] at ih ⊢
    omega

/-- Members come back one after another up to the closing bracket. -/
theorem readMembers?_printed (hc : closing = ']' ∨ closing = '\x7d') {text : List Char} {value : α}
    (h : Reads read? text value) (hs : List.Forall₂ (Reads read?) texts values) {bound : Nat}
    (hb : texts.length < bound) {gap : List Char} (hg : ∀ c ∈ gap, isGap c = true)
    (rest : List Char) :
    readMembers? read? closing bound
        (gap ++ (text ++ (moreMembers level texts ++ (lineAt level ++ closing :: rest)))) =
      some (value :: values, rest) := by
  have hgap : isGap closing = false := by rcases hc with rfl | rfl <;> rfl
  have hcomma : ',' ≠ closing := by rcases hc with rfl | rfl <;> decide
  induction hs generalizing text value gap bound with
  | nil =>
    obtain ⟨bound, rfl⟩ := Nat.exists_eq_add_one_of_ne_zero (Nat.ne_of_gt hb)
    have hread := h.reads gap (lineAt level ++ closing :: rest) hg (follows_lineAt level _)
    simp only [moreMembers, List.flatMap_nil, List.nil_append, readMembers?, hread,
      Option.bind_eq_bind, Option.bind_some, skipGap_append isGap_of_mem_lineAt hgap, if_true]
  | @cons next found texts values hnext hs ih =>
    obtain ⟨bound, rfl⟩ := Nat.exists_eq_add_one_of_ne_zero (Nat.ne_of_gt (Nat.zero_lt_of_lt hb))
    have hlast := ih hnext (Nat.lt_of_succ_lt_succ hb) (@isGap_of_mem_lineAt (level + 1))
    have hmore : moreMembers level (next :: texts) ++ (lineAt level ++ closing :: rest) =
        ',' :: (lineAt (level + 1) ++ (next ++ (moreMembers level texts ++
          (lineAt level ++ closing :: rest)))) := by
      simp [moreMembers]
    have hread := h.reads gap (',' :: (lineAt (level + 1) ++ (next ++ (moreMembers level texts ++
      (lineAt level ++ closing :: rest))))) hg (follows_cons (by decide) (by decide) _)
    have hskip : ∀ s, skipGap (',' :: s) = ',' :: s := fun s => rfl
    rw [hmore, readMembers?]
    simp only [hread, Option.bind_eq_bind, Option.bind_some, hskip, if_neg hcomma, if_true, hlast]

theorem readBracketed?_printed (hc : closing = ']' ∨ closing = '\x7d') (level : Nat) (opening : Char)
    (hs : List.Forall₂ (Reads read?) texts values) (rest : List Char) :
    ∃ inside, bracketed level opening closing texts ++ rest = opening :: inside ∧
      readBracketed? read? closing inside = some (values, rest) := by
  have hgap : isGap closing = false := by rcases hc with rfl | rfl <;> rfl
  cases hs with
  | nil => exact ⟨closing :: rest, rfl, by simp [readBracketed?, skipGap, hgap]⟩
  | @cons text value texts values h hs =>
    refine ⟨lineAt (level + 1) ++ (text ++ (moreMembers level texts ++
      (lineAt level ++ closing :: rest))), by simp [bracketed, moreMembers], ?_⟩
    obtain ⟨c, cs, rfl, hfront, hsquare, hcurly⟩ := h.front
    have hopen : c ≠ closing := by rcases hc with rfl | rfl <;> assumption
    rw [readBracketed?, List.cons_append, skipGap_append isGap_of_mem_lineAt hfront]
    simp only [if_neg hopen]
    have hlength := length_le_moreMembers level texts
    apply readMembers?_printed hc h hs _ isGap_of_mem_lineAt
    simp only [List.length_append, List.length_cons]
    omega

end Members

/-! ## Whole documents -/

/-- What holds of scalars, and of arrays and objects when it holds of what is in them, holds of every
document. -/
theorem ind {P : Document → Prop} (hnull : P null) (hboolean : ∀ value, P (boolean value))
    (hnumber : ∀ digits places, P (number digits places)) (htext : ∀ value, P (text value))
    (harray : ∀ items, (∀ item ∈ items, P item) → P (array items))
    (hobject : ∀ fields, (∀ field ∈ fields, P field.2) → P (object fields)) (d : Document) : P d :=
  @Document.rec P (fun items => ∀ item ∈ items, P item) (fun fields => ∀ field ∈ fields, P field.2)
    (fun field => P field.2) hnull hboolean hnumber htext harray hobject (by simp)
    (fun item items hitem hitems => by simpa using ⟨hitem, hitems⟩) (by simp)
    (fun field fields hfield hfields => by
      intro found hm
      rcases List.mem_cons.mp hm with rfl | hm
      · exact hfield
      · exact hfields found hm)
    (fun name value hvalue => hvalue) d

theorem printedItems_eq (level : Nat) (items : List Document) :
    printedItems level items = items.map (printedAt level) := by
  induction items with
  | nil => rfl
  | cons item items ih => simp only [printedItems, List.map_cons, ih]

theorem printedFields_eq (level : Nat) (fields : List (String × Document)) :
    printedFields level fields = fields.map fun field => (field.1, printedAt level field.2) := by
  induction fields with
  | nil => rfl
  | cons field fields ih => simp only [printedFields, List.map_cons, ih]

/-- Fields in the order of their names. -/
def ordered (fields : List (String × Document)) : List (String × Document) :=
  fields.mergeSort fun a b => Text.notAfter Text.textLt a.1.toList b.1.toList

def printedField (level : Nat) (field : String × Document) : List Char :=
  printedText field.1 ++ ':' :: ' ' :: printedAt level field.2

theorem printedAt_object (level : Nat) (fields : List (String × Document)) :
    printedAt level (object fields) =
      bracketed level '\x7b' '\x7d' ((ordered fields).map (printedField (level + 1))) := by
  have hsorted : sortedFields (printedFields (level + 1) fields) =
      (ordered fields).map fun field => (field.1, printedAt (level + 1) field.2) := by
    rw [printedFields_eq, sortedFields, ordered]
    symm
    apply List.map_mergeSort
    intro a _ b _
    rfl
  rw [printedAt, hsorted, List.map_map]
  rfl

theorem length_lt_bracketed {level : Nat} {opening closing : Char} {texts : List (List Char)}
    {text : List Char} (h : text ∈ texts) :
    text.length < (bracketed level opening closing texts).length := by
  cases texts with
  | nil => cases h
  | cons first texts =>
    simp only [bracketed, List.length_append, List.length_cons]
    rcases List.mem_cons.mp h with rfl | h
    · omega
    · have hlength : text.length < (texts.flatMap fun x => ',' :: lineAt (level + 1) ++ x).length := by
        induction texts with
        | nil => cases h
        | cons next texts ih =>
          simp only [List.flatMap_cons, List.length_append, List.length_cons]
          rcases List.mem_cons.mp h with rfl | h
          · omega
          · have hrest := ih (List.mem_cons_of_mem _ h) h
            omega
      omega

theorem exists_forall₂ {α β : Type} {R : α → β → Prop} {as : List α} (h : ∀ a ∈ as, ∃ b, R a b) :
    ∃ bs, List.Forall₂ R as bs := by
  induction as with
  | nil => exact ⟨[], .nil⟩
  | cons a as ih =>
    obtain ⟨b, hb⟩ := h a List.mem_cons_self
    obtain ⟨bs, hbs⟩ := ih fun c hc => h c (List.mem_cons_of_mem a hc)
    exact ⟨b :: bs, .cons hb hbs⟩

theorem readValue?_cons {gap : List Char} (hg : ∀ c ∈ gap, isGap c = true) {c : Char}
    (hc : isGap c = false) (depth : Nat) (s : List Char) :
    readValue? (depth + 1) (gap ++ c :: s) = readValue? (depth + 1) (c :: s) := by
  simp only [readValue?, skipGap_append hg hc, skipGap_cons hc]

/-- Whether a text is read as that document wherever it stands. -/
def ReadBack (text : List Char) (value : Document) : Prop :=
  ∀ depth, text.length ≤ depth → Reads (readValue? depth) text value

/-- It is enough to read a text without blanks in front of it. -/
theorem readBack_of_front {text : List Char} {value : Document}
    (hf : ∃ c cs, text = c :: cs ∧ isGap c = false ∧ c ≠ ']' ∧ c ≠ '\x7d')
    (h : ∀ depth, text.length ≤ depth + 1 → ∀ rest, Follows rest →
      readValue? (depth + 1) (text ++ rest) = some (value, rest)) : ReadBack text value := by
  intro depth hd
  refine ⟨hf, ?_⟩
  intro gap rest hg hr
  obtain ⟨c, cs, rfl, hc, _⟩ := hf
  obtain ⟨depth, rfl⟩ := Nat.exists_eq_add_one_of_ne_zero
    (Nat.ne_of_gt (Nat.lt_of_lt_of_le (Nat.succ_pos cs.length) hd))
  rw [List.cons_append, readValue?_cons hg hc]
  exact h depth hd rest hr

theorem reads_field {read? : List Char → Option (Document × List Char)} {level : Nat}
    {field : String × Document} {value : Document} (h : Reads read? (printedAt level field.2) value) :
    Reads (readField? read?) (printedField level field) (field.1, value) := by
  refine ⟨⟨'\x22', _, rfl, by decide, by decide, by decide⟩, ?_⟩
  intro gap rest hg hr
  obtain ⟨htext, hread⟩ :=
    readChars?_printedText field.1 (':' :: ' ' :: (printedAt level field.2 ++ rest))
  have hshape : printedField level field ++ rest =
      printedText field.1 ++ ':' :: ' ' :: (printedAt level field.2 ++ rest) := by
    simp [printedField]
  have hvalue := h.reads [' '] rest (by simp [isGap]) hr
  rw [hshape, htext, readField?, skipGap_append hg (by decide)]
  rw [List.singleton_append] at hvalue
  have hcolon : ∀ s, skipGap (':' :: s) = ':' :: s := skipGap_cons rfl
  simp only [hread, Option.bind_eq_bind, Option.bind_some, hcolon, hvalue, String.ofList_toList]

/-- What a number begins with begins nothing else. -/
theorem front_of_number {c : Char} (h : c = '-' ∨ c.isDigit = true) :
    isGap c = false ∧ c ≠ ']' ∧ c ≠ '\x7d' ∧ c ≠ '\x22' ∧ c ≠ '[' ∧ c ≠ '\x7b' := by
  rcases h with rfl | h
  · decide
  · have hgap : isGap c = false := by
      rw [← Bool.not_eq_true]
      intro hg
      simp only [isGap, Bool.or_eq_true, beq_iff_eq] at hg
      rcases hg with ((rfl | rfl) | rfl) | rfl <;> cases h
    refine ⟨hgap, ?_, ?_, ?_, ?_, ?_⟩ <;> (rintro rfl; cases h)

theorem readBack_printedNumber (digits : Int) (places : Nat) :
    ∃ value, SameValue value (number digits places) ∧ ReadBack (printedNumber digits places) value := by
  obtain ⟨value, hsame, hread⟩ := readNumber?_printedNumber digits places
  obtain ⟨c, cs, hhead, hc⟩ := head_printedNumber digits places
  obtain ⟨hgap, hsquare, hcurly, hquote, hopen, hobject⟩ := front_of_number hc
  refine ⟨value, hsame, readBack_of_front ⟨c, cs, hhead, hgap, hsquare, hcurly⟩ ?_⟩
  intro depth _ rest hr
  have hnumber := hread rest hr
  rw [hhead, List.cons_append] at hnumber ⊢
  rw [readValue?, skipGap_cons hgap]
  simp only [if_neg hquote, if_neg hopen, if_neg hobject, if_pos hc, hnumber]

theorem readBack_printedText (value : String) : ReadBack (printedText value) (text value) := by
  have hfront : ∃ cs, printedText value = '\x22' :: cs := ⟨_, rfl⟩
  obtain ⟨cs, hcs⟩ := hfront
  apply readBack_of_front ⟨'\x22', cs, hcs, by decide, by decide, by decide⟩
  intro depth _ rest _
  obtain ⟨htext, hread⟩ := readChars?_printedText value rest
  rw [htext, readValue?, skipGap_cons rfl]
  simp only [if_true, hread, Option.map_some, String.ofList_toList]

theorem front_bracketed (level : Nat) (opening closing : Char) (texts : List (List Char)) :
    ∃ inside, bracketed level opening closing texts = opening :: inside := by
  cases texts with
  | nil => exact ⟨_, rfl⟩
  | cons text texts => exact ⟨_, rfl⟩

theorem readBack_array {level : Nat} {texts : List (List Char)} {values : List Document}
    (h : List.Forall₂ (fun text value => text ∈ texts ∧ ReadBack text value) texts values) :
    ReadBack (bracketed level '[' ']' texts) (array values) := by
  obtain ⟨inside, hfront⟩ := front_bracketed level '[' ']' texts
  apply readBack_of_front ⟨'[', inside, hfront, by decide, by decide, by decide⟩
  intro depth hd rest _
  have hreads : List.Forall₂ (Reads (readValue? depth)) texts values := by
    apply h.imp
    rintro text value ⟨hm, hback⟩
    have hlength := @length_lt_bracketed level '[' ']' texts text hm
    exact hback depth (by omega)
  obtain ⟨inside, hshape, hread⟩ := readBracketed?_printed (.inl rfl) level '[' hreads rest
  rw [hshape, readValue?]
  simp [skipGap, isGap, hread]

theorem readBack_object {level : Nat} {fields values : List (String × Document)}
    (h : List.Forall₂ (fun field value => field ∈ fields ∧ value.1 = field.1 ∧
      ReadBack (printedAt (level + 1) field.2) value.2) fields values) :
    ReadBack (bracketed level '\x7b' '\x7d' (fields.map (printedField (level + 1)))) (object values) := by
  obtain ⟨inside, hfront⟩ :=
    front_bracketed level '\x7b' '\x7d' (fields.map (printedField (level + 1)))
  apply readBack_of_front ⟨'\x7b', inside, hfront, by decide, by decide, by decide⟩
  intro depth hd rest _
  have hreads : List.Forall₂ (Reads (readField? (readValue? depth)))
      (fields.map (printedField (level + 1))) values := by
    rw [List.forall₂_map_left_iff]
    apply h.imp
    rintro field ⟨name, value⟩ ⟨hm, rfl, hback⟩
    have hmem : printedField (level + 1) field ∈ fields.map (printedField (level + 1)) :=
      List.mem_map_of_mem hm
    have hlength := @length_lt_bracketed level '\x7b' '\x7d' _ _ hmem
    have hfield : (printedAt (level + 1) field.2).length ≤ (printedField (level + 1) field).length := by
      simp only [printedField, List.length_append, List.length_cons]
      omega
    exact reads_field (hback depth (by omega))
  obtain ⟨inside, hshape, hread⟩ := readBracketed?_printed (.inr rfl) level '\x7b' hreads rest
  rw [hshape, readValue?]
  simp [skipGap, isGap, hread]

/-- What is printed of a document is read back as one of the same value. -/
theorem readBack_printedAt (d : Document) :
    ∀ level, ∃ value, SameValue value d ∧ ReadBack (printedAt level d) value := by
  induction d using ind with
  | hnull =>
    intro level
    exact ⟨null, .null, readBack_of_front ⟨'n', _, rfl, by decide, by decide, by decide⟩
      fun _ _ _ _ => rfl⟩
  | hboolean value =>
    intro level
    refine ⟨boolean value, .boolean value, ?_⟩
    cases value with
    | true => exact readBack_of_front ⟨'t', _, rfl, by decide, by decide, by decide⟩ fun _ _ _ _ => rfl
    | false => exact readBack_of_front ⟨'f', _, rfl, by decide, by decide, by decide⟩ fun _ _ _ _ => rfl
  | hnumber digits places =>
    intro level
    exact readBack_printedNumber digits places
  | htext value =>
    intro level
    exact ⟨text value, .text value, readBack_printedText value⟩
  | harray items ih =>
    intro level
    rw [printedAt, printedItems_eq]
    have hitems : ∀ item ∈ items, ∃ value, item ∈ items ∧ SameValue value item ∧
        ReadBack (printedAt (level + 1) item) value := by
      intro item hm
      obtain ⟨value, hsame, hback⟩ := ih item hm (level + 1)
      exact ⟨value, hm, hsame, hback⟩
    obtain ⟨values, hvalues⟩ := exists_forall₂ hitems
    refine ⟨array values, .array (List.Forall₂.flip (hvalues.imp fun _ _ h => h.2.1)), ?_⟩
    apply readBack_array
    rw [List.forall₂_map_left_iff]
    exact hvalues.imp fun item value h => ⟨List.mem_map_of_mem h.1, h.2.2⟩
  | hobject fields ih =>
    intro level
    rw [printedAt_object]
    have hperm : (ordered fields).Perm fields := List.mergeSort_perm fields _
    have hfields : ∀ field ∈ ordered fields, ∃ value : String × Document, field ∈ ordered fields ∧
        (value.1 = field.1 ∧ ReadBack (printedAt (level + 1) field.2) value.2) ∧
          SameValue value.2 field.2 := by
      intro field hm
      obtain ⟨value, hsame, hback⟩ := ih field (hperm.mem_iff.mp hm) (level + 1)
      exact ⟨(field.1, value), hm, ⟨rfl, hback⟩, hsame⟩
    obtain ⟨values, hvalues⟩ := exists_forall₂ hfields
    refine ⟨object values, .object hperm ?_ ?_, readBack_object (hvalues.imp fun _ _ h => ⟨h.1, h.2.1⟩)⟩
    · have hnames : List.Forall₂ Eq ((ordered fields).map Prod.fst) (values.map Prod.fst) := by
        rw [List.forall₂_map_left_iff, List.forall₂_map_right_iff]
        exact hvalues.imp fun _ _ h => h.2.1.1.symm
      rw [List.forall₂_eq_eq_eq] at hnames
      exact hnames.symm
    · rw [List.forall₂_map_left_iff, List.forall₂_map_right_iff]
      exact List.Forall₂.flip (hvalues.imp fun _ _ h => h.2.2)

/-- A printed document stands for a document of its value, with or without a line break behind it. -/
theorem read?_print (d : Document) (rest : List Char) (hr : ∀ c ∈ rest, isGap c = true) :
    ∃ value, read? (String.ofList (printedAt 0 d ++ rest)) = some value ∧ SameValue value d := by
  obtain ⟨value, hsame, hback⟩ := readBack_printedAt d 0
  have hfollows : Follows rest := by
    intro c hc
    have hgap := hr c (List.mem_of_head? hc)
    simp only [isGap, Bool.or_eq_true, beq_iff_eq] at hgap
    rcases hgap with ((rfl | rfl) | rfl) | rfl <;> decide
  have hread := (hback (printedAt 0 d ++ rest).length (by simp)).reads [] rest (by simp) hfollows
  refine ⟨value, ?_, hsame⟩
  have hskip : skipGap rest = [] := List.dropWhile_eq_nil_iff.mpr hr
  rw [List.nil_append] at hread
  simp only [read?, String.toList_ofList, hread, hskip]
  rfl

end ClusterLookup.Document
