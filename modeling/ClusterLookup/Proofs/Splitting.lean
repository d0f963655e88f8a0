import ClusterLookup.Text.Split
import Mathlib.Data.List.TakeWhile

/-!
# Cutting and joining text

Pieces without separators come back when they are joined and cut again, and a cut at the last
separator is the only one behind which no separator is left.
-/

namespace ClusterLookup.Text
variable {sep : Char} {s front back : List Char}

theorem pieces_of_not_mem (h : sep ∉ s) : pieces sep s = [s] := by
  induction s with
  | nil => rfl
  | cons c s ih =>
    rw [List.mem_cons, not_or] at h
    simp only [pieces, if_neg (Ne.symm h.1), ih h.2]

/-- A separator cuts wherever it stands. -/
theorem pieces_append_cons (sep : Char) (front s : List Char) :
    pieces sep (front ++ sep :: s) = pieces sep front ++ pieces sep s := by
  induction front with
  | nil => simp [pieces]
  | cons c front ih =>
    obtain ⟨p, ps, hp⟩ := List.exists_cons_of_ne_nil (pieces_ne_nil sep front)
    by_cases hc : c = sep
    · simp [pieces, hc, ih]
    · simp [pieces, hc, ih, hp]

theorem pieces_append (h : sep ∉ front) : pieces sep (front ++ sep :: s) = front :: pieces sep s := by
  rw [pieces_append_cons, pieces_of_not_mem h, List.singleton_append]

theorem not_mem_of_mem_pieces {p : List Char} (h : p ∈ pieces sep s) : sep ∉ p := by
  induction s generalizing p with
  | nil =>
    obtain rfl := List.mem_singleton.mp h
    exact List.not_mem_nil
  | cons c s ih =>
    obtain ⟨q, qs, hq⟩ := List.exists_cons_of_ne_nil (pieces_ne_nil sep s)
    by_cases hc : c = sep
    · simp only [pieces, hc, if_true, List.mem_cons] at h
      rcases h with rfl | h
      · exact List.not_mem_nil
      · exact ih h
    · simp only [pieces, if_neg hc, hq, List.mem_cons] at h
      rcases h with rfl | h
      · have hmem : sep ∉ q := ih (hq ▸ List.mem_cons_self)
        simp [Ne.symm hc, hmem]
      · exact ih (hq ▸ List.mem_cons_of_mem q h)

theorem pieces_join {ps : List (List Char)} (hne : ps ≠ []) (h : ∀ p ∈ ps, sep ∉ p) :
    pieces sep (join [sep] ps) = ps := by
  induction ps with
  | nil => exact absurd rfl hne
  | cons p ps ih =>
    cases ps with
    | nil => exact pieces_of_not_mem (h p List.mem_cons_self)
    | cons q ps =>
      have hq : pieces sep (join [sep] (q :: ps)) = q :: ps :=
        ih (by simp) fun r hr => h r (List.mem_cons_of_mem p hr)
      simp only [join, List.append_assoc, List.singleton_append]
      rw [pieces_append (h p List.mem_cons_self), hq]

/-- Every piece but the first has its separator in front. -/
theorem join_cons (sep : Char) (p : List Char) (ps : List (List Char)) :
    join [sep] (p :: ps) = p ++ (ps.map (sep :: ·)).flatten := by
  induction ps generalizing p with
  | nil => simp [join]
  | cons q ps ih => simp [join, ih]

theorem mem_of_mem_join {c : Char} {sep : List Char} {ps : List (List Char)} (h : c ∈ join sep ps) :
    c ∈ sep ∨ ∃ p ∈ ps, c ∈ p := by
  induction ps with
  | nil => simp [join] at h
  | cons p ps ih =>
    cases ps with
    | nil => exact .inr ⟨p, List.mem_cons_self, h⟩
    | cons q ps =>
      simp only [join, List.mem_append] at h
      rcases h with (h | h) | h
      · exact .inr ⟨p, List.mem_cons_self, h⟩
      · exact .inl h
      · rcases ih h with hs | ⟨r, hr, hc⟩
        · exact .inl hs
        · exact .inr ⟨r, List.mem_cons_of_mem p hr, hc⟩

theorem splitLast?_append (h : sep ∉ back) :
    splitLast? sep (front ++ sep :: back) = some (front, back) := by
  have hr : (front ++ sep :: back).reverse = back.reverse ++ sep :: front.reverse := by simp
  have hb : ∀ c ∈ back.reverse, decide (c ≠ sep) = true := by
    intro c hc
    rw [decide_eq_true_eq]
    rintro rfl
    exact h (List.mem_reverse.mp hc)
  unfold splitLast?
  rw [hr, List.dropWhile_append_of_pos hb, List.takeWhile_append_of_pos hb]
  simp

theorem exists_last_of_mem (h : sep ∈ s) : ∃ front back, s = front ++ sep :: back ∧ sep ∉ back := by
  obtain ⟨back, front, hs, hb⟩ := List.eq_append_cons_of_mem (List.mem_reverse.mpr h)
  refine ⟨front.reverse, back.reverse, ?_, by simpa using hb⟩
  have hs' := congrArg List.reverse hs
  simpa using hs'

theorem splitLast?_eq_none_iff : splitLast? sep s = none ↔ sep ∉ s := by
  constructor
  · intro hn hm
    obtain ⟨front, back, rfl, hb⟩ := exists_last_of_mem hm
    simp [splitLast?_append hb] at hn
  · intro hm
    have hd : s.reverse.dropWhile (· ≠ sep) = [] := by
      apply List.dropWhile_eq_nil_iff.mpr
      intro c hc
      rw [decide_eq_true_eq]
      rintro rfl
      exact hm (List.mem_reverse.mp hc)
    simp only [splitLast?, hd]

theorem splitLast?_eq_some_iff :
    splitLast? sep s = some (front, back) ↔ s = front ++ sep :: back ∧ sep ∉ back := by
  constructor
  · intro h
    by_cases hm : sep ∈ s
    · obtain ⟨f, b, rfl, hb⟩ := exists_last_of_mem hm
      rw [splitLast?_append hb, Option.some.injEq, Prod.mk.injEq] at h
      obtain ⟨rfl, rfl⟩ := h
      exact ⟨rfl, hb⟩
    · simp [splitLast?_eq_none_iff.mpr hm] at h
  · intro hx
    obtain ⟨rfl, h⟩ := hx
    exact splitLast?_append h

end ClusterLookup.Text
