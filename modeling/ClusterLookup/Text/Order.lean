/-!
# Dictionary order

Lists are compared at the first place where they differ, and a list comes before its extensions.
Text is ordered in this way by code point, and lists of texts by the order of texts. Main statement:
the order of lists is strict and connected when that of their members is, so that sorting leaves no
choice but among equals.
-/

namespace ClusterLookup.Text

variable {α : Type}

/-- An order in which no value comes before itself and any two values are comparable. -/
structure StrictOrder (lt : α → α → Bool) : Prop where
  irrefl (a : α) : lt a a = false
  trans {a b c : α} : lt a b = true → lt b c = true → lt a c = true
  connected (a b : α) : lt a b = true ∨ a = b ∨ lt b a = true

def notAfter (lt : α → α → Bool) (a b : α) : Bool := !lt b a

def listLt (lt : α → α → Bool) : List α → List α → Bool
  | _, [] => false
  | [], _ :: _ => true
  | a :: s, b :: t => lt a b || (!lt b a && listLt lt s t)

/-- Whether a character comes before another one, by code point. -/
def charLt (a b : Char) : Bool := decide (a.toNat < b.toNat)

def textLt : List Char → List Char → Bool := listLt charLt

namespace StrictOrder
variable {lt : α → α → Bool}

theorem asymm (h : StrictOrder lt) {a b : α} (hab : lt a b = true) : lt b a = false := by
  cases hba : lt b a with
  | false => rfl
  | true =>
    have := h.trans hab hba
    rw [h.irrefl] at this
    exact absurd this (by decide)

theorem lt_of_lt_of_not (h : StrictOrder lt) {a b c : α} (hab : lt a b = true)
    (hcb : lt c b = false) : lt a c = true := by
  rcases h.connected b c with hlt | heq | hlt
  · exact h.trans hab hlt
  · exact heq ▸ hab
  · simp [hcb] at hlt

theorem lt_of_not_of_lt (h : StrictOrder lt) {a b c : α} (hba : lt b a = false)
    (hbc : lt b c = true) : lt a c = true := by
  rcases h.connected a b with hlt | heq | hlt
  · exact h.trans hlt hbc
  · exact heq ▸ hbc
  · simp [hba] at hlt

theorem not_trans (h : StrictOrder lt) {a b c : α} (hba : lt b a = false) (hcb : lt c b = false) :
    lt c a = false := by
  cases hca : lt c a with
  | false => rfl
  | true =>
    have hba' := h.lt_of_not_of_lt hcb hca
    simp [hba] at hba'

theorem notAfter_total (h : StrictOrder lt) (a b : α) : (notAfter lt a b || notAfter lt b a) = true := by
  unfold notAfter
  cases hab : lt a b with
  | false => simp
  | true => simp [h.asymm hab]

theorem notAfter_antisymm (h : StrictOrder lt) {a b : α} (hab : notAfter lt a b = true)
    (hba : notAfter lt b a = true) : a = b := by
  unfold notAfter at hab hba
  rcases h.connected a b with hlt | heq | hlt
  · simp [hlt] at hba
  · exact heq
  · simp [hlt] at hab

theorem notAfter_trans (h : StrictOrder lt) {a b c : α} (hab : notAfter lt a b = true)
    (hbc : notAfter lt b c = true) : notAfter lt a c = true := by
  unfold notAfter at hab hbc ⊢
  simp only [Bool.not_eq_true'] at hab hbc ⊢
  exact h.not_trans hab hbc

theorem list (h : StrictOrder lt) : StrictOrder (listLt lt) where
  irrefl s := by
    induction s with
    | nil => rfl
    | cons a s ih => simp [listLt, h.irrefl, ih]
  trans {s t u} := by
    intro hst htu
    induction s generalizing t u with
    | nil =>
      cases u with
      | nil => cases t <;> simp [listLt] at htu
      | cons c u => rfl
    | cons a s ih =>
      cases t with
      | nil => simp [listLt] at hst
      | cons b t =>
        cases u with
        | nil => simp [listLt] at htu
        | cons c u =>
          simp only [listLt, Bool.or_eq_true, Bool.and_eq_true, Bool.not_eq_true'] at hst htu ⊢
          rcases hst with hab | ⟨hba, hst⟩
          · rcases htu with hbc | ⟨hcb, _⟩
            · exact .inl (h.trans hab hbc)
            · exact .inl (h.lt_of_lt_of_not hab hcb)
          · rcases htu with hbc | ⟨hcb, htu⟩
            · exact .inl (h.lt_of_not_of_lt hba hbc)
            · exact .inr ⟨h.not_trans hba hcb, ih hst htu⟩
  connected s t := by
    induction s generalizing t with
    | nil =>
      cases t with
      | nil => exact .inr (.inl rfl)
      | cons b t => exact .inl rfl
    | cons a s ih =>
      cases t with
      | nil => exact .inr (.inr rfl)
      | cons b t =>
        rcases h.connected a b with hab | heq | hba
        · exact .inl (by simp [listLt, hab])
        · subst heq
          rcases ih t with hst | heq | hts
          · exact .inl (by simp [listLt, h.irrefl, hst])
          · exact .inr (.inl (by rw [heq]))
          · exact .inr (.inr (by simp [listLt, h.irrefl, hts]))
        · exact .inr (.inr (by simp [listLt, hba]))

theorem char : StrictOrder charLt where
  irrefl a := by simp [charLt]
  trans {a b c} := by
    intro hab hbc
    simp only [charLt, decide_eq_true_eq] at hab hbc ⊢
    omega
  connected a b := by
    simp only [charLt, decide_eq_true_eq]
    rcases Nat.lt_trichotomy a.toNat b.toNat with hlt | heq | hlt
    · exact .inl hlt
    · exact .inr (.inl (Char.toNat_inj.mp heq))
    · exact .inr (.inr hlt)

theorem text : StrictOrder textLt := char.list

end StrictOrder

theorem pairwise_mergeSort_notAfter {lt : α → α → Bool} (h : StrictOrder lt) (s : List α) :
    (s.mergeSort (notAfter lt)).Pairwise fun a b => notAfter lt a b = true := by
  apply List.pairwise_mergeSort
  · intro a b c
    exact h.notAfter_trans
  · exact h.notAfter_total

/-- Lists of the same values have one sorted form. -/
theorem mergeSort_eq_of_perm {lt : α → α → Bool} (h : StrictOrder lt) {s t : List α}
    (hp : s.Perm t) : s.mergeSort (notAfter lt) = t.mergeSort (notAfter lt) := by
  apply List.Perm.eq_of_pairwise (fun _ _ _ _ hab hba => h.notAfter_antisymm hab hba)
    (pairwise_mergeSort_notAfter h s) (pairwise_mergeSort_notAfter h t)
  exact (List.mergeSort_perm s _).trans (hp.trans (List.mergeSort_perm t _).symm)

end ClusterLookup.Text
