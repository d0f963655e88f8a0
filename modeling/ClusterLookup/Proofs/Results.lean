/-!
# Results of checks in a row

A chain of checks succeeds exactly when each of its parts does.
-/

namespace ClusterLookup.Results
variable {ε ε' α β : Type}

theorem bind_eq_ok_iff {x : Except ε α} {f : α → Except ε β} {b : β} :
    x >>= f = .ok b ↔ ∃ a, x = .ok a ∧ f a = .ok b := by
  cases x with
  | ok a => simp [bind, Except.bind]
  | error e => simp [bind, Except.bind]

theorem bind_eq_error_iff {x : Except ε α} {f : α → Except ε β} {e : ε} :
    x >>= f = .error e ↔ x = .error e ∨ ∃ a, x = .ok a ∧ f a = .error e := by
  cases x with
  | ok a => simp [bind, Except.bind]
  | error found => simp [bind, Except.bind]

theorem map_eq_ok_iff {x : Except ε α} {f : α → β} {b : β} :
    x.map f = .ok b ↔ ∃ a, x = .ok a ∧ f a = b := by
  cases x with
  | ok a => simp [Except.map]
  | error e => simp [Except.map]

theorem map_eq_error_iff {x : Except ε α} {f : α → β} {e : ε} :
    x.map f = .error e ↔ x = .error e := by
  cases x with
  | ok a => simp [Except.map]
  | error e => simp [Except.map]

theorem mapError_ok (f : ε → ε') (a : α) : (Except.ok a).mapError f = .ok a := rfl

theorem mapError_error (f : ε → ε') (e : ε) :
    (Except.error e : Except ε α).mapError f = .error (f e) := rfl

theorem mapError_eq_ok_iff {x : Except ε α} {f : ε → ε'} {a : α} :
    x.mapError f = .ok a ↔ x = .ok a := by
  cases x with
  | ok a => simp [mapError_ok]
  | error e => simp [mapError_error]

theorem mapError_eq_error_iff {x : Except ε α} {f : ε → ε'} {e : ε'} :
    x.mapError f = .error e ↔ ∃ cause, x = .error cause ∧ f cause = e := by
  cases x with
  | ok a => simp [mapError_ok]
  | error cause => simp [mapError_error]

theorem toOption_eq_some_iff {x : Except ε α} {a : α} : x.toOption = some a ↔ x = .ok a := by
  cases x with
  | ok found => simp [Except.toOption]
  | error e => simp [Except.toOption]

def failure? : Except ε α → Option ε
  | .ok _ => none
  | .error e => some e

theorem failure?_eq_some_iff {x : Except ε α} {e : ε} : failure? x = some e ↔ x = .error e := by
  cases x with
  | ok a => simp [failure?]
  | error found => simp [failure?]

/-- A chain fails with its first part, or else with what comes after it. -/
theorem failure?_bind {x : Except ε α} {f : α → Except ε β} {rest : Option ε}
    (h : ∀ a, x = .ok a → failure? (f a) = rest) : failure? (x >>= f) = (failure? x).or rest := by
  cases x with
  | ok a => exact h a rfl
  | error e => rfl

theorem findSome?_cons (f : α → Option β) (a : α) (as : List α) :
    (a :: as).findSome? f = (f a).or (as.findSome? f) := by
  cases h : f a with
  | none => simp [h]
  | some b => simp [h]

/-! ## Checks of a list -/

theorem exists_of_mem_mapM {f : α → Except ε β} {as : List α} {bs : List β} (h : as.mapM f = .ok bs)
    {b : β} (hb : b ∈ bs) : ∃ a ∈ as, f a = .ok b := by
  induction as generalizing bs with
  | nil =>
    cases h
    cases hb
  | cons a as ih =>
    simp only [List.mapM_cons, bind_eq_ok_iff] at h
    obtain ⟨c, hc, cs, hcs, heq⟩ := h
    cases heq
    rcases List.mem_cons.mp hb with rfl | hb
    · exact ⟨a, List.mem_cons_self, hc⟩
    · obtain ⟨found, hm, hf⟩ := ih hcs hb
      exact ⟨found, List.mem_cons_of_mem a hm, hf⟩

/-- The first item of a kind behind items of another kind is the head, or stands in the tail. -/
theorem exists_first_cons_iff {Q R : α → Prop} {a : α} {as : List α} :
    (∃ earlier found later, a :: as = earlier ++ found :: later ∧ (∀ x ∈ earlier, Q x) ∧ R found) ↔
      R a ∨ Q a ∧
        ∃ earlier found later, as = earlier ++ found :: later ∧ (∀ x ∈ earlier, Q x) ∧ R found := by
  constructor
  · rintro ⟨earlier, found, later, heq, hQ, hR⟩
    cases earlier with
    | nil =>
      cases heq
      exact .inl hR
    | cons x earlier =>
      cases heq
      obtain ⟨ha, hQ⟩ := List.forall_mem_cons.mp hQ
      exact .inr ⟨ha, earlier, found, later, rfl, hQ, hR⟩
  · rintro (hR | ⟨ha, earlier, found, later, rfl, hQ, hR⟩)
    · exact ⟨[], a, as, rfl, fun x hx => absurd hx List.not_mem_nil, hR⟩
    · exact ⟨a :: earlier, found, later, rfl, List.forall_mem_cons.mpr ⟨ha, hQ⟩, hR⟩

/-- Of the items that are checked, the first one that fails is the one reported. -/
theorem mapM_filter_eq_error_iff {f : α → Except ε β} {p : α → Bool} {as : List α} {e : ε} :
    (as.filter p).mapM f = .error e ↔
      ∃ earlier a later, as = earlier ++ a :: later ∧
        (∀ x ∈ earlier, p x = true → ∃ b, f x = .ok b) ∧ (p a = true ∧ f a = .error e) := by
  induction as with
  | nil => simp [pure, Except.pure]
  | cons a as ih =>
    rw [exists_first_cons_iff, ← ih]
    cases hp : p a with
    | false => simp [hp]
    | true =>
      rw [List.filter_cons_of_pos hp, List.mapM_cons]
      cases hf : f a with
      | error e' => simp [bind, Except.bind]
      | ok b => cases (as.filter p).mapM f <;> simp [bind, Except.bind, pure, Except.pure]

end ClusterLookup.Results
