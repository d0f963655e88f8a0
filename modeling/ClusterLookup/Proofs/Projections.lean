import ClusterLookup.Proofs.Confinement

/-!
# What is told of journals

Statements about lookups look at parts of their journals: at the calls, at the counts, at what goes over
the wire. Each part is put together from what single entries tell, so what becomes of the entries that
lookups make beside their calls is said once, for every part that these entries tell nothing of.
-/

namespace ClusterLookup

variable {α : Type} {tell : Journal → List α}

/-- Whether what is told of a journal is what its entries tell, one after the other, and log records tell
nothing. -/
structure Projection (tell : Journal → List α) : Prop where
  append : ∀ first second : Journal, tell (first ++ second) = tell first ++ tell second
  log : ∀ record, tell [.log record] = []

/-- A projection to which nothing that collaborators enter makes a difference. -/
structure Projection.Unnoticing (tell : Journal → List α) : Prop extends Projection tell where
  wire : ∀ exchange, tell [.wire exchange] = []

/-- A projection that tells of calls alone, those that collaborators make included. -/
structure Projection.OfCalls (tell : Journal → List α) : Prop extends Projection tell where
  count : ∀ counter, tell [.count counter] = []

/-- A projection that tells of calls to clients and registries alone. -/
structure Projection.OfExchanges (tell : Journal → List α) : Prop
  extends Projection.Unnoticing tell, Projection.OfCalls tell

namespace Projection

theorem nil (h : Projection tell) : tell [] = [] := by
  have hlength := congrArg List.length (h.append [] [])
  rw [List.append_nil, List.length_append] at hlength
  exact List.length_eq_zero_iff.mp (by omega)

theorem log_cons (h : Projection tell) (record : LogRecord) (journal : Journal) :
    tell (.log record :: journal) = tell journal := by
  have happend := h.append [.log record] journal
  rwa [h.log, List.nil_append] at happend

/-- Entries that tell nothing one by one tell nothing together. -/
theorem eq_nil (h : Projection tell) {journal : Journal} (hj : ∀ entry ∈ journal, tell [entry] = []) :
    tell journal = [] := by
  induction journal with
  | nil => exact h.nil
  | cons entry journal ih =>
    obtain ⟨hentry, hrest⟩ := List.forall_mem_cons.mp hj
    rw [← List.singleton_append, h.append, hentry, ih hrest, List.append_nil]

theorem absenceEntries (h : Projection tell) (identity : Identity)
    (answer : Except Failure Document) : tell (Lookup.absenceEntries identity answer) = [] := by
  cases answer with
  | ok document => exact h.nil
  | error failure =>
    simp only [Lookup.absenceEntries]
    split
    · exact h.log _
    · exact h.nil

theorem Unnoticing.entry (h : Unnoticing tell) (notice : Notice) : tell [notice.entry] = [] := by
  cases notice with
  | wire exchange => exact h.wire exchange
  | log record => exact h.log record

theorem Unnoticing.notices (h : Unnoticing tell) (notices : List Notice) :
    tell (notices.map Notice.entry) = [] := by
  apply h.eq_nil
  intro entry hm
  obtain ⟨notice, _, rfl⟩ := List.mem_map.mp hm
  exact h.entry notice

/-- A call is told of without what the collaborator entered before. -/
theorem Unnoticing.notices_append (h : Unnoticing tell) (notices : List Notice) (journal : Journal) :
    tell (notices.map Notice.entry ++ journal) = tell journal := by
  rw [h.append, h.notices, List.nil_append]

/-- Resolving a type tells nothing but that it is resolved. -/
theorem Unnoticing.resolveType {σ : Type} (h : Unnoticing tell)
    (hr : ∀ entry : Entry, entry.isResolution = true → tell [entry] = []) (source : Source σ)
    (type : GroupVersionKind) (context : Context σ) :
    tell (Lookup.resolveType source type context).journal = [] := by
  apply h.eq_nil
  intro entry hm
  rcases Lookup.mem_resolveType hm with ⟨notice, rfl⟩ | hresolution
  · exact h.entry notice
  · exact hr entry hresolution

theorem OfCalls.eq_nil_of_not_isCall (h : OfCalls tell) {journal : Journal}
    (hj : ∀ entry ∈ journal, entry.isCall = false) : tell journal = [] := by
  apply h.eq_nil
  intro entry hm
  have hcall := hj entry hm
  cases entry with
  | log record => exact h.log record
  | count counter => exact h.count counter
  | _ => cases hcall

theorem OfCalls.probeEntries (h : OfCalls tell) (identity : Identity)
    (cached : Option (List Document)) : tell (Lookup.probeEntries identity cached) = [] := by
  apply h.eq_nil_of_not_isCall
  exact fun _ => Lookup.isCall_of_mem_probeEntries

theorem OfCalls.refusalEntries (h : OfCalls tell) (failure : Failure) :
    tell (Lookup.refusalEntries failure) = [] := by
  apply h.eq_nil_of_not_isCall
  exact fun _ => Lookup.isCall_of_mem_refusalEntries

/-- The calls of a lookup do not depend on how it takes a missing object. -/
theorem OfCalls.perform {σ : Type} (h : OfCalls tell) (evaluation : Evaluation σ)
    (arguments : Arguments) (strictness : Strictness) (context : Context σ) :
    tell (evaluation.perform arguments strictness context).journal =
      tell (evaluation.lookupStrict arguments context).journal := by
  cases strictness with
  | strict => rfl
  | lenient =>
    have hclosing : tell (evaluation.closingEntries arguments
        (evaluation.lookupStrict arguments context).result) = [] := by
      apply h.eq_nil_of_not_isCall
      intro entry hm
      exact Entry.isCall_of_isPlain (Evaluation.isPlain_of_mem_closingEntries hm)
    simp only [Evaluation.perform, Evaluation.lookup_eq]
    rw [h.log_cons, h.append, hclosing, List.append_nil]

section Lookups
variable {σ : Type} {evaluation : Evaluation σ} {arguments : Arguments}

theorem OfCalls.perform_of_invalid (h : OfCalls tell) {failure : Failure}
    (hi : arguments.identity evaluation.policy = .error failure) (strictness : Strictness)
    (context : Context σ) : tell (evaluation.perform arguments strictness context).journal = [] := by
  rw [h.perform, Evaluation.lookupStrict_of_invalid hi, h.refusalEntries]

/-- The calls of a lookup are those that resolve the type. If the guard lets it pass, those that read the
answer come after them. -/
theorem OfCalls.perform_of_valid (h : OfCalls tell) {identity : Identity}
    (hi : arguments.identity evaluation.policy = .ok identity) (strictness : Strictness)
    (context : Context σ) :
    let resolved := Lookup.resolveType evaluation.source identity.type context
    let told := tell (evaluation.perform arguments strictness context).journal
    told = tell resolved.journal ∨ ∃ descriptor, resolved.result = .ok descriptor ∧
      evaluation.policy.admits descriptor identity.type.kind identity.name = true ∧
      told = tell resolved.journal ++
        tell (Lookup.readAnswer evaluation.source identity descriptor resolved.state).journal := by
  intro resolved told
  have htold : told = tell (evaluation.answer identity context).journal := by
    simp only [told, h.perform, Evaluation.lookupStrict_of_valid hi]
  have hcourse := Evaluation.course_answer evaluation identity context
  generalize evaluation.answer identity context = performed at hcourse htold
  rw [htold]
  cases hcourse with
  | unresolved ht => exact .inl rfl
  | refused ht ha =>
    rw [h.append, h.refusalEntries, List.append_nil]
    exact .inl rfl
  | admitted ht ha hr =>
    subst hr
    exact .inr ⟨_, ht, ha, h.append _ _⟩

end Lookups

end Projection

namespace Journal

theorem ofExchanges_clientExchanges : Projection.OfExchanges clientExchanges where
  append _ _ := List.filterMap_append
  log _ := rfl
  wire _ := rfl
  count _ := rfl

theorem ofExchanges_registryExchanges : Projection.OfExchanges registryExchanges where
  append _ _ := List.filterMap_append
  log _ := rfl
  wire _ := rfl
  count _ := rfl

theorem ofCalls_wireExchanges : Projection.OfCalls wireExchanges where
  append _ _ := List.filterMap_append
  log _ := rfl
  count _ := rfl

theorem unnoticing_counters : Projection.Unnoticing counters where
  append _ _ := List.filterMap_append
  log _ := rfl
  wire _ := rfl

end Journal

end ClusterLookup
