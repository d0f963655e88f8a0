import ClusterLookup.Proofs.Noninterference
import ClusterLookup.Proofs.Provenance
import Mathlib.Data.Bool.Count

/-!
# The counters account for every lookup

What is counted while lookups go on agrees with how they go: one ending for each lookup that ends for its
caller, one probe for each that gets as far as the cache, a miss for each call that reads from the client,
and a denial for each lookup that a guard refuses. This holds step by step, and so it holds of the totals.

A denial is told from the failure of the lookup. This is why no collaborator may fail with what a guard
says.
-/

namespace ClusterLookup

open Results (failure?)

/-! ## What is counted -/

def Counter.ending? : Counter → Option (Path × Ending)
  | .lookups path ending => some (path, ending)
  | _ => none

def Counter.probe? : Counter → Option Bool
  | .probes hit => some hit
  | _ => none

def Counter.denial? : Counter → Option Guard
  | .denials guard => some guard
  | _ => none

namespace Journal

def endings (journal : Journal) : List (Path × Ending) := journal.counters.filterMap Counter.ending?

def probes (journal : Journal) : List Bool := journal.counters.filterMap Counter.probe?

def denials (journal : Journal) : List Guard := journal.counters.filterMap Counter.denial?

end Journal

/-! ## What is to be counted -/

/-- How a lookup ends to the eye of its caller. A failure outside the lookup family is no ending. -/
def Arguments.ending? (arguments : Arguments) : Except Failure (Option Answer) → Option Ending
  | .error failure => if failure.isLookup then some .error else none
  | .ok none => none
  | .ok (some .absent) => some .notFound
  | .ok (some (.items [])) => if arguments.name = "" then some .empty else some .found
  | .ok (some _) => some .found

/-- The ending that a lookup is counted under. A strict lookup leaves it to its caller. -/
def Strictness.ending? (arguments : Arguments) (result : Except Failure (Option Answer)) :
    Strictness → Option Ending
  | .lenient => arguments.ending? result
  | .strict => none

/-- The guard that a failure comes from. -/
def Failure.guard? : Failure → Option Guard
  | .restrictedNamespace _ _ => some .namespaces
  | .clusterScoped _ _ _ => some .clusterScope
  | _ => none

/-- Whether a lookup gets as far as the cache: its evaluation reads through one, its arguments pass the
checks, its type is resolved and the guard lets it pass. -/
def Evaluation.reads {σ : Type} (evaluation : Evaluation σ) (arguments : Arguments)
    (context : Context σ) : Bool :=
  evaluation.path == .cacheFirst &&
    match arguments.identity evaluation.policy with
    | .error _ => false
    | .ok identity =>
      match (Lookup.resolveType evaluation.source identity.type context).result with
      | .error _ => false
      | .ok descriptor => evaluation.policy.admits descriptor identity.type.kind identity.name

/-- The failure that a collaborator answered a call with. -/
def Entry.failure? : Entry → Option Failure
  | .client (.discover _ answer) => Results.failure? answer
  | .client (.get _ _ _ _ answer) => Results.failure? answer
  | .client (.list _ _ _ _ answer) => Results.failure? answer
  | .registry (.resolveType _ answer) => Results.failure? answer
  | .registry (.get _ _ _ _ answer) => Results.failure? answer
  | .registry (.list _ _ _ _ answer) => Results.failure? answer
  | _ => none

/-- Whether no collaborator failed with what a guard says. -/
def Journal.Unguarded (journal : Journal) : Prop :=
  ∀ entry ∈ journal, ∀ failure, entry.failure? = some failure → failure.guard? = none

namespace Event
variable {σ : Type}

/-- How the lookup of an event ends, and on which path. -/
def ending? (event : Event σ) : Option (Path × Ending) :=
  match event.step with
  | .lookup name strictness arguments => (event.before.member? name).bind fun member =>
    (strictness.ending? arguments event.report.result).map (Prod.mk member.evaluation.path)
  | _ => none

def reads (event : Event σ) : Bool :=
  match event.step with
  | .lookup name _ arguments => (event.before.member? name).any fun member =>
    member.evaluation.reads arguments (event.before.context member)
  | _ => false

/-- The guard that refuses what is done in an event. -/
def guard? (event : Event σ) : Option Guard := (failure? event.report.result).bind Failure.guard?

/-- Whether all that happens in an event is counted, and nothing else. -/
structure Accounted (event : Event σ) : Prop where
  endings : event.report.journal.endings = event.ending?.toList
  probes : event.report.journal.probes.length = event.reads.toNat
  misses : event.report.journal.probes.count false = event.report.journal.documentExchanges.length
  denials : event.report.journal.denials = event.guard?.toList

end Event

/-! ## What the stages count -/

open Journal (unnoticing_counters ofExchanges_documentExchanges)

namespace Lookup
variable {σ : Type}

theorem counters_resolveType (source : Source σ) (type : GroupVersionKind) (context : Context σ) :
    Journal.counters (resolveType source type context).journal = [] := by
  apply unnoticing_counters.resolveType
  intro entry hr
  cases entry with
  | count counter => cases hr
  | _ => rfl

theorem counters_refusalEntries (failure : Failure) :
    Journal.counters (refusalEntries failure) = (failure.guard?.map Counter.denials).toList := by
  cases failure <;> rfl

end Lookup

/-- What is counted when a question is put to a source: behind a cache, whether it was there. -/
def Source.probes {σ : Type} (cache : AnswerCache) (identity : Identity) : Source σ → List Bool
  | .cluster _ => [(cache.find? identity).isSome]
  | .registry _ _ => []

theorem Lookup.counters_readAnswer {σ : Type} (source : Source σ) (identity : Identity)
    (descriptor : Descriptor) (context : Context σ) :
    Journal.counters (readAnswer source identity descriptor context).journal =
      (source.probes context.cache identity).map Counter.probes := by
  have hprobe : ∀ cached, Journal.counters (probeEntries identity cached) =
      [.probes cached.isSome] := fun _ => rfl
  have hreading := reading_readAnswer source identity descriptor context
  generalize readAnswer source identity descriptor context = outcome at hreading ⊢
  cases hreading with
  | remembered hf =>
    simp only [hprobe, Source.probes, hf]
    rfl
  | listed hf hl ha =>
    simp only [unnoticing_counters.append, hprobe, unnoticing_counters.notices, Source.probes, hf]
    rfl
  | got hf hl ha =>
    simp only [unnoticing_counters.append, hprobe, unnoticing_counters.notices,
      unnoticing_counters.absenceEntries, Source.probes, hf]
    rfl
  | watchedList hl ha =>
    rw [unnoticing_counters.notices_append]
    rfl
  | watchedGet hl ha =>
    rw [unnoticing_counters.notices_append]
    rfl

/-! ## Failures that come from no guard -/

namespace Journal
variable {first second : Journal}

theorem unguarded_append :
    Unguarded (first ++ second) ↔ first.Unguarded ∧ second.Unguarded := by
  simp only [Unguarded, List.mem_append, or_imp, forall_and]

end Journal

/-- Wrapping a failure neither hides nor makes a guard. -/
theorem Failure.guard?_during (operation : String) (failure : Failure) :
    (failure.during operation).guard? = failure.guard? := by
  cases failure <;> rfl

namespace Lookup
variable {σ : Type} {source : Source σ} {type : GroupVersionKind} {identity : Identity}
variable {descriptor : Descriptor} {context : Context σ} {failure : Failure}

open Results (failure?_eq_some_iff)

theorem guard?_resolveType (h : Journal.Unguarded (resolveType source type context).journal)
    (ht : (resolveType source type context).result = .error failure) : failure.guard? = none := by
  have hresolving := resolving_resolveType source type context
  generalize resolveType source type context = resolved at hresolving h ht
  cases hresolving with
  | remembered hd => cases ht
  | discovered hd ha =>
    exact h _ (List.mem_append_right _ List.mem_cons_self) _ (failure?_eq_some_iff.mpr ht)
  | watched ha =>
    obtain ⟨cause, hc, rfl⟩ := Results.mapError_eq_error_iff.mp ht
    rw [Failure.guard?_during]
    exact h _ (List.mem_append_right _ List.mem_cons_self) _ (failure?_eq_some_iff.mpr hc)

theorem guard?_readAnswer (h : Journal.Unguarded (readAnswer source identity descriptor context).journal)
    (hr : (readAnswer source identity descriptor context).result = .error failure) :
    failure.guard? = none := by
  have hreading := reading_readAnswer source identity descriptor context
  generalize readAnswer source identity descriptor context = outcome at hreading h hr
  cases hreading with
  | remembered hf => cases hr
  | listed hf hl ha =>
    have hasked := Results.map_eq_error_iff.mp hr
    exact h _ (List.mem_append_right _ (List.mem_append_right _ List.mem_cons_self)) _
      (failure?_eq_some_iff.mpr hasked)
  | got hf hl ha =>
    have hasked := Results.map_eq_error_iff.mp hr
    exact h _ (List.mem_append_right _
      (List.mem_append_left _ (List.mem_append_right _ List.mem_cons_self))) _
      (failure?_eq_some_iff.mpr hasked)
  | watchedList hl ha =>
    obtain ⟨cause, hc, rfl⟩ := Results.mapError_eq_error_iff.mp (Results.map_eq_error_iff.mp hr)
    rw [Failure.guard?_during]
    exact h _ (List.mem_append_right _ List.mem_cons_self) _ (failure?_eq_some_iff.mpr hc)
  | @watchedGet _ _ asked hl ha =>
    simp only at hr
    cases hasked : asked.result with
    | error cause =>
      rw [hasked] at hr
      cases hr
      rw [Failure.guard?_during]
      exact h _ (List.mem_append_right _ List.mem_cons_self) _ (failure?_eq_some_iff.mpr hasked)
    | ok document =>
      -- The one failure of the stage itself is that there is no such object.
      rw [hasked] at hr
      simp only [Results.mapError_ok, Except.bind, present] at hr
      split at hr
      · cases hr
        rfl
      · cases hr

end Lookup

/-! ## What a lookup counts -/

namespace Evaluation
variable {σ : Type}

variable {evaluation : Evaluation σ} {arguments : Arguments} {context : Context σ}

/-- What is counted on the way to an answer: no ending yet, a probe if the lookup gets as far as the cache,
a miss if it asks the client, and a denial if a guard refuses it. -/
structure Tallies (evaluation : Evaluation σ) (arguments : Arguments) (context : Context σ)
    (outcome : Outcome Entry (Context σ) Answer) : Prop where
  endings : Journal.endings outcome.journal = []
  probes : (Journal.probes outcome.journal).length = (evaluation.reads arguments context).toNat
  misses : (Journal.probes outcome.journal).count false =
    (Journal.documentExchanges outcome.journal).length
  denials : Journal.Unguarded outcome.journal →
    Journal.denials outcome.journal = ((failure? outcome.result).bind Failure.guard?).toList

/-- A lookup that does not get as far as the cache counts nothing but that a guard refuses it. -/
theorem tallies_of_denials {outcome : Outcome Entry (Context σ) Answer} (guard : Option Guard)
    (hc : Journal.counters outcome.journal = (guard.map Counter.denials).toList)
    (hd : Journal.documentExchanges outcome.journal = [])
    (hr : evaluation.reads arguments context = false)
    (hg : Journal.Unguarded outcome.journal → (failure? outcome.result).bind Failure.guard? = guard) :
    evaluation.Tallies arguments context outcome := by
  have hpick : ∀ {β : Type} (pick : Counter → Option β),
      (Journal.counters outcome.journal).filterMap pick =
        (guard.bind (pick <| .denials ·)).toList := by
    intro β pick
    rw [hc]
    cases guard with
    | none => rfl
    | some guard => cases h : pick (.denials guard) <;> simp [h]
  have hprobes : Journal.probes outcome.journal = [] := by
    rw [Journal.probes, hpick]
    cases guard <;> rfl
  refine ⟨?_, ?_, ?_, ?_⟩
  · rw [Journal.endings, hpick]
    cases guard <;> rfl
  · rw [hprobes, hr]
    rfl
  · rw [hprobes, hd]
    rfl
  · intro h
    rw [Journal.denials, hpick, hg h]
    cases guard <;> rfl

end Evaluation

namespace Lookup
variable {σ : Type}

/-- The cache is missed exactly when the client is asked for documents. -/
theorem misses_readAnswer (source : Source σ) (identity : Identity) (descriptor : Descriptor)
    (context : Context σ) : (source.probes context.cache identity).count false =
      (Journal.documentExchanges (readAnswer source identity descriptor context).journal).length := by
  have hreading := reading_readAnswer source identity descriptor context
  generalize readAnswer source identity descriptor context = outcome at hreading ⊢
  cases hreading with
  | remembered hf =>
    simp only [ofExchanges_documentExchanges.probeEntries, Source.probes, hf]
    rfl
  | listed hf hl ha =>
    simp only [ofExchanges_documentExchanges.append, ofExchanges_documentExchanges.notices,
      ofExchanges_documentExchanges.probeEntries, Source.probes, hf]
    rfl
  | got hf hl ha =>
    simp only [ofExchanges_documentExchanges.append, ofExchanges_documentExchanges.notices,
      ofExchanges_documentExchanges.probeEntries, ofExchanges_documentExchanges.absenceEntries,
      Source.probes, hf]
    rfl
  | watchedList hl ha =>
    rw [ofExchanges_documentExchanges.notices_append]
    rfl
  | watchedGet hl ha =>
    rw [ofExchanges_documentExchanges.notices_append]
    rfl

end Lookup

namespace Evaluation
variable {σ : Type} {evaluation : Evaluation σ} {arguments : Arguments} {context : Context σ}

theorem filterMap_probes {β : Type} {pick : Counter → Option β} {f : Bool → Option β}
    (hf : ∀ hit, pick (.probes hit) = f hit) (hits : List Bool) :
    (hits.map Counter.probes).filterMap pick = hits.filterMap f := by
  rw [List.filterMap_map]
  exact congrArg (List.filterMap · hits) (funext hf)

/-- A lookup that gets as far as the source counts nothing but whether the cache has the answer. -/
theorem tallies_of_admitted {identity : Identity} {descriptor : Descriptor}
    (hi : arguments.identity evaluation.policy = .ok identity)
    (ht : (Lookup.resolveType evaluation.source identity.type context).result = .ok descriptor)
    (ha : evaluation.policy.admits descriptor identity.type.kind identity.name = true) :
    let resolved := Lookup.resolveType evaluation.source identity.type context
    let outcome := Lookup.readAnswer evaluation.source identity descriptor resolved.state
    evaluation.Tallies arguments context ⟨outcome.result, { outcome.state with
      sensitive := outcome.state.sensitive || Lookup.marks evaluation identity outcome.result },
        resolved.journal ++ outcome.journal⟩ := by
  intro resolved outcome
  have hcounters : Journal.counters (resolved.journal ++ outcome.journal) =
      (evaluation.source.probes resolved.state.cache identity).map Counter.probes := by
    rw [unnoticing_counters.append, Lookup.counters_resolveType, Lookup.counters_readAnswer]
    rfl
  have hprobes : Journal.probes (resolved.journal ++ outcome.journal) =
      evaluation.source.probes resolved.state.cache identity := by
    rw [Journal.probes, hcounters, filterMap_probes (f := some) fun _ => rfl, List.filterMap_some]
  refine ⟨?_, ?_, ?_, ?_⟩
  · rw [Journal.endings, hcounters, filterMap_probes (f := fun _ => none) fun _ => rfl]
    exact List.filterMap_eq_nil_iff.mpr fun _ _ => rfl
  · rw [hprobes]
    simp only [reads, hi, ht, ha, path]
    cases evaluation.source <;> rfl
  · rw [hprobes, ofExchanges_documentExchanges.append, Lookup.documentExchanges_resolveType]
    exact Lookup.misses_readAnswer evaluation.source identity descriptor resolved.state
  · intro h
    have hread := (Journal.unguarded_append.mp h).2
    rw [Journal.denials, hcounters, filterMap_probes (f := fun _ => none) fun _ => rfl,
      List.filterMap_eq_nil_iff.mpr fun _ _ => rfl]
    cases hr : outcome.result with
    | ok answer => rfl
    | error failure => simp [failure?, Lookup.guard?_readAnswer hread hr]

theorem tallies_lookupStrict (evaluation : Evaluation σ) (arguments : Arguments)
    (context : Context σ) :
    evaluation.Tallies arguments context (evaluation.lookupStrict arguments context) := by
  cases hi : arguments.identity evaluation.policy with
  | error failure =>
    rw [lookupStrict_of_invalid hi]
    apply tallies_of_denials _ (Lookup.counters_refusalEntries failure)
    · exact ofExchanges_documentExchanges.refusalEntries failure
    · simp [reads, hi]
    · exact fun _ => rfl
  | ok identity =>
    rw [lookupStrict_of_valid hi]
    have hcourse := course_answer evaluation identity context
    generalize evaluation.answer identity context = performed at hcourse
    cases hcourse with
    | @unresolved failure ht =>
      apply tallies_of_denials none
      · exact Lookup.counters_resolveType evaluation.source identity.type context
      · exact Lookup.documentExchanges_resolveType evaluation.source identity.type context
      · simp [reads, hi, ht]
      · exact fun h => Lookup.guard?_resolveType h ht
    | @refused descriptor ht ha =>
      apply tallies_of_denials (some .clusterScope)
      · rw [unnoticing_counters.append, Lookup.counters_resolveType, Lookup.counters_refusalEntries]
        rfl
      · rw [ofExchanges_documentExchanges.append, Lookup.documentExchanges_resolveType,
          ofExchanges_documentExchanges.refusalEntries]
        rfl
      · simp [reads, hi, ht, ha]
      · exact fun _ => rfl
    | @admitted descriptor outcome ht ha hr =>
      subst hr
      exact tallies_of_admitted hi ht ha

/-- What is counted when a lookup has come to its end. -/
theorem counters_closingEntries (evaluation : Evaluation σ) (arguments : Arguments)
    (result : Except Failure Answer) :
    Journal.counters (closingEntries evaluation arguments result) =
      ((arguments.ending? ((lenient result).map some)).map (Counter.lookups evaluation.path)).toList := by
  cases result with
  | ok answer =>
    have hending : arguments.ending? (.ok (some answer)) =
        some (answer.ending arguments.name.isEmpty) := by
      cases answer with
      | items documents =>
        cases documents <;> by_cases hn : arguments.name = "" <;>
          simp [Arguments.ending?, Answer.ending, hn]
      | _ => rfl
    simp only [lenient, Except.map, hending]
    rfl
  | error failure =>
    by_cases hn : failure.isNotFound = true
    · simp only [closingEntries, lenient, hn, if_true, Except.map]
      rfl
    · by_cases hl : failure.isLookup = true
      · simp only [closingEntries, lenient, hn, hl, Arguments.ending?, Except.map, if_true, if_false,
          Bool.false_eq_true]
        rfl
      · simp only [closingEntries, lenient, hn, hl, Arguments.ending?, Except.map, if_false,
          Bool.false_eq_true]
        rfl

/-- A lookup counts what is counted on the way to its answer, and then its ending. -/
theorem counters_perform (evaluation : Evaluation σ) (arguments : Arguments) (strictness : Strictness)
    (context : Context σ) :
    let outcome := evaluation.perform arguments strictness context
    Journal.counters outcome.journal =
      Journal.counters (evaluation.lookupStrict arguments context).journal ++
        ((strictness.ending? arguments (outcome.result.map some)).map
          (Counter.lookups evaluation.path)).toList := by
  intro outcome
  cases strictness with
  | strict => exact (List.append_nil _).symm
  | lenient =>
    simp only [outcome, perform, lookup_eq, Strictness.ending?]
    rw [← counters_closingEntries, ← unnoticing_counters.append]
    rfl

/-- Taking a missing object for an answer hides nothing that a guard says. -/
theorem guard?_lenient (result : Except Failure Answer) :
    (failure? (lenient result)).bind Failure.guard? = (failure? result).bind Failure.guard? := by
  cases result with
  | ok answer => rfl
  | error failure => cases failure <;> rfl

theorem guard?_perform (evaluation : Evaluation σ) (arguments : Arguments) (strictness : Strictness)
    (context : Context σ) :
    (failure? (evaluation.perform arguments strictness context).result).bind Failure.guard? =
      (failure? (evaluation.lookupStrict arguments context).result).bind Failure.guard? := by
  cases strictness with
  | strict => rfl
  | lenient =>
    simp only [perform, lookup_eq]
    exact guard?_lenient _

theorem unguarded_of_perform {strictness : Strictness}
    (h : Journal.Unguarded (evaluation.perform arguments strictness context).journal) :
    Journal.Unguarded (evaluation.lookupStrict arguments context).journal := by
  cases strictness with
  | strict => exact h
  | lenient =>
    simp only [perform, lookup_eq] at h
    exact (Journal.unguarded_append.mp
      (Journal.unguarded_append.mp (show Journal.Unguarded ([_] ++ _) from h)).2).1

theorem endings_perform (evaluation : Evaluation σ) (arguments : Arguments) (strictness : Strictness)
    (context : Context σ) :
    let outcome := evaluation.perform arguments strictness context
    Journal.endings outcome.journal = ((strictness.ending? arguments (outcome.result.map some)).map
      (Prod.mk evaluation.path)).toList := by
  intro outcome
  have htallies := (tallies_lookupStrict evaluation arguments context).endings
  rw [Journal.endings] at htallies ⊢
  rw [counters_perform, List.filterMap_append, htallies]
  cases strictness.ending? arguments (outcome.result.map some) <;> rfl

/-- What is counted besides endings does not depend on the strictness. -/
theorem filterMap_counters_perform {β : Type} {pick : Counter → Option β}
    (hpick : ∀ path ending, pick (.lookups path ending) = none) (evaluation : Evaluation σ)
    (arguments : Arguments) (strictness : Strictness) (context : Context σ) :
    (Journal.counters (evaluation.perform arguments strictness context).journal).filterMap pick =
      (Journal.counters (evaluation.lookupStrict arguments context).journal).filterMap pick := by
  rw [counters_perform, List.filterMap_append]
  cases strictness.ending? arguments
      ((evaluation.perform arguments strictness context).result.map some) with
  | none => exact List.append_nil _
  | some ending =>
    rw [Option.map_some, Option.toList_some, List.filterMap_cons_none (hpick _ _)]
    exact List.append_nil _

end Evaluation

/-! ## Runs -/

namespace Session
variable {σ : Type} {collaborators : Collaborators σ} {session : Session σ}

/-- A step that is no lookup enters nothing, and no guard refuses it. -/
theorem report_of_effectless {step : Step σ}
    (h : ∀ name strictness arguments, step ≠ .lookup name strictness arguments) :
    let report := (session.step collaborators step).2
    report.journal = [] ∧ (failure? report.result).bind Failure.guard? = none := by
  intro report
  have hrun : ∀ (name : String) (f : Context σ → Context σ),
      let report := (session.run name (fun _ => Action.modify f) fun _ : Unit => none).2
      report.journal = [] ∧ (failure? report.result).bind Failure.guard? = none := by
    intro name f
    simp only [run]
    cases session.member? name <;> exact ⟨rfl, rfl⟩
  cases step with
  | create name options place =>
    simp only [report, Session.step, create, Collaborators.evaluation]
    cases options.watcher with
    | none => exact ⟨rfl, rfl⟩
    | some watcher => cases collaborators.registry <;> exact ⟨rfl, rfl⟩
  | lookup name strictness arguments => exact absurd rfl (h name strictness arguments)
  | store name identity documents => exact hrun name _
  | storeDescriptor name type descriptor => exact hrun name _
  | mark name => exact hrun name _
  | change f => exact ⟨rfl, rfl⟩
  | configure f => exact ⟨rfl, rfl⟩

theorem accounted_of_lookup {name : String} {strictness : Strictness} {arguments : Arguments}
    (h : (session.eventOf collaborators (.lookup name strictness arguments)).report.journal.Unguarded) :
    (session.eventOf collaborators (.lookup name strictness arguments)).Accounted := by
  generalize hevent : session.eventOf collaborators (.lookup name strictness arguments) = event at h
  have hstep : event.step = .lookup name strictness arguments := by rw [← hevent]; rfl
  have hbefore : event.before = session := by rw [← hevent]; rfl
  cases hm : session.member? name with
  | none =>
    have hreport : event.report = ⟨.error .noEntry, []⟩ := by
      rw [← hevent]
      exact congrArg Prod.snd (step_lookup_unknown hm strictness arguments)
    constructor
    · simp only [Event.ending?, hstep, hbefore, hm, hreport, Option.bind_none]
      rfl
    · simp only [Event.reads, hstep, hbefore, hm, hreport]
      rfl
    · rw [hreport]
      rfl
    · rw [Event.guard?, hreport]
      rfl
  | some member =>
    let outcome := member.evaluation.perform arguments strictness (session.context member)
    have hreport : event.report = ⟨outcome.result.map some, outcome.journal⟩ := by
      rw [← hevent]
      exact report_eventOf_lookup collaborators hm strictness arguments
    have htallies := Evaluation.tallies_lookupStrict member.evaluation arguments (session.context member)
    constructor
    · simp only [Event.ending?, hstep, hbefore, hm, hreport, Option.bind_some]
      exact Evaluation.endings_perform _ _ _ _
    · simp only [Event.reads, hstep, hbefore, hm, hreport, Option.any_some, Journal.probes]
      rw [Evaluation.filterMap_counters_perform (fun _ _ => rfl)]
      exact htallies.probes
    · simp only [hreport, Journal.probes]
      rw [Evaluation.filterMap_counters_perform (fun _ _ => rfl),
        ofExchanges_documentExchanges.perform]
      exact htallies.misses
    · rw [hreport] at h
      have hguard : event.guard? = (failure? outcome.result).bind Failure.guard? := by
        rw [Event.guard?, hreport]
        cases outcome.result <;> rfl
      rw [hguard, hreport, Evaluation.guard?_perform, Journal.denials,
        Evaluation.filterMap_counters_perform (fun _ _ => rfl)]
      exact htallies.denials (Evaluation.unguarded_of_perform h)

/-- All that happens in a run is counted, and nothing else. -/
theorem accounted_of_mem_trace {steps : List (Step σ)} {event : Event σ}
    (hm : event ∈ session.trace collaborators steps) (h : event.report.journal.Unguarded) :
    event.Accounted := by
  have hevent := eq_eventOf_of_mem_trace hm
  by_cases hl : ∃ name strictness arguments, event.step = .lookup name strictness arguments
  · obtain ⟨name, strictness, arguments, hstep⟩ := hl
    rw [hstep] at hevent
    rw [hevent] at h ⊢
    exact accounted_of_lookup h
  · have hno : ∀ name strictness arguments, event.step ≠ .lookup name strictness arguments := by
      intro name strictness arguments hstep
      exact hl ⟨name, strictness, arguments, hstep⟩
    obtain ⟨hjournal, hguard⟩ : event.report.journal = [] ∧ event.guard? = none := by
      rw [hevent]
      exact report_of_effectless hno
    constructor
    · rw [hjournal, Event.ending?]
      split
      · next hstep => exact absurd hstep (hno _ _ _)
      · rfl
    · rw [hjournal, Event.reads]
      split
      · next hstep => exact absurd hstep (hno _ _ _)
      · rfl
    · rw [hjournal]
      rfl
    · rw [hjournal, hguard]
      rfl

end Session

section Totals
variable {σ : Type} {events : List (Event σ)}

theorem count_eq_count_filterMap {β : Type} [DecidableEq β] {pick : Counter → Option β}
    {counter : Counter} {b : β} (hpick : ∀ c, pick c = some b ↔ c = counter)
    (counters : List Counter) : counters.count counter = (counters.filterMap pick).count b := by
  rw [List.count_filterMap, List.count]
  apply List.countP_congr
  intro c _
  simp [hpick c]

/-- A counter stands at the number of events that are due to be counted by it. -/
theorem count_counters {β : Type} [DecidableEq β] (pick : Counter → Option β)
    {due : Event σ → Option β} {counter : Counter} {b : β}
    (hpick : ∀ c, pick c = some b ↔ c = counter)
    (hdue : ∀ event ∈ events, event.report.journal.counters.filterMap pick = (due event).toList) :
    (events.flatMap (·.report.journal.counters)).count counter =
      events.countP fun event => due event = some b := by
  induction events with
  | nil => rfl
  | cons event events ih =>
    rw [List.flatMap_cons, List.count_append, List.countP_cons,
      ih fun other hm => hdue other (List.mem_cons_of_mem event hm),
      count_eq_count_filterMap hpick, hdue event List.mem_cons_self, Nat.add_comm]
    congr 1
    cases hd : due event with
    | none => rfl
    | some found => by_cases hf : found = b <;> simp [hf]

theorem count_probes (counters : List Counter) (hit : Bool) :
    counters.count (.probes hit) = (counters.filterMap Counter.probe?).count hit := by
  apply count_eq_count_filterMap
  intro counter
  cases counter <;> simp [Counter.probe?]

/-- The cache is asked once in each event that gets as far as that. -/
theorem count_probes_counters
    (h : ∀ event ∈ events, event.report.journal.probes.length = event.reads.toNat) :
    (events.flatMap (·.report.journal.counters)).count (.probes true) +
        (events.flatMap (·.report.journal.counters)).count (.probes false) =
      events.countP Event.reads := by
  rw [count_probes, count_probes, List.count_true_add_count_false]
  induction events with
  | nil => rfl
  | cons event events ih =>
    have hfirst := h event List.mem_cons_self
    rw [Journal.probes] at hfirst
    rw [List.flatMap_cons, List.filterMap_append, List.length_append, List.countP_cons,
      ih fun other hm => h other (List.mem_cons_of_mem event hm), hfirst, Nat.add_comm]
    cases event.reads <;> rfl

/-- The misses are the calls for documents. -/
theorem count_misses_counters (h : ∀ event ∈ events,
    event.report.journal.probes.count false = event.report.journal.documentExchanges.length) :
    (events.flatMap (·.report.journal.counters)).count (.probes false) =
      (events.flatMap (·.report.journal.documentExchanges)).length := by
  induction events with
  | nil => rfl
  | cons event events ih =>
    have hfirst := h event List.mem_cons_self
    rw [Journal.probes, ← count_probes] at hfirst
    rw [List.flatMap_cons, List.flatMap_cons, List.count_append, List.length_append, hfirst,
      ih fun other hm => h other (List.mem_cons_of_mem event hm)]

end Totals

/-- The counters account for every lookup of a run, one by one and in total, if no collaborator fails with
what a guard says: the endings by path, the probes and among them the misses, and the denials. -/
theorem counters_account {σ : Type} (collaborators : Collaborators σ) (session : Session σ)
    {steps : List (Step σ)}
    (h : ∀ event ∈ session.trace collaborators steps, event.report.journal.Unguarded) :
    let events := session.trace collaborators steps
    let counters := events.flatMap (·.report.journal.counters)
    (∀ event ∈ events, event.Accounted) ∧
      (∀ path ending, counters.count (.lookups path ending) =
        events.countP fun event => event.ending? = some (path, ending)) ∧
      counters.count (.probes true) + counters.count (.probes false) = events.countP Event.reads ∧
      counters.count (.probes false) =
        (events.flatMap (·.report.journal.documentExchanges)).length ∧
      ∀ guard, counters.count (.denials guard) =
        events.countP fun event => event.guard? = some guard := by
  intro events counters
  have haccounted : ∀ event ∈ events, event.Accounted := by
    intro event hm
    exact Session.accounted_of_mem_trace hm (h event hm)
  refine ⟨haccounted, ?_, ?_, ?_, ?_⟩
  · intro path ending
    apply count_counters Counter.ending?
    · intro counter
      cases counter <;> simp [Counter.ending?]
    · exact fun event hm => (haccounted event hm).endings
  · exact count_probes_counters fun event hm => (haccounted event hm).probes
  · exact count_misses_counters fun event hm => (haccounted event hm).misses
  · intro guard
    apply count_counters Counter.denial?
    · intro counter
      cases counter <;> simp [Counter.denial?]
    · exact fun event hm => (haccounted event hm).denials

/-- One team's namespace, where no list comes back. -/
def listlessStore : ObjectStore :=
  { loneStore with outages := [⟨.list, none, .system .timeout ""⟩] }

/-- Lookups that find something, find nothing, are refused by either guard, fail, and are answered from the
cache. -/
def countedSteps : List (Step ObjectStore) :=
  [.create "page" ⟨teamPolicy, none⟩ none,
    .create "live" ⟨teamPolicy, some default⟩ none,
    .lookup "page" .lenient ⟨"v1", "Secret", "", "token", none⟩,
    .lookup "page" .lenient ⟨"v1", "Secret", "", "key", none⟩,
    .lookup "page" .lenient ⟨"v1", "Secret", "team-b", "token", none⟩,
    .lookup "live" .strict ⟨"v1", "Namespace", "", "", none⟩,
    .lookup "live" .lenient ⟨"v1", "Namespace", "", "team-a", none⟩,
    .lookup "page" .lenient ⟨"v1", "Secret", "", "", none⟩,
    .lookup "page" .lenient ⟨"v1", "Secret", "", "token", none⟩]

theorem counters_account_team :
    let session := Session.start .standard listlessStore
    let events := session.trace ObjectStore.collaborators countedSteps
    let counters := events.flatMap (·.report.journal.counters)
    (∀ event ∈ events, event.report.journal.Unguarded) ∧
      counters = [.probes false, .lookups .cacheFirst .found, .probes false,
        .lookups .cacheFirst .notFound, .denials .namespaces, .lookups .cacheFirst .error,
        .denials .clusterScope, .lookups .reactive .found, .probes false, .probes true,
        .lookups .cacheFirst .found] ∧
      (∀ event ∈ events, event.Accounted) ∧
      (∀ path ending, counters.count (.lookups path ending) =
        events.countP fun event => event.ending? = some (path, ending)) ∧
      counters.count (.probes true) + counters.count (.probes false) = events.countP Event.reads ∧
      counters.count (.probes false) =
        (events.flatMap (·.report.journal.documentExchanges)).length ∧
      ∀ guard, counters.count (.denials guard) =
        events.countP fun event => event.guard? = some guard := by
  intro session events counters
  have hfailures : (events.flatMap (·.report.journal)).filterMap Entry.failure? =
      [.notFound "" "secrets" "team-a" "key", .system .timeout ""] := by decide +kernel
  have h : ∀ event ∈ events, event.report.journal.Unguarded := by
    intro event hm entry he failure hf
    have hmem : failure ∈ (events.flatMap (·.report.journal)).filterMap Entry.failure? :=
      List.mem_filterMap.mpr ⟨entry, List.mem_flatMap.mpr ⟨event, hm, he⟩, hf⟩
    rw [hfailures] at hmem
    simp only [List.mem_cons, List.not_mem_nil, or_false] at hmem
    rcases hmem with rfl | rfl <;> rfl
  exact ⟨h, by decide +kernel, counters_account ObjectStore.collaborators session h⟩

end ClusterLookup
