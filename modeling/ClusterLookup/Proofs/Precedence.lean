import ClusterLookup.Proofs.Provenance

/-!
# Failures in order

A lookup passes its stages in a fixed order: its arguments are there, its namespace is allowed, its
apiVersion and its selector can be read, its type is resolved, the guard for cluster-scoped objects lets
it pass, and then it reads. Several of them may object at once. The lookup fails with what the first one
of those objects to, and it has called nobody when that is one of the first four.

Unless it fails for a missing object, a lookup that fails leaves the evaluation as it was. It may have come
to know the type that it asked for, and nothing else.
-/

namespace ClusterLookup

open Results (failure?)

inductive Stage where
  | required
  | restriction
  | apiVersion
  | selector
  | resolution
  | clusterScope
  | reading
  deriving DecidableEq, Repr, Inhabited

namespace Stage

def checks : List Stage := [required, restriction, apiVersion, selector]

def order : List Stage := checks ++ [resolution, clusterScope, reading]

end Stage

def Arguments.type? (arguments : Arguments) : Option GroupVersionKind :=
  (splitApiVersion arguments.apiVersion).map fun parts => ⟨parts.1, parts.2, arguments.kind⟩

def Arguments.failureAt (policy : Policy) (arguments : Arguments) : Stage → Option Failure
  | .required =>
    if arguments.apiVersion = "" ∨ arguments.kind = "" then
      some (.invalidArguments "the apiVersion and kind are required")
    else none
  | .restriction =>
    if policy.restriction ≠ "" ∧ arguments.inNamespace ≠ "" ∧
        arguments.inNamespace ≠ policy.restriction then
      some (.restrictedNamespace arguments.inNamespace policy.restriction)
    else none
  | .apiVersion =>
    if arguments.type?.isNone then
      some (.invalidArguments s!"unexpected GroupVersion string: {arguments.apiVersion}")
    else none
  | .selector =>
    let text := arguments.selector.getD ""
    match Selector.canonical text.toList with
    | .ok _ => none
    | .error fault => some (.invalidSelector text fault.message)
  | _ => none

theorem Policy.failure?_effectiveNamespace (policy : Policy) (arguments : Arguments) :
    failure? (policy.effectiveNamespace arguments.inNamespace) =
      arguments.failureAt policy .restriction := by
  simp only [Policy.effectiveNamespace, Arguments.failureAt, String.isEmpty_iff]
  by_cases hr : policy.restriction = ""
  · simp [hr, failure?]
  · by_cases hn : arguments.inNamespace = ""
    · simp [hr, hn, failure?]
    · by_cases hs : arguments.inNamespace = policy.restriction
      · simp [hs, failure?]
      · simp [hr, hn, hs, failure?]

namespace Arguments

theorem failure?_groupVersion (policy : Policy) (arguments : Arguments) :
    failure? (groupVersion arguments.apiVersion) = arguments.failureAt policy .apiVersion := by
  unfold groupVersion
  cases h : splitApiVersion arguments.apiVersion with
  | none => simp [failureAt, type?, h, failure?]
  | some parts => simp [failureAt, type?, h, failure?]

theorem failure?_canonicalSelector (policy : Policy) (arguments : Arguments) :
    failure? (canonicalSelector arguments.selector) = arguments.failureAt policy .selector := by
  simp only [canonicalSelector, failureAt]
  cases Selector.canonical (arguments.selector.getD "").toList with
  | ok word => rfl
  | error fault => rfl

theorem failure?_identity (policy : Policy) (arguments : Arguments) :
    failure? (arguments.identity policy) = Stage.checks.findSome? (arguments.failureAt policy) := by
  have hchain : Stage.checks.findSome? (arguments.failureAt policy) =
      (arguments.failureAt policy .required).or ((arguments.failureAt policy .restriction).or
        ((arguments.failureAt policy .apiVersion).or
          ((arguments.failureAt policy .selector).or none))) := by
    simp only [Stage.checks, Results.findSome?_cons, List.findSome?_nil]
  rw [hchain, ← Policy.failure?_effectiveNamespace, ← failure?_groupVersion policy,
    ← failure?_canonicalSelector policy]
  have hempty : (arguments.apiVersion.isEmpty || arguments.kind.isEmpty) = true ↔
      arguments.apiVersion = "" ∨ arguments.kind = "" := by simp
  unfold Arguments.identity
  by_cases hrequired : arguments.apiVersion = "" ∨ arguments.kind = ""
  · rw [if_pos (hempty.mpr hrequired), failureAt, if_pos hrequired]
    rfl
  · rw [if_neg (mt hempty.mp hrequired), failureAt, if_neg hrequired, Option.none_or]
    apply Results.failure?_bind
    intro inNamespace _
    apply Results.failure?_bind
    intro parts _
    exact Results.failure?_bind fun selector _ => rfl

theorem type?_of_identity {policy : Policy} {arguments : Arguments} {identity : Identity}
    (h : arguments.identity policy = .ok identity) : arguments.type? = some identity.type := by
  obtain ⟨_, _, hs, _, hk, _⟩ := identity_eq_ok_iff.mp h
  simp [type?, hs, hk]

end Arguments

namespace Evaluation
variable {σ : Type}

/-- What a stage objects to, whatever the stages before it say. -/
def failureAt (evaluation : Evaluation σ) (arguments : Arguments) (context : Context σ) :
    Stage → Option Failure
  | .resolution => do
    let type ← arguments.type?
    failure? (Lookup.resolveType evaluation.source type context).result
  | .clusterScope => do
    let type ← arguments.type?
    let descriptor ← (Lookup.resolveType evaluation.source type context).result.toOption
    if evaluation.policy.admits descriptor arguments.kind arguments.name then none
    else some (.clusterScoped descriptor.group arguments.kind arguments.name)
  | .reading => do
    let identity ← (arguments.identity evaluation.policy).toOption
    let resolved := Lookup.resolveType evaluation.source identity.type context
    let descriptor ← resolved.result.toOption
    failure? (Lookup.readAnswer evaluation.source identity descriptor resolved.state).result
  | check => arguments.failureAt evaluation.policy check

variable {evaluation : Evaluation σ} {arguments : Arguments} {context : Context σ}
variable {identity : Identity}

theorem failureAt_checks (evaluation : Evaluation σ) (arguments : Arguments) (context : Context σ) :
    Stage.checks.findSome? (evaluation.failureAt arguments context) =
      failure? (arguments.identity evaluation.policy) := by
  rw [Arguments.failure?_identity]
  rfl

/-- A lookup fails with what the first stage objects to that objects at all. -/
theorem failure?_lookupStrict (evaluation : Evaluation σ) (arguments : Arguments)
    (context : Context σ) :
    failure? (evaluation.lookupStrict arguments context).result =
      Stage.order.findSome? (evaluation.failureAt arguments context) := by
  rw [Stage.order, List.findSome?_append, failureAt_checks]
  cases hi : arguments.identity evaluation.policy with
  | error failure =>
    rw [lookupStrict_of_invalid hi]
    rfl
  | ok identity =>
    obtain ⟨_, _, _, _, hkind, hname⟩ := Arguments.identity_eq_ok_iff.mp hi
    have htype := Arguments.type?_of_identity hi
    rw [lookupStrict_of_valid hi]
    simp only [Results.findSome?_cons, List.findSome?_nil, failureAt, htype, hi, hkind, hname]
    have hcourse := course_answer evaluation identity context
    generalize evaluation.answer identity context = performed at hcourse ⊢
    cases hcourse with
    | unresolved ht => simp [ht, failure?]
    | refused ht ha => simp [ht, ha, failure?, Except.toOption]
    | admitted ht ha hr => simp [ht, ha, hr, failure?, Except.toOption]

end Evaluation

/-! ## What a failed lookup leaves behind -/

def Entry.discovery? : Entry → Option (GroupVersionKind × Descriptor)
  | .client (.discover type (.ok descriptor)) => some (type, descriptor)
  | _ => none

/-- The types that a client was asked for with success. -/
def Journal.discoveries (journal : Journal) : List (GroupVersionKind × Descriptor) :=
  journal.filterMap Entry.discovery?

/-- Whether nothing that an evaluation remembers has changed, but that it knows the type it was asked
for if that was discovered. -/
structure Context.Undisturbed {σ : Type} (before after : Context σ) (type? : Option GroupVersionKind)
    (journal : Journal) : Prop where
  answers : after.cache.answers = before.cache.answers
  sensitive : after.sensitive = before.sensitive
  descriptors : after.cache.descriptors = before.cache.descriptors ++ journal.discoveries
  requested : journal.discoveries = [] ∨
    ∃ type descriptor, type? = some type ∧ journal.discoveries = [(type, descriptor)]

theorem Journal.ofExchanges_discoveries : Projection.OfExchanges discoveries where
  append _ _ := List.filterMap_append
  log _ := rfl
  wire _ := rfl
  count _ := rfl

open Journal (ofExchanges_discoveries)

namespace Context.Undisturbed
variable {σ : Type} {before middle after : Context σ} {type? : Option GroupVersionKind}
variable {first second : Journal}

theorem of_eq (hc : after.cache = before.cache) (hs : after.sensitive = before.sensitive)
    (hj : first.discoveries = []) : before.Undisturbed after type? first := by
  refine ⟨congrArg _ hc, hs, ?_, .inl hj⟩
  rw [hj, List.append_nil, hc]

theorem congr (h : before.Undisturbed middle type? first) (hc : after.cache = middle.cache)
    (hs : after.sensitive = middle.sensitive) (hj : second.discoveries = first.discoveries) :
    before.Undisturbed after type? second := by
  refine ⟨?_, hs.trans h.sensitive, ?_, ?_⟩
  · rw [hc, h.answers]
  · rw [hc, h.descriptors, hj]
  · rw [hj]
    exact h.requested

end Context.Undisturbed

namespace Lookup
variable {σ : Type}

theorem undisturbed_resolveType (source : Source σ) (type : GroupVersionKind) (context : Context σ) :
    let resolved := resolveType source type context
    context.Undisturbed resolved.state (some type) resolved.journal := by
  intro resolved
  have hresolving : Resolving type context source resolved :=
    resolving_resolveType source type context
  generalize resolved = resolved at hresolving ⊢
  cases hresolving with
  | remembered hd => exact .of_eq rfl rfl rfl
  | @discovered _ asked hd ha =>
    cases asked.result with
    | error failure =>
      refine .of_eq rfl rfl ?_
      rw [ofExchanges_discoveries.notices_append]
      rfl
    | ok descriptor =>
      have hone : Journal.discoveries (asked.journal.map Notice.entry ++
          [.client (.discover type (.ok descriptor))]) = [(type, descriptor)] := by
        rw [ofExchanges_discoveries.notices_append]
        rfl
      have hunknown : valueOf? type context.cache.descriptors = none := hd
      refine ⟨rfl, rfl, ?_, .inr ⟨type, descriptor, rfl, hone⟩⟩
      simp only [hone, AnswerCache.learnType, AnswerCache.storeDescriptor, addEntry, hunknown]
  | watched ha =>
    refine .of_eq rfl rfl ?_
    rw [ofExchanges_discoveries.notices_append]
    rfl

theorem discoveries_readAnswer (source : Source σ) (identity : Identity) (descriptor : Descriptor)
    (context : Context σ) :
    Journal.discoveries (readAnswer source identity descriptor context).journal = [] := by
  apply ofExchanges_discoveries.eq_nil
  intro entry hm
  have hr := isResolution_of_mem_readAnswer hm
  cases entry with
  | client exchange =>
    cases exchange with
    | discover type answer => cases hr
    | _ => rfl
  | _ => rfl

/-- Only a missing object is remembered of a reading that fails. -/
theorem cache_readAnswer_of_error {source : Source σ} {identity : Identity} {descriptor : Descriptor}
    {context : Context σ} {failure : Failure}
    (h : (readAnswer source identity descriptor context).result = .error failure)
    (hn : failure.isNotFound = false) :
    (readAnswer source identity descriptor context).state.cache = context.cache := by
  have hreading := reading_readAnswer source identity descriptor context
  generalize readAnswer source identity descriptor context = outcome at hreading h ⊢
  cases hreading with
  | remembered hf => rfl
  | listed hf hl ha =>
    simp only [Results.map_eq_error_iff] at h ⊢
    rw [h]
    rfl
  | got hf hl ha =>
    simp only [Results.map_eq_error_iff] at h ⊢
    rw [h, lesson, hn]
    rfl
  | watchedList hl ha => rfl
  | watchedGet hl ha => rfl

end Lookup

namespace Evaluation
variable {σ : Type} {evaluation : Evaluation σ} {arguments : Arguments} {context : Context σ}
variable {failure : Failure}

theorem undisturbed_lookupStrict (h : (evaluation.lookupStrict arguments context).result = .error failure)
    (hn : failure.isNotFound = false) :
    let outcome := evaluation.lookupStrict arguments context
    context.Undisturbed outcome.state arguments.type? outcome.journal := by
  intro outcome
  cases hi : arguments.identity evaluation.policy with
  | error found =>
    simp only [outcome, lookupStrict_of_invalid hi]
    exact .of_eq rfl rfl (ofExchanges_discoveries.refusalEntries found)
  | ok identity =>
    have hresolved := Lookup.undisturbed_resolveType evaluation.source identity.type context
    simp only [outcome, lookupStrict_of_valid hi, Arguments.type?_of_identity hi] at h ⊢
    have hcourse := course_answer evaluation identity context
    generalize evaluation.answer identity context = performed at hcourse h ⊢
    cases hcourse with
    | unresolved ht => exact hresolved
    | refused ht ha =>
      refine hresolved.congr rfl rfl ?_
      rw [ofExchanges_discoveries.append, ofExchanges_discoveries.refusalEntries, List.append_nil]
    | @admitted descriptor outcome ht ha hr =>
      subst hr
      refine hresolved.congr (Lookup.cache_readAnswer_of_error h hn) ?_ ?_
      · rw [h, Lookup.marks, Bool.or_false]
        exact sensitive_readAnswer evaluation.source identity descriptor _
      · rw [ofExchanges_discoveries.append, Lookup.discoveries_readAnswer, List.append_nil]

/-- A lookup that passes over a missing object fails with nothing else than a strict one. -/
theorem perform_eq_error_iff (strictness : Strictness) :
    (evaluation.perform arguments strictness context).result = .error failure ↔
      (evaluation.lookupStrict arguments context).result = .error failure ∧
        (strictness = .lenient → failure.isNotFound = false) := by
  cases strictness with
  | strict => simp [perform]
  | lenient =>
    simp only [perform, lookup_eq, forall_const]
    cases (evaluation.lookupStrict arguments context).result with
    | ok answer => simp [lenient]
    | error found =>
      cases hn : found.isNotFound with
      | true =>
        simp only [lenient, hn, if_true, reduceCtorEq, false_iff, not_and]
        rintro ⟨⟩
        simp [hn]
      | false =>
        simp only [lenient, hn]
        refine ⟨fun h => ?_, And.left⟩
        cases h
        exact ⟨rfl, hn⟩

theorem undisturbed_perform {strictness : Strictness}
    (h : (evaluation.perform arguments strictness context).result = .error failure)
    (hn : failure.isNotFound = false) :
    let outcome := evaluation.perform arguments strictness context
    context.Undisturbed outcome.state arguments.type? outcome.journal := by
  intro outcome
  have hstrict := undisturbed_lookupStrict ((perform_eq_error_iff strictness).mp h).1 hn
  have hstate := state_perform evaluation arguments strictness context
  exact hstrict.congr (congrArg _ hstate) (congrArg _ hstate)
    (ofExchanges_discoveries.perform evaluation arguments strictness context)

end Evaluation

/-! ## Whole runs -/

/-- How a lookup of an evaluation fails. -/
structure Event.FailsInOrder {σ : Type} (event : Event σ) (name : String) (strictness : Strictness)
    (arguments : Arguments) (member : Member σ) : Prop where
  first : ∀ failure, event.report.result = .error failure ↔
    Stage.order.findSome? (member.evaluation.failureAt arguments (event.before.context member)) =
        some failure ∧
      (strictness = .lenient → failure.isNotFound = false)
  undisturbed : ∀ failure, event.report.result = .error failure → failure.isNotFound = false →
    event.after.sensitive = event.before.sensitive ∧
      ∃ cache, event.after.member? name = some { member with cache } ∧
        (event.before.context member).Undisturbed (event.after.context { member with cache })
          arguments.type? event.report.journal
  silent : ∀ stage ∈ Stage.checks,
    member.evaluation.failureAt arguments (event.before.context member) stage ≠ none →
      ∀ entry ∈ event.report.journal, entry.isCall = false

namespace Evaluation
variable {σ : Type} {evaluation : Evaluation σ} {arguments : Arguments} {context : Context σ}

theorem silent_perform {failure : Failure} (hi : arguments.identity evaluation.policy = .error failure)
    (strictness : Strictness) :
    ∀ entry ∈ (evaluation.perform arguments strictness context).journal, entry.isCall = false := by
  refine isCall_of_mem_perform ?_ strictness
  rw [lookupStrict_of_invalid hi]
  exact fun _ => Lookup.isCall_of_mem_refusalEntries

end Evaluation

namespace Session
variable {σ : Type} {session : Session σ} {name : String} {member : Member σ}

theorem sensitive_afterwards_of_eq {context : Context σ}
    (h : context.sensitive = session.isSensitive member) :
    (session.afterwards name member context).sensitive = session.sensitive := by
  unfold afterwards
  cases hs : session.isSensitive member with
  | false => simp [h, hs]
  | true =>
    have hplace : member.place ∈ session.sensitive := by simpa [isSensitive] using hs
    simp [h, hs, addPlace, hplace]

theorem failsInOrder_eventOf (collaborators : Collaborators σ)
    (hm : session.member? name = some member) (strictness : Strictness) (arguments : Arguments) :
    (session.eventOf collaborators (.lookup name strictness arguments)).FailsInOrder name strictness
      arguments member := by
  have hreport := report_eventOf_lookup collaborators hm strictness arguments
  constructor
  · intro failure
    rw [hreport, Results.map_eq_error_iff, Evaluation.perform_eq_error_iff,
      ← Results.failure?_eq_some_iff, Evaluation.failure?_lookupStrict]
    rfl
  · intro failure hf hn
    rw [hreport, Results.map_eq_error_iff] at hf
    have hundisturbed := Evaluation.undisturbed_perform hf hn
    have hsensitive := @sensitive_afterwards_of_eq _ session name member _ hundisturbed.sensitive
    rw [hreport, after_eventOf_lookup hm]
    refine ⟨hsensitive, _, member?_afterwards_self hm _, ?_⟩
    refine hundisturbed.congr rfl ?_ rfl
    rw [hundisturbed.sensitive]
    exact congrArg (·.contains member.place) hsensitive
  · intro stage hstage hobjects
    have hchecks : Stage.checks.findSome?
        (member.evaluation.failureAt arguments (session.context member)) ≠ none := by
      intro h
      exact hobjects (List.findSome?_eq_none_iff.mp h stage hstage)
    rw [Evaluation.failureAt_checks] at hchecks
    obtain ⟨failure, hfailure⟩ := Option.ne_none_iff_exists'.mp hchecks
    rw [hreport]
    exact Evaluation.silent_perform (Results.failure?_eq_some_iff.mp hfailure) strictness

end Session

/-- In every run, each lookup fails in order. -/
theorem trace_failsInOrder {σ : Type} (collaborators : Collaborators σ) (session : Session σ)
    (steps : List (Step σ)) :
    ∀ event ∈ session.trace collaborators steps, ∀ name strictness arguments member,
      event.step = .lookup name strictness arguments → event.before.member? name = some member →
        event.FailsInOrder name strictness arguments member := by
  intro event he name strictness arguments member hlookup hm
  rw [Session.eq_eventOf_of_mem_trace he, hlookup]
  exact Session.failsInOrder_eventOf collaborators hm strictness arguments

/-- A lookup in another namespace, with neither an apiVersion nor a selector that can be read. -/
def muddledLookup : Arguments := ⟨"apps/v1/beta", "Secret", "team-b", "token", some "!"⟩

/-- A restricted evaluation refuses a muddled lookup, and is then let down by the cluster. -/
theorem trace_failsInOrder_flaky :
    let session := ((Session.start .standard flakyStore).create smallCollaborators "page"
      ⟨⟨"team-a", []⟩, none⟩ none).1
    let muddled := session.eventOf smallCollaborators (.lookup "page" .lenient muddledLookup)
    let failed := muddled.after.eventOf smallCollaborators
      (.lookup "page" .strict (secretLookup "token"))
    ∃ member, session.member? "page" = some member ∧
      muddled.FailsInOrder "page" .lenient muddledLookup member ∧
      muddled.report.result = .error (.restrictedNamespace "team-b" "team-a") ∧
      failed.FailsInOrder "page" .strict (secretLookup "token") member ∧
      failed.report.result = .error (.system .timeout "") ∧
      failed.report.journal.discoveries =
        [(⟨"", "v1", "Secret"⟩, ⟨"", "v1", "secrets", true⟩)] := by
  intro session muddled failed
  have hinorder := trace_failsInOrder smallCollaborators session [muddled.step, failed.step]
  have hmuddled := hinorder muddled List.mem_cons_self "page" .lenient muddledLookup _ rfl rfl
  have hfailed := hinorder failed (List.mem_cons_of_mem _ List.mem_cons_self) "page" .strict
    (secretLookup "token") _ rfl rfl
  exact ⟨_, rfl, hmuddled, rfl, hfailed, rfl, rfl⟩

end ClusterLookup
