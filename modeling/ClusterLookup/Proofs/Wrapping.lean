import ClusterLookup.Proofs.Counters
import ClusterLookup.Proofs.Paths
import ClusterLookup.Proofs.Precedence

/-!
# Failures met on the way through a registry

A lookup through a registry fails with what one of its checks objects to, or with what the registry met
when it was asked. A failure of the lookup family is passed on as it is. Any other one is wrapped with the
name of the call that met it. A registry has no failure for an object that does not exist: it answers
null, and the lookup makes the failure of that. These are all the failures there are, and they are of the
lookup family without exception.
-/

namespace ClusterLookup

/-- The name under which a failure of a call is wrapped. -/
def RegistryExchange.operation : RegistryExchange → String
  | resolveType _ _ => "registry resolve_type"
  | get _ _ _ _ _ => "registry get"
  | list _ _ _ _ _ => "registry list"

/-- What a strict lookup fails with, by the calls that it made to a registry. -/
inductive RegistryExchange.FailWith (policy : Policy) (arguments : Arguments)
    (asked : List RegistryExchange) : Failure → Prop
  | invalid {failure : Failure} (hi : arguments.identity policy = .error failure) :
      FailWith policy arguments asked failure
  | refused {identity : Identity} {descriptor : Descriptor}
      (hi : arguments.identity policy = .ok identity)
      (hd : .resolveType identity.type (.ok descriptor) ∈ asked)
      (ha : policy.admits descriptor identity.type.kind identity.name = false) :
      FailWith policy arguments asked
        (.clusterScoped descriptor.group identity.type.kind identity.name)
  | passed {exchange : RegistryExchange} {failure : Failure} (hm : exchange ∈ asked)
      (hf : (Entry.registry exchange).failure? = some failure) (hl : failure.isLookup = true) :
      FailWith policy arguments asked failure
  | wrapped {exchange : RegistryExchange} {failure : Failure} (hm : exchange ∈ asked)
      (hf : (Entry.registry exchange).failure? = some failure) (hl : failure.isLookup = false) :
      FailWith policy arguments asked (.wrapped exchange.operation failure)
  | missing {identity watcher : Identity} {descriptor : Descriptor}
      (hi : arguments.identity policy = .ok identity)
      (hd : .resolveType identity.type (.ok descriptor) ∈ asked)
      (hg : .get watcher identity.type identity.inNamespace identity.name (.ok .null) ∈ asked) :
      FailWith policy arguments asked
        (.notFound descriptor.group descriptor.resource identity.inNamespace identity.name)

/-- What a lookup would report in place of an event. -/
def Event.lookedUp {σ : Type} (collaborators : Collaborators σ) (event : Event σ) (name : String)
    (strictness : Strictness) (arguments : Arguments) : Report :=
  (event.before.step collaborators (.lookup name strictness arguments)).2

/-- Whether a lookup fails with what its calls to a registry say and with nothing else, when it is strict,
and otherwise passes over no failure but that of a missing object. -/
structure Event.PassesOn {σ : Type} (collaborators : Collaborators σ) (policy : Policy) (name : String)
    (strictness : Strictness) (arguments : Arguments) (event : Event σ) : Prop where
  reported : event.report = event.lookedUp collaborators name strictness arguments
  causes : ∀ failure, (event.lookedUp collaborators name .strict arguments).result = .error failure ↔
    RegistryExchange.FailWith policy arguments event.report.journal.registryExchanges failure
  family : ∀ failure, (event.lookedUp collaborators name .strict arguments).result = .error failure →
    failure.isLookup = true
  absent : (event.lookedUp collaborators name .lenient arguments).result = .ok (some .absent) ↔
    ∃ group resource inNamespace name', (event.lookedUp collaborators name .strict arguments).result =
      .error (.notFound group resource inNamespace name')
  unchanged : ∀ failure,
    (event.lookedUp collaborators name .lenient arguments).result = .error failure ↔
      (event.lookedUp collaborators name .strict arguments).result = .error failure ∧
        failure.isNotFound = false

/-! ## What the calls say -/

theorem Document.isNull_eq_true_iff {document : Document} : document.isNull = true ↔
    document = .null := by
  cases document <;> simp [isNull]

namespace RegistryExchange
variable {policy : Policy} {arguments : Arguments} {asked : List RegistryExchange}
variable {exchange : RegistryExchange} {failure found : Failure}

/-- A call that failed makes the lookup fail with what the call met. -/
theorem FailWith.of_during (hm : exchange ∈ asked)
    (hf : (Entry.registry exchange).failure? = some failure) :
    FailWith policy arguments asked (failure.during exchange.operation) := by
  unfold Failure.during
  cases hl : failure.isLookup with
  | true => exact .passed hm hf hl
  | false => exact .wrapped hm hf hl

theorem during_of_failure {operation : String} (hl : failure.isLookup = false) :
    failure.during operation = .wrapped operation failure := by
  simp [Failure.during, hl]

/-- A lookup that called nobody fails with what its arguments are refused for. -/
theorem failWith_nil_iff (hi : arguments.identity policy = .error found) :
    FailWith policy arguments [] failure ↔ failure = found := by
  constructor
  · intro h
    cases h with
    | invalid h => exact Except.error.inj (h.symm.trans hi)
    | refused _ hd _ => cases hd
    | passed hm _ _ => cases hm
    | wrapped hm _ _ => cases hm
    | missing _ hd _ => cases hd
  · rintro rfl
    exact .invalid hi

/-- How a lookup fails whose arguments stand for a question. -/
theorem failWith_iff {identity : Identity} (hi : arguments.identity policy = .ok identity) :
    FailWith policy arguments asked failure ↔
      (∃ descriptor, resolveType identity.type (.ok descriptor) ∈ asked ∧
        policy.admits descriptor identity.type.kind identity.name = false ∧
        .clusterScoped descriptor.group identity.type.kind identity.name = failure) ∨
      (∃ exchange ∈ asked, ∃ cause, (Entry.registry exchange).failure? = some cause ∧
        cause.during exchange.operation = failure) ∨
      ∃ descriptor watcher, resolveType identity.type (.ok descriptor) ∈ asked ∧
        get watcher identity.type identity.inNamespace identity.name (.ok .null) ∈ asked ∧
        .notFound descriptor.group descriptor.resource identity.inNamespace identity.name = failure := by
  constructor
  · intro h
    cases h with
    | invalid h => cases h.symm.trans hi
    | refused h hd ha =>
      cases h.symm.trans hi
      exact .inl ⟨_, hd, ha, rfl⟩
    | passed hm hf hl => exact .inr (.inl ⟨_, hm, _, hf, Failure.during_of_isLookup hl⟩)
    | wrapped hm hf hl => exact .inr (.inl ⟨_, hm, _, hf, during_of_failure hl⟩)
    | missing h hd hg =>
      cases h.symm.trans hi
      exact .inr (.inr ⟨_, _, hd, hg, rfl⟩)
  · rintro (⟨descriptor, hd, ha, rfl⟩ | ⟨exchange, hm, cause, hf, rfl⟩ | ⟨descriptor, _, hd, hg, rfl⟩)
    · exact .refused hi hd ha
    · exact .of_during hm hf
    · exact .missing hi hd hg

end RegistryExchange

namespace Registry.Serves
variable {σ : Type} {registry : Registry σ} {watcher : Identity} {policy : Policy}
variable {arguments : Arguments} {world after : σ} {asked : List RegistryExchange}
variable {outcome : Except Failure Answer} {failure : Failure}

/-- A lookup that a registry serves fails with what its calls to the registry say. -/
theorem eq_error_iff (h : registry.Serves watcher policy arguments world asked outcome after) :
    outcome = .error failure ↔ RegistryExchange.FailWith policy arguments asked failure := by
  cases h with
  | invalid hi =>
    rw [RegistryExchange.failWith_nil_iff hi, Except.error.injEq]
    exact eq_comm
  | unresolved hi hr ht =>
    rw [RegistryExchange.failWith_iff hi]
    simp [Entry.failure?, Results.failure?, RegistryExchange.operation]
  | refused hi hr ht ha =>
    rw [RegistryExchange.failWith_iff hi]
    simp [Entry.failure?, Results.failure?, ha]
  | @object identity resolved descriptor answered hi hr ht ha hl hg =>
    rw [RegistryExchange.failWith_iff hi]
    cases answered.result with
    | error cause =>
      simp [Entry.failure?, Results.failure?, RegistryExchange.operation, ha,
        Results.mapError_error, Except.bind]
    | ok document =>
      by_cases hn : document = .null
      · simp [Entry.failure?, Results.failure?, ha, Results.mapError_ok, Except.bind, Lookup.present,
          Document.isNull, hn]
      · have hnull : document.isNull = false := by
          rw [← Bool.not_eq_true, Document.isNull_eq_true_iff]
          exact hn
        simp [Entry.failure?, Results.failure?, ha, Results.mapError_ok, Except.bind, Lookup.present,
          hnull, Ne.symm hn]
  | @items identity resolved descriptor answered hi hr ht ha hl hg =>
    rw [RegistryExchange.failWith_iff hi]
    cases answered.result with
    | error cause =>
      simp [Entry.failure?, Results.failure?, RegistryExchange.operation, ha,
        Results.mapError_error, Except.map]
    | ok documents =>
      simp [Entry.failure?, Results.failure?, ha, Results.mapError_ok, Except.map]

/-- A registry never makes a lookup answer that there is no object: it makes it fail. -/
theorem ne_absent (h : registry.Serves watcher policy arguments world asked outcome after) :
    outcome ≠ .ok .absent := by
  rintro rfl
  generalize hr : (Except.ok Answer.absent : Except Failure Answer) = result at h
  cases h with
  | invalid hi => cases hr
  | unresolved hi hres ht => cases hr
  | refused hi hres ht ha => cases hr
  | @object identity resolved descriptor answered hi hres ht ha hl hg =>
    cases hanswered : answered.result with
    | error cause => simp [hanswered, Results.mapError_error, Except.bind] at hr
    | ok document =>
      rw [hanswered] at hr
      cases document <;> simp [Results.mapError_ok, Except.bind, Lookup.present, Document.isNull,
        Answer.ofDocument] at hr
  | @items identity resolved descriptor answered hi hres ht ha hl hg =>
    cases hanswered : answered.result with
    | error cause => simp [hanswered, Results.mapError_error, Except.map] at hr
    | ok documents => simp [hanswered, Results.mapError_ok, Except.map] at hr

end Registry.Serves

/-! ## Whole lookups -/

theorem RegistryExchange.isLookup_of_failWith {policy : Policy} {arguments : Arguments}
    {asked : List RegistryExchange} {failure : Failure} (h : FailWith policy arguments asked failure) :
    failure.isLookup = true := by
  cases h with
  | invalid hi => exact Arguments.isLookup_of_identity hi
  | refused hi hd ha => rfl
  | passed hm hf hl => exact hl
  | wrapped hm hf hl => rfl
  | missing hi hd hg => rfl

namespace Journal

theorem registryExchanges_exchanges (journal : Journal) :
    journal.exchanges.registryExchanges = journal.registryExchanges := by
  unfold exchanges registryExchanges
  rw [List.filterMap_filter]
  apply List.filterMap_congr
  intro entry _
  cases entry <;> rfl

theorem registryExchanges_map (asked : List RegistryExchange) :
    registryExchanges (asked.map Entry.registry) = asked := by
  simp [registryExchanges, List.filterMap_map]

end Journal

namespace Evaluation
variable {σ : Type} {evaluation : Evaluation σ} {registry : Registry σ} {watcher : Identity}
variable {arguments : Arguments} {context : Context σ} {failure : Failure}

theorem lookupStrict_eq_error_iff (hs : evaluation.source = .registry registry watcher) :
    (evaluation.lookupStrict arguments context).result = .error failure ↔
      RegistryExchange.FailWith evaluation.policy arguments
        (Journal.registryExchanges (evaluation.lookupStrict arguments context).journal) failure := by
  obtain ⟨asked, outcome, hserves, hexchanges, hresult⟩ :=
    serves_perform hs arguments .strict context
  have hasked : Journal.registryExchanges (evaluation.lookupStrict arguments context).journal =
      asked := by
    rw [← Journal.registryExchanges_exchanges,
      show Journal.exchanges (evaluation.lookupStrict arguments context).journal = _ from hexchanges,
      Journal.registryExchanges_map]
  rw [hasked, ← hserves.eq_error_iff,
    show (evaluation.lookupStrict arguments context).result = outcome from hresult]

/-- A lookup through a registry answers that there is no object exactly when a strict one fails for that. -/
theorem lookup_eq_absent_iff_of_registry (hs : evaluation.source = .registry registry watcher) :
    (evaluation.lookup arguments context).result = .ok .absent ↔
      ∃ group resource inNamespace name, (evaluation.lookupStrict arguments context).result =
        .error (.notFound group resource inNamespace name) := by
  obtain ⟨asked, outcome, hserves, _, hresult⟩ := serves_perform hs arguments .strict context
  have hpresent := hserves.ne_absent
  rw [← show (evaluation.lookupStrict arguments context).result = outcome from hresult] at hpresent
  simp only [lookup_eq]
  cases hr : (evaluation.lookupStrict arguments context).result with
  | ok answer =>
    rw [hr] at hpresent
    simpa [lenient] using hpresent
  | error failure => cases failure <;> simp [lenient, Failure.isNotFound]

end Evaluation

namespace Event
variable {σ : Type} {collaborators : Collaborators σ} {event : Event σ} {name : String}
variable {member : Member σ} {arguments : Arguments}

theorem result_lookedUp (hm : event.before.member? name = some member) (strictness : Strictness) :
    (event.lookedUp collaborators name strictness arguments).result =
      (member.evaluation.perform arguments strictness (event.before.context member)).result.map some := by
  unfold lookedUp
  rw [Session.step_lookup hm]

theorem lookedUp_eq_error_iff (hm : event.before.member? name = some member) (strictness : Strictness)
    (failure : Failure) :
    (event.lookedUp collaborators name strictness arguments).result = .error failure ↔
      (member.evaluation.perform arguments strictness (event.before.context member)).result =
        .error failure := by
  rw [result_lookedUp hm, Results.map_eq_error_iff]

theorem passesOn {registry : Registry σ} {watcher : Identity} {strictness : Strictness}
    (hevent : event = event.before.eventOf collaborators (.lookup name strictness arguments))
    (hm : event.before.member? name = some member)
    (hs : member.evaluation.source = .registry registry watcher) :
    event.PassesOn collaborators member.evaluation.policy name strictness arguments := by
  have hreported : event.report = event.lookedUp collaborators name strictness arguments := by
    rw [hevent]
    rfl
  have hcauses : ∀ failure,
      (event.lookedUp collaborators name .strict arguments).result = .error failure ↔
        RegistryExchange.FailWith member.evaluation.policy arguments
          event.report.journal.registryExchanges failure := by
    intro failure
    rw [lookedUp_eq_error_iff hm, hevent, Session.report_eventOf_lookup collaborators hm]
    simp only [Journal.ofExchanges_registryExchanges.perform]
    exact Evaluation.lookupStrict_eq_error_iff hs
  refine ⟨hreported, hcauses, ?_, ?_, ?_⟩
  · intro failure hf
    exact RegistryExchange.isLookup_of_failWith ((hcauses failure).mp hf)
  · rw [result_lookedUp hm, Results.map_eq_ok_iff]
    simp only [Option.some.injEq, exists_eq_right, lookedUp_eq_error_iff hm]
    exact Evaluation.lookup_eq_absent_iff_of_registry hs
  · intro failure
    rw [lookedUp_eq_error_iff hm, lookedUp_eq_error_iff hm, Evaluation.perform_eq_error_iff]
    simp [Evaluation.perform]

end Event

/-- In every run, a lookup through a registry fails with what the registry met, wrapped where it is not of
the lookup family, or with what the checks object to, and the lenient one passes over missing objects
alone. -/
theorem trace_passesOn {σ : Type} (collaborators : Collaborators σ) (session : Session σ)
    (steps : List (Step σ)) :
    ∀ event ∈ session.trace collaborators steps, ∀ name strictness arguments member,
      event.step = .lookup name strictness arguments → event.before.member? name = some member →
        ∀ registry watcher, member.evaluation.source = .registry registry watcher →
          event.PassesOn collaborators member.evaluation.policy name strictness arguments := by
  intro event he name strictness arguments member hlookup hm registry watcher hs
  have hevent := Session.eq_eventOf_of_mem_trace he
  rw [hlookup] at hevent
  exact Event.passesOn hevent hm hs

/-- One team's namespace behind a registry that drops its second reading of an object and every list. -/
def droppingStore : ObjectStore :=
  { loneStore with
    outages := [⟨.registryGet, some 2, .lookup "dropped"⟩, ⟨.registryList, none, .system .timeout "late"⟩] }

/-- Lookups of a missing object, of one that the registry drops, of a list, and of a list that the guard
refuses. -/
def droppedSteps : List (Step ObjectStore) :=
  [.lookup "live" .strict (secretLookup "key"),
    .lookup "live" .strict (secretLookup "token"),
    .lookup "live" .lenient (secretLookup "key"),
    .lookup "live" .lenient (secretLookup ""),
    .lookup "live" .lenient ⟨"v1", "Namespace", "", "", none⟩]

theorem trace_passesOn_dropped :
    let session := ((Session.start .standard droppingStore).step ObjectStore.collaborators
      (.create "live" ⟨teamPolicy, some default⟩ none)).1
    let events := session.trace ObjectStore.collaborators droppedSteps
    events.map (Results.failure? ·.report.result) =
        [some (.notFound "" "secrets" "team-a" "key"), some (.lookup "dropped"), none,
          some (.wrapped "registry list" (.system .timeout "late")),
          some (.clusterScoped "" "Namespace" "")] ∧
      ∀ event ∈ events, ∀ strictness arguments, event.step = .lookup "live" strictness arguments →
        event.PassesOn ObjectStore.collaborators teamPolicy "live" strictness arguments := by
  intro session events
  refine ⟨by decide +kernel, ?_⟩
  intro event hmem strictness arguments hstep
  have hmade : ObjectStore.collaborators.evaluation (Session.start .standard droppingStore).settings
      ⟨teamPolicy, some default⟩ =
        .ok ⟨teamPolicy, .registry ObjectStore.registry default, defaultSensitiveKind⟩ := rfl
  obtain ⟨member, he, hretains⟩ := Session.retains_create hmade "live" none
  obtain ⟨found, hf, hsame⟩ :=
    Session.exists_member_of_retains hretains (by simp [droppedSteps, Step.made?]) hmem
  rw [he] at hsame
  have hpasses := trace_passesOn ObjectStore.collaborators session droppedSteps event hmem "live"
    strictness arguments found hstep hf ObjectStore.registry default (by rw [hsame])
  rwa [hsame] at hpasses

end ClusterLookup
