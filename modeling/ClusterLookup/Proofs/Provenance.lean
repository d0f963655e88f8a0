import ClusterLookup.Proofs.Projections
import ClusterLookup.Proofs.Stability

/-!
# Where the entries of a cache come from

Each entry of an answer cache stands for one call that the cluster has answered: a document for a `get`
that returned it, no documents for a `get` that found no object, and the documents of a `list`. Whatever
else fails leaves no entry. So the cache is the list of the answered calls of its evaluation in the order
in which they were made, and no question is answered twice.

The calls are taken from the journals of the lookups, each with the arguments of the lookup that made it.
-/

namespace ClusterLookup

/-- A call for documents, and the arguments of the lookup that made it. -/
structure Inquiry where
  arguments : Arguments
  exchange : ClientExchange

/-- What is to be remembered of a call: the documents of its answer, if it was answered. That there is no
such object is an answer too. -/
def ClientExchange.lesson? : ClientExchange → Option (List Document)
  | .discover _ _ => none
  | .get _ _ _ _ answer => Lookup.lesson answer
  | .list _ _ _ _ answer => answer.toOption

/-- Whether a call puts a question to the cluster, its type being served as described. -/
def ClientExchange.Asks (identity : Identity) (descriptor : Descriptor) : ClientExchange → Prop
  | .discover _ _ => False
  | .get described kind inNamespace name _ => identity.name ≠ "" ∧ described = descriptor ∧
      kind = identity.type.kind ∧ inNamespace = identity.inNamespace ∧ name = identity.name
  | .list described kind inNamespace selector _ => identity.name = "" ∧ described = descriptor ∧
      kind = identity.type.kind ∧ inNamespace = identity.inNamespace ∧ selector = identity.selector

def Entry.documentExchange? : Entry → Option ClientExchange
  | .client (.discover _ _) => none
  | .client exchange => some exchange
  | _ => none

/-- The calls of a journal that ask the client for documents. -/
def Journal.documentExchanges (journal : Journal) : List ClientExchange :=
  journal.filterMap Entry.documentExchange?

/-- The calls for documents that an evaluation makes in a step. -/
def Event.inquiries {σ : Type} (name : String) (event : Event σ) : List Inquiry :=
  match event.step with
  | .lookup other _ arguments =>
    if other = name then event.report.journal.documentExchanges.map (⟨arguments, ·⟩) else []
  | _ => []

/-- The entry that an answered call leaves, under the question that its lookup asks. -/
def Inquiry.entry? (policy : Policy) (inquiry : Inquiry) : Option (Identity × List Document) :=
  match inquiry.arguments.identity policy, inquiry.exchange.lesson? with
  | .ok identity, some documents => some (identity, documents)
  | _, _ => none

/-- Whether a cache is made of the answered ones of these calls, each of which puts the question of its
lookup by the descriptor that the cache has for the type. -/
structure AnswerCache.Justified (policy : Policy) (inquiries : List Inquiry) (cache : AnswerCache) :
    Prop where
  entries : cache.answers = inquiries.filterMap (Inquiry.entry? policy)
  single : (cache.answers.map Prod.fst).Nodup
  asked : ∀ inquiry ∈ inquiries, ∃ identity descriptor,
    inquiry.arguments.identity policy = .ok identity ∧
      cache.descriptor? identity.type = some descriptor ∧
        inquiry.exchange.Asks identity descriptor

/-! ## Caches -/

namespace AnswerCache
variable {policy : Policy} {inquiries : List Inquiry} {cache : AnswerCache}
variable {arguments : Arguments} {identity : Identity} {descriptor : Descriptor}
variable {exchange : ClientExchange}

theorem answers_store_of_unknown (h : cache.find? identity = none) (documents : List Document) :
    (cache.store identity documents).answers = cache.answers ++ [(identity, documents)] := by
  have hv : valueOf? identity cache.answers = none := h
  simp only [store, addEntry, hv]

theorem justified_empty (policy : Policy) : empty.Justified policy [] where
  entries := rfl
  single := List.nodup_nil
  asked inquiry h := by cases h

theorem Justified.learnType (h : cache.Justified policy inquiries) (type : GroupVersionKind)
    (answer : Except Failure Descriptor) : (cache.learnType type answer).Justified policy inquiries := by
  have hanswers : (cache.learnType type answer).answers = cache.answers := by
    cases answer <;> rfl
  refine ⟨hanswers ▸ h.entries, hanswers ▸ h.single, ?_⟩
  intro inquiry hmem
  obtain ⟨identity, descriptor, hi, hd, ha⟩ := h.asked inquiry hmem
  exact ⟨identity, descriptor, hi, (within_learnType cache type answer).descriptors hd, ha⟩

theorem Justified.learn (h : cache.Justified policy inquiries)
    (hi : arguments.identity policy = .ok identity) (hf : cache.find? identity = none)
    (hd : cache.descriptor? identity.type = some descriptor)
    (ha : exchange.Asks identity descriptor) :
    (cache.learn identity exchange.lesson?).Justified policy
      (inquiries ++ [⟨arguments, exchange⟩]) := by
  have hasked : ∀ inquiry ∈ inquiries ++ [⟨arguments, exchange⟩], ∃ identity descriptor,
      inquiry.arguments.identity policy = .ok identity ∧
        cache.descriptor? identity.type = some descriptor ∧
          inquiry.exchange.Asks identity descriptor := by
    intro inquiry hmem
    rcases List.mem_append.mp hmem with hmem | hmem
    · exact h.asked inquiry hmem
    · obtain rfl := List.mem_singleton.mp hmem
      exact ⟨identity, descriptor, hi, hd, ha⟩
  -- A call that was not answered is one more inquiry, without an entry.
  cases hl : exchange.lesson? with
  | none =>
    have hentry : Inquiry.entry? policy ⟨arguments, exchange⟩ = none := by
      simp [Inquiry.entry?, hl]
    refine ⟨?_, h.single, hasked⟩
    simp [AnswerCache.learn, h.entries, List.filterMap_append, hentry]
  | some documents =>
    have hentry : Inquiry.entry? policy ⟨arguments, exchange⟩ = some (identity, documents) := by
      simp [Inquiry.entry?, hl, hi]
    have hanswers := answers_store_of_unknown hf documents
    refine ⟨?_, ?_, hasked⟩
    · simp [AnswerCache.learn, hanswers, h.entries, List.filterMap_append, hentry]
    · have hnew : identity ∉ cache.answers.map Prod.fst := valueOf?_eq_none_iff.mp hf
      simp only [AnswerCache.learn, hanswers, List.map_append, List.map_cons, List.map_nil]
      refine List.nodup_append.mpr ⟨h.single, by simp, ?_⟩
      intro known hk other ho heq
      obtain rfl := List.mem_singleton.mp ho
      exact hnew (heq ▸ hk)

end AnswerCache

/-! ## Lookups -/

theorem Journal.ofExchanges_documentExchanges : Projection.OfExchanges documentExchanges where
  append _ _ := List.filterMap_append
  log _ := rfl
  wire _ := rfl
  count _ := rfl

theorem Lookup.documentExchanges_resolveType {σ : Type} (source : Source σ) (type : GroupVersionKind)
    (context : Context σ) :
    Journal.documentExchanges (resolveType source type context).journal = [] := by
  apply Journal.ofExchanges_documentExchanges.resolveType
  intro entry hr
  unfold Entry.isResolution at hr
  split at hr
  · rfl
  · rfl
  · cases hr

section Lookups
open Journal (ofExchanges_documentExchanges)

variable {σ : Type} {client : ClusterClient σ} {policy : Policy} {inquiries : List Inquiry}
variable {context : Context σ} {arguments : Arguments} {identity : Identity}
variable {descriptor : Descriptor}

theorem Lookup.justified_resolveType (h : context.cache.Justified policy inquiries)
    (type : GroupVersionKind) :
    (resolveType (.cluster client) type context).state.cache.Justified policy inquiries := by
  have hresolving := resolving_resolveType (.cluster client) type context
  generalize resolveType (.cluster client) type context = resolved at hresolving ⊢
  cases hresolving with
  | remembered hd => exact h
  | discovered hd ha => exact h.learnType type _

theorem Lookup.justified_readAnswer (h : context.cache.Justified policy inquiries)
    (hi : arguments.identity policy = .ok identity)
    (hd : context.cache.descriptor? identity.type = some descriptor) :
    let outcome := readAnswer (.cluster client) identity descriptor context
    outcome.state.cache.Justified policy
      (inquiries ++ (Journal.documentExchanges outcome.journal).map (⟨arguments, ·⟩)) := by
  intro outcome
  have hreading : Reading identity descriptor context (.cluster client) outcome :=
    reading_readAnswer (.cluster client) identity descriptor context
  generalize outcome = outcome at hreading ⊢
  cases hreading with
  | remembered hf =>
    simp only [ofExchanges_documentExchanges.probeEntries, List.map_nil, List.append_nil]
    exact h
  | listed hf hl ha =>
    simp only [ofExchanges_documentExchanges.append, ofExchanges_documentExchanges.probeEntries,
      ofExchanges_documentExchanges.notices, List.nil_append]
    exact h.learn hi hf hd ⟨Identity.isList_eq_true_iff.mp hl, rfl, rfl, rfl, rfl⟩
  | got hf hl ha =>
    simp only [ofExchanges_documentExchanges.append, ofExchanges_documentExchanges.probeEntries,
      ofExchanges_documentExchanges.notices, ofExchanges_documentExchanges.absenceEntries,
      List.nil_append, List.append_nil]
    exact h.learn hi hf hd ⟨Identity.isList_eq_false_iff.mp hl, rfl, rfl, rfl, rfl⟩

/-- A lookup adds its calls to those that the cache is made of. -/
theorem Evaluation.justified_lookupStrict {evaluation : Evaluation σ}
    (hs : evaluation.source = .cluster client)
    (h : context.cache.Justified evaluation.policy inquiries) (arguments : Arguments) :
    let outcome := evaluation.lookupStrict arguments context
    outcome.state.cache.Justified evaluation.policy
      (inquiries ++ (Journal.documentExchanges outcome.journal).map (⟨arguments, ·⟩)) := by
  intro outcome
  cases hi : arguments.identity evaluation.policy with
  | error failure =>
    simp only [outcome, lookupStrict_of_invalid hi, ofExchanges_documentExchanges.refusalEntries,
      List.map_nil, List.append_nil]
    exact h
  | ok identity =>
    simp only [outcome, lookupStrict_of_valid hi]
    have hresolved := @Lookup.justified_resolveType _ client _ _ _ h identity.type
    rw [← hs] at hresolved
    have hcourse := course_answer evaluation identity context
    generalize evaluation.answer identity context = performed at hcourse
    cases hcourse with
    | unresolved ht =>
      simp only [Lookup.documentExchanges_resolveType, List.map_nil, List.append_nil]
      exact hresolved
    | refused ht ha =>
      simp only [ofExchanges_documentExchanges.append, Lookup.documentExchanges_resolveType,
        ofExchanges_documentExchanges.refusalEntries, List.map_nil, List.append_nil]
      exact hresolved
    | admitted ht ha hr =>
      subst hr
      simp only [ofExchanges_documentExchanges.append, Lookup.documentExchanges_resolveType,
        List.nil_append]
      rw [hs] at ht hresolved ⊢
      exact Lookup.justified_readAnswer hresolved hi (Lookup.descriptor?_resolveType ht)

end Lookups

/-! ## Whole runs -/

/-- Whether a step leaves an evaluation under its name, and writes nothing into its cache that no lookup
has asked for. -/
def Step.Spares {σ : Type} (name : String) : Step σ → Prop
  | .create other _ _ => other ≠ name
  | .store other _ _ => other ≠ name
  | .storeDescriptor other _ _ => other ≠ name
  | _ => True

namespace Session
variable {σ : Type} {collaborators : Collaborators σ} {session : Session σ} {name : String}
variable {policy : Policy} {inquiries : List Inquiry}

/-- Whether there is an evaluation of that name that reads through a cache, made of the answered ones of
these calls. -/
def Records (collaborators : Collaborators σ) (name : String) (policy : Policy)
    (inquiries : List Inquiry) (session : Session σ) : Prop :=
  ∃ member, session.member? name = some member ∧ member.evaluation.policy = policy ∧
    member.evaluation.source = .cluster collaborators.client ∧ member.cache.Justified policy inquiries

theorem records_create (collaborators : Collaborators σ) (session : Session σ) (name : String)
    (policy : Policy) (place : Option String) :
    (session.create collaborators name ⟨policy, none⟩ place).1.Records collaborators name policy [] := by
  refine ⟨⟨⟨policy, .cluster collaborators.client, session.settings.sensitiveKind⟩, .empty,
    (place.map ResultPlace.shared).getD (.own session.made)⟩, ?_, rfl, rfl, ?_⟩
  · simp [create, Collaborators.evaluation, member?, valueOf?]
  · exact AnswerCache.justified_empty policy

/-- Unless it is a lookup, a step that spares an evaluation leaves it as it was. -/
theorem member?_step_of_spares {step : Step σ} (hs : step.Spares name)
    (hl : ∀ strictness arguments, step ≠ .lookup name strictness arguments) :
    (session.step collaborators step).1.member? name = session.member? name := by
  have hmoves := moves_step collaborators session step
  generalize (session.step collaborators step).1 = next at hmoves
  cases hmoves with
  | @made other options place evaluation result _ =>
    have hne : other ≠ name := hs
    simp [member?, valueOf?, hne]
  | @acted _ other member act ha hm =>
    by_cases ho : other = name
    · subst ho
      cases step with
      | create | change | configure => cases ha
      | lookup _ strictness arguments =>
        cases ha
        exact absurd rfl (hl strictness arguments)
      | store =>
        cases ha
        exact absurd rfl hs
      | storeDescriptor =>
        cases ha
        exact absurd rfl hs
      | mark =>
        cases ha
        rw [member?_afterwards_self hm, hm]
        rfl
    · exact member?_afterwards_of_ne (Ne.symm ho) member _
  | changed | configured | idle => rfl

theorem Records.step (h : session.Records collaborators name policy inquiries) {step : Step σ}
    (hs : step.Spares name) :
    (session.step collaborators step).1.Records collaborators name policy
      (inquiries ++ (session.eventOf collaborators step).inquiries name) := by
  obtain ⟨member, hm, rfl, hc, hj⟩ := h
  -- Of all steps only lookups of this evaluation make inquiries and touch its cache.
  by_cases hl : ∃ strictness arguments, step = .lookup name strictness arguments
  · obtain ⟨strictness, arguments, rfl⟩ := hl
    have hafter := member?_afterwards_self hm
      (member.evaluation.perform arguments strictness (session.context member)).state
    rw [step_lookup hm]
    refine ⟨_, hafter, rfl, hc, ?_⟩
    have hinquiries : (session.eventOf collaborators (.lookup name strictness arguments)).inquiries
        name = (Journal.documentExchanges (member.evaluation.perform arguments strictness
          (session.context member)).journal).map (⟨arguments, ·⟩) := by
      unfold Event.inquiries
      rw [report_eventOf_lookup collaborators hm]
      exact if_pos rfl
    rw [hinquiries, Journal.ofExchanges_documentExchanges.perform, Evaluation.state_perform]
    exact Evaluation.justified_lookupStrict hc hj arguments
  · have hmember := @member?_step_of_spares _ collaborators session name step hs
      fun strictness arguments he => hl ⟨strictness, arguments, he⟩
    have hinquiries : (session.eventOf collaborators step).inquiries name = [] := by
      cases step with
      | lookup other strictness arguments =>
        have hne : other ≠ name := fun he => hl ⟨strictness, arguments, he ▸ rfl⟩
        exact if_neg hne
      | _ => rfl
    rw [hinquiries, List.append_nil]
    exact ⟨member, hmember.trans hm, rfl, hc, hj⟩

theorem Records.steps (h : session.Records collaborators name policy inquiries)
    {steps : List (Step σ)} (hs : ∀ step ∈ steps, step.Spares name) :
    (session.steps collaborators steps).1.Records collaborators name policy
      (inquiries ++ (session.trace collaborators steps).flatMap (Event.inquiries name)) :=
  collect_steps (I := Records collaborators name policy) (Event.inquiries name) h
    fun step hmem _ _ hr => hr.step (hs step hmem)

end Session

/-- Whatever the client does, and whatever else goes on in the session, the cache of an evaluation is the
list of those calls for documents that were answered, one for each question. -/
theorem cache_justified {σ : Type} (collaborators : Collaborators σ) (session : Session σ)
    (name : String) (policy : Policy) (place : Option String) {steps : List (Step σ)}
    (hs : ∀ step ∈ steps, step.Spares name) :
    let made := (session.create collaborators name ⟨policy, none⟩ place).1
    let last := (made.steps collaborators steps).1
    let inquiries := (made.trace collaborators steps).flatMap (Event.inquiries name)
    ∃ member, last.member? name = some member ∧ member.evaluation.policy = policy ∧
      member.evaluation.source = .cluster collaborators.client ∧
        member.cache.Justified policy inquiries :=
  (Session.records_create collaborators session name policy place).steps hs

/-- The small cluster, where the first call for an object meets an outage. -/
def flakyStore : ObjectStore := { smallStore with outages := [⟨.get, some 1, .system .timeout ""⟩] }

/-- A secret is asked for until it is found, and once more; then a missing one, and a list. -/
def flakySteps : List (Step ObjectStore) :=
  [.lookup "page" .lenient (secretLookup "token"), .lookup "page" .strict (secretLookup "token"),
    .lookup "page" .lenient (secretLookup "token"), .lookup "page" .strict (secretLookup "key"),
    .lookup "page" .lenient (secretLookup "")]

theorem cache_justified_flaky :
    let collaborators := smallCollaborators
    let made := ((Session.start .standard flakyStore).create collaborators "page"
      ⟨.unrestricted, none⟩ none).1
    let last := (made.steps collaborators flakySteps).1
    let inquiries := (made.trace collaborators flakySteps).flatMap (Event.inquiries "page")
    (∀ step ∈ flakySteps, step.Spares "page") ∧
      (last.member? "page").map (·.cache.size) = some 3 ∧ inquiries.length = 4 ∧
      ∃ member, last.member? "page" = some member ∧
        member.cache.Justified .unrestricted inquiries := by
  intro collaborators made last inquiries
  have hs : ∀ step ∈ flakySteps, step.Spares "page" := by simp [flakySteps, Step.Spares]
  obtain ⟨member, hm, _, _, hj⟩ := cache_justified collaborators (.start .standard flakyStore) "page"
    .unrestricted none hs
  exact ⟨hs, by decide +kernel, by decide +kernel, member, hm, hj⟩

end ClusterLookup
