import ClusterLookup.Proofs.Absence
import ClusterLookup.Proofs.Precedence
import ClusterLookup.Proofs.Wire

/-!
# Faults of the API

The API says with its status 404 that an object does not exist. The adapter makes of it a failure of the
client that says the same, and of no other fault. A call that fails is what its lookup fails with. Unless
it says that an object is missing, nothing is remembered of it, and the question goes to the cluster when
it is put again.
-/

namespace ClusterLookup

open Journal (mem_clientExchanges ofCalls_wireExchanges ofExchanges_clientExchanges)

/-- Whether a fault says that an object does not exist. -/
def Failure.isMissing : Failure → Bool
  | .api _ status _ => status == some 404
  | _ => false

/-- Whether the faults of an API are its own or the system's, and what it reads are objects. -/
structure ClusterApi.Genuine {σ : Type} (api : ClusterApi σ) : Prop where
  resource (apiVersion kind : String) (remote : σ) (failure : Failure) :
    (api.resource apiVersion kind remote).1 = .error failure → failure.isLookup = false
  read (request : ReadRequest) (remote : σ) (failure : Failure) :
    (api.read request remote).1 = .error failure → failure.isLookup = false
  object (request : ReadRequest) (remote : σ) (document : Document) :
    (api.read request remote).1 = .ok document → document.isObject = true

/-- Whether an exchange says that there is no object of that name. -/
def WireExchange.Misses (name : String) : WireExchange → Prop
  | .read request (.error failure) => request.name = some name ∧ failure.isMissing = true
  | _ => False

def ClientExchange.failure? : ClientExchange → Option Failure
  | .discover _ answer => Results.failure? answer
  | .get _ _ _ _ answer => Results.failure? answer
  | .list _ _ _ _ answer => Results.failure? answer

/-! ## What the adapter makes of faults -/

theorem Failure.isNotFound_of_not_isLookup {failure : Failure} (h : failure.isLookup = false) :
    failure.isNotFound = false := by
  cases failure with
  | notFound group resource inNamespace name => cases h
  | _ => rfl

namespace Adapter
variable {σ : Type} {api : ClusterApi σ} {state : AdapterState σ} {descriptor : Descriptor}
variable {kind : String} {failure : Failure}

theorem isNotFound_discoveryFailure (type : GroupVersionKind) (h : failure.isLookup = false) :
    (discoveryFailure type failure).isNotFound = false := by
  cases failure with
  | notFound group resource inNamespace name => cases h
  | _ => rfl

theorem isNotFound_listFailure (h : failure.isLookup = false) :
    (listFailure failure).isNotFound = false := by
  cases failure with
  | notFound group resource inNamespace name => cases h
  | _ => rfl

theorem isNotFound_getFailure (descriptor : Descriptor) (inNamespace name : String)
    (h : failure.isLookup = false) :
    (getFailure descriptor inNamespace name failure).isNotFound = failure.isMissing := by
  cases failure with
  | api fault status reason =>
    by_cases hs : status = some 404
    · simp [getFailure, Failure.isMissing, Failure.isNotFound, hs]
    · simp [getFailure, Failure.isMissing, Failure.isNotFound, hs]
  | notFound group resource inNamespace name => cases h
  | _ => rfl

theorem isNotFound_of_described {type : GroupVersionKind} {answer : Except Failure Resource}
    (hg : ∀ fault, answer = .error fault → fault.isLookup = false)
    (h : (answer.mapError (discoveryFailure type)).map (·.descriptor type) = .error failure) :
    failure.isNotFound = false := by
  cases answer with
  | ok resource => cases h
  | error fault =>
    cases h
    exact isNotFound_discoveryFailure type (hg fault rfl)

theorem isNotFound_of_listed {apiVersion : String} {answer : Except Failure Document}
    (hg : ∀ fault, answer = .error fault → fault.isLookup = false)
    (h : (answer.mapError listFailure).bind (listItems apiVersion kind) = .error failure) :
    failure.isNotFound = false := by
  cases answer with
  | ok body =>
    have hitems : body.listFault? = some failure :=
      (listItems_eq_error_iff apiVersion kind body failure).mp h
    exact Failure.isNotFound_of_not_isLookup (Document.isLookup_of_listFault? hitems)
  | error fault =>
    cases h
    exact isNotFound_listFailure (hg fault rfl)

theorem isNotFound_of_discover (hg : api.Genuine) (type : GroupVersionKind)
    (h : (discover api type state).result = .error failure) : failure.isNotFound = false := by
  simp only [discover_eq] at h
  exact isNotFound_of_described (hg.resource _ _ _) h

theorem isNotFound_of_resourceOf (hg : api.Genuine)
    (h : (resourceOf api descriptor kind state).result = .error failure) :
    failure.isNotFound = false := by
  cases hk : state.resource? descriptor with
  | some resource =>
    rw [resourceOf_of_kept hk] at h
    cases h
  | none =>
    simp only [resourceOf, Action.read_bind, hk] at h
    cases hd : (discover api ⟨descriptor.group, descriptor.version, kind⟩ state).result with
    | error fault =>
      rw [Action.bind_apply_of_error hd] at h
      cases h
      exact isNotFound_of_discover hg _ hd
    | ok found =>
      simp only [Action.bind_apply_of_ok hd, Action.read_bind] at h
      cases hn : (discover api ⟨descriptor.group, descriptor.version, kind⟩ state).state.resource?
          descriptor with
      | some resource =>
        rw [hn] at h
        cases h
      | none =>
        rw [hn] at h
        cases h
        rfl

end Adapter

namespace ClusterApi.Genuine
variable {σ : Type} {api : ClusterApi σ}

theorem givesObjects (hg : api.Genuine) : api.client.GivesObjects := by
  intro descriptor kind inNamespace name state document h
  have hget : (Adapter.get api descriptor kind inNamespace name state).result = .ok document := h
  cases hr : (Adapter.resourceOf api descriptor kind state).result with
  | error failure =>
    rw [Adapter.get, Action.bind_apply_of_error hr] at hget
    cases hget
  | ok resource =>
    simp only [Adapter.get_of_resourceOf hr, Results.mapError_eq_ok_iff] at hget
    exact hg.object _ _ _ hget

theorem missesObjectsOnly (hg : api.Genuine) : api.client.MissesObjectsOnly where
  discover type state failure h := Adapter.isNotFound_of_discover hg type h
  list descriptor kind inNamespace selector state failure h := by
    have hlist : (Adapter.list api descriptor kind inNamespace selector state).result =
      .error failure := h
    cases hr : (Adapter.resourceOf api descriptor kind state).result with
    | error fault =>
      rw [Adapter.list, Action.bind_apply_of_error hr] at hlist
      cases hlist
      exact Adapter.isNotFound_of_resourceOf hg hr
    | ok resource =>
      simp only [Adapter.list_of_resourceOf hr] at hlist
      exact Adapter.isNotFound_of_listed (hg.read _ _) hlist

end ClusterApi.Genuine

namespace ClientExchange.SentAs
variable {σ : Type} {api : ClusterApi σ} {state : AdapterState σ} {call : ClientExchange}
variable {sent : WireExchange}

/-- A call whose exchange meets a fault fails. -/
theorem exists_failure (h : call.SentAs api state sent) {fault : Failure}
    (hf : sent.fault? = some fault) : ∃ failure, call.failure? = some failure := by
  cases h with
  | discover type answered =>
    obtain rfl := Results.failure?_eq_some_iff.mp hf
    exact ⟨_, rfl⟩
  | get kind inNamespace name kept answered =>
    obtain rfl := Results.failure?_eq_some_iff.mp hf
    exact ⟨_, rfl⟩
  | list kind inNamespace selector kept answered =>
    obtain rfl := Results.failure?_eq_some_iff.mp hf
    exact ⟨_, rfl⟩

/-- A call finds an object missing exactly when the API says so of the name that it is asked for. -/
theorem reportsMissing_iff (hg : api.Genuine) (h : call.SentAs api state sent) {identity : Identity}
    {descriptor : Descriptor} (ha : call.Asks identity descriptor) :
    (Entry.client call).reportsMissing = true ↔ sent.Misses identity.name := by
  cases h with
  | discover type answered => cases ha
  | @get _ _ _ found kind inNamespace name kept answered =>
    obtain ⟨_, _, _, _, rfl⟩ := ha
    cases found with
    | ok document => simp [Results.mapError_ok, Entry.reportsMissing, WireExchange.Misses]
    | error failure =>
      have hn := Adapter.isNotFound_getFailure ‹Descriptor› inNamespace identity.name
        (hg.read _ _ _ answered)
      simp [Results.mapError_error, Entry.reportsMissing, WireExchange.Misses, hn]
  | @list _ _ _ found kind inNamespace selector kept answered =>
    cases found with
    | ok body => simp [Entry.reportsMissing, WireExchange.Misses]
    | error failure => simp [Entry.reportsMissing, WireExchange.Misses]

/-- A call that fails without finding an object missing does not fail for a missing one. -/
theorem isNotFound_of_failure (hg : api.Genuine) (h : call.SentAs api state sent) {failure : Failure}
    (hf : call.failure? = some failure) (hm : (Entry.client call).reportsMissing = false) :
    failure.isNotFound = false := by
  cases h with
  | discover type answered =>
    refine Adapter.isNotFound_of_described ?_ (Results.failure?_eq_some_iff.mp hf)
    exact answered ▸ hg.resource _ _ _
  | get kind inNamespace name kept answered =>
    rw [Results.failure?_eq_some_iff.mp hf] at hm
    exact hm
  | list kind inNamespace selector kept answered =>
    refine Adapter.isNotFound_of_listed ?_ (Results.failure?_eq_some_iff.mp hf)
    exact answered ▸ hg.read _ _

end ClientExchange.SentAs

/-! ## Lookups -/

/-- Whether a failed call to the client is what an outcome fails with. -/
def Outcome.EndsWithCalls {σ α : Type} (outcome : Outcome Entry σ α) : Prop :=
  ∀ call failure, Entry.client call ∈ outcome.journal → call.failure? = some failure →
    outcome.result = .error failure

namespace Lookup
variable {σ : Type} {client : ClusterClient σ} {context : Context σ} {identity : Identity}
variable {descriptor : Descriptor}

theorem endsWithCalls_resolveType (client : ClusterClient σ) (type : GroupVersionKind)
    (context : Context σ) : (resolveType (.cluster client) type context).EndsWithCalls := by
  intro call failure hc hf
  rw [← mem_clientExchanges] at hc
  have hresolving := resolving_resolveType (.cluster client) type context
  generalize resolveType (.cluster client) type context = resolved at hresolving hc ⊢
  cases hresolving with
  | remembered hd => cases hc
  | discovered hd ha =>
    rw [ofExchanges_clientExchanges.notices_append] at hc
    cases List.mem_singleton.mp hc
    exact Results.failure?_eq_some_iff.mp hf

theorem endsWithCalls_readAnswer (client : ClusterClient σ) (identity : Identity)
    (descriptor : Descriptor) (context : Context σ) :
    (readAnswer (.cluster client) identity descriptor context).EndsWithCalls := by
  intro call failure hc hf
  rw [← mem_clientExchanges] at hc
  have hreading := reading_readAnswer (.cluster client) identity descriptor context
  generalize readAnswer (.cluster client) identity descriptor context = outcome at hreading hc ⊢
  cases hreading with
  | remembered hk => cases hc
  | listed hk hl ha =>
    rw [ofExchanges_clientExchanges.append, ofExchanges_clientExchanges.probeEntries, List.nil_append,
      ofExchanges_clientExchanges.notices_append] at hc
    cases List.mem_singleton.mp hc
    rw [Results.failure?_eq_some_iff.mp hf]
    rfl
  | got hk hl ha =>
    rw [ofExchanges_clientExchanges.append, ofExchanges_clientExchanges.append,
      ofExchanges_clientExchanges.probeEntries, ofExchanges_clientExchanges.absenceEntries,
      List.nil_append, List.append_nil, ofExchanges_clientExchanges.notices_append] at hc
    cases List.mem_singleton.mp hc
    rw [Results.failure?_eq_some_iff.mp hf]
    rfl

/-- An object that was not known is answered with nothing exactly when the cache learns that it is
missing. -/
theorem absent_iff_of_unknown (hc : client.GivesObjects) (hl : identity.isList = false)
    (hf : context.cache.find? identity = none) :
    Evaluation.lenient (readAnswer (.cluster client) identity descriptor context).result =
        .ok .absent ↔
      (readAnswer (.cluster client) identity descriptor context).state.cache.find? identity =
        some [] := by
  simp only [readAnswer_get hl hf]
  cases hr : (client.get descriptor identity.type.kind identity.inNamespace identity.name
      context.world).result with
  | ok document =>
    have hnull := Document.isNull_of_isObject (hc _ _ _ _ _ _ hr)
    simp [Evaluation.lenient, lesson, AnswerCache.learn, AnswerCache.find?_store_self, hf, Except.map,
      Answer.ofDocument_ne_absent hnull]
  | error failure =>
    cases hn : failure.isNotFound with
    | true =>
      simp [Evaluation.lenient, lesson, AnswerCache.learn, AnswerCache.find?_store_self, hf, Except.map,
        hn]
    | false => simp [Evaluation.lenient, lesson, AnswerCache.learn, hf, Except.map, hn]

end Lookup

namespace Evaluation
variable {σ : Type} {evaluation : Evaluation σ} {client : ClusterClient σ} {context : Context σ}
variable {arguments : Arguments} {identity : Identity}

theorem endsWithCalls_lookupStrict (hs : evaluation.source = .cluster client)
    (arguments : Arguments) (context : Context σ) :
    (evaluation.lookupStrict arguments context).EndsWithCalls := by
  intro call failure hc hf
  cases hi : arguments.identity evaluation.policy with
  | error found =>
    rw [lookupStrict_of_invalid hi] at hc
    cases Lookup.isCall_of_mem_refusalEntries hc
  | ok identity =>
    have hresolve := Lookup.endsWithCalls_resolveType client identity.type context
    rw [← hs] at hresolve
    rw [lookupStrict_of_valid hi] at hc ⊢
    have hcourse := course_answer evaluation identity context
    generalize evaluation.answer identity context = performed at hcourse hc ⊢
    cases hcourse with
    | unresolved ht =>
      cases ht.symm.trans (hresolve call failure hc hf)
      rfl
    | refused ht ha =>
      rcases List.mem_append.mp hc with hc | hc
      · cases ht.symm.trans (hresolve call failure hc hf)
      · cases Lookup.isCall_of_mem_refusalEntries hc
    | @admitted descriptor outcome ht ha hr =>
      rcases List.mem_append.mp hc with hc | hc
      · cases ht.symm.trans (hresolve call failure hc hf)
      · have hread := Lookup.endsWithCalls_readAnswer client identity descriptor
          (Lookup.resolveType (.cluster client) identity.type context).state
        rw [← hs, hr] at hread
        exact hread call failure hc hf

/-- A lookup of one object that passes over missing ones answers with nothing exactly when the cache then
holds that there is no such object. -/
theorem lookup_eq_absent_iff (hc : client.GivesObjects) (hm : client.MissesObjectsOnly)
    (hs : evaluation.source = .cluster client) (hk : evaluation.Kept context.cache)
    (hi : arguments.identity evaluation.policy = .ok identity) (hl : identity.isList = false) :
    (evaluation.lookup arguments context).result = .ok .absent ↔
      (evaluation.lookup arguments context).state.cache.find? identity = some [] := by
  cases hf : context.cache.find? identity with
  | some documents =>
    have hsame := (evaluation.within_perform arguments .lenient context).answers hf
    obtain ⟨descriptor, hd, ha⟩ := hk.admitted identity documents hf
    have hrecalls := perform_recalls hs hi (.answered hd ha hf) .lenient
    rw [show (evaluation.lookup arguments context).result = _ from hrecalls.result,
      show (evaluation.lookup arguments context).state.cache.find? identity = _ from hsame]
    rcases hk.single identity documents hf hl with rfl | ⟨document, rfl, hnull⟩
    · simp [Lookup.recalled, hl, Answer.ofDocument]
    · simp [Lookup.recalled, hl, Answer.ofDocument_ne_absent hnull]
  | none =>
    have hf' := (Lookup.find?_resolveType evaluation.source identity.type context identity).trans hf
    simp only [lookup_eq, lookupStrict_of_valid hi]
    have hcourse := course_answer evaluation identity context
    generalize evaluation.answer identity context = performed at hcourse
    cases hcourse with
    | unresolved ht =>
      rw [hs] at ht
      have hn := Lookup.isNotFound_of_resolveType hm ht
      simp [lenient, hn, hf']
    | refused ht ha => simp [lenient, Failure.isNotFound, hf']
    | admitted ht ha hr =>
      subst hr
      simp only [hs] at hf' ⊢
      exact Lookup.absent_iff_of_unknown hc hl hf'

/-- A question that was put to the cluster and failed is unknown afterwards, unless the object is
missing. -/
theorem find?_of_failure (hs : evaluation.source = .cluster client) (hk : evaluation.Kept context.cache)
    (hi : arguments.identity evaluation.policy = .ok identity) {strictness : Strictness}
    {failure : Failure} (hf : (evaluation.perform arguments strictness context).result = .error failure)
    (hn : failure.isNotFound = false) {entry : Entry}
    (he : entry ∈ (evaluation.perform arguments strictness context).journal)
    (hcall : entry.isCall = true) :
    (evaluation.perform arguments strictness context).state.cache.find? identity = none := by
  have hbefore : context.cache.find? identity = none := by
    cases hfound : context.cache.find? identity with
    | none => rfl
    | some documents =>
      obtain ⟨descriptor, hd, ha⟩ := hk.admitted identity documents hfound
      have hrecalls := perform_recalls hs hi (.answered hd ha hfound) strictness
      cases hcall.symm.trans (hrecalls.silent entry he)
  have hundisturbed := undisturbed_perform hf hn
  rw [AnswerCache.find?, hundisturbed.answers]
  exact hbefore

end Evaluation

/-! ## Lookups over an adapter -/

namespace Evaluation
variable {σ : Type} {api : ClusterApi σ} {evaluation : Evaluation (AdapterState σ)}
variable {context : Context (AdapterState σ)} {arguments : Arguments} {identity : Identity}
variable {descriptor : Descriptor} {strictness : Strictness} {exchange : WireExchange}

theorem exists_identity_of_exchange
    (h : exchange ∈ Journal.wireExchanges (evaluation.perform arguments strictness context).journal) :
    ∃ identity, arguments.identity evaluation.policy = .ok identity := by
  cases hi : arguments.identity evaluation.policy with
  | ok identity => exact ⟨identity, rfl⟩
  | error failure =>
    rw [ofCalls_wireExchanges.perform_of_invalid hi] at h
    cases h

/-- A read is made when an answer is read, after the type has been resolved and the guard has let it
pass. -/
theorem mem_readAnswer_of_read (hs : evaluation.source = .cluster api.client)
    (hi : arguments.identity evaluation.policy = .ok identity)
    (h : exchange ∈ Journal.wireExchanges (evaluation.perform arguments strictness context).journal)
    (hr : exchange.isRead = true) :
    let resolved := Lookup.resolveType evaluation.source identity.type context
    ∃ descriptor, resolved.result = .ok descriptor ∧
      evaluation.policy.admits descriptor identity.type.kind identity.name = true ∧
      exchange ∈ Journal.wireExchanges
        (Lookup.readAnswer evaluation.source identity descriptor resolved.state).journal := by
  intro resolved
  have hresolve : exchange ∉ Journal.wireExchanges resolved.journal := by
    simp only [resolved, hs]
    intro hmem
    cases hr.symm.trans (Lookup.isRead_of_mem_resolveType hmem)
  rcases ofCalls_wireExchanges.perform_of_valid hi strictness context with
    htold | ⟨descriptor, ht, ha, htold⟩
  · rw [htold] at h
    exact absurd h hresolve
  · rw [htold, List.mem_append] at h
    exact ⟨descriptor, ht, ha, h.resolve_left hresolve⟩

/-- What was read is of a type that is known from then on, and that the guard lets pass. -/
theorem admitted_of_read (hs : evaluation.source = .cluster api.client)
    (hi : arguments.identity evaluation.policy = .ok identity)
    (h : exchange ∈ Journal.wireExchanges (evaluation.perform arguments strictness context).journal)
    (hr : exchange.isRead = true) : ∃ descriptor,
      (evaluation.perform arguments strictness context).state.cache.descriptor? identity.type =
        some descriptor ∧
      evaluation.policy.admits descriptor identity.type.kind identity.name = true := by
  obtain ⟨descriptor, ht, ha, _⟩ := mem_readAnswer_of_read hs hi h hr
  refine ⟨descriptor, ?_, ha⟩
  rw [state_perform, lookupStrict_of_valid hi, answer_of_admitted ht ha]
  rw [hs] at ht ⊢
  exact (Lookup.descriptor?_readAnswer _ _ _ _ _).trans (Lookup.descriptor?_resolveType ht)

/-- What is asked while the type is resolved is asked during the lookup. -/
theorem mem_perform_of_mem_resolveType (hi : arguments.identity evaluation.policy = .ok identity)
    (h : exchange ∈ Journal.wireExchanges
      (Lookup.resolveType evaluation.source identity.type context).journal) (strictness : Strictness) :
    exchange ∈ Journal.wireExchanges (evaluation.perform arguments strictness context).journal := by
  rcases ofCalls_wireExchanges.perform_of_valid hi strictness context with htold | ⟨_, _, _, htold⟩
  · rwa [htold]
  · rw [htold]
    exact List.mem_append_left _ h

/-- A type that the cache does not know is asked for. -/
theorem exists_discovery_of_unknown (hs : evaluation.source = .cluster api.client)
    (hi : arguments.identity evaluation.policy = .ok identity)
    (hd : context.cache.descriptor? identity.type = none) (strictness : Strictness) : ∃ answer,
      .resource identity.type.apiVersion identity.type.kind answer ∈
        Journal.wireExchanges (evaluation.perform arguments strictness context).journal := by
  obtain ⟨answer, hwire⟩ := @Lookup.wireExchanges_resolveType _ api _ _ hd
  refine ⟨answer, mem_perform_of_mem_resolveType hi ?_ strictness⟩
  rw [hs, hwire]
  exact List.mem_singleton_self _

/-- A question that the cache does not answer is read if its type is known and the guard lets it pass. -/
theorem exists_read_of_unknown (hs : evaluation.source = .cluster api.client)
    (hc : context.world.Covers context.cache)
    (hi : arguments.identity evaluation.policy = .ok identity)
    (hf : context.cache.find? identity = none)
    (hd : context.cache.descriptor? identity.type = some descriptor)
    (ha : evaluation.policy.admits descriptor identity.type.kind identity.name = true)
    (strictness : Strictness) : ∃ exchange ∈ Journal.wireExchanges
      (evaluation.perform arguments strictness context).journal, exchange.isRead = true := by
  have ht : Lookup.resolveType evaluation.source identity.type context =
      ⟨.ok descriptor, context, []⟩ := by
    rw [hs]
    exact Lookup.resolveType_of_remembered hd
  obtain ⟨resource, hr, _⟩ := (hc _ _ hd).2.2
  obtain ⟨call, sent, _, hwire, _, hread⟩ := Lookup.sent_readAnswer_of_unknown api hr hf
  rw [ofCalls_wireExchanges.perform, lookupStrict_of_valid hi,
    answer_of_admitted (congrArg Outcome.result ht) ha]
  simp only [ht, List.nil_append]
  rw [hs, hwire]
  exact ⟨sent, List.mem_singleton_self sent, hread⟩

/-- A question that the cache does not answer goes to the cluster, unless the guard refuses it. -/
theorem asks_of_unknown (hs : evaluation.source = .cluster api.client)
    (hc : context.world.Covers context.cache)
    (hi : arguments.identity evaluation.policy = .ok identity)
    (hf : context.cache.find? identity = none) (strictness : Strictness) :
    Entry.count (.denials .clusterScope) ∈
        (evaluation.perform arguments strictness context).journal ∨
      Journal.wireExchanges (evaluation.perform arguments strictness context).journal ≠ [] := by
  cases hd : context.cache.descriptor? identity.type with
  | some descriptor =>
    cases ha : evaluation.policy.admits descriptor identity.type.kind identity.name with
    | false => exact .inl ((perform_recalls hs hi (.refused hd ha) strictness).denied _ rfl)
    | true =>
      obtain ⟨exchange, he, _⟩ := exists_read_of_unknown hs hc hi hf hd ha strictness
      exact .inr (List.ne_nil_of_mem he)
  | none =>
    obtain ⟨answer, he⟩ := exists_discovery_of_unknown hs hi hd strictness
    exact .inr (List.ne_nil_of_mem he)

end Evaluation

end ClusterLookup
