import ClusterLookup.Proofs.Questions
import ClusterLookup.Proofs.Wire

/-!
# Requests of restricted evaluations

An adapter decides by a descriptor whether a request carries a namespace, and takes the resource for it
from a table that all evaluations share. As the table has no resource that discovery did not report under
the apiVersion of its descriptor, and none that its descriptor does not fit, what restricts the calls of an
evaluation restricts its requests too.
-/

namespace ClusterLookup

open Journal (ofCalls_wireExchanges ofExchanges_clientExchanges)

/-! ## Where the resources come from -/

namespace AdapterState
variable {σ : Type} {state next : AdapterState σ} {history later : List WireExchange}

/-- Whether every resource that an adapter keeps was reported in one of these exchanges, under the
apiVersion of its descriptor. -/
def Reported (history : List WireExchange) (state : AdapterState σ) : Prop :=
  ∀ descriptor resource, state.resource? descriptor = some resource → ∃ kind,
    resource.descriptor ⟨descriptor.group, descriptor.version, kind⟩ = descriptor ∧
      .resource (joinApiVersion descriptor.group descriptor.version) kind (.ok resource) ∈ history

theorem reported_start (api : σ) : (start api).Reported [] := by
  intro descriptor resource h
  cases h

theorem Reported.congr (h : state.Reported history) (hr : next.resources = state.resources) :
    next.Reported history := by
  intro descriptor resource hkept
  exact h descriptor resource ((resource?_congr hr).symm.trans hkept)

theorem Reported.mono (h : state.Reported history) (hl : history ⊆ later) : state.Reported later := by
  intro descriptor resource hkept
  obtain ⟨kind, hd, hmem⟩ := h descriptor resource hkept
  exact ⟨kind, hd, hl hmem⟩

theorem Reported.learn (h : state.Reported history) (type : GroupVersionKind)
    (answer : Except Failure Resource) : (state.learn type answer).Reported
      (history ++ [.resource type.apiVersion type.kind answer]) := by
  cases answer with
  | error failure => exact h.mono (List.subset_append_left _ _)
  | ok found =>
    intro descriptor resource hkept
    by_cases hd : found.descriptor type = descriptor
    · subst hd
      obtain rfl : found = resource := by
        simpa [AdapterState.learn, resource?, discovered] using hkept
      exact ⟨type.kind, rfl, by simp [GroupVersionKind.apiVersion, Resource.descriptor]⟩
    · have hold : state.resource? descriptor = some resource := by
        rw [← hkept]
        simp [AdapterState.learn, resource?, discovered, hd]
      exact h.mono (List.subset_append_left _ _) descriptor resource hold

end AdapterState

theorem Lookup.reported_resolveType {σ : Type} {api : ClusterApi σ} {history : List WireExchange}
    {context : Context (AdapterState σ)} (h : context.world.Reported history)
    (type : GroupVersionKind) :
    let resolved := resolveType (.cluster api.client) type context
    resolved.state.world.Reported (history ++ Journal.wireExchanges resolved.journal) := by
  intro resolved
  cases hc : context.cache.descriptor? type with
  | some descriptor =>
    simp only [resolved, resolveType_of_remembered hc]
    exact h.mono (List.subset_append_left _ _)
  | none =>
    have hasked : ({ context.world with
        api := (api.resource type.apiVersion type.kind context.world.api).2 } :
          AdapterState σ).Reported history := h.congr rfl
    simp only [resolved, resolveType_of_unknown hc, ClusterApi.client, Adapter.discover_eq,
      ofCalls_wireExchanges.append, wireExchanges_discoveryNotices]
    exact hasked.learn type _

namespace Evaluation
variable {σ : Type} {api : ClusterApi σ} {evaluation : Evaluation (AdapterState σ)}
variable {context : Context (AdapterState σ)} {history : List WireExchange}

theorem reported_lookupStrict (hs : evaluation.source = .cluster api.client)
    (hc : context.world.Covers context.cache) (h : context.world.Reported history)
    (arguments : Arguments) :
    let outcome := evaluation.lookupStrict arguments context
    outcome.state.world.Reported (history ++ Journal.wireExchanges outcome.journal) := by
  intro outcome
  cases hi : arguments.identity evaluation.policy with
  | error failure =>
    simp only [outcome, lookupStrict_of_invalid hi]
    exact h.mono (List.subset_append_left _ _)
  | ok identity =>
    have hresolved := @Lookup.reported_resolveType _ api _ _ h identity.type
    rw [← hs] at hresolved
    simp only [outcome, lookupStrict_of_valid hi]
    have hcourse := course_answer evaluation identity context
    generalize evaluation.answer identity context = performed at hcourse
    cases hcourse with
    | unresolved ht => exact hresolved
    | refused ht ha =>
      rw [ofCalls_wireExchanges.append, ← List.append_assoc]
      exact hresolved.mono (List.subset_append_left _ _)
    | admitted ht ha hr =>
      subst hr
      have hover : evaluation.source.OverAdapter api := hs ▸ .cluster
      have hserves := Lookup.serves_of_resolveType hover hc ht
      have hsame := @Lookup.resources_readAnswer _ api _ _ identity _ hover hserves
      rw [ofCalls_wireExchanges.append, ← List.append_assoc]
      exact (hresolved.congr hsame).mono (List.subset_append_left _ _)

theorem reported_perform (hs : evaluation.source = .cluster api.client)
    (hc : context.world.Covers context.cache) (h : context.world.Reported history)
    (arguments : Arguments) (strictness : Strictness) :
    let outcome := evaluation.perform arguments strictness context
    outcome.state.world.Reported (history ++ Journal.wireExchanges outcome.journal) := by
  intro outcome
  simp only [outcome, ofCalls_wireExchanges.perform, state_perform]
  exact reported_lookupStrict hs hc h arguments

/-- Off the cache, a lookup leaves the table of an adapter alone. -/
theorem resources_perform_of_reactive (hs : evaluation.source.OverAdapter api)
    (hp : evaluation.path ≠ .cacheFirst) (arguments : Arguments) (strictness : Strictness)
    (context : Context (AdapterState σ)) :
    (evaluation.perform arguments strictness context).state.world.resources =
      context.world.resources := by
  rw [state_perform]
  refine keep_lookupStrict (P := fun _ world => world.resources = context.world.resources) evaluation
    arguments rfl ?_ ?_
  · intro type
    generalize hsource : evaluation.source = source at hs
    cases hs with
    | cluster => exact absurd (congrArg Source.path hsource) hp
    | registry registry watcher => rfl
  · intro identity descriptor resolved _ _ h
    exact (Lookup.resources_readAnswer hs fun hcache => absurd hcache hp).trans h

/-- Nothing more is asked of the API once objects were read. -/
theorem isRead_of_mem_dropLast (hs : evaluation.source = .cluster api.client)
    (hc : context.world.Covers context.cache) (arguments : Arguments) (strictness : Strictness)
    {exchange : WireExchange} (h : exchange ∈ (Journal.wireExchanges
      (evaluation.perform arguments strictness context).journal).dropLast) :
    exchange.isRead = false := by
  cases hi : arguments.identity evaluation.policy with
  | error failure =>
    rw [ofCalls_wireExchanges.perform_of_invalid hi] at h
    cases h
  | ok identity =>
    have hresolve : ∀ exchange ∈ Journal.wireExchanges
        (Lookup.resolveType evaluation.source identity.type context).journal,
        exchange.isRead = false := by
      rw [hs]
      exact fun _ => Lookup.isRead_of_mem_resolveType
    rcases ofCalls_wireExchanges.perform_of_valid hi strictness context with
      htold | ⟨descriptor, ht, _, htold⟩
    · rw [htold] at h
      exact hresolve exchange (List.mem_of_mem_dropLast h)
    · have hover : evaluation.source.OverAdapter api := hs ▸ .cluster
      have hserves := Lookup.serves_of_resolveType hover hc ht (by rw [hs]; rfl)
      have hone := (@Lookup.sent_readAnswer _ api _ identity _ hserves).2
      rw [← hs] at hone
      rw [htold] at h
      exact hresolve exchange (Journal.mem_of_mem_dropLast_append hone h)

theorem eq_nil_of_read (hs : evaluation.source = .cluster api.client)
    (hc : context.world.Covers context.cache) {arguments : Arguments} {strictness : Strictness}
    {earlier later : List WireExchange} {request : ReadRequest} {answer : Except Failure Document}
    (hw : Journal.wireExchanges (evaluation.perform arguments strictness context).journal =
      earlier ++ .read request answer :: later) : later = [] := by
  by_contra hne
  have hmem : .read request answer ∈ (Journal.wireExchanges
      (evaluation.perform arguments strictness context).journal).dropLast := by
    rw [hw, List.dropLast_append_of_ne_nil (by simp), List.dropLast_cons_of_ne_nil hne]
    simp
  cases isRead_of_mem_dropLast hs hc arguments strictness hmem

end Evaluation

/-- What the adapter exchanged with the API in a step: it is there for the evaluations that read through
a cache. -/
def Event.sent {σ : Type} (event : Event σ) : List WireExchange :=
  match event.step with
  | .lookup name _ _ =>
    match event.before.member? name with
    | some member =>
      if member.evaluation.path = .cacheFirst then event.report.journal.wireExchanges else []
    | none => []
  | _ => []

namespace Session
variable {σ : Type} {api : ClusterApi σ} {registry : Option (Registry σ)}
variable {session : Session (AdapterState σ)} {history : List WireExchange}

/-- Whether an adapter serves all evaluations with resources that were reported before. -/
structure Tracked (api : ClusterApi σ) (history : List WireExchange)
    (session : Session (AdapterState σ)) : Prop where
  covered : session.Covered api
  reported : session.world.Reported history

theorem tracked_start (api : ClusterApi σ) (settings : LookupSettings) (remote : σ) :
    (start settings (.start remote)).Tracked api [] :=
  ⟨covered_start api settings _, AdapterState.reported_start remote⟩

theorem resources_step {collaborators : Collaborators (AdapterState σ)} {step : Step (AdapterState σ)}
    (hs : step.SparesAdapter) (hl : ∀ name strictness arguments, step ≠ .lookup name strictness arguments) :
    (session.step collaborators step).1.world.resources = session.world.resources := by
  have hmoves := moves_step collaborators session step
  generalize (session.step collaborators step).1 = next at hmoves
  cases hmoves with
  | made | configured | idle => rfl
  | changed f => exact hs session.world
  | acted ha hm =>
    cases step with
    | lookup name strictness arguments => exact absurd rfl (hl name strictness arguments)
    | mark =>
      cases ha
      rfl
    | store | storeDescriptor => cases hs
    | create | change | configure => cases ha

theorem Tracked.step (h : session.Tracked api history) {step : Step (AdapterState σ)}
    (hs : step.SparesAdapter) :
    (session.step (api.collaborators registry) step).1.Tracked api
      (history ++ (session.eventOf (api.collaborators registry) step).sent) := by
  refine ⟨h.covered.step hs, ?_⟩
  -- Only a lookup of an evaluation that is there reaches the adapter.
  cases step with
  | lookup name strictness arguments =>
    unfold Event.sent
    simp only [eventOf]
    cases hm : session.member? name with
    | none =>
      rw [step_lookup_of_none hm, List.append_nil]
      exact h.reported
    | some member =>
      obtain ⟨hover, hcovers⟩ := h.covered name member hm
      simp only [step_lookup hm]
      split
      · next hp =>
        exact Evaluation.reported_perform (hover.eq_cluster hp) hcovers h.reported arguments strictness
      · next hp =>
        rw [List.append_nil]
        exact h.reported.congr (Evaluation.resources_perform_of_reactive hover hp arguments strictness
          (session.context member))
  | _ =>
    have hsame := @resources_step _ session (api.collaborators registry) _ hs (by simp)
    simp only [Event.sent, eventOf, List.append_nil]
    exact h.reported.congr hsame

theorem Tracked.steps (h : session.Tracked api history) {steps : List (Step (AdapterState σ))}
    (hs : ∀ step ∈ steps, step.SparesAdapter) :
    (session.steps (api.collaborators registry) steps).1.Tracked api
      (history ++ (session.trace (api.collaborators registry) steps).flatMap Event.sent) :=
  collect_steps (I := Tracked api) Event.sent h fun step hmem _ _ ht => ht.step (hs step hmem)

end Session

/-! ## Requests of restricted evaluations -/

/-- What a request keeps to that a restricted evaluation brings about, after the exchanges in the
history. -/
structure ReadRequest.Confined (policy : Policy) (arguments : Arguments)
    (history : List WireExchange) (request : ReadRequest) : Prop where
  named : request.name.getD "" = arguments.name
  reported : ∃ kind, .resource arguments.apiVersion kind (.ok request.resource) ∈ history
  namespaced : request.resource.namespaced.getD false = true →
    request.inNamespace = some policy.restriction
  clusterScoped : request.resource.namespaced.getD false = false → request.inNamespace = none ∧
    ∃ group version, splitApiVersion arguments.apiVersion = some (group, version) ∧
      policy.allowlist.allows group arguments.kind arguments.name = true

/-- What a read says of the call that it stands for. -/
theorem ClientExchange.SentAs.read? {σ : Type} {api : ClusterApi σ} {state : AdapterState σ}
    {call : ClientExchange} {request : ReadRequest} {answer : Except Failure Document}
    (h : call.SentAs api state (.read request answer)) : ∃ descriptor kind inNamespace,
      (Entry.client call).read? = some ⟨some descriptor, kind, inNamespace, request.name.getD ""⟩ ∧
        state.resource? descriptor = some request.resource ∧
          request.inNamespace = Adapter.sentNamespace descriptor inNamespace := by
  cases h with
  | get kind inNamespace name kept answered => exact ⟨_, kind, inNamespace, rfl, kept, rfl⟩
  | list kind inNamespace selector kept answered => exact ⟨_, kind, inNamespace, rfl, kept, rfl⟩

theorem ClientExchange.SentAs.described {σ : Type} {api : ClusterApi σ} {state : AdapterState σ}
    {type : GroupVersionKind} {descriptor : Descriptor} {sent : WireExchange}
    (h : (ClientExchange.discover type (.ok descriptor)).SentAs api state sent) :
    descriptor.group = type.group ∧ descriptor.version = type.version := by
  generalize hcall : ClientExchange.discover type (.ok descriptor) = call at h
  cases h with
  | discover _ answered =>
    injection hcall with htype hanswer
    obtain ⟨resource, _, rfl⟩ := Results.map_eq_ok_iff.mp hanswer.symm
    rw [htype]
    exact ⟨rfl, rfl⟩
  | get => cases hcall
  | list => cases hcall

namespace Evaluation
variable {σ : Type} {api : ClusterApi σ} {evaluation : Evaluation (AdapterState σ)}
variable {context : Context (AdapterState σ)} {history : List WireExchange}

/-- A resolved descriptor is of the group and version that the arguments name. -/
theorem apiVersion_of_resolved (hs : evaluation.source = .cluster api.client)
    (hc : context.world.Covers context.cache) {journal : Journal} {state : AdapterState σ}
    (hsent : journal.SentAs api state) {arguments : Arguments} {descriptor : Descriptor}
    (h : evaluation.Resolved context.cache arguments journal descriptor) :
    splitApiVersion arguments.apiVersion = some (descriptor.group, descriptor.version) := by
  obtain ⟨group, version, hsplit, hresolved⟩ := h
  rw [hs] at hresolved
  rcases hresolved with hold | hnew
  · obtain ⟨hgroup, hversion, _⟩ := hc _ _ hold
    rw [hsplit, hgroup, hversion]
  · obtain ⟨sent, _, hcall⟩ := hsent.exists_sent hnew
    obtain ⟨hgroup, hversion⟩ := hcall.described
    rw [hsplit, hgroup, hversion]

theorem confined_of_sent (hs : evaluation.source = .cluster api.client)
    (hc : context.world.Covers context.cache) (hr : evaluation.policy.restriction ≠ "")
    (h : context.world.Reported history) {arguments : Arguments} {strictness : Strictness}
    {earlier later : List WireExchange} {request : ReadRequest} {answer : Except Failure Document}
    (hw : Journal.wireExchanges (evaluation.perform arguments strictness context).journal =
      earlier ++ .read request answer :: later) :
    request.Confined evaluation.policy arguments (history ++ earlier) := by
  have hsent := sent_perform hs hc arguments strictness
  have hconfined := evaluation.perform_confined arguments strictness context hr
  have hreported := reported_perform hs hc h arguments strictness
  obtain rfl := eq_nil_of_read hs hc hw
  have hexchange : .read request answer ∈ Journal.wireExchanges
      (evaluation.perform arguments strictness context).journal := by simp [hw]
  obtain ⟨call, hcall, hread⟩ := hsent.exists_call hexchange
  obtain ⟨descriptor, kind, inNamespace, hentry, hkept, hinNamespace⟩ := hread.read?
  have hreads := Journal.mem_reads.mpr ⟨_, hcall, hentry⟩
  obtain ⟨hkind, hname⟩ := hconfined.asked _ hreads
  obtain ⟨found, hresolved, hcarried⟩ := hconfined.resolved _ hreads
  obtain rfl := hcarried descriptor rfl
  have hsplit := apiVersion_of_resolved hs hc hsent hresolved
  have hspace : inNamespace = evaluation.policy.restriction := hconfined.inNamespace _ hreads
  obtain ⟨reportedKind, hfits, hmem⟩ := hreported descriptor request.resource hkept
  have hnamespaced : request.resource.namespaced.getD false = descriptor.namespaced :=
    congrArg Descriptor.namespaced hfits
  rw [joinApiVersion_of_splitApiVersion hsplit, hw] at hmem
  refine ⟨hname, ⟨reportedKind, by simpa [or_assoc] using hmem⟩, fun hn => ?_, fun hn => ?_⟩
  · rw [hinNamespace, hspace, Adapter.sentNamespace]
    simp [← hnamespaced, hn, hr]
  · rw [hnamespaced] at hn
    refine ⟨?_, _, _, hsplit, ?_⟩
    · simp [hinNamespace, Adapter.sentNamespace, hn]
    · have hallowed := hconfined.allowed _ hreads descriptor hresolved hn
      rwa [hkind, hname] at hallowed

/-- Off the cache, no call reaches a client. -/
theorem clientExchanges_perform_of_reactive (hp : evaluation.path = .reactive) (arguments : Arguments)
    (strictness : Strictness) (context : Context (AdapterState σ)) :
    Journal.clientExchanges (evaluation.perform arguments strictness context).journal = [] := by
  cases hi : arguments.identity evaluation.policy with
  | error failure => exact ofExchanges_clientExchanges.perform_of_invalid hi strictness context
  | ok identity =>
    cases hs : evaluation.source with
    | cluster client => simp [path, hs, Source.path] at hp
    | registry registry watcher =>
      have hresolve := @Lookup.clientExchanges_resolveType_registry _ context registry watcher
        identity.type
      rw [← hs] at hresolve
      rcases ofExchanges_clientExchanges.perform_of_valid hi strictness context with
        htold | ⟨descriptor, _, _, htold⟩
      · rw [htold, hresolve]
      · rw [htold, hresolve, hs, Lookup.clientExchanges_readAnswer_registry, List.nil_append]

end Evaluation

/-- In every run over one adapter, a restricted evaluation sends no read but those that it may. For a
resource that was reported as namespaced these go into its namespace. For one that was reported as
cluster-scoped they carry none, and the allowlist has to allow them. -/
theorem wire_confined {σ : Type} (api : ClusterApi σ) (registry : Option (Registry σ))
    (settings : LookupSettings) (remote : σ) {before : List (Step (AdapterState σ))}
    (hs : ∀ step ∈ before, step.SparesAdapter) :
    let collaborators := api.collaborators registry
    let first := Session.start settings (.start remote)
    let session := (first.steps collaborators before).1
    let past := (first.trace collaborators before).flatMap Event.sent
    ∀ name member strictness arguments, session.member? name = some member →
      member.evaluation.policy.restriction ≠ "" →
        let event := session.eventOf collaborators (.lookup name strictness arguments)
        (∀ earlier request answer later, event.sent = earlier ++ .read request answer :: later →
          request.Confined member.evaluation.policy arguments (past ++ earlier)) ∧
        (member.evaluation.path = .reactive → event.report.journal.clientExchanges = []) := by
  intro collaborators first session past name member strictness arguments hm hr event
  have htracked : session.Tracked api past := by
    have hrun : session.Tracked api ([] ++ past) :=
      (Session.tracked_start api settings remote).steps hs
    rwa [List.nil_append] at hrun
  obtain ⟨hover, hcovers⟩ := htracked.covered name member hm
  have hreport := Session.report_eventOf_lookup collaborators hm strictness arguments
  constructor
  · intro earlier request answer later hsent
    have hp : member.evaluation.path = .cacheFirst := by
      by_contra hne
      simp [event, Event.sent, Session.eventOf, hm, hne] at hsent
    have hw : Journal.wireExchanges (member.evaluation.perform arguments strictness
        (session.context member)).journal = earlier ++ .read request answer :: later := by
      rw [← hsent]
      simp [event, Event.sent, Session.eventOf, Session.step_lookup hm, hm, hp]
    exact Evaluation.confined_of_sent (hover.eq_cluster hp) hcovers hr htracked.reported hw
  · intro hp
    simp only [event, hreport]
    exact Evaluation.clientExchanges_perform_of_reactive hp arguments strictness _

theorem wire_confined_sharing :
    let past := ((Session.start .standard (.start servingScript)).trace
      (Script.api.collaborators none) sharingSteps).flatMap Event.sent
    let arguments : Arguments := ⟨"v1", "Namespace", "", "team-a", none⟩
    let event := sharingSession.eventOf (Script.api.collaborators none)
      (.lookup "page" .strict arguments)
    let request : ReadRequest := ⟨⟨"namespaces", some false⟩, some "team-a", none, none⟩
    (∀ step ∈ sharingSteps, step.SparesAdapter) ∧ ∃ member,
      sharingSession.member? "page" = some member ∧ member.evaluation.policy.restriction ≠ "" ∧
      event.sent = [.resource "v1" "Namespace" (.ok ⟨"namespaces", some false⟩),
        .read request (.ok (.object []))] ∧
      request.Confined member.evaluation.policy arguments
        (past ++ [.resource "v1" "Namespace" (.ok ⟨"namespaces", some false⟩)]) := by
  intro past arguments event request
  have hsent : event.sent = [.resource "v1" "Namespace" (.ok ⟨"namespaces", some false⟩),
      .read request (.ok (.object []))] := by
    unfold event arguments request
    rfl
  refine ⟨sharingSteps_sparesAdapter, _, rfl, by decide, hsent, ?_⟩
  exact (wire_confined Script.api none .standard servingScript sharingSteps_sparesAdapter "page" _
    .strict arguments rfl (by decide)).1 [_] request _ [] hsent

end ClusterLookup
