import ClusterLookup.Proofs.Noninterference
import ClusterLookup.Proofs.Projections
import ClusterLookup.Proofs.Stability

/-!
# The two paths of an evaluation

An evaluation reads from a cluster client through its cache or from a registry, and which of the two is
settled when it is made. With a watcher it is the registry: each lookup then asks it for the type and,
unless the lookup is refused, reads once, and its answer is what the registry says at that moment. The
cache plays no part in this, whatever is in it. Without a watcher the registry is never asked.
-/

namespace ClusterLookup

/-- How a lookup comes out, by how it does when a missing object is a failure. -/
def Strictness.settle : Strictness → Except Failure Answer → Except Failure Answer
  | .lenient => Evaluation.lenient
  | .strict => id

/-- How a registry serves a lookup: what it is asked in turn, how the lookup comes out when a missing
object is a failure, and the state in which the registry is left. A question has the type that the
arguments name and the namespace that the policy makes of theirs. -/
inductive Registry.Serves {σ : Type} (registry : Registry σ) (watcher : Identity) (policy : Policy)
    (arguments : Arguments) (world : σ) :
    List RegistryExchange → Except Failure Answer → σ → Prop
  | invalid {failure : Failure} (hi : arguments.identity policy = .error failure) :
      Serves registry watcher policy arguments world [] (.error failure) world
  | unresolved {identity : Identity} {resolved : Outcome Notice σ Descriptor} {failure : Failure}
      (hi : arguments.identity policy = .ok identity)
      (hr : registry.resolveType identity.type world = resolved) (ht : resolved.result = .error failure) :
      Serves registry watcher policy arguments world [.resolveType identity.type (.error failure)]
        (.error (failure.during "registry resolve_type")) resolved.state
  | refused {identity : Identity} {resolved : Outcome Notice σ Descriptor} {descriptor : Descriptor}
      (hi : arguments.identity policy = .ok identity)
      (hr : registry.resolveType identity.type world = resolved) (ht : resolved.result = .ok descriptor)
      (ha : policy.admits descriptor identity.type.kind identity.name = false) :
      Serves registry watcher policy arguments world [.resolveType identity.type (.ok descriptor)]
        (.error (.clusterScoped descriptor.group identity.type.kind identity.name)) resolved.state
  | object {identity : Identity} {resolved : Outcome Notice σ Descriptor} {descriptor : Descriptor}
      {asked : Outcome Notice σ Document} (hi : arguments.identity policy = .ok identity)
      (hr : registry.resolveType identity.type world = resolved) (ht : resolved.result = .ok descriptor)
      (ha : policy.admits descriptor identity.type.kind identity.name = true)
      (hl : identity.isList = false)
      (hg : registry.get watcher identity.type identity.inNamespace identity.name resolved.state =
        asked) :
      Serves registry watcher policy arguments world
        [.resolveType identity.type (.ok descriptor),
          .get watcher identity.type identity.inNamespace identity.name asked.result]
        ((asked.result.mapError (·.during "registry get")).bind (Lookup.present identity descriptor))
        asked.state
  | items {identity : Identity} {resolved : Outcome Notice σ Descriptor} {descriptor : Descriptor}
      {asked : Outcome Notice σ (List Document)} (hi : arguments.identity policy = .ok identity)
      (hr : registry.resolveType identity.type world = resolved) (ht : resolved.result = .ok descriptor)
      (ha : policy.admits descriptor identity.type.kind identity.name = true)
      (hl : identity.isList = true)
      (hg : registry.list watcher identity.type identity.inNamespace identity.selector
        resolved.state = asked) :
      Serves registry watcher policy arguments world
        [.resolveType identity.type (.ok descriptor),
          .list watcher identity.type identity.inNamespace identity.selector asked.result]
        ((asked.result.mapError (·.during "registry list")).map .items) asked.state

/-- The session with another cache for the evaluation of a name. -/
def Session.primed {σ : Type} (session : Session σ) (name : String) (cache : AnswerCache) : Session σ :=
  { session with members := withCache name cache session.members }

/-- Whether an entry is a call to a client or to a registry. -/
def Entry.isExchange : Entry → Bool
  | .client _ => true
  | .registry _ => true
  | _ => false

/-- The calls to clients and registries in a journal. -/
def Journal.exchanges (journal : Journal) : Journal := journal.filter Entry.isExchange

/-- Whether a lookup of a name was served by a registry, and by nothing else: no client was called, and it
would have gone the same way with any other cache, which it leaves alone. -/
structure Event.Live {σ : Type} (collaborators : Collaborators σ) (registry : Registry σ)
    (watcher : Identity) (policy : Policy) (name : String) (strictness : Strictness)
    (arguments : Arguments) (event : Event σ) : Prop where
  served : ∃ asked outcome,
    registry.Serves watcher policy arguments event.before.world asked outcome event.after.world ∧
      event.report.journal.exchanges = asked.map Entry.registry ∧
      event.report.result = (strictness.settle outcome).map some
  unasked : ∀ exchange, Entry.client exchange ∉ event.report.journal
  unwritten : event.after.member? name = event.before.member? name
  unread : ∀ cache, (event.before.primed name cache).step collaborators event.step =
    (event.after.primed name cache, event.report)

/-! ## The calls of a lookup -/

namespace Journal

theorem ofExchanges_exchanges : Projection.OfExchanges exchanges where
  append := List.filter_append
  log _ := rfl
  wire _ := rfl
  count _ := rfl

theorem mem_exchanges {journal : Journal} {entry : Entry} :
    entry ∈ journal.exchanges ↔ entry ∈ journal ∧ entry.isExchange = true :=
  List.mem_filter

end Journal

open Journal (ofExchanges_exchanges)

namespace Lookup
variable {σ : Type} {client : ClusterClient σ} {registry : Registry σ} {watcher : Identity}
variable {context : Context σ} {identity : Identity} {descriptor : Descriptor}

theorem exchanges_resolveType_registry (type : GroupVersionKind) :
    Journal.exchanges (resolveType (.registry registry watcher) type context).journal =
      [.registry (.resolveType type (registry.resolveType type context.world).result)] := by
  simp only [resolveType_registry, ofExchanges_exchanges.notices_append]
  rfl

theorem exchanges_readAnswer_registry_list (hl : identity.isList = true) :
    Journal.exchanges (readAnswer (.registry registry watcher) identity descriptor context).journal =
      [.registry (.list watcher identity.type identity.inNamespace identity.selector
        (registry.list watcher identity.type identity.inNamespace identity.selector
          context.world).result)] := by
  simp only [readAnswer_registry_list hl, ofExchanges_exchanges.notices_append]
  rfl

theorem exchanges_readAnswer_registry_get (hl : identity.isList = false) :
    Journal.exchanges (readAnswer (.registry registry watcher) identity descriptor context).journal =
      [.registry (.get watcher identity.type identity.inNamespace identity.name
        (registry.get watcher identity.type identity.inNamespace identity.name
          context.world).result)] := by
  simp only [readAnswer_registry_get hl, ofExchanges_exchanges.notices_append]
  rfl

/-- Resolving a type through the cache calls nothing but the client. -/
theorem not_mem_resolveType_cluster (type : GroupVersionKind) (exchange : RegistryExchange) :
    Entry.registry exchange ∉ (resolveType (.cluster client) type context).journal := by
  intro hm
  have hx := Journal.mem_exchanges.mpr ⟨hm, rfl⟩
  have hresolving := resolving_resolveType (.cluster client) type context
  generalize resolveType (.cluster client) type context = resolved at hresolving hx
  cases hresolving with
  | remembered hd => cases hx
  | discovered hd ha =>
    simp only [ofExchanges_exchanges.notices_append] at hx
    cases List.mem_singleton.mp hx

theorem not_mem_readAnswer_cluster (exchange : RegistryExchange) :
    Entry.registry exchange ∉ (readAnswer (.cluster client) identity descriptor context).journal := by
  intro hm
  have hx := Journal.mem_exchanges.mpr ⟨hm, rfl⟩
  have hreading := reading_readAnswer (.cluster client) identity descriptor context
  generalize readAnswer (.cluster client) identity descriptor context = outcome at hreading hx
  cases hreading with
  | remembered hf =>
    rw [ofExchanges_exchanges.probeEntries] at hx
    cases hx
  | listed hf hl ha =>
    rw [ofExchanges_exchanges.append, ofExchanges_exchanges.probeEntries, List.nil_append,
      ofExchanges_exchanges.notices_append] at hx
    cases List.mem_singleton.mp hx
  | got hf hl ha =>
    simp only [ofExchanges_exchanges.append, ofExchanges_exchanges.notices,
      ofExchanges_exchanges.probeEntries, ofExchanges_exchanges.absenceEntries] at hx
    cases List.mem_singleton.mp hx

end Lookup

namespace Evaluation
variable {σ : Type} {evaluation : Evaluation σ} {client : ClusterClient σ} {registry : Registry σ}
variable {watcher : Identity} {arguments : Arguments} {identity : Identity}

theorem result_perform (evaluation : Evaluation σ) (arguments : Arguments) (strictness : Strictness)
    (context : Context σ) : (evaluation.perform arguments strictness context).result =
      strictness.settle (evaluation.lookupStrict arguments context).result := by
  cases strictness with
  | strict => rfl
  | lenient => simp only [perform, lookup_eq, Strictness.settle]

/-- On the cache, no call reaches a registry. -/
theorem not_mem_perform_of_cluster (hs : evaluation.source = .cluster client) (arguments : Arguments)
    (strictness : Strictness) (context : Context σ) (exchange : RegistryExchange) :
    Entry.registry exchange ∉ (evaluation.perform arguments strictness context).journal := by
  intro hm
  have hx := Journal.mem_exchanges.mpr ⟨hm, rfl⟩
  cases hi : arguments.identity evaluation.policy with
  | error failure =>
    rw [ofExchanges_exchanges.perform_of_invalid hi] at hx
    cases hx
  | ok identity =>
    have hresolve : Entry.registry exchange ∉
        (Lookup.resolveType (.cluster client) identity.type context).journal :=
      Lookup.not_mem_resolveType_cluster identity.type exchange
    rw [← hs] at hresolve
    rcases ofExchanges_exchanges.perform_of_valid hi strictness context with
      htold | ⟨descriptor, _, _, htold⟩
    · rw [htold] at hx
      exact hresolve (Journal.mem_exchanges.mp hx).1
    · rw [htold, List.mem_append] at hx
      rcases hx with hx | hx
      · exact hresolve (Journal.mem_exchanges.mp hx).1
      · rw [hs] at hx
        exact Lookup.not_mem_readAnswer_cluster exchange (Journal.mem_exchanges.mp hx).1

/-- A question put to a registry is served by it alone. -/
theorem serves_answer (hs : evaluation.source = .registry registry watcher)
    (hi : arguments.identity evaluation.policy = .ok identity) (context : Context σ) :
    let outcome := evaluation.answer identity context
    ∃ asked, registry.Serves watcher evaluation.policy arguments context.world asked outcome.result
        outcome.state.world ∧
      Journal.exchanges outcome.journal = asked.map Entry.registry := by
  intro outcome
  have hresolved := @Lookup.resolveType_registry _ registry watcher identity.type context
  have hresolve := @Lookup.exchanges_resolveType_registry _ registry watcher context identity.type
  rw [← hs] at hresolved hresolve
  cases ht : (registry.resolveType identity.type context.world).result with
  | error failure =>
    rw [ht] at hresolve
    have hr : (Lookup.resolveType evaluation.source identity.type context).result =
        .error (failure.during "registry resolve_type") := by
      simp only [hresolved, ht, Results.mapError_error]
    simp only [outcome, answer_of_unresolved hr]
    refine ⟨[_], ?_, hresolve⟩
    rw [hresolved]
    exact .unresolved hi rfl ht
  | ok descriptor =>
    rw [ht] at hresolve
    have hr : (Lookup.resolveType evaluation.source identity.type context).result =
        .ok descriptor := by
      simp only [hresolved, ht, Results.mapError_ok]
    cases ha : evaluation.policy.admits descriptor identity.type.kind identity.name with
    | false =>
      simp only [outcome, answer_of_refused hr ha, ofExchanges_exchanges.append, hresolve,
        ofExchanges_exchanges.refusalEntries]
      refine ⟨[_], ?_, rfl⟩
      rw [hresolved]
      exact .refused hi rfl ht ha
    | true =>
      simp only [outcome, answer_of_admitted hr ha, ofExchanges_exchanges.append, hresolve]
      rw [hs] at hresolved ⊢
      cases hl : identity.isList with
      | true =>
        rw [Lookup.exchanges_readAnswer_registry_list hl, Lookup.readAnswer_registry_list hl, hresolved]
        exact ⟨[_, _], .items hi rfl ht ha hl rfl, rfl⟩
      | false =>
        rw [Lookup.exchanges_readAnswer_registry_get hl, Lookup.readAnswer_registry_get hl, hresolved]
        exact ⟨[_, _], .object hi rfl ht ha hl rfl, rfl⟩

theorem serves_perform (hs : evaluation.source = .registry registry watcher) (arguments : Arguments)
    (strictness : Strictness) (context : Context σ) :
    let performed := evaluation.perform arguments strictness context
    ∃ asked outcome, registry.Serves watcher evaluation.policy arguments context.world asked outcome
        performed.state.world ∧
      Journal.exchanges performed.journal = asked.map Entry.registry ∧
      performed.result = strictness.settle outcome := by
  intro performed
  simp only [performed, ofExchanges_exchanges.perform, state_perform, result_perform]
  cases hi : arguments.identity evaluation.policy with
  | error failure =>
    simp only [lookupStrict_of_invalid hi, ofExchanges_exchanges.refusalEntries]
    exact ⟨[], _, .invalid hi, rfl, rfl⟩
  | ok identity =>
    simp only [lookupStrict_of_valid hi]
    obtain ⟨asked, hserves, hexchanges⟩ := serves_answer hs hi context
    exact ⟨asked, _, hserves, hexchanges, rfl⟩

end Evaluation

/-! ## Lookups that leave the cache alone -/

namespace Lookup
variable {σ α β : Type}

/-- Whether an action goes the same way with any cache, and leaves it as it is. -/
def Uncached (x : Lookup σ α) : Prop :=
  ∀ (context : Context σ) (cache : AnswerCache), x { context with cache := cache } =
    ⟨(x context).result, { (x context).state with cache := cache }, (x context).journal⟩

theorem Uncached.cache_eq {x : Lookup σ α} (h : Uncached x) (context : Context σ) :
    (x context).state.cache = context.cache :=
  congrArg (·.state.cache) (h context context.cache)

theorem uncached_pure (a : α) : Uncached (pure a : Lookup σ α) := fun _ _ => rfl

theorem uncached_fail (failure : Failure) : Uncached (Action.fail failure : Lookup σ α) :=
  fun _ _ => rfl

theorem uncached_note (entries : List Entry) : Uncached (Action.note entries : Lookup σ Unit) :=
  fun _ _ => rfl

theorem uncached_noteSensitive : Uncached (noteSensitive : Lookup σ Unit) := fun _ _ => rfl

theorem uncached_during_ask (operation : String) (call : Action Notice σ α)
    (entry : Except Failure α → Entry) : Uncached (during operation (ask call entry)) :=
  fun _ _ => rfl

theorem Uncached.bind {x : Lookup σ α} {f : α → Lookup σ β} (hx : Uncached x)
    (hf : ∀ a, Uncached (f a)) : Uncached (x >>= f) := by
  intro context cache
  have hresult : (x { context with cache := cache }).result = (x context).result := by rw [hx]
  cases hr : (x context).result with
  | ok a =>
    rw [Action.bind_apply_of_ok hr, Action.bind_apply_of_ok (hresult.trans hr), hx, hf]
  | error failure =>
    rw [Action.bind_apply_of_error hr, Action.bind_apply_of_error (hresult.trans hr), hx]

theorem Uncached.map {x : Lookup σ α} (hx : Uncached x) (f : α → β) : Uncached (f <$> x) := by
  intro context cache
  simp only [Action.map_apply, hx context cache]

theorem uncached_refuse (failure : Failure) : Uncached (refuse failure : Lookup σ α) :=
  (uncached_note _).bind fun _ => uncached_fail failure

theorem uncached_readAnswer (registry : Registry σ) (watcher identity : Identity)
    (descriptor : Descriptor) : Uncached (readAnswer (.registry registry watcher) identity descriptor) := by
  unfold readAnswer
  split
  · exact (uncached_during_ask _ _ _).map _
  · apply Uncached.map
    apply (uncached_during_ask _ _ _).bind
    intro document
    split
    · exact uncached_fail _
    · exact uncached_pure document

end Lookup

namespace Evaluation
variable {σ : Type} {evaluation : Evaluation σ} {registry : Registry σ} {watcher : Identity}

open Lookup

theorem uncached_answer (hs : evaluation.source = .registry registry watcher) (identity : Identity) :
    Uncached (evaluation.answer identity) := by
  unfold answer guardedAnswer guardScope
  rw [hs]
  apply (uncached_during_ask _ _ _).bind
  intro descriptor
  apply Uncached.bind
  · split
    · exact uncached_pure ()
    · exact uncached_refuse _
  · intro _
    apply (uncached_readAnswer registry watcher identity descriptor).bind
    intro found
    split
    · exact uncached_noteSensitive.bind fun _ => uncached_pure found
    · exact uncached_pure found

theorem uncached_perform (hs : evaluation.source = .registry registry watcher) (arguments : Arguments)
    (strictness : Strictness) : Uncached (evaluation.perform arguments strictness) := by
  have hstrict : Uncached (evaluation.lookupStrict arguments) := by
    unfold lookupStrict
    split
    · exact uncached_answer hs _
    · exact uncached_refuse _
  cases strictness with
  | strict => exact hstrict
  | lenient =>
    intro context cache
    simp only [perform, lookup_eq, hstrict context cache]

end Evaluation

/-! ## Runs -/

namespace Session
variable {σ : Type} {collaborators : Collaborators σ} {session : Session σ} {name : String}
variable {member : Member σ}

theorem member?_primed (hm : session.member? name = some member) (cache : AnswerCache) :
    (session.primed name cache).member? name = some { member with cache := cache } := by
  have hself := valueOf?_withCache_self name cache session.members
  rw [show valueOf? name session.members = some member from hm] at hself
  exact hself

theorem withCache_withCache (name : String) (first second : AnswerCache)
    (members : List (String × Member σ)) :
    withCache name second (withCache name first members) = withCache name second members := by
  induction members with
  | nil => rfl
  | cons entry members ih =>
    obtain ⟨n, m⟩ := entry
    by_cases hn : n = name
    · simp [withCache, hn]
    · simp [withCache, hn, ih]

/-- What an evaluation does in a session with another cache, if it leaves the cache alone. -/
theorem afterwards_primed (name : String) (member : Member σ) (cache : AnswerCache)
    (context : Context σ) :
    (session.primed name cache).afterwards name { member with cache := cache }
        { context with cache := cache } =
      (session.afterwards name member context).primed name cache := by
  simp only [primed, afterwards, withCache_withCache]

/-- A lookup of an evaluation that reads from a registry is served by it. -/
theorem live_lookup {registry : Registry σ} {watcher : Identity}
    (hm : session.member? name = some member)
    (hs : member.evaluation.source = .registry registry watcher) (strictness : Strictness)
    (arguments : Arguments) :
    (session.eventOf collaborators (.lookup name strictness arguments)).Live collaborators registry
      watcher member.evaluation.policy name strictness arguments := by
  have huncached := Evaluation.uncached_perform hs arguments strictness
  obtain ⟨asked, outcome, hserves, hexchanges, hresult⟩ :=
    Evaluation.serves_perform hs arguments strictness (session.context member)
  have hreport := report_eventOf_lookup collaborators hm strictness arguments
  have hafter : (session.eventOf collaborators (.lookup name strictness arguments)).after =
      session.afterwards name member (member.evaluation.perform arguments strictness
        (session.context member)).state := after_eventOf_lookup hm strictness arguments
  constructor
  · refine ⟨asked, outcome, ?_, ?_, ?_⟩
    · rw [hafter]
      exact hserves
    · rw [hreport]
      exact hexchanges
    · rw [hreport]
      exact congrArg (·.map some) hresult
  · intro exchange hmem
    rw [hreport] at hmem
    have hx := Journal.mem_exchanges.mpr ⟨hmem, rfl⟩
    rw [hexchanges] at hx
    obtain ⟨_, _, heq⟩ := List.mem_map.mp hx
    cases heq
  · rw [hafter, member?_afterwards_self hm, huncached.cache_eq]
    exact hm.symm
  · intro cache
    have hprimed : (session.primed name cache).member? name = some { member with cache := cache } :=
      member?_primed hm cache
    have hcontext : (session.primed name cache).context { member with cache := cache } =
        { session.context member with cache := cache } := rfl
    rw [hreport, hafter]
    refine (step_lookup hprimed strictness arguments).trans ?_
    simp only [hcontext, huncached (session.context member) cache]
    rw [afterwards_primed]

theorem retains_create {options : Options} {evaluation : Evaluation σ}
    (he : collaborators.evaluation session.settings options = .ok evaluation) (name : String)
    (place : Option String) : ∃ member, member.evaluation = evaluation ∧
      (session.step collaborators (.create name options place)).1.Retains name member := by
  simp only [step, create, he]
  exact ⟨⟨evaluation, .empty, (place.map ResultPlace.shared).getD (.own session.made)⟩, rfl,
    retains_of_member? (by simp [member?, valueOf?])⟩

/-- Throughout a run, a lookup is done by the evaluation that was made under its name. -/
theorem exists_member_of_retains {steps : List (Step σ)} (h : session.Retains name member)
    (hs : ∀ step ∈ steps, step.made? ≠ some name) {event : Event σ}
    (hm : event ∈ session.trace collaborators steps) : ∃ found,
      event.before.member? name = some found ∧ found.evaluation = member.evaluation := by
  have hretains := before_of_mem_trace (I := fun session => session.Retains name member) h
    (fun step hmem _ hr => hr.step (hs step hmem)) hm
  obtain ⟨found, hf, he, _⟩ := hretains
  exact ⟨found, hf, he⟩

end Session

/-- An evaluation keeps to the path that it was made for. Without a watcher its lookups never ask a
registry, whether or not there is one. With a watcher they are served by the registry and by nothing
else. -/
theorem paths_apart {σ : Type} (collaborators : Collaborators σ) (session : Session σ) (name : String)
    (options : Options) (place : Option String) {steps : List (Step σ)}
    (hs : ∀ step ∈ steps, step.made? ≠ some name) :
    let made := (session.step collaborators (.create name options place)).1
    ∀ event ∈ made.trace collaborators steps, ∀ strictness arguments,
      event.step = .lookup name strictness arguments →
        (options.watcher = none → ∀ exchange, Entry.registry exchange ∉ event.report.journal) ∧
        ∀ watcher registry, options.watcher = some watcher → collaborators.registry = some registry →
          event.Live collaborators registry watcher options.policy name strictness arguments := by
  intro made event hm strictness arguments hstep
  have hevent := Session.eq_eventOf_of_mem_trace hm
  rw [hstep] at hevent
  obtain ⟨policy, watched⟩ := options
  constructor
  · rintro (rfl : watched = none) exchange
    have hmade : collaborators.evaluation session.settings ⟨policy, none⟩ =
        .ok ⟨policy, .cluster collaborators.client, session.settings.sensitiveKind⟩ := rfl
    obtain ⟨member, he, hretains⟩ := Session.retains_create hmade name place
    obtain ⟨found, hf, hsame⟩ := Session.exists_member_of_retains hretains hs hm
    have hsource : found.evaluation.source = .cluster collaborators.client := by rw [hsame, he]
    rw [hevent, Session.report_eventOf_lookup collaborators hf]
    exact Evaluation.not_mem_perform_of_cluster hsource arguments strictness _ exchange
  · rintro watcher registry (rfl : watched = some watcher) hr
    have hmade : collaborators.evaluation session.settings ⟨policy, some watcher⟩ =
        .ok ⟨policy, .registry registry watcher, session.settings.sensitiveKind⟩ := by
      simp only [Collaborators.evaluation, hr]
    obtain ⟨member, he, hretains⟩ := Session.retains_create hmade name place
    obtain ⟨found, hf, hsame⟩ := Session.exists_member_of_retains hretains hs hm
    rw [he] at hsame
    have hsource : found.evaluation.source = .registry registry watcher := by rw [hsame]
    have hlive : (event.before.eventOf collaborators (.lookup name strictness arguments)).Live
        collaborators registry watcher found.evaluation.policy name strictness arguments :=
      Session.live_lookup hf hsource strictness arguments
    rw [hsame] at hlive
    rwa [hevent]

/-- A false answer is put into the cache of an evaluation, and the secret is looked up; then it is
deleted, and looked up again. -/
def staleSteps : List (Step ObjectStore) :=
  [.store "page" ⟨⟨"", "v1", "Secret"⟩, "team-a", "token", ""⟩ [.text "stale"],
    .lookup "page" .lenient (secretLookup "token"),
    .change (·.delete "" "Secret" "team-a" "token"),
    .lookup "page" .strict (secretLookup "token")]

theorem paths_apart_stale :
    let session := Session.start .standard smallStore
    let unwatched := (session.step ObjectStore.collaborators
      (.create "page" ⟨.unrestricted, none⟩ none)).1
    let watched := (session.step ObjectStore.collaborators
      (.create "page" ⟨.unrestricted, some default⟩ none)).1
    (∀ step ∈ staleSteps, step.made? ≠ some "page") ∧
      (watched.trace ObjectStore.collaborators staleSteps).map (·.report.result) =
        [.ok none, .ok (some (.document (.object []))), .ok none,
          .error (.notFound "" "secrets" "team-a" "token")] ∧
      (∀ event ∈ unwatched.trace ObjectStore.collaborators staleSteps, ∀ strictness arguments,
        event.step = .lookup "page" strictness arguments →
          ∀ exchange, Entry.registry exchange ∉ event.report.journal) ∧
      ∀ event ∈ watched.trace ObjectStore.collaborators staleSteps, ∀ strictness arguments,
        event.step = .lookup "page" strictness arguments →
          event.Live ObjectStore.collaborators ObjectStore.registry default .unrestricted "page"
            strictness arguments := by
  have hs : ∀ step ∈ staleSteps, step.made? ≠ some "page" := by simp [staleSteps, Step.made?]
  intro session unwatched watched
  refine ⟨hs, rfl, ?_, ?_⟩
  · intro event hm strictness arguments hstep
    exact (paths_apart ObjectStore.collaborators session "page" ⟨.unrestricted, none⟩ none hs event hm
      strictness arguments hstep).1 rfl
  · intro event hm strictness arguments hstep
    exact (paths_apart ObjectStore.collaborators session "page" ⟨.unrestricted, some default⟩ none hs
      event hm strictness arguments hstep).2 default ObjectStore.registry rfl rfl

end ClusterLookup
