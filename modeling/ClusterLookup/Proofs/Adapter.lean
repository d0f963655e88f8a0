import ClusterLookup.Cluster.Adapter
import ClusterLookup.Proofs.Transparency

/-!
# The resources that an adapter keeps

An adapter keeps every resource that discovery reports, and a cache holds no descriptor but from
discovery. The resource of a descriptor that a lookup reads with is therefore kept already: no lookup
makes the adapter discover a resource again, and none fails for want of one. This holds of all
evaluations over one adapter, as what one of them has discovered is not lost to another.
-/

namespace ClusterLookup

namespace AdapterState
variable {σ : Type} {state next : AdapterState σ} {descriptor : Descriptor} {cache : AnswerCache}

/-- Whether the adapter keeps a resource for a descriptor, one that the descriptor fits. -/
def Serves (state : AdapterState σ) (descriptor : Descriptor) : Prop :=
  ∃ resource, state.resource? descriptor = some resource ∧
    resource.name = descriptor.resource ∧ resource.namespaced.getD false = descriptor.namespaced

/-- Whether what a cache holds of types is of their group and version, and served. -/
def Covers (state : AdapterState σ) (cache : AnswerCache) : Prop :=
  ∀ type descriptor, cache.descriptor? type = some descriptor →
    descriptor.group = type.group ∧ descriptor.version = type.version ∧ state.Serves descriptor

/-- Whether another state serves all that a state serves. -/
def Grows (state next : AdapterState σ) : Prop :=
  ∀ descriptor, state.Serves descriptor → next.Serves descriptor

/-- The state after discovery has answered for a type. -/
def learn (state : AdapterState σ) (type : GroupVersionKind) : Except Failure Resource →
    AdapterState σ
  | .ok resource => state.discovered (resource.descriptor type) resource
  | .error _ => state

theorem resource?_congr (h : next.resources = state.resources) :
    next.resource? descriptor = state.resource? descriptor := by
  simp only [resource?, h]

theorem grows_of_resources_eq (h : next.resources = state.resources) : state.Grows next := by
  rintro descriptor ⟨resource, hr, hfits⟩
  exact ⟨resource, (resource?_congr h).trans hr, hfits⟩

theorem Grows.trans {last : AdapterState σ} (h : state.Grows next) (h' : next.Grows last) :
    state.Grows last := fun descriptor hs => h' descriptor (h descriptor hs)

theorem Covers.grows (h : state.Covers cache) (hg : state.Grows next) : next.Covers cache := by
  intro type descriptor hd
  obtain ⟨hgroup, hversion, hs⟩ := h type descriptor hd
  exact ⟨hgroup, hversion, hg descriptor hs⟩

theorem Covers.congr {other : AnswerCache} (h : state.Covers cache)
    (hc : ∀ type, other.descriptor? type = cache.descriptor? type) : state.Covers other := by
  intro type descriptor hd
  exact h type descriptor ((hc type).symm.trans hd)

theorem covers_empty (state : AdapterState σ) : state.Covers .empty := by
  intro type descriptor hd
  cases hd

theorem serves_discovered_self (state : AdapterState σ) (type : GroupVersionKind)
    (resource : Resource) :
    (state.discovered (resource.descriptor type) resource).Serves (resource.descriptor type) :=
  ⟨resource, by simp [resource?, discovered], rfl, rfl⟩

theorem grows_learn (state : AdapterState σ) (type : GroupVersionKind)
    (answer : Except Failure Resource) : state.Grows (state.learn type answer) := by
  intro descriptor hs
  cases answer with
  | error failure => exact hs
  | ok resource =>
    -- A resource takes the place of another one only under a descriptor that it fits too.
    by_cases hd : resource.descriptor type = descriptor
    · subst hd
      exact serves_discovered_self state type resource
    · obtain ⟨kept, hr, hfits⟩ := hs
      refine ⟨kept, ?_, hfits⟩
      rw [← hr]
      simp [learn, resource?, discovered, hd]

end AdapterState

namespace Adapter
variable {σ : Type} {api : ClusterApi σ} {state : AdapterState σ} {descriptor : Descriptor}
variable {resource : Resource}

/-! ## The calls of the client that an adapter is -/

def discoveryNotices (type : GroupVersionKind) (answer : Except Failure Resource) : List Notice :=
  .wire (.resource type.apiVersion type.kind answer) ::
    match answer with
    | .ok resource => [.log (discoveryRecord type.kind (resource.descriptor type))]
    | .error _ => []

theorem discover_eq (api : ClusterApi σ) (type : GroupVersionKind) (state : AdapterState σ) :
    discover api type state =
      let asked := api.resource type.apiVersion type.kind state.api
      ⟨(asked.1.mapError (discoveryFailure type)).map (·.descriptor type),
        ({ state with api := asked.2 } : AdapterState σ).learn type asked.1,
        discoveryNotices type asked.1⟩ := by
  simp only [discover, Action.attempt_bind, askResource]
  cases (api.resource type.apiVersion type.kind state.api).1 with
  | error failure => rfl
  | ok resource => rfl

theorem resourceOf_of_kept (h : state.resource? descriptor = some resource) (kind : String) :
    resourceOf api descriptor kind state = ⟨.ok resource, state, []⟩ := by
  simp only [resourceOf, Action.read_bind, h]
  rfl

theorem get_of_resourceOf {kind : String}
    (h : (resourceOf api descriptor kind state).result = .ok resource) (inNamespace name : String) :
    get api descriptor kind inNamespace name state =
      let resolved := resourceOf api descriptor kind state
      let request := ⟨resource, some name, sentNamespace descriptor inNamespace, none⟩
      let asked := api.read request resolved.state.api
      ⟨asked.1.mapError (getFailure descriptor inNamespace name),
        { resolved.state with api := asked.2 },
        resolved.journal ++ [.wire (.read request asked.1)]⟩ := by
  simp only [get, Action.bind_apply_of_ok h, Action.attempt_bind, askRead]
  cases (api.read ⟨resource, some name, sentNamespace descriptor inNamespace, none⟩
    (resourceOf api descriptor kind state).state.api).1 with
  | error failure => rfl
  | ok document => rfl

theorem get_eq (h : state.resource? descriptor = some resource) (kind inNamespace name : String) :
    get api descriptor kind inNamespace name state =
      let request := ⟨resource, some name, sentNamespace descriptor inNamespace, none⟩
      let asked := api.read request state.api
      ⟨asked.1.mapError (getFailure descriptor inNamespace name), { state with api := asked.2 },
        [.wire (.read request asked.1)]⟩ := by
  have hr := @resourceOf_of_kept _ api _ _ _ h kind
  rw [get_of_resourceOf (congrArg Outcome.result hr), hr]
  rfl

def sentSelector (selector : String) : Option String :=
  if selector.isEmpty then none else some selector

theorem list_of_resourceOf {kind : String}
    (h : (resourceOf api descriptor kind state).result = .ok resource)
    (inNamespace selector : String) :
    list api descriptor kind inNamespace selector state =
      let resolved := resourceOf api descriptor kind state
      let request := ⟨resource, none, sentNamespace descriptor inNamespace, sentSelector selector⟩
      let asked := api.read request resolved.state.api
      ⟨(asked.1.mapError listFailure).bind
          (listItems (joinApiVersion descriptor.group descriptor.version) kind),
        { resolved.state with api := asked.2 },
        resolved.journal ++ [.wire (.read request asked.1)]⟩ := by
  simp only [list, Action.bind_apply_of_ok h, Action.attempt_bind, askRead]
  rw [show (if selector.isEmpty then none else some selector) = sentSelector selector from rfl]
  cases (api.read ⟨resource, none, sentNamespace descriptor inNamespace, sentSelector selector⟩
    (resourceOf api descriptor kind state).state.api).1 with
  | error failure => rfl
  | ok body => rfl

theorem list_eq (h : state.resource? descriptor = some resource) (kind inNamespace selector : String) :
    list api descriptor kind inNamespace selector state =
      let request := ⟨resource, none, sentNamespace descriptor inNamespace, sentSelector selector⟩
      let asked := api.read request state.api
      ⟨(asked.1.mapError listFailure).bind
          (listItems (joinApiVersion descriptor.group descriptor.version) kind),
        { state with api := asked.2 }, [.wire (.read request asked.1)]⟩ := by
  have hr := @resourceOf_of_kept _ api _ _ _ h kind
  rw [list_of_resourceOf (congrArg Outcome.result hr), hr]
  rfl

end Adapter

/-! ## Lookups over an adapter -/

/-- A registry beside an adapter: what it does leaves the adapter's table alone. -/
def Registry.besideAdapter {σ : Type} (registry : Registry σ) : Registry (AdapterState σ) :=
  registry.onPart AdapterState.api fun state api => { state with api }

/-- The sources of evaluations over one adapter. -/
inductive Source.OverAdapter {σ : Type} (api : ClusterApi σ) : Source (AdapterState σ) → Prop
  | cluster : OverAdapter api (.cluster api.client)
  | registry (registry : Registry σ) (watcher : Identity) :
    OverAdapter api (.registry registry.besideAdapter watcher)

theorem Source.OverAdapter.eq_cluster {σ : Type} {api : ClusterApi σ}
    {source : Source (AdapterState σ)} (h : source.OverAdapter api) (hp : source.path = .cacheFirst) :
    source = .cluster api.client := by
  cases h with
  | cluster => rfl
  | registry registry watcher => cases hp

open AdapterState (Serves Covers Grows)

namespace Lookup
variable {σ : Type} {api : ClusterApi σ} {source : Source (AdapterState σ)}
variable {context : Context (AdapterState σ)} {type : GroupVersionKind} {identity : Identity}
variable {descriptor : Descriptor}

theorem grows_resolveType (hs : source.OverAdapter api) (type : GroupVersionKind)
    (context : Context (AdapterState σ)) :
    context.world.Grows (resolveType source type context).state.world := by
  cases hs with
  | registry registry watcher => exact AdapterState.grows_of_resources_eq rfl
  | cluster =>
    cases hc : context.cache.descriptor? type with
    | some descriptor =>
      rw [resolveType_of_remembered hc]
      exact AdapterState.grows_of_resources_eq rfl
    | none =>
      have hasked : context.world.Grows { context.world with
          api := (api.resource type.apiVersion type.kind context.world.api).2 } :=
        AdapterState.grows_of_resources_eq rfl
      simp only [resolveType_of_unknown hc, ClusterApi.client, Adapter.discover_eq]
      exact hasked.trans (AdapterState.grows_learn _ type _)

theorem covers_resolveType (hs : source.OverAdapter api) (h : context.world.Covers context.cache)
    (type : GroupVersionKind) :
    (resolveType source type context).state.world.Covers
      (resolveType source type context).state.cache := by
  have hgrown := h.grows (grows_resolveType hs type context)
  cases hs with
  | registry registry watcher => exact hgrown
  | cluster =>
    cases hc : context.cache.descriptor? type with
    | some descriptor =>
      rw [resolveType_of_remembered hc]
      exact h
    | none =>
      simp only [resolveType_of_unknown hc, ClusterApi.client, Adapter.discover_eq] at hgrown ⊢
      cases hr : (api.resource type.apiVersion type.kind context.world.api).1 with
      | error failure =>
        rw [hr] at hgrown
        exact hgrown
      | ok resource =>
        rw [hr] at hgrown
        -- The cache has taken up what was discovered now; all else was in it before.
        intro other found hf
        simp only [Results.mapError_ok, Except.map, AnswerCache.learnType] at hf
        by_cases ho : other = type
        · subst ho
          rw [AnswerCache.descriptor?_storeDescriptor_self, hc] at hf
          cases hf
          exact ⟨rfl, rfl, AdapterState.serves_discovered_self _ other resource⟩
        · rw [AnswerCache.descriptor?_storeDescriptor_of_ne ho] at hf
          exact hgrown other found hf

/-- Reading with a descriptor that is served leaves the table as it is. -/
theorem resources_readAnswer (hs : source.OverAdapter api)
    (hd : source.path = .cacheFirst → context.world.Serves descriptor) :
    (readAnswer source identity descriptor context).state.world.resources =
      context.world.resources := by
  cases hs with
  | registry registry watcher =>
    cases hl : identity.isList with
    | true => rw [readAnswer_registry_list hl]; rfl
    | false => rw [readAnswer_registry_get hl]; rfl
  | cluster =>
    obtain ⟨resource, hr, _⟩ := hd rfl
    cases hf : context.cache.find? identity with
    | some documents => rw [readAnswer_of_remembered hf]
    | none =>
      cases hl : identity.isList with
      | true => simp only [readAnswer_list hl hf, ClusterApi.client, Adapter.list_eq hr]
      | false => simp only [readAnswer_get hl hf, ClusterApi.client, Adapter.get_eq hr]

theorem serves_of_resolveType (hs : source.OverAdapter api) (h : context.world.Covers context.cache)
    (ht : (resolveType source type context).result = .ok descriptor) :
    source.path = .cacheFirst →
      (resolveType source type context).state.world.Serves descriptor := by
  intro hp
  have hcovers := covers_resolveType hs h type
  cases hs with
  | registry registry watcher => cases hp
  | cluster => exact (hcovers type descriptor (descriptor?_resolveType ht)).2.2

end Lookup

namespace Evaluation
variable {σ : Type} {api : ClusterApi σ} {evaluation : Evaluation (AdapterState σ)}
variable {context : Context (AdapterState σ)}

theorem covers_perform (hs : evaluation.source.OverAdapter api)
    (h : context.world.Covers context.cache) (arguments : Arguments) (strictness : Strictness) :
    let next := (evaluation.perform arguments strictness context).state
    next.world.Covers next.cache ∧ context.world.Grows next.world := by
  rw [state_perform]
  refine keep_lookupStrict (P := fun cache world => world.Covers cache ∧ context.world.Grows world)
    evaluation arguments ⟨h, AdapterState.grows_of_resources_eq rfl⟩ ?_ ?_
  · intro type
    exact ⟨Lookup.covers_resolveType hs h type, Lookup.grows_resolveType hs type context⟩
  · rintro identity descriptor resolved ht _ ⟨hcovers, hgrown⟩
    have hserves := Lookup.serves_of_resolveType hs h ht
    have hsame : resolved.state.world.Grows (Lookup.readAnswer evaluation.source identity descriptor
        resolved.state).state.world :=
      AdapterState.grows_of_resources_eq (Lookup.resources_readAnswer hs hserves)
    refine ⟨?_, hgrown.trans hsame⟩
    exact (hcovers.grows hsame).congr
      (Lookup.descriptor?_readAnswer evaluation.source identity descriptor resolved.state)

end Evaluation

/-! ## Whole runs -/

/-- The collaborators of a session over one adapter. -/
def ClusterApi.collaborators {σ : Type} (api : ClusterApi σ) (registry : Option (Registry σ)) :
    Collaborators (AdapterState σ) := ⟨api.client, registry.map Registry.besideAdapter⟩

theorem ClusterApi.overAdapter_of_evaluation {σ : Type} {api : ClusterApi σ}
    {registry : Option (Registry σ)} {settings : LookupSettings} {options : Options}
    {evaluation : Evaluation (AdapterState σ)}
    (h : (api.collaborators registry).evaluation settings options = .ok evaluation) :
    evaluation.source.OverAdapter api := by
  cases Collaborators.makes_of_evaluation h with
  | unwatched policy => exact .cluster
  | watched policy watcher hr =>
    obtain ⟨beside, _, rfl⟩ := Option.map_eq_some_iff.mp hr
    exact .registry beside watcher

/-- Whether a step leaves it to lookups to write into the caches, and leaves the table of an adapter
alone. -/
def Step.SparesAdapter {σ : Type} : Step (AdapterState σ) → Prop
  | .change f => ∀ state, (f state).resources = state.resources
  | step => step.writesCache = false

theorem Step.SparesAdapter.writesCache {σ : Type} {step : Step (AdapterState σ)}
    (h : step.SparesAdapter) : step.writesCache = false := by
  cases step with
  | change f => rfl
  | _ => exact h

namespace Session
variable {σ : Type} {api : ClusterApi σ}

theorem keeps_covers {step : Step (AdapterState σ)} (hs : step.SparesAdapter) :
    step.Keeps fun evaluation cache world =>
      evaluation.source.OverAdapter api ∧ world.Covers cache where
  acted name act evaluation context ha h := by
    obtain ⟨hover, hcovers⟩ := h
    rcases Step.effect_of_not_writesCache hs.writesCache ha evaluation context with
      ⟨arguments, strictness, hlookup⟩ | ⟨hcache, hworld⟩
    · rw [hlookup]
      exact ⟨hover, (evaluation.covers_perform hover hcovers arguments strictness).1⟩
    · rw [hcache, hworld]
      exact ⟨hover, hcovers⟩
  beside name act evaluation cache other context ha ho h := by
    obtain ⟨hover, hcovers⟩ := h
    rcases Step.effect_of_not_writesCache hs.writesCache ha other context with
      ⟨arguments, strictness, hlookup⟩ | ⟨_, hworld⟩
    · rw [hlookup]
      exact ⟨hover, hcovers.grows (other.covers_perform ho.1 ho.2 arguments strictness).2⟩
    · rw [hworld]
      exact ⟨hover, hcovers⟩
  changed f evaluation cache world hf h := by
    subst hf
    exact ⟨h.1, h.2.grows (AdapterState.grows_of_resources_eq (hs world))⟩

/-- Whether all evaluations read from one adapter, and it serves what their caches hold of types. -/
def Covered (api : ClusterApi σ) (session : Session (AdapterState σ)) : Prop :=
  session.Each fun evaluation cache world => evaluation.source.OverAdapter api ∧ world.Covers cache

theorem covered_start (api : ClusterApi σ) (settings : LookupSettings) (world : AdapterState σ) :
    (start settings world).Covered api :=
  each_start _ settings world

theorem Covered.step {session : Session (AdapterState σ)} (h : session.Covered api)
    {registry : Option (Registry σ)} {step : Step (AdapterState σ)} (hs : step.SparesAdapter) :
    (session.step (api.collaborators registry) step).1.Covered api := by
  refine Each.step h ?_ (keeps_covers hs)
  intro _ _ evaluation state hmade
  exact ⟨ClusterApi.overAdapter_of_evaluation hmade, AdapterState.covers_empty state⟩

/-- In every run over an adapter, what the caches hold of types is served. -/
theorem each_covers {registry : Option (Registry σ)} {settings : LookupSettings}
    {world : AdapterState σ} {steps : List (Step (AdapterState σ))}
    (hs : ∀ step ∈ steps, step.SparesAdapter) {event : Event (AdapterState σ)}
    (he : event ∈ (start settings world).trace (api.collaborators registry) steps) :
    event.before.Covered api :=
  before_of_mem_trace (covered_start api settings world)
    (fun step hstep _ h => h.step (hs step hstep)) he

end Session

end ClusterLookup
