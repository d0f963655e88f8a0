import ClusterLookup.Proofs.Faults
import ClusterLookup.Proofs.Questions
import ClusterLookup.Proofs.Splitting

/-!
# ApiVersions on their way to the cluster

An apiVersion is cut into a group and a version when the arguments of a lookup are checked. It is put
together again when discovery is asked for the type, and when the items of a list are completed. Cutting and
joining are inverse to each other, so the cluster is asked for the very text that a template gave.
-/

namespace ClusterLookup

open Journal (ofCalls_wireExchanges)
open Text (join join_pieces not_mem_of_mem_pieces pieces pieces_append pieces_of_not_mem)

/-- Whether a text is an apiVersion: a version without a slash, or a group and a version that are both
given, with the one slash between them. -/
inductive IsApiVersion : String → Prop
  | core {version : String} (hv : '/' ∉ version.toList) : IsApiVersion version
  | grouped {group version : String} (hg : '/' ∉ group.toList) (hv : '/' ∉ version.toList)
      (groupGiven : group ≠ "") (versionGiven : version ≠ "") :
      IsApiVersion (group ++ "/" ++ version)

/-- Whether an exchange asks for the resource of that apiVersion and kind, if for any. -/
def WireExchange.Names (apiVersion kind : String) : WireExchange → Prop
  | .resource asked askedKind _ => asked = apiVersion ∧ askedKind = kind
  | .read _ _ => True

/-- Whether a lookup asks discovery for what its arguments say, to the letter and for nothing else, and
whether it does ask if the cache does not know the type. -/
structure Event.DiscoversAsGiven {σ : Type} (event : Event σ) (policy : Policy) (cache : AnswerCache)
    (arguments : Arguments) : Prop where
  literal : ∀ exchange ∈ event.report.journal.wireExchanges,
    exchange.Names arguments.apiVersion arguments.kind
  asked : ∀ identity, arguments.identity policy = .ok identity →
    cache.descriptor? identity.type = none → ∃ answer,
      .resource arguments.apiVersion arguments.kind answer ∈ event.report.journal.wireExchanges

/-- Whether what a cache holds of types is of their group and version. -/
def AnswerCache.NamesTypes (cache : AnswerCache) : Prop :=
  ∀ type descriptor, cache.descriptor? type = some descriptor →
    descriptor.group = type.group ∧ descriptor.version = type.version

/-- Whether a step puts no descriptor into a cache that is of another group or version than its type. -/
def Step.NamesTypes {σ : Type} : Step σ → Prop
  | .storeDescriptor _ type descriptor =>
    descriptor.group = type.group ∧ descriptor.version = type.version
  | _ => True

/-! ## Cutting and joining -/

theorem splitApiVersion_of_not_mem {version : String} (h : '/' ∉ version.toList) :
    splitApiVersion version = some ("", version) := by
  rw [splitApiVersion, pieces_of_not_mem h]

theorem splitApiVersion_append {group version : String} (hg : '/' ∉ group.toList)
    (hv : '/' ∉ version.toList) (groupGiven : group ≠ "") (versionGiven : version ≠ "") :
    splitApiVersion (group ++ "/" ++ version) = some (group, version) := by
  have hslash : (group ++ "/" ++ version).toList = group.toList ++ '/' :: version.toList := by simp
  have hpieces : pieces '/' (group ++ "/" ++ version).toList = [group.toList, version.toList] := by
    rw [hslash, pieces_append hg, pieces_of_not_mem hv]
  simp only [splitApiVersion, hpieces]
  simp [groupGiven, versionGiven]

/-- What was put together from parts without slashes is cut into them. -/
theorem splitApiVersion_joinApiVersion {group version : String} (hg : '/' ∉ group.toList)
    (hv : '/' ∉ version.toList) (versionGiven : version ≠ "") :
    splitApiVersion (joinApiVersion group version) = some (group, version) := by
  by_cases hgroup : group = ""
  · subst hgroup
    exact splitApiVersion_of_not_mem hv
  · have hjoin : joinApiVersion group version = group ++ "/" ++ version := by
      simp [joinApiVersion, hgroup]
    rw [hjoin]
    exact splitApiVersion_append hg hv hgroup versionGiven

theorem isApiVersion_of_splitApiVersion {text : String} {parts : String × String}
    (h : splitApiVersion text = some parts) : IsApiVersion text := by
  have hjoin := join_pieces '/' text.toList
  have hslash : ∀ piece ∈ pieces '/' text.toList, '/' ∉ piece := fun _ => not_mem_of_mem_pieces
  unfold splitApiVersion at h
  split at h
  · next piece hp =>
    rw [hp] at hjoin hslash
    obtain rfl : piece = text.toList := hjoin
    exact .core (hslash _ List.mem_cons_self)
  · next front back hp =>
    rw [hp] at hjoin hslash
    split at h
    · cases h
    · next hne =>
      simp only [Bool.or_eq_true, List.isEmpty_iff, not_or] at hne
      have htext : text = String.ofList front ++ "/" ++ String.ofList back := by
        rw [← String.toList_inj, ← hjoin]
        simp [join]
      rw [htext]
      refine .grouped ?_ ?_ ?_ ?_
      · simpa using hslash front (by simp)
      · simpa using hslash back (by simp)
      · simpa using hne.1
      · simpa using hne.2
  · cases h

/-- Apart from apiVersions, no text is cut into a group and a version. -/
theorem exists_splitApiVersion_iff {text : String} :
    (∃ parts, splitApiVersion text = some parts) ↔ IsApiVersion text := by
  constructor
  · rintro ⟨parts, h⟩
    exact isApiVersion_of_splitApiVersion h
  · intro h
    cases h with
    | core hv => exact ⟨_, splitApiVersion_of_not_mem hv⟩
    | grouped hg hv groupGiven versionGiven =>
      exact ⟨_, splitApiVersion_append hg hv groupGiven versionGiven⟩

/-! ## Caches that name their types -/

namespace AnswerCache
variable {cache : AnswerCache}

theorem namesTypes_empty : AnswerCache.empty.NamesTypes := by
  intro type descriptor hd
  cases hd

theorem NamesTypes.congr {other : AnswerCache} (h : cache.NamesTypes)
    (hc : ∀ type, other.descriptor? type = cache.descriptor? type) : other.NamesTypes := by
  intro type descriptor hd
  exact h type descriptor ((hc type).symm.trans hd)

theorem NamesTypes.storeDescriptor (h : cache.NamesTypes) {type : GroupVersionKind}
    {descriptor : Descriptor}
    (hn : descriptor.group = type.group ∧ descriptor.version = type.version) :
    (cache.storeDescriptor type descriptor).NamesTypes := by
  intro other found hd
  by_cases ho : other = type
  · subst ho
    rw [descriptor?_storeDescriptor_self, Option.some.injEq] at hd
    cases hc : cache.descriptor? other with
    | none =>
      rw [hc] at hd
      cases hd
      exact hn
    | some old =>
      rw [hc] at hd
      cases hd
      exact h other old hc
  · rw [descriptor?_storeDescriptor_of_ne ho] at hd
    exact h other found hd

end AnswerCache

/-! ## What discovery is asked for -/

theorem Arguments.apiVersion_of_identity {policy : Policy} {arguments : Arguments} {identity : Identity}
    (h : arguments.identity policy = .ok identity) : identity.type.apiVersion = arguments.apiVersion := by
  obtain ⟨_, _, hsplit, _, _, _⟩ := identity_eq_ok_iff.mp h
  exact joinApiVersion_of_splitApiVersion hsplit

theorem Lookup.mem_wireExchanges_notices {notices : List Notice} {exchange : WireExchange} :
    exchange ∈ Journal.wireExchanges (notices.map Notice.entry) ↔ .wire exchange ∈ notices := by
  rw [Journal.mem_wireExchanges, List.mem_map]
  constructor
  · rintro ⟨notice, hn, heq⟩
    cases notice with
    | wire noted =>
      cases heq
      exact hn
    | log record => cases heq
  · exact fun h => ⟨_, h, rfl⟩

namespace Adapter
variable {σ : Type} {api : ClusterApi σ} {state : AdapterState σ} {descriptor : Descriptor}
variable {kind : String} {exchange : WireExchange}

theorem eq_of_mem_discover {type : GroupVersionKind}
    (h : .wire exchange ∈ (discover api type state).journal) :
    ∃ answer, exchange = .resource type.apiVersion type.kind answer := by
  rw [← Lookup.mem_wireExchanges_notices, discover_eq, Lookup.wireExchanges_discoveryNotices] at h
  exact ⟨_, List.mem_singleton.mp h⟩

/-- A resource that the adapter has lost is asked for by the group and version of its descriptor. -/
theorem eq_of_mem_resourceOf (h : .wire exchange ∈ (resourceOf api descriptor kind state).journal) :
    ∃ answer, exchange = .resource (joinApiVersion descriptor.group descriptor.version) kind answer := by
  cases hk : state.resource? descriptor with
  | some resource =>
    rw [resourceOf_of_kept hk] at h
    cases h
  | none =>
    have hdiscover : .wire exchange ∈
        (discover api ⟨descriptor.group, descriptor.version, kind⟩ state).journal := by
      simp only [resourceOf, Action.read_bind, hk] at h
      cases hd : (discover api ⟨descriptor.group, descriptor.version, kind⟩ state).result with
      | error failure =>
        rw [Action.bind_apply_of_error hd] at h
        exact h
      | ok found =>
        simp only [Action.bind_apply_of_ok hd, Action.read_bind] at h
        cases hn : (discover api ⟨descriptor.group, descriptor.version, kind⟩ state).state.resource?
            descriptor with
        | some resource => simpa [hn] using h
        | none => simpa [hn] using h
    exact eq_of_mem_discover hdiscover

theorem names_of_mem_resourceOf (h : .wire exchange ∈ (resourceOf api descriptor kind state).journal) :
    exchange.Names (joinApiVersion descriptor.group descriptor.version) kind := by
  obtain ⟨answer, rfl⟩ := eq_of_mem_resourceOf h
  exact ⟨rfl, rfl⟩

/-- The read that comes after asks for objects, and for no resource. -/
theorem names_of_mem_append_read {request : ReadRequest} {answer : Except Failure Document}
    (h : .wire exchange ∈ (resourceOf api descriptor kind state).journal ++
      [.wire (.read request answer)]) :
    exchange.Names (joinApiVersion descriptor.group descriptor.version) kind := by
  rcases List.mem_append.mp h with h | h
  · exact names_of_mem_resourceOf h
  · cases List.mem_singleton.mp h
    trivial

theorem names_of_mem_get {inNamespace name : String}
    (h : .wire exchange ∈ (get api descriptor kind inNamespace name state).journal) :
    exchange.Names (joinApiVersion descriptor.group descriptor.version) kind := by
  cases hr : (resourceOf api descriptor kind state).result with
  | error failure =>
    rw [get, Action.bind_apply_of_error hr] at h
    exact names_of_mem_resourceOf h
  | ok resource =>
    rw [get_of_resourceOf hr] at h
    exact names_of_mem_append_read h

theorem names_of_mem_list {inNamespace selector : String}
    (h : .wire exchange ∈ (list api descriptor kind inNamespace selector state).journal) :
    exchange.Names (joinApiVersion descriptor.group descriptor.version) kind := by
  cases hr : (resourceOf api descriptor kind state).result with
  | error failure =>
    rw [list, Action.bind_apply_of_error hr] at h
    exact names_of_mem_resourceOf h
  | ok resource =>
    rw [list_of_resourceOf hr] at h
    exact names_of_mem_append_read h

end Adapter

namespace Lookup
variable {σ : Type} {api : ClusterApi σ} {context : Context (AdapterState σ)} {type : GroupVersionKind}
variable {exchange : WireExchange}

theorem names_of_mem_resolveType (h : exchange ∈
      Journal.wireExchanges (resolveType (.cluster api.client) type context).journal) :
    exchange.Names type.apiVersion type.kind := by
  obtain ⟨answer, rfl⟩ := eq_of_mem_resolveType h
  exact ⟨rfl, rfl⟩

theorem names_of_mem_readAnswer {identity : Identity} {descriptor : Descriptor} (h : exchange ∈
      Journal.wireExchanges (readAnswer (.cluster api.client) identity descriptor context).journal) :
    exchange.Names (joinApiVersion descriptor.group descriptor.version) identity.type.kind := by
  cases hf : context.cache.find? identity with
  | some documents =>
    rw [readAnswer_of_remembered hf] at h
    cases h
  | none =>
    cases hl : identity.isList with
    | true =>
      simp only [readAnswer_list hl hf, ofCalls_wireExchanges.append, List.mem_append] at h
      rcases h with h | h | h
      · cases h
      · exact Adapter.names_of_mem_list (mem_wireExchanges_notices.mp h)
      · cases h
    | false =>
      simp only [readAnswer_get hl hf, ofCalls_wireExchanges.append,
        ofCalls_wireExchanges.absenceEntries, List.mem_append] at h
      rcases h with h | (h | h) | h
      · cases h
      · exact Adapter.names_of_mem_get (mem_wireExchanges_notices.mp h)
      · cases h
      · cases h

theorem namesTypes_resolveType {source : Source (AdapterState σ)} (hs : source.OverAdapter api)
    (h : context.cache.NamesTypes) (type : GroupVersionKind) :
    (resolveType source type context).state.cache.NamesTypes := by
  cases hs with
  | registry registry watcher => exact h
  | cluster =>
    cases hc : context.cache.descriptor? type with
    | some descriptor =>
      rw [resolveType_of_remembered hc]
      exact h
    | none =>
      simp only [resolveType_of_unknown hc, ClusterApi.client, Adapter.discover_eq]
      cases (api.resource type.apiVersion type.kind context.world.api).1 with
      | error failure => exact h
      | ok resource => exact h.storeDescriptor ⟨rfl, rfl⟩

end Lookup

namespace Evaluation
variable {σ : Type} {api : ClusterApi σ} {evaluation : Evaluation (AdapterState σ)}
variable {context : Context (AdapterState σ)} {arguments : Arguments} {strictness : Strictness}

theorem namesTypes_perform (hs : evaluation.source.OverAdapter api) (h : context.cache.NamesTypes)
    (arguments : Arguments) (strictness : Strictness) :
    (evaluation.perform arguments strictness context).state.cache.NamesTypes := by
  rw [state_perform]
  refine keep_lookupStrict (P := fun cache _ => cache.NamesTypes) evaluation arguments h ?_ ?_
  · exact Lookup.namesTypes_resolveType hs h
  · intro identity descriptor resolved _ _ hnames
    exact hnames.congr (Lookup.descriptor?_readAnswer evaluation.source identity descriptor resolved.state)

theorem names_of_mem_perform (hs : evaluation.source = .cluster api.client)
    (hc : context.cache.NamesTypes) {exchange : WireExchange} (h : exchange ∈
      Journal.wireExchanges (evaluation.perform arguments strictness context).journal) :
    exchange.Names arguments.apiVersion arguments.kind := by
  obtain ⟨identity, hi⟩ := exists_identity_of_exchange h
  obtain ⟨_, _, _, _, hkind, _⟩ := Arguments.identity_eq_ok_iff.mp hi
  rw [← Arguments.apiVersion_of_identity hi, hkind]
  have hresolve := @Lookup.names_of_mem_resolveType _ api context identity.type exchange
  rw [← hs] at hresolve
  rcases ofCalls_wireExchanges.perform_of_valid hi strictness context with
    htold | ⟨descriptor, ht, _, htold⟩
  · rw [htold] at h
    exact hresolve h
  · rw [htold, List.mem_append] at h
    rcases h with h | h
    · exact hresolve h
    · rw [hs] at ht h
      have hover : (Source.cluster api.client).OverAdapter api := .cluster
      have hnames := Lookup.namesTypes_resolveType hover hc identity.type
      obtain ⟨hgroup, hversion⟩ := hnames _ descriptor (Lookup.descriptor?_resolveType ht)
      have hread := Lookup.names_of_mem_readAnswer h
      rwa [hgroup, hversion] at hread

end Evaluation

/-! ## Whole runs -/

namespace Session
variable {σ : Type} {api : ClusterApi σ}

theorem keeps_namesTypes {step : Step (AdapterState σ)} (hs : step.NamesTypes) :
    step.Keeps fun evaluation cache _ => evaluation.source.OverAdapter api ∧ cache.NamesTypes where
  acted name act evaluation context ha h := by
    obtain ⟨hover, hnames⟩ := h
    refine ⟨hover, ?_⟩
    cases step with
    | lookup name strictness arguments =>
      cases ha
      exact evaluation.namesTypes_perform hover hnames arguments strictness
    | store name identity documents =>
      cases ha
      exact hnames
    | storeDescriptor name type descriptor =>
      cases ha
      exact hnames.storeDescriptor hs
    | mark name =>
      cases ha
      exact hnames
    | create name options place => cases ha
    | change f => cases ha
    | configure f => cases ha
  beside _ _ _ _ _ _ _ _ h := h
  changed _ _ _ _ _ h := h

/-- In every run over an adapter, what the caches hold of types is of their group and version, unless
something else was put into one. -/
theorem each_namesTypes {registry : Option (Registry σ)} {settings : LookupSettings}
    {world : AdapterState σ} {steps : List (Step (AdapterState σ))}
    (hs : ∀ step ∈ steps, step.NamesTypes) :
    ((start settings world).steps (api.collaborators registry) steps).1.Each fun evaluation cache _ =>
      evaluation.source.OverAdapter api ∧ cache.NamesTypes := by
  refine keep_steps (I := Each _) (each_start _ settings world) ?_
  intro step hstep session h
  refine h.step ?_ (keeps_namesTypes (hs step hstep))
  intro _ _ evaluation _ hmade
  exact ⟨ClusterApi.overAdapter_of_evaluation hmade, AnswerCache.namesTypes_empty⟩

end Session

/-- An apiVersion is cut into parts that give it back, parts without slashes are put together to one that
gives them back, and nothing but an apiVersion is cut. So no two apiVersions have the same parts, and over
an adapter discovery is asked for the apiVersion and kind that a template gave, to the letter. -/
theorem apiVersions_inverse {σ : Type} (api : ClusterApi σ) (registry : Option (Registry σ))
    (settings : LookupSettings) (world : AdapterState σ) {steps : List (Step (AdapterState σ))}
    (hs : ∀ step ∈ steps, step.NamesTypes) :
    let session := ((Session.start settings world).steps (api.collaborators registry) steps).1
    (∀ text, (∃ parts, Arguments.groupVersion text = .ok parts) ↔ IsApiVersion text) ∧
    (∀ text group version, Arguments.groupVersion text = .ok (group, version) →
      ∀ kind, (GroupVersionKind.mk group version kind).apiVersion = text) ∧
    (∀ group version, '/' ∉ group.toList → '/' ∉ version.toList → version ≠ "" →
      ∀ kind, Arguments.groupVersion (GroupVersionKind.mk group version kind).apiVersion =
        .ok (group, version)) ∧
    (∀ first second parts, Arguments.groupVersion first = .ok parts →
      Arguments.groupVersion second = .ok parts → first = second) ∧
    ∀ name member, session.member? name = some member → member.evaluation.path = .cacheFirst →
      ∀ strictness arguments,
        (session.eventOf (api.collaborators registry) (.lookup name strictness arguments)).DiscoversAsGiven
          member.evaluation.policy member.cache arguments := by
  intro session
  simp only [Arguments.groupVersion_eq_ok_iff]
  refine ⟨fun text => exists_splitApiVersion_iff, ?_, ?_, ?_, ?_⟩
  · intro text group version h kind
    exact joinApiVersion_of_splitApiVersion h
  · intro group version hg hv versionGiven kind
    exact splitApiVersion_joinApiVersion hg hv versionGiven
  · intro first second parts hf hs
    exact splitApiVersion_injective hf hs
  · intro name member hm hp strictness arguments
    obtain ⟨hover, hnames⟩ := Session.each_namesTypes hs name member hm
    have hsource := hover.eq_cluster hp
    refine ⟨?_, ?_⟩
    · intro exchange he
      rw [Session.report_eventOf_lookup _ hm] at he
      exact Evaluation.names_of_mem_perform hsource hnames he
    · intro identity hi hd
      obtain ⟨_, _, _, _, hkind, _⟩ := Arguments.identity_eq_ok_iff.mp hi
      rw [Session.report_eventOf_lookup _ hm, ← Arguments.apiVersion_of_identity hi, hkind]
      exact Evaluation.exists_discovery_of_unknown hsource hi hd strictness

/-- An evaluation knows jobs already, and is then asked for deployments. -/
def discoveringSteps : List (Step (AdapterState Script)) :=
  [.create "page" ⟨⟨"team-a", []⟩, none⟩ none,
    .storeDescriptor "page" ⟨"batch", "v1", "Job"⟩ ⟨"batch", "v1", "jobs", true⟩]

theorem apiVersions_inverse_discovering :
    let session := ((Session.start .standard (.start servingScript)).steps
      (Script.api.collaborators none) discoveringSteps).1
    let event := session.eventOf (Script.api.collaborators none)
      (.lookup "page" .lenient ⟨"apps/v1", "Deployment", "", "web", none⟩)
    (∀ step ∈ discoveringSteps, step.NamesTypes) ∧
      Arguments.groupVersion "apps/v1" = .ok ("apps", "v1") ∧ ∃ member answer,
        session.member? "page" = some member ∧ member.evaluation.path = .cacheFirst ∧
        .resource "apps/v1" "Deployment" answer ∈ event.report.journal.wireExchanges := by
  intro session event
  have hs : ∀ step ∈ discoveringSteps, step.NamesTypes := by
    simp [discoveringSteps, Step.NamesTypes]
  obtain ⟨_, _, hcut, _, hdiscovers⟩ :=
    apiVersions_inverse Script.api none .standard (.start servingScript) hs
  have hpath : (session.member? "page").map (·.evaluation.path) = some .cacheFirst := rfl
  have hpolicy : (session.member? "page").map (·.evaluation.policy) = some ⟨"team-a", []⟩ := rfl
  have hunknown : (session.member? "page").map
      (·.cache.descriptor? ⟨"apps", "v1", "Deployment"⟩) = some none := rfl
  obtain ⟨member, hm⟩ : ∃ member, session.member? "page" = some member := ⟨_, rfl⟩
  rw [hm] at hpath hpolicy hunknown
  have hrestricted : member.evaluation.policy = ⟨"team-a", []⟩ := Option.some.inj hpolicy
  have hidentity : (⟨"apps/v1", "Deployment", "", "web", none⟩ : Arguments).identity
      member.evaluation.policy = .ok ⟨⟨"apps", "v1", "Deployment"⟩, "team-a", "web", ""⟩ := by
    rw [hrestricted]
    exact Arguments.identity_eq_ok_iff.mpr ⟨rfl, rfl, by cbv, by cbv, rfl, rfl⟩
  have hevent := hdiscovers "page" member hm (Option.some.inj hpath) .lenient
    ⟨"apps/v1", "Deployment", "", "web", none⟩
  obtain ⟨answer, ha⟩ := hevent.asked _ hidentity (Option.some.inj hunknown)
  exact ⟨hs, hcut "apps" "v1" (by decide) (by decide) (by decide) "Deployment", member, answer, hm,
    Option.some.inj hpath, ha⟩

end ClusterLookup
