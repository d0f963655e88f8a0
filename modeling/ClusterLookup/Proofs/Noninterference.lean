import ClusterLookup.Proofs.Indistinguishable
import Mathlib.Data.List.Find

/-!
# What a restricted evaluation may not read makes no difference to it

A cluster in memory is seen by a restricted evaluation through its policy: objects in the restricted
namespace, and the others that the allowlist covers. Two clusters that look alike in this way, and differ
in their other objects as they please, lead to the same answers, failures, calls and flags.

A list asks the allowlist with the empty name, which only a wildcard for the name accepts. This is why no
entry of an allowlist may have an empty name.
-/

namespace ClusterLookup

/-- Whether a restricted evaluation may see an object. -/
def Policy.sees (policy : Policy) (object : StoredObject) : Bool :=
  object.inNamespace == policy.restriction ||
    policy.allowlist.allows object.group object.kind object.name

/-- A cluster with the objects alone that a restricted evaluation may see. -/
def ObjectStore.seenBy (policy : Policy) (store : ObjectStore) : ObjectStore :=
  { store with objects := store.objects.filter policy.sees }

/-- Whether two clusters that serve the given types look alike to a restricted evaluation. -/
structure ObjectStore.LooksAlike (policy : Policy) (types : List (GroupVersionKind × Descriptor))
    (first second : ObjectStore) : Prop where
  seen : second.seenBy policy = first.seenBy policy
  types : first.types = types

/-- Whether the entries of an allowlist name something: the wildcard, or objects of some name. -/
def Allowlist.Names (allowlist : Allowlist) : Prop := ∀ permit ∈ allowlist, permit.name ≠ ""

/-- Whether every type is served in the group that it names. -/
def ObjectStore.KeepsGroups (store : ObjectStore) : Prop :=
  ∀ type descriptor, store.resolve type = .ok descriptor → descriptor.group = type.group

/-- Whether a step leaves a cluster as it is and makes evaluations under that policy alone, with a watcher
only if the cluster serves each type in the group that it names. -/
def Step.KeepsTo (policy : Policy) (store : ObjectStore) : Step ObjectStore → Prop
  | .create _ options _ =>
    options.policy = policy ∧ (options.watcher.isSome = true → store.KeepsGroups)
  | .change _ => False
  | _ => True

/-! ## What the allowlist covers -/

theorem Permit.covers_of_covers_empty {permit : Permit} {group kind : String}
    (hn : permit.name ≠ "") (h : permit.covers group kind "" = true) (name : String) :
    permit.covers group kind name = true := by
  simp only [covers, accepts, Bool.and_eq_true, Bool.or_eq_true, beq_iff_eq] at h ⊢
  exact ⟨h.1, .inl (h.2.resolve_right hn)⟩

/-- An allowlist that covers the list of a kind covers each of its objects. -/
theorem Allowlist.allows_of_allows_empty {allowlist : Allowlist} {group kind : String}
    (hn : allowlist.Names) (h : allowlist.allows group kind "" = true) (name : String) :
    allowlist.allows group kind name = true := by
  obtain ⟨permit, hmem, hc⟩ := List.any_eq_true.mp h
  exact allows_of_mem hmem (Permit.covers_of_covers_empty (hn permit hmem) hc name)

namespace ObjectStore
variable {policy : Policy} {descriptor : Descriptor} {kind name selector : String}
variable {object : StoredObject} {store : ObjectStore} {types : List (GroupVersionKind × Descriptor)}

theorem keepsGroups_of_types (h : ∀ served ∈ store.types, served.2.group = served.1.group) :
    store.KeepsGroups := by
  intro type descriptor hd
  unfold resolve at hd
  split at hd
  · next served hf =>
    cases hd
    have hkey : served.1 = type := by simpa using List.find?_some hf
    rw [← hkey]
    exact h served (List.mem_of_find?_eq_some hf)
  · cases hd

/-- Whatever is where an admitted lookup looks for one object is seen. -/
theorem sees_of_isAt (hr : policy.restriction ≠ "") (ha : policy.admits descriptor kind name = true)
    (h : object.isAt descriptor.group kind (placeOf descriptor policy.restriction) name = true) :
    policy.sees object = true := by
  simp only [StoredObject.isAt, Bool.and_eq_true, beq_iff_eq] at h
  obtain ⟨⟨⟨hgroup, rfl⟩, hplace⟩, rfl⟩ := h
  cases hd : descriptor.namespaced with
  | true => simp [Policy.sees, hplace, placeOf, hd]
  | false =>
    have hallows : policy.allowlist.allows object.group object.kind object.name = true := by
      simpa [Policy.admits, hd, hr, hgroup] using ha
    simp [Policy.sees, hallows]

/-- Whatever an admitted list takes in is seen. -/
theorem sees_of_selects (hr : policy.restriction ≠ "") (hn : policy.allowlist.Names)
    (ha : policy.admits descriptor kind "" = true)
    (h : selects descriptor kind policy.restriction selector object = true) :
    policy.sees object = true := by
  simp only [selects, Bool.and_eq_true, beq_iff_eq] at h
  obtain ⟨⟨⟨hgroup, rfl⟩, hplace⟩, _⟩ := h
  cases hd : descriptor.namespaced with
  | true =>
    have hin : object.inNamespace = policy.restriction := by simpa [hd, hr] using hplace
    simp [Policy.sees, hin]
  | false =>
    have hallows : policy.allowlist.allows object.group object.kind "" = true := by
      simpa [Policy.admits, hd, hr, hgroup] using ha
    simp [Policy.sees, Allowlist.allows_of_allows_empty hn hallows object.name]

/-! ## What a cluster answers within the policy -/

theorem find?_seenBy {group inNamespace : String}
    (h : ∀ object, object.isAt group kind inNamespace name = true → policy.sees object = true) :
    (store.seenBy policy).find? group kind inNamespace name =
      store.find? group kind inNamespace name := by
  unfold find? seenBy
  rw [List.find?_filter]
  apply List.find?_congr
  intro object _
  cases hat : object.isAt group kind inNamespace name with
  | false => simp
  | true => simp [h object hat]

theorem getDocument_seenBy (hr : policy.restriction ≠ "")
    (ha : policy.admits descriptor kind name = true) :
    (store.seenBy policy).getDocument descriptor kind policy.restriction name =
      store.getDocument descriptor kind policy.restriction name := by
  unfold getDocument
  rw [find?_seenBy fun object hat => sees_of_isAt hr ha hat]

theorem select_seenBy (hr : policy.restriction ≠ "") (hn : policy.allowlist.Names)
    (ha : policy.admits descriptor kind "" = true) :
    (store.seenBy policy).select descriptor kind policy.restriction selector =
      store.select descriptor kind policy.restriction selector := by
  unfold select seenBy
  rw [List.filter_filter]
  congr 1
  apply List.filter_congr
  intro object _
  cases hs : selects descriptor kind policy.restriction selector object with
  | false => rfl
  | true => simp [sees_of_selects hr hn ha hs]

/-- The cluster with a call of an operation counted. -/
def counted (store : ObjectStore) (operation : Operation) : ObjectStore :=
  { store with calls := operation :: store.calls }

theorem call_of_outage {α : Type} {operation : Operation} {failure : Failure}
    (h : (store.counted operation).outage? operation = some failure)
    (answer : ObjectStore → Except Failure α) :
    call operation answer store = ⟨.error failure, store.counted operation, []⟩ := by
  unfold counted at h ⊢
  simp only [call, h]

theorem call_of_no_outage {α : Type} {operation : Operation}
    (h : (store.counted operation).outage? operation = none)
    (answer : ObjectStore → Except Failure α) :
    call operation answer store =
      ⟨answer (store.counted operation), store.counted operation, []⟩ := by
  unfold counted at h ⊢
  simp only [call, h]

theorem state_call {α : Type} (operation : Operation) (answer : ObjectStore → Except Failure α)
    (store : ObjectStore) : (call operation answer store).state = store.counted operation := by
  cases h : (store.counted operation).outage? operation with
  | some failure => rw [call_of_outage h]
  | none => rw [call_of_no_outage h]

/-- A call that answers by what is seen alone is the same call in the cluster that is seen. -/
theorem call_seenBy {α : Type} {answer : ObjectStore → Except Failure α} (operation : Operation)
    (h : ∀ store : ObjectStore, store.types = types → answer (store.seenBy policy) = answer store)
    (ht : store.types = types) :
    call operation answer (store.seenBy policy) =
      let outcome := call operation answer store
      ⟨outcome.result, outcome.state.seenBy policy, outcome.journal⟩ := by
  -- Outages do not depend on the objects.
  have houtage : ((store.seenBy policy).counted operation).outage? operation =
      (store.counted operation).outage? operation := rfl
  cases ho : (store.counted operation).outage? operation with
  | some failure =>
    rw [call_of_outage ho, call_of_outage (houtage.trans ho)]
    rfl
  | none =>
    have hanswer : answer ((store.seenBy policy).counted operation) =
        answer (store.counted operation) := h (store.counted operation) ht
    rw [call_of_no_outage ho, call_of_no_outage (houtage.trans ho), hanswer]
    rfl

theorem call_respects {α : Type} {answer : ObjectStore → Except Failure α} (operation : Operation)
    (h : ∀ store : ObjectStore, store.types = types → answer (store.seenBy policy) = answer store) :
    (call operation answer).Respects (LooksAlike policy types) := by
  intro first second ha
  have ht : second.types = types := (congrArg ObjectStore.types ha.seen).trans ha.types
  have hfirst := call_seenBy operation h ha.types
  have hsecond := call_seenBy operation h ht
  rw [ha.seen, hfirst] at hsecond
  injection hsecond with hresult hstate hjournal
  refine ⟨hresult.symm, hjournal.symm, hstate.symm, ?_⟩
  rw [state_call]
  exact ha.types

theorem respects_client (hr : policy.restriction ≠ "") (hn : policy.allowlist.Names)
    (types : List (GroupVersionKind × Descriptor)) :
    (Source.cluster client).Respects policy (LooksAlike policy types) := by
  constructor
  · intro type
    simp only [client]
    apply call_respects .discover
    intro store _
    rfl
  · intro descriptor kind name _ ha
    simp only [client]
    apply call_respects .get
    intro store _
    exact getDocument_seenBy hr ha
  · intro descriptor kind selector ha
    simp only [client]
    apply call_respects .list
    intro store _
    rw [select_seenBy hr hn ha]

theorem eq_ok_of_call {α : Type} {operation : Operation} {answer : ObjectStore → Except Failure α}
    {a : α} (h : (call operation answer store).result = .ok a) :
    answer (store.counted operation) = .ok a := by
  cases ho : (store.counted operation).outage? operation with
  | some failure =>
    rw [call_of_outage ho] at h
    cases h
  | none =>
    rw [call_of_no_outage ho] at h
    exact h

theorem respects_registry (hr : policy.restriction ≠ "") (hn : policy.allowlist.Names)
    (hg : store.KeepsGroups) (watcher : Identity) :
    (Source.registry registry watcher).Respects policy (LooksAlike policy store.types) := by
  have hresolve : ∀ other : ObjectStore, other.types = store.types →
      ∀ type, other.resolve type = store.resolve type := by
    intro other ht type
    simp only [resolve, ht]
  have hserves : ∀ type descriptor first second,
      LooksAlike policy store.types first second →
        (registry.resolveType type first).result = .ok descriptor →
          store.resolve type = .ok descriptor := by
    intro type descriptor first second ha hd
    rw [← eq_ok_of_call hd]
    exact (hresolve _ ha.types type).symm
  refine .registry ?_ hserves ?_ ?_
  · intro type
    simp only [registry]
    apply call_respects .resolveType
    intro other _
    rfl
  · intro type descriptor name hd _ ha
    simp only [registry]
    apply call_respects .registryGet
    intro other ht
    have hseen : (other.seenBy policy).resolve type = .ok descriptor := (hresolve other ht type).trans hd
    rw [hseen, (hresolve other ht type).trans hd]
    -- The registry finds objects by the group of the type; the guard has checked that of the descriptor.
    simp only [bind, Except.bind, ← hg type descriptor hd]
    rw [find?_seenBy fun object hat => sees_of_isAt hr ha hat]
  · intro type descriptor selector hd ha
    simp only [registry]
    apply call_respects .registryList
    intro other ht
    have hseen : (other.seenBy policy).resolve type = .ok descriptor := (hresolve other ht type).trans hd
    rw [hseen, (hresolve other ht type).trans hd]
    simp only [bind, Except.bind]
    rw [select_seenBy hr hn ha]

def collaborators : Collaborators ObjectStore := ⟨client, some registry⟩

theorem respects_of_keepsTo (hr : policy.restriction ≠ "") (hn : policy.allowlist.Names)
    {step : Step ObjectStore} (h : step.KeepsTo policy store) :
    step.Respects collaborators policy (LooksAlike policy store.types) := by
  cases step with
  | create name options place =>
    refine ⟨h.1, ?_⟩
    intro settings evaluation he
    cases Collaborators.makes_of_evaluation he with
    | unwatched policy => exact respects_client hr hn store.types
    | watched policy watcher hregistry =>
      cases hregistry
      exact respects_registry hr hn (h.2 rfl) watcher
  | change f => exact h
  | _ => trivial

end ObjectStore

/-- Clusters that look alike to restricted evaluations make their lookups come out alike: the answers and
failures, the journals with the calls in them, and the flags for sensitive data. -/
theorem restricted_noninterference {policy : Policy} (hr : policy.restriction ≠ "")
    (hn : policy.allowlist.Names) {first second : ObjectStore}
    (h : first.seenBy policy = second.seenBy policy) (settings : LookupSettings)
    {steps : List (Step ObjectStore)} (hs : ∀ step ∈ steps, step.KeepsTo policy first) :
    let one := (Session.start settings first).steps ObjectStore.collaborators steps
    let other := (Session.start settings second).steps ObjectStore.collaborators steps
    one.2 = other.2 ∧ one.1.members = other.1.members ∧
      ∀ member, one.1.isSensitive member = other.1.isSensitive member := by
  have hstart : (Session.start settings first).Alike (ObjectStore.LooksAlike policy first.types)
      (Session.start settings second) := ⟨rfl, rfl, rfl, rfl, h.symm, rfl⟩
  have hrestricted : (Session.start settings first).Respects policy
      (ObjectStore.LooksAlike policy first.types) := Session.each_start _ settings first
  intro one other
  obtain ⟨hreports, hlast⟩ := hstart.steps hr hrestricted fun step hmem =>
    ObjectStore.respects_of_keepsTo hr hn (hs step hmem)
  refine ⟨hreports.symm, hlast.members.symm, ?_⟩
  intro member
  simp only [Session.isSensitive, one, other, hlast.sensitive]

/-- One team's namespace and the token in it. -/
def loneStore : ObjectStore where
  types := [(⟨"", "v1", "Secret"⟩, ⟨"", "v1", "secrets", true⟩),
    (⟨"", "v1", "Namespace"⟩, ⟨"", "v1", "namespaces", false⟩)]
  objects := [⟨"", "Secret", "team-a", "token", [], .object []⟩,
    ⟨"", "Namespace", "", "team-a", [], .object []⟩]
  outages := [⟨.list, some 2, .system .timeout ""⟩]
  calls := []

/-- The same with another team beside it. -/
def neighbourStore : ObjectStore :=
  { loneStore with
    objects := ⟨"", "Secret", "team-b", "token", [], .null⟩ :: loneStore.objects ++
      [⟨"", "Namespace", "", "team-b", [], .null⟩] }

def teamPolicy : Policy := ⟨"team-a", [⟨"", "Namespace", "team-a"⟩]⟩

/-- Lookups of secrets and namespaces through the cache and through the registry, one of each refused. -/
def teamSteps : List (Step ObjectStore) :=
  [.create "page" ⟨teamPolicy, none⟩ none,
    .create "live" ⟨teamPolicy, some default⟩ none,
    .lookup "page" .lenient ⟨"v1", "Secret", "", "", none⟩,
    .lookup "page" .lenient ⟨"v1", "Secret", "", "token", none⟩,
    .lookup "page" .lenient ⟨"v1", "Namespace", "", "team-a", none⟩,
    .lookup "page" .strict ⟨"v1", "Namespace", "", "", none⟩,
    .lookup "live" .lenient ⟨"v1", "Secret", "", "", none⟩,
    .lookup "live" .strict ⟨"v1", "Namespace", "", "team-b", none⟩]

theorem restricted_noninterference_teams :
    teamPolicy.restriction ≠ "" ∧ teamPolicy.allowlist.Names ∧
      loneStore.seenBy teamPolicy = neighbourStore.seenBy teamPolicy ∧
      (∀ step ∈ teamSteps, step.KeepsTo teamPolicy loneStore) ∧
      loneStore.objects.length ≠ neighbourStore.objects.length ∧
      ((Session.start .standard loneStore).steps ObjectStore.collaborators teamSteps).2 =
        ((Session.start .standard neighbourStore).steps ObjectStore.collaborators teamSteps).2 := by
  have hr : teamPolicy.restriction ≠ "" := by decide
  have hn : teamPolicy.allowlist.Names := by simp [Allowlist.Names, teamPolicy]
  have hseen : loneStore.seenBy teamPolicy = neighbourStore.seenBy teamPolicy := rfl
  have hgroups : loneStore.KeepsGroups :=
    ObjectStore.keepsGroups_of_types (by simp [loneStore])
  have hs : ∀ step ∈ teamSteps, step.KeepsTo teamPolicy loneStore := by
    simp [teamSteps, Step.KeepsTo, hgroups]
  exact ⟨hr, hn, hseen, hs, by decide, (restricted_noninterference hr hn hseen .standard hs).1⟩

end ClusterLookup
