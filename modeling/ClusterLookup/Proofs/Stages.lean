import ClusterLookup.Evaluation
import ClusterLookup.Proofs.Results

/-!
# The stages of a lookup, one by one

Each stage as an equation: what it answers, what it leaves behind and what it enters, in terms of the
calls that it makes. For the stages that can go several ways, an inductive predicate lists these.
Statements about whole lookups are put together from the equations and the ways, and do not unfold a
stage again.
-/

namespace ClusterLookup

namespace Action
variable {ε σ α β : Type}

theorem pure_bind (a : α) (f : α → Action ε σ β) (s : σ) : (pure a >>= f) s = f a s := rfl

theorem read_bind (f : σ → Action ε σ β) (s : σ) : (read >>= f) s = f s s := rfl

theorem modify_bind (g : σ → σ) (f : Unit → Action ε σ β) (s : σ) :
    (modify g >>= f) s = f () (g s) := rfl

theorem note_bind (entries : List ε) (f : Unit → Action ε σ β) (s : σ) :
    (note entries >>= f) s = ⟨(f () s).result, (f () s).state, entries ++ (f () s).journal⟩ := rfl

theorem attempt_bind (x : Action ε σ α) (f : Except Failure α → Action ε σ β) (s : σ) :
    (attempt x >>= f) s = ⟨(f (x s).result (x s).state).result,
      (f (x s).result (x s).state).state, (x s).journal ++ (f (x s).result (x s).state).journal⟩ := rfl

theorem map_apply (f : α → β) (x : Action ε σ α) (s : σ) :
    (f <$> x) s = ⟨(x s).result.map f, (x s).state, (x s).journal⟩ := by
  change (x >>= fun a => pure (f a)) s = _
  cases h : (x s).result with
  | ok a => rw [bind_apply_of_ok h]; simp [Except.map]
  | error failure => rw [bind_apply_of_error h]; rfl

end Action

theorem Identity.isList_eq_true_iff {identity : Identity} :
    identity.isList = true ↔ identity.name = "" :=
  String.isEmpty_iff

theorem Identity.isList_eq_false_iff {identity : Identity} :
    identity.isList = false ↔ identity.name ≠ "" := by
  rw [← Bool.not_eq_true, isList_eq_true_iff]

theorem Policy.eq_of_effectiveNamespace_eq_error {policy : Policy} {target : String}
    {failure : Failure} (h : policy.effectiveNamespace target = .error failure) :
    failure = .restrictedNamespace target policy.restriction := by
  unfold Policy.effectiveNamespace at h
  split at h
  · cases h
  · split at h
    · cases h
    · split at h
      · cases h
      · cases h
        rfl

namespace Arguments
variable {policy : Policy} {arguments : Arguments} {identity : Identity}

theorem groupVersion_eq_ok_iff {apiVersion : String} {parts : String × String} :
    groupVersion apiVersion = .ok parts ↔ splitApiVersion apiVersion = some parts := by
  unfold groupVersion
  cases splitApiVersion apiVersion with
  | none => simp
  | some found => simp

/-- Arguments stand for a question exactly when they pass each of the checks. -/
theorem identity_eq_ok_iff :
    arguments.identity policy = .ok identity ↔
      (arguments.apiVersion.isEmpty || arguments.kind.isEmpty) = false ∧
      policy.effectiveNamespace arguments.inNamespace = .ok identity.inNamespace ∧
      splitApiVersion arguments.apiVersion = some (identity.type.group, identity.type.version) ∧
      canonicalSelector arguments.selector = .ok identity.selector ∧
      arguments.kind = identity.type.kind ∧ arguments.name = identity.name := by
  obtain ⟨⟨group, version, kind⟩, inNamespace, name, selector⟩ := identity
  unfold Arguments.identity
  cases hb : (arguments.apiVersion.isEmpty || arguments.kind.isEmpty) with
  | true => simp [Results.bind_eq_ok_iff]
  | false =>
    simp only [Results.bind_eq_ok_iff, groupVersion_eq_ok_iff, Bool.false_eq_true, if_false,
      Prod.exists, Except.ok.injEq, Identity.mk.injEq, GroupVersionKind.mk.injEq, true_and]
    constructor
    · intro hx
      obtain ⟨_, hn, _, _, ha, _, hs, ⟨rfl, rfl, hk⟩, rfl, hname, rfl⟩ := hx
      exact ⟨hn, ha, hs, hk, hname⟩
    · intro hx
      obtain ⟨hn, ha, hs, hk, hname⟩ := hx
      exact ⟨_, hn, _, _, ha, _, hs, ⟨rfl, rfl, hk⟩, rfl, hname, rfl⟩

/-- What can be wrong with arguments: what they name, their selector, or their namespace. -/
theorem identity_eq_error {failure : Failure} (h : arguments.identity policy = .error failure) :
    (∃ detail, failure = .invalidArguments detail) ∨
      (∃ selector detail, failure = .invalidSelector selector detail) ∨
      ∃ requested restriction, failure = .restrictedNamespace requested restriction := by
  unfold Arguments.identity at h
  split at h
  · cases h
    exact .inl ⟨_, rfl⟩
  · simp only [bind, Except.bind] at h
    split at h
    · next hn =>
      cases h
      exact .inr (.inr ⟨_, _, Policy.eq_of_effectiveNamespace_eq_error hn⟩)
    · split at h
      · next hg =>
        cases h
        unfold groupVersion at hg
        split at hg <;> cases hg
        exact .inl ⟨_, rfl⟩
      · split at h
        · next hs =>
          cases h
          simp only [canonicalSelector] at hs
          split at hs <;> cases hs
          exact .inr (.inl ⟨_, _, rfl⟩)
        · cases h

theorem isLookup_of_identity {failure : Failure} (h : arguments.identity policy = .error failure) :
    failure.isLookup = true := by
  rcases identity_eq_error h with ⟨_, rfl⟩ | ⟨_, _, rfl⟩ | ⟨_, _, rfl⟩ <;> rfl

end Arguments

namespace AnswerCache

/-- The cache after a question was put to the cluster, with the documents to remember, if any. -/
def learn (cache : AnswerCache) (identity : Identity) : Option (List Document) → AnswerCache
  | some documents => cache.store identity documents
  | none => cache

@[simp] theorem descriptor?_learn (cache : AnswerCache) (identity : Identity)
    (documents : Option (List Document)) (type : GroupVersionKind) :
    (cache.learn identity documents).descriptor? type = cache.descriptor? type := by
  cases documents <;> rfl

def learnType (cache : AnswerCache) (type : GroupVersionKind) : Except Failure Descriptor → AnswerCache
  | .ok descriptor => cache.storeDescriptor type descriptor
  | .error _ => cache

end AnswerCache

namespace Lookup
variable {σ : Type} {client : ClusterClient σ} {registry : Registry σ} {watcher : Identity}
variable {type : GroupVersionKind} {identity : Identity} {descriptor : Descriptor}
variable {context : Context σ}

/-- What is remembered when a single object was asked for: its document, or that there is none. -/
def lesson : Except Failure Document → Option (List Document)
  | .ok document => some [document]
  | .error failure => if failure.isNotFound then some [] else none

/-- The answer to a question that the cache holds documents for. -/
def recalled (identity : Identity) (documents : List Document) : Answer :=
  if identity.isList then .items documents else .ofDocument (documents.head?.getD .null)

def probeEntries (identity : Identity) (cached : Option (List Document)) : List Entry :=
  [.count (.probes cached.isSome), .log (rememberedRecord identity cached)]

def absenceEntries (identity : Identity) : Except Failure Document → List Entry
  | .ok _ => []
  | .error failure => if failure.isNotFound then [.log (absenceRecord identity)] else []

theorem ask_bind_of_ok {α β : Type} {call : Action Notice σ α} {a : α}
    (h : (call context.world).result = .ok a) (entry : Except Failure α → Entry)
    (f : α → Lookup σ β) :
    (ask call entry >>= f) context =
      let rest := f a { context with world := (call context.world).state }
      ⟨rest.result, rest.state,
        (call context.world).journal.map Notice.entry ++ [entry (.ok a)] ++ rest.journal⟩ := by
  have ha : (ask call entry context).result = .ok a := h
  rw [Action.bind_apply_of_ok ha]
  simp [ask, h]

theorem ask_bind_of_error {α β : Type} {call : Action Notice σ α} {failure : Failure}
    (h : (call context.world).result = .error failure) (entry : Except Failure α → Entry)
    (f : α → Lookup σ β) :
    (ask call entry >>= f) context =
      ⟨.error failure, { context with world := (call context.world).state },
        (call context.world).journal.map Notice.entry ++ [entry (.error failure)]⟩ := by
  have hf : (ask call entry context).result = .error failure := h
  rw [Action.bind_apply_of_error hf]
  simp [ask, h]

theorem refuse_apply {α : Type} (failure : Failure) :
    (refuse failure : Lookup σ α) context = ⟨.error failure, context, refusalEntries failure⟩ := by
  simp [refuse, Action.note_bind]

/-! ## Resolving a type -/

theorem resolveType_of_remembered (h : context.cache.descriptor? type = some descriptor) :
    resolveType (.cluster client) type context = ⟨.ok descriptor, context, []⟩ := by
  simp only [resolveType, Action.read_bind, h]
  rfl

theorem resolveType_of_unknown (h : context.cache.descriptor? type = none) :
    resolveType (.cluster client) type context =
      let asked := client.discover type context.world
      ⟨asked.result, ⟨context.cache.learnType type asked.result, context.sensitive, asked.state⟩,
        asked.journal.map Notice.entry ++ [.client (.discover type asked.result)]⟩ := by
  simp only [resolveType, Action.read_bind, h]
  cases hd : (client.discover type context.world).result with
  | ok descriptor =>
    rw [ask_bind_of_ok hd]
    simp [storeDescriptor, Action.modify_bind, AnswerCache.learnType]
  | error failure =>
    rw [ask_bind_of_error hd]
    simp [AnswerCache.learnType]

/-- A type that was resolved from a cluster is remembered. -/
theorem descriptor?_resolveType
    (h : (resolveType (.cluster client) type context).result = .ok descriptor) :
    (resolveType (.cluster client) type context).state.cache.descriptor? type = some descriptor := by
  cases hc : context.cache.descriptor? type with
  | some found =>
    rw [resolveType_of_remembered hc] at h ⊢
    cases h
    exact hc
  | none =>
    simp only [resolveType_of_unknown hc] at h ⊢
    simp [h, AnswerCache.learnType, AnswerCache.descriptor?_storeDescriptor_self, hc]

theorem resolveType_registry :
    resolveType (.registry registry watcher) type context =
      let asked := registry.resolveType type context.world
      ⟨asked.result.mapError (·.during "registry resolve_type"), { context with world := asked.state },
        asked.journal.map Notice.entry ++ [.registry (.resolveType type asked.result)]⟩ := rfl

/-- The ways in which a source resolves a type: from the cache, by a call to the client, or by one to the
registry. -/
inductive Resolving (type : GroupVersionKind) (context : Context σ) :
    Source σ → Outcome Entry (Context σ) Descriptor → Prop
  | remembered {client : ClusterClient σ} {descriptor : Descriptor}
      (hd : context.cache.descriptor? type = some descriptor) :
      Resolving type context (.cluster client) ⟨.ok descriptor, context, []⟩
  | discovered {client : ClusterClient σ} {asked : Outcome Notice σ Descriptor}
      (hd : context.cache.descriptor? type = none)
      (ha : client.discover type context.world = asked) :
      Resolving type context (.cluster client)
        ⟨asked.result, ⟨context.cache.learnType type asked.result, context.sensitive, asked.state⟩,
          asked.journal.map Notice.entry ++ [.client (.discover type asked.result)]⟩
  | watched {registry : Registry σ} {watcher : Identity} {asked : Outcome Notice σ Descriptor}
      (ha : registry.resolveType type context.world = asked) :
      Resolving type context (.registry registry watcher)
        ⟨asked.result.mapError (·.during "registry resolve_type"),
          { context with world := asked.state },
          asked.journal.map Notice.entry ++ [.registry (.resolveType type asked.result)]⟩

theorem resolving_resolveType (source : Source σ) (type : GroupVersionKind) (context : Context σ) :
    Resolving type context source (resolveType source type context) := by
  cases source with
  | registry registry watcher => exact .watched rfl
  | cluster client =>
    cases hd : context.cache.descriptor? type with
    | some descriptor =>
      rw [resolveType_of_remembered hd]
      exact .remembered hd
    | none =>
      rw [resolveType_of_unknown hd]
      exact .discovered hd rfl

/-- Resolving a type adds nothing to what is known of objects. -/
theorem find?_resolveType (source : Source σ) (type : GroupVersionKind) (context : Context σ)
    (identity : Identity) :
    (resolveType source type context).state.cache.find? identity = context.cache.find? identity := by
  have hresolving := resolving_resolveType source type context
  generalize resolveType source type context = resolved at hresolving ⊢
  cases hresolving with
  | remembered hd => rfl
  | @discovered client asked hd ha => cases asked.result <;> rfl
  | watched ha => rfl

/-! ## Reading an answer -/

theorem remembered_bind {α : Type} (f : Option (List Document) → Lookup σ α) :
    (remembered identity >>= f) context =
      let rest := f (context.cache.find? identity) context
      ⟨rest.result, rest.state, probeEntries identity (context.cache.find? identity) ++ rest.journal⟩ :=
  rfl

theorem readAnswer_of_remembered {documents : List Document}
    (h : context.cache.find? identity = some documents) :
    readAnswer (.cluster client) identity descriptor context =
      ⟨.ok (recalled identity documents), context, probeEntries identity (some documents)⟩ := by
  unfold readAnswer recalled
  split
  · rw [Action.map_apply]
    simp [listDocuments, remembered_bind, h, Except.map]
  · rw [Action.map_apply]
    simp [getDocument, remembered_bind, h, Except.map]

theorem readAnswer_list (hl : identity.isList = true) (h : context.cache.find? identity = none) :
    readAnswer (.cluster client) identity descriptor context =
      let asked := client.list descriptor identity.type.kind identity.inNamespace identity.selector
        context.world
      ⟨asked.result.map .items,
        ⟨context.cache.learn identity asked.result.toOption, context.sensitive, asked.state⟩,
        probeEntries identity none ++ (asked.journal.map Notice.entry ++ [.client (.list descriptor
          identity.type.kind identity.inNamespace identity.selector asked.result)])⟩ := by
  simp only [readAnswer, hl, if_true, Action.map_apply, listDocuments, remembered_bind, h]
  cases hr : (client.list descriptor identity.type.kind identity.inNamespace identity.selector
      context.world).result with
  | ok documents =>
    rw [ask_bind_of_ok hr]
    simp [store, Action.modify_bind, AnswerCache.learn, Except.toOption]
  | error failure =>
    rw [ask_bind_of_error hr]
    simp [AnswerCache.learn, Except.toOption]

theorem readAnswer_get (hl : identity.isList = false) (h : context.cache.find? identity = none) :
    readAnswer (.cluster client) identity descriptor context =
      let asked := client.get descriptor identity.type.kind identity.inNamespace identity.name
        context.world
      ⟨asked.result.map .ofDocument,
        ⟨context.cache.learn identity (lesson asked.result), context.sensitive, asked.state⟩,
        probeEntries identity none ++ (asked.journal.map Notice.entry ++ [.client (.get descriptor
          identity.type.kind identity.inNamespace identity.name asked.result)] ++
            absenceEntries identity asked.result)⟩ := by
  simp only [readAnswer, hl, Bool.false_eq_true, if_false, Action.map_apply, getDocument,
    remembered_bind, h, Action.attempt_bind]
  cases hr : (client.get descriptor identity.type.kind identity.inNamespace identity.name
      context.world).result with
  | ok document => simp [ask, store, Action.modify_bind, AnswerCache.learn, lesson, absenceEntries, hr]
  | error failure =>
    by_cases hn : failure.isNotFound = true
    · simp [ask, store, Action.modify_bind, Action.note_bind, AnswerCache.learn, lesson,
        absenceEntries, hr, hn]
    · simp [ask, AnswerCache.learn, lesson, absenceEntries, hr, hn]

theorem readAnswer_registry_list (hl : identity.isList = true) :
    readAnswer (.registry registry watcher) identity descriptor context =
      let asked := registry.list watcher identity.type identity.inNamespace identity.selector
        context.world
      ⟨(asked.result.mapError (·.during "registry list")).map .items,
        { context with world := asked.state },
        asked.journal.map Notice.entry ++ [.registry (.list watcher identity.type
          identity.inNamespace identity.selector asked.result)]⟩ := by
  simp only [readAnswer, hl, if_true, Action.map_apply]
  rfl

/-- The answer that a document of the registry is: a null one says that there is no such object. -/
def present (identity : Identity) (descriptor : Descriptor) (document : Document) :
    Except Failure Answer :=
  if document.isNull then
    .error (.notFound descriptor.group descriptor.resource identity.inNamespace identity.name)
  else .ok (.ofDocument document)

theorem during_ask {α : Type} (operation : String) (call : Action Notice σ α)
    (entry : Except Failure α → Entry) (context : Context σ) :
    during operation (ask call entry) context =
      let asked := call context.world
      ⟨asked.result.mapError (·.during operation), { context with world := asked.state },
        asked.journal.map Notice.entry ++ [entry asked.result]⟩ := rfl

theorem readAnswer_registry_get (hl : identity.isList = false) :
    readAnswer (.registry registry watcher) identity descriptor context =
      let asked := registry.get watcher identity.type identity.inNamespace identity.name context.world
      ⟨(asked.result.mapError (·.during "registry get")).bind (present identity descriptor),
        { context with world := asked.state },
        asked.journal.map Notice.entry ++ [.registry (.get watcher identity.type
          identity.inNamespace identity.name asked.result)]⟩ := by
  simp only [readAnswer, hl, Bool.false_eq_true, if_false, Action.map_apply, getDocument]
  have hasked := during_ask "registry get"
    (registry.get watcher identity.type identity.inNamespace identity.name)
    (fun answer => .registry (.get watcher identity.type identity.inNamespace identity.name answer))
    context
  have hresult := congrArg Outcome.result hasked
  cases hr : (registry.get watcher identity.type identity.inNamespace identity.name
      context.world).result with
  | ok document =>
    simp only [hr, Results.mapError_ok] at hresult
    rw [Action.bind_apply_of_ok hresult, hasked]
    by_cases hn : document.isNull = true
    · simp [present, hr, hn, Results.mapError_ok, Except.bind, Except.map]
    · simp [present, hr, hn, Results.mapError_ok, Except.bind, Except.map]
  | error failure =>
    simp only [hr, Results.mapError_error] at hresult
    rw [Action.bind_apply_of_error hresult, hasked]
    simp [hr, Results.mapError_error, Except.bind, Except.map]

/-- The ways in which a source answers a question: from the cache, or by a call that lists or gets, to the
client or to the registry. -/
inductive Reading (identity : Identity) (descriptor : Descriptor) (context : Context σ) :
    Source σ → Outcome Entry (Context σ) Answer → Prop
  | remembered {client : ClusterClient σ} {documents : List Document}
      (hf : context.cache.find? identity = some documents) :
      Reading identity descriptor context (.cluster client)
        ⟨.ok (recalled identity documents), context, probeEntries identity (some documents)⟩
  | listed {client : ClusterClient σ} {asked : Outcome Notice σ (List Document)}
      (hf : context.cache.find? identity = none) (hl : identity.isList = true)
      (ha : client.list descriptor identity.type.kind identity.inNamespace identity.selector
        context.world = asked) :
      Reading identity descriptor context (.cluster client)
        ⟨asked.result.map .items,
          ⟨context.cache.learn identity asked.result.toOption, context.sensitive, asked.state⟩,
          probeEntries identity none ++ (asked.journal.map Notice.entry ++ [.client (.list descriptor
            identity.type.kind identity.inNamespace identity.selector asked.result)])⟩
  | got {client : ClusterClient σ} {asked : Outcome Notice σ Document}
      (hf : context.cache.find? identity = none) (hl : identity.isList = false)
      (ha : client.get descriptor identity.type.kind identity.inNamespace identity.name
        context.world = asked) :
      Reading identity descriptor context (.cluster client)
        ⟨asked.result.map .ofDocument,
          ⟨context.cache.learn identity (lesson asked.result), context.sensitive, asked.state⟩,
          probeEntries identity none ++ (asked.journal.map Notice.entry ++ [.client (.get descriptor
            identity.type.kind identity.inNamespace identity.name asked.result)] ++
              absenceEntries identity asked.result)⟩
  | watchedList {registry : Registry σ} {watcher : Identity}
      {asked : Outcome Notice σ (List Document)} (hl : identity.isList = true)
      (ha : registry.list watcher identity.type identity.inNamespace identity.selector
        context.world = asked) :
      Reading identity descriptor context (.registry registry watcher)
        ⟨(asked.result.mapError (·.during "registry list")).map .items,
          { context with world := asked.state },
          asked.journal.map Notice.entry ++ [.registry (.list watcher identity.type
            identity.inNamespace identity.selector asked.result)]⟩
  | watchedGet {registry : Registry σ} {watcher : Identity} {asked : Outcome Notice σ Document}
      (hl : identity.isList = false)
      (ha : registry.get watcher identity.type identity.inNamespace identity.name context.world =
        asked) :
      Reading identity descriptor context (.registry registry watcher)
        ⟨(asked.result.mapError (·.during "registry get")).bind (present identity descriptor),
          { context with world := asked.state },
          asked.journal.map Notice.entry ++ [.registry (.get watcher identity.type
            identity.inNamespace identity.name asked.result)]⟩

theorem reading_readAnswer (source : Source σ) (identity : Identity) (descriptor : Descriptor)
    (context : Context σ) :
    Reading identity descriptor context source (readAnswer source identity descriptor context) := by
  cases source with
  | registry registry watcher =>
    cases hl : identity.isList with
    | true =>
      rw [readAnswer_registry_list hl]
      exact .watchedList hl rfl
    | false =>
      rw [readAnswer_registry_get hl]
      exact .watchedGet hl rfl
  | cluster client =>
    cases hf : context.cache.find? identity with
    | some documents =>
      rw [readAnswer_of_remembered hf]
      exact .remembered hf
    | none =>
      cases hl : identity.isList with
      | true =>
        rw [readAnswer_list hl hf]
        exact .listed hf hl rfl
      | false =>
        rw [readAnswer_get hl hf]
        exact .got hf hl rfl

/-- Reading an answer adds nothing to what is known of types. -/
theorem descriptor?_readAnswer (source : Source σ) (identity : Identity) (descriptor : Descriptor)
    (context : Context σ) (type : GroupVersionKind) :
    (readAnswer source identity descriptor context).state.cache.descriptor? type =
      context.cache.descriptor? type := by
  have hreading := reading_readAnswer source identity descriptor context
  generalize readAnswer source identity descriptor context = outcome at hreading ⊢
  cases hreading with
  | remembered hf => rfl
  | listed hf hl ha => exact AnswerCache.descriptor?_learn ..
  | got hf hl ha => exact AnswerCache.descriptor?_learn ..
  | watchedList hl ha => rfl
  | watchedGet hl ha => rfl

/-- A list is answered with items. -/
theorem exists_items_of_readAnswer {source : Source σ} {answer : Answer}
    (hl : identity.isList = true)
    (h : (readAnswer source identity descriptor context).result = .ok answer) :
    ∃ documents, answer = .items documents := by
  simp only [readAnswer, hl, if_true, Action.map_apply, Results.map_eq_ok_iff] at h
  obtain ⟨documents, _, rfl⟩ := h
  exact ⟨documents, rfl⟩

/-! ## The guard and the flag -/

/-- Whether an answer is something of the sensitive kind that was found. -/
def marks (evaluation : Evaluation σ) (identity : Identity) : Except Failure Answer → Bool
  | .ok answer => decide (answer.ending identity.isList = .found ∧
      identity.type.kind = evaluation.sensitiveKind)
  | .error _ => false

theorem guardedAnswer_of_refused {evaluation : Evaluation σ}
    (h : evaluation.policy.admits descriptor identity.type.kind identity.name = false) :
    guardedAnswer evaluation identity descriptor context =
      let failure := .clusterScoped descriptor.group identity.type.kind identity.name
      ⟨.error failure, context, refusalEntries failure⟩ := by
  unfold guardedAnswer
  simp only [guardScope, h, Bool.false_eq_true, if_false]
  rfl

theorem guardedAnswer_of_admitted {evaluation : Evaluation σ}
    (h : evaluation.policy.admits descriptor identity.type.kind identity.name = true) :
    guardedAnswer evaluation identity descriptor context =
      let outcome := readAnswer evaluation.source identity descriptor context
      ⟨outcome.result, { outcome.state with
          sensitive := outcome.state.sensitive || marks evaluation identity outcome.result },
        outcome.journal⟩ := by
  unfold guardedAnswer
  simp only [guardScope, h, if_true, Action.pure_bind]
  cases hr : (readAnswer evaluation.source identity descriptor context).result with
  | ok answer =>
    rw [Action.bind_apply_of_ok hr]
    split
    · next hm => simp [noteSensitive, Action.modify_bind, marks, hm]
    · next hm => simp [marks, hm]
  | error failure =>
    rw [Action.bind_apply_of_error hr]
    simp [marks]

end Lookup

namespace Evaluation
variable {σ : Type} {evaluation : Evaluation σ} {identity : Identity} {context : Context σ}
variable {arguments : Arguments} {failure : Failure}

open Lookup

theorem answer_of_unresolved
    (h : (resolveType evaluation.source identity.type context).result = .error failure) :
    evaluation.answer identity context =
      let resolved := resolveType evaluation.source identity.type context
      ⟨.error failure, resolved.state, resolved.journal⟩ := by
  unfold answer
  rw [Action.bind_apply_of_error h]

theorem answer_of_refused {descriptor : Descriptor}
    (h : (resolveType evaluation.source identity.type context).result = .ok descriptor)
    (ha : evaluation.policy.admits descriptor identity.type.kind identity.name = false) :
    evaluation.answer identity context =
      let resolved := resolveType evaluation.source identity.type context
      let failure := .clusterScoped descriptor.group identity.type.kind identity.name
      ⟨.error failure, resolved.state, resolved.journal ++ refusalEntries failure⟩ := by
  unfold answer
  rw [Action.bind_apply_of_ok h, guardedAnswer_of_refused ha]

theorem answer_of_admitted {descriptor : Descriptor}
    (h : (resolveType evaluation.source identity.type context).result = .ok descriptor)
    (ha : evaluation.policy.admits descriptor identity.type.kind identity.name = true) :
    evaluation.answer identity context =
      let resolved := resolveType evaluation.source identity.type context
      let outcome := readAnswer evaluation.source identity descriptor resolved.state
      ⟨outcome.result, { outcome.state with
          sensitive := outcome.state.sensitive || marks evaluation identity outcome.result },
        resolved.journal ++ outcome.journal⟩ := by
  unfold answer
  rw [Action.bind_apply_of_ok h, guardedAnswer_of_admitted ha]

/-- The courses that the answering of a question can take. -/
inductive Course (evaluation : Evaluation σ) (identity : Identity) (context : Context σ) :
    Outcome Entry (Context σ) Answer → Prop
  | unresolved {failure : Failure}
      (ht : (resolveType evaluation.source identity.type context).result = .error failure) :
      Course evaluation identity context
        ⟨.error failure, (resolveType evaluation.source identity.type context).state,
          (resolveType evaluation.source identity.type context).journal⟩
  | refused {descriptor : Descriptor}
      (ht : (resolveType evaluation.source identity.type context).result = .ok descriptor)
      (ha : evaluation.policy.admits descriptor identity.type.kind identity.name = false) :
      Course evaluation identity context
        ⟨.error (.clusterScoped descriptor.group identity.type.kind identity.name),
          (resolveType evaluation.source identity.type context).state,
          (resolveType evaluation.source identity.type context).journal ++
            refusalEntries (.clusterScoped descriptor.group identity.type.kind identity.name)⟩
  | admitted {descriptor : Descriptor} {outcome : Outcome Entry (Context σ) Answer}
      (ht : (resolveType evaluation.source identity.type context).result = .ok descriptor)
      (ha : evaluation.policy.admits descriptor identity.type.kind identity.name = true)
      (hr : readAnswer evaluation.source identity descriptor
        (resolveType evaluation.source identity.type context).state = outcome) :
      Course evaluation identity context
        ⟨outcome.result, { outcome.state with
            sensitive := outcome.state.sensitive || marks evaluation identity outcome.result },
          (resolveType evaluation.source identity.type context).journal ++ outcome.journal⟩

theorem course_answer (evaluation : Evaluation σ) (identity : Identity) (context : Context σ) :
    evaluation.Course identity context (evaluation.answer identity context) := by
  cases ht : (resolveType evaluation.source identity.type context).result with
  | error failure =>
    rw [answer_of_unresolved ht]
    exact .unresolved ht
  | ok descriptor =>
    cases ha : evaluation.policy.admits descriptor identity.type.kind identity.name with
    | false =>
      rw [answer_of_refused ht ha]
      exact .refused ht ha
    | true =>
      rw [answer_of_admitted ht ha]
      exact .admitted ht ha rfl

/-- A list is answered with items. -/
theorem exists_items_of_answer {answer : Answer} (hl : identity.isList = true)
    (h : (evaluation.answer identity context).result = .ok answer) :
    ∃ documents, answer = .items documents := by
  have hcourse := course_answer evaluation identity context
  generalize evaluation.answer identity context = performed at hcourse h
  cases hcourse with
  | unresolved ht => cases h
  | refused ht ha => cases h
  | admitted ht ha hr =>
    subst hr
    exact exists_items_of_readAnswer hl h

theorem lookupStrict_of_invalid (h : arguments.identity evaluation.policy = .error failure) :
    evaluation.lookupStrict arguments context = ⟨.error failure, context, refusalEntries failure⟩ := by
  simp only [lookupStrict, h, refuse_apply]

theorem lookupStrict_of_valid (h : arguments.identity evaluation.policy = .ok identity) :
    evaluation.lookupStrict arguments context = evaluation.answer identity context := by
  simp only [lookupStrict, h]

/-- The outcome of a lookup that takes a missing object for an answer. -/
def lenient : Except Failure Answer → Except Failure Answer
  | .ok answer => .ok answer
  | .error failure => if failure.isNotFound then .ok .absent else .error failure

def closingEntries (evaluation : Evaluation σ) (arguments : Arguments) :
    Except Failure Answer → List Entry
  | .ok answer =>
    [.count (.lookups evaluation.path (answer.ending arguments.name.isEmpty)),
      .log (resultRecord arguments answer.isPresent)]
  | .error failure =>
    if failure.isNotFound then
      [.count (.lookups evaluation.path .notFound), .log (resultRecord arguments false)]
    else if failure.isLookup then
      [.count (.lookups evaluation.path .error), .log (failureRecord arguments failure)]
    else []

theorem lookup_eq (evaluation : Evaluation σ) (arguments : Arguments) (context : Context σ) :
    evaluation.lookup arguments context =
      let outcome := evaluation.lookupStrict arguments context
      ⟨lenient outcome.result, outcome.state, .log (startRecord arguments) :: (outcome.journal ++
        closingEntries evaluation arguments outcome.result)⟩ := by
  simp only [lookup, Action.note_bind, Action.attempt_bind]
  cases hr : (evaluation.lookupStrict arguments context).result with
  | ok answer => simp [Action.note_bind, lenient, closingEntries]
  | error failure =>
    by_cases hn : failure.isNotFound = true
    · simp [Action.note_bind, lenient, closingEntries, hn]
    · by_cases hl : failure.isLookup = true
      · simp [Action.note_bind, lenient, closingEntries, hn, hl]
      · simp [lenient, closingEntries, hn, hl]

/-! ## The flag for sensitive data -/

/-- Whether a lookup with that result sets the flag for sensitive data. -/
def flags (evaluation : Evaluation σ) (arguments : Arguments) (result : Except Failure Answer) :
    Bool :=
  match arguments.identity evaluation.policy with
  | .ok identity => Lookup.marks evaluation identity result
  | .error _ => false

theorem flags_lenient (evaluation : Evaluation σ) (arguments : Arguments)
    (result : Except Failure Answer) :
    evaluation.flags arguments (lenient result) = evaluation.flags arguments result := by
  unfold flags
  cases arguments.identity evaluation.policy with
  | error failure => rfl
  | ok identity =>
    cases result with
    | ok answer => rfl
    | error failure =>
      by_cases hn : failure.isNotFound = true
      · simp [lenient, hn, Lookup.marks, Answer.ending]
      · simp [lenient, hn, Lookup.marks]

theorem sensitive_resolveType (source : Source σ) (type : GroupVersionKind) (context : Context σ) :
    (Lookup.resolveType source type context).state.sensitive = context.sensitive := by
  have hresolving := Lookup.resolving_resolveType source type context
  generalize Lookup.resolveType source type context = resolved at hresolving ⊢
  cases hresolving <;> rfl

theorem sensitive_readAnswer (source : Source σ) (identity : Identity) (descriptor : Descriptor)
    (context : Context σ) :
    (Lookup.readAnswer source identity descriptor context).state.sensitive = context.sensitive := by
  have hreading := Lookup.reading_readAnswer source identity descriptor context
  generalize Lookup.readAnswer source identity descriptor context = outcome at hreading ⊢
  cases hreading <;> rfl

/-- The flag is set by what a lookup finds and by nothing else. -/
theorem sensitive_lookupStrict (evaluation : Evaluation σ) (arguments : Arguments)
    (context : Context σ) :
    (evaluation.lookupStrict arguments context).state.sensitive =
      (context.sensitive ||
        evaluation.flags arguments (evaluation.lookupStrict arguments context).result) := by
  unfold flags
  cases hi : arguments.identity evaluation.policy with
  | error failure => simp [lookupStrict_of_invalid hi]
  | ok identity =>
    rw [lookupStrict_of_valid hi]
    have hs := sensitive_resolveType evaluation.source identity.type context
    cases ht : (Lookup.resolveType evaluation.source identity.type context).result with
    | error failure => simp [answer_of_unresolved ht, hs, Lookup.marks]
    | ok descriptor =>
      cases ha : evaluation.policy.admits descriptor identity.type.kind identity.name with
      | false => simp [answer_of_refused ht ha, hs, Lookup.marks]
      | true => simp [answer_of_admitted ht ha, sensitive_readAnswer, hs]

theorem sensitive_lookup (evaluation : Evaluation σ) (arguments : Arguments) (context : Context σ) :
    (evaluation.lookup arguments context).state.sensitive =
      (context.sensitive ||
        evaluation.flags arguments (evaluation.lookup arguments context).result) := by
  simp only [lookup_eq]
  rw [sensitive_lookupStrict, flags_lenient]

/-! ## What a lookup keeps -/

/-- What the cache and the state of the collaborator keep while a type is resolved and while an answer
is read, they keep during a lookup: it changes them in these two stages alone. -/
theorem keep_lookupStrict {P : AnswerCache → σ → Prop} (evaluation : Evaluation σ)
    (arguments : Arguments) (h : P context.cache context.world)
    (resolve : ∀ type, let next := (resolveType evaluation.source type context).state
      P next.cache next.world)
    (read : ∀ identity descriptor, let resolved := resolveType evaluation.source identity.type context
      resolved.result = .ok descriptor →
        evaluation.policy.admits descriptor identity.type.kind identity.name = true →
          P resolved.state.cache resolved.state.world →
            let next := (readAnswer evaluation.source identity descriptor resolved.state).state
            P next.cache next.world) :
    let next := (evaluation.lookupStrict arguments context).state
    P next.cache next.world := by
  cases hi : arguments.identity evaluation.policy with
  | error failure =>
    rw [lookupStrict_of_invalid hi]
    exact h
  | ok identity =>
    rw [lookupStrict_of_valid hi]
    have hcourse := course_answer evaluation identity context
    generalize evaluation.answer identity context = performed at hcourse
    cases hcourse with
    | unresolved ht => exact resolve identity.type
    | refused ht ha => exact resolve identity.type
    | admitted ht ha hr =>
      subst hr
      exact read identity _ ht ha (resolve identity.type)

end Evaluation

end ClusterLookup
