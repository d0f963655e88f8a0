import ClusterLookup.Proofs.Agreement
import ClusterLookup.Proofs.SideBySide

/-!
# The bodies of objects are handed on unseen

Two clusters in memory that hold the same objects, up to what stands in their documents, are told apart by
nothing but the documents that are answered and remembered. What is logged, called and counted is the same,
and so are the failures, the flags, and the shapes of the answers. So no secret gets anywhere but to the
one who asked for it.

That every document is an object matters: a null one is an object that does not exist, and an array is
answered as a list.
-/

namespace ClusterLookup

/-- Whether two documents are one, or both of them objects. -/
def Document.Rewritten (first second : Document) : Prop :=
  second = first ∨ first.isObject = true ∧ second.isObject = true

/-- Whether an object has been given another body: the same object, with a document that is an object as
well. -/
structure StoredObject.Rewritten (first second : StoredObject) : Prop where
  kept : { second with document := first.document } = first
  before : first.document.isObject = true
  after : second.document.isObject = true

/-- Whether the objects of a cluster have been given other bodies. -/
structure ObjectStore.Rewritten (first second : ObjectStore) : Prop where
  types : second.types = first.types
  objects : List.Forall₂ StoredObject.Rewritten first.objects second.objects
  outages : second.outages = first.outages
  calls : second.calls = first.calls

/-- Whether two events differ in the bodies of documents alone. The exchanges with collaborators are the
same calls, and all other entries are the same; so are the failures, the shapes of the answers and what the
caches hold answers to. -/
structure Event.DifferInBodies {σ : Type} (first second : Event σ) : Prop where
  step : second.step = first.step
  result : Results.Like (Option.Rel (Answer.Like Document.Rewritten)) first.report.result
    second.report.result
  journal : List.Forall₂ (Entry.Like Document.Rewritten) first.report.journal second.report.journal
  records : second.report.journal.records = first.report.journal.records
  counters : second.report.journal.counters = first.report.journal.counters
  flags : ∀ name, second.after.flag? name = first.after.flag? name
  caches : ∀ name, Option.Rel (AnswerCache.Like Document.Rewritten)
    ((first.after.member? name).map Member.cache) ((second.after.member? name).map Member.cache)

/-! ## Clusters with other bodies -/

theorem Document.Rewritten.answer {first second : Document} (h : first.Rewritten second) :
    (Answer.ofDocument first).Like Document.Rewritten (Answer.ofDocument second) := by
  rcases h with rfl | ⟨hf, hs⟩
  · exact Answer.Like.refl (fun _ => .inl rfl) _
  · cases first with
    | object fields =>
      cases second with
      | object others => exact .document (.inr ⟨rfl, rfl⟩)
      | _ => cases hs
    | _ => cases hf

/-- Runs are compared up to the bodies of documents, and by all that is entered. -/
def Likeness.bodies : Likeness ObjectStore where
  worlds := ObjectStore.Rewritten
  documents := Document.Rewritten
  compared _ := true
  refl _ := .inl rfl
  answers h := h.answer
  compared_eq _ := rfl

namespace StoredObject
variable {first second : StoredObject}

theorem Rewritten.isAt (h : first.Rewritten second) (group kind inNamespace name : String) :
    second.isAt group kind inNamespace name = first.isAt group kind inNamespace name := by
  rw [← h.kept]
  rfl

theorem Rewritten.selects (h : first.Rewritten second) (descriptor : Descriptor)
    (kind inNamespace selector : String) :
    ObjectStore.selects descriptor kind inNamespace selector second =
      ObjectStore.selects descriptor kind inNamespace selector first := by
  rw [← h.kept]
  rfl

theorem Rewritten.document (h : first.Rewritten second) :
    first.document.Rewritten second.document :=
  .inr ⟨h.before, h.after⟩

end StoredObject

namespace ObjectStore
variable {first second : ObjectStore}

theorem Rewritten.resolve (h : first.Rewritten second) (type : GroupVersionKind) :
    second.resolve type = first.resolve type := by
  unfold ObjectStore.resolve
  rw [h.types]

theorem Rewritten.find? (h : first.Rewritten second) (group kind inNamespace name : String) :
    Option.Rel StoredObject.Rewritten (first.find? group kind inNamespace name)
      (second.find? group kind inNamespace name) := by
  unfold ObjectStore.find?
  have hobjects := h.objects
  generalize first.objects = objects at hobjects
  generalize second.objects = others at hobjects
  induction hobjects with
  | nil => exact .none
  | @cons one other _ _ ho _ ih =>
    rw [List.find?_cons, List.find?_cons, ho.isAt]
    cases one.isAt group kind inNamespace name with
    | true => exact .some ho
    | false => exact ih

theorem Rewritten.select (h : first.Rewritten second) (descriptor : Descriptor)
    (kind inNamespace selector : String) :
    List.Forall₂ Document.Rewritten (first.select descriptor kind inNamespace selector)
      (second.select descriptor kind inNamespace selector) := by
  unfold ObjectStore.select
  have hfiltered : List.Forall₂ StoredObject.Rewritten
      (first.objects.filter (selects descriptor kind inNamespace selector))
      (second.objects.filter (selects descriptor kind inNamespace selector)) := by
    apply List.rel_filter _ h.objects
    intro one other ho
    simp only [ho.selects]
  exact List.rel_map (fun _ _ ho => ho.document) hfiltered

theorem Rewritten.getDocument (h : first.Rewritten second) (descriptor : Descriptor)
    (kind inNamespace name : String) :
    Results.Like Document.Rewritten (first.getDocument descriptor kind inNamespace name)
      (second.getDocument descriptor kind inNamespace name) := by
  unfold ObjectStore.getDocument
  have hfind := h.find? descriptor.group kind (placeOf descriptor inNamespace) name
  generalize first.find? descriptor.group kind (placeOf descriptor inNamespace) name = one at hfind
  generalize second.find? descriptor.group kind (placeOf descriptor inNamespace) name = other at hfind
  cases hfind with
  | some ho => exact .ok ho.document
  | none => exact .error _

theorem Rewritten.counted (h : first.Rewritten second) (operation : Operation) :
    (first.counted operation).Rewritten (second.counted operation) :=
  ⟨h.types, h.objects, h.outages, congrArg (List.cons operation) h.calls⟩

/-- Outages do not depend on the objects. -/
theorem Rewritten.outage? (h : first.Rewritten second) (operation : Operation) :
    second.outage? operation = first.outage? operation := by
  unfold ObjectStore.outage?
  rw [h.outages, h.calls]

/-- A call comes out alike if what it answers is alike in clusters with other bodies. -/
theorem carries_call {α : Type} {V : α → α → Prop} {answer : ObjectStore → Except Failure α}
    (operation : Operation) (h : ∀ first second : ObjectStore, first.Rewritten second →
      Results.Like V (answer first) (answer second)) :
    (call operation answer).Carries Likeness.bodies V := by
  intro first second hw
  have hcounted := Rewritten.counted hw operation
  cases ho : (first.counted operation).outage? operation with
  | some failure =>
    rw [call_of_outage ho, call_of_outage ((hcounted.outage? operation).trans ho)]
    exact ⟨.error failure, hcounted, .nil⟩
  | none =>
    rw [call_of_no_outage ho, call_of_no_outage ((hcounted.outage? operation).trans ho)]
    exact ⟨h _ _ hcounted, hcounted, .nil⟩

theorem carries_client : client.Carries Likeness.bodies := by
  constructor
  · intro type
    simp only [client]
    apply carries_call .discover
    intro first second hw
    rw [hw.resolve]
    exact Results.Like.refl (fun _ => rfl) _
  · intro descriptor kind inNamespace name
    simp only [client]
    apply carries_call .get
    intro first second hw
    exact hw.getDocument descriptor kind inNamespace name
  · intro descriptor kind inNamespace selector
    simp only [client]
    apply carries_call .list
    intro first second hw
    exact .ok (hw.select descriptor kind inNamespace selector)

/-- What the registry shows of one object, which is nothing but null when there is no such object. -/
theorem Rewritten.shown (h : first.Rewritten second) (group kind inNamespace name : String) :
    Document.Rewritten
      (((first.find? group kind inNamespace name).map (·.document)).getD .null)
      (((second.find? group kind inNamespace name).map (·.document)).getD .null) := by
  have hfind := h.find? group kind inNamespace name
  generalize first.find? group kind inNamespace name = one at hfind
  generalize second.find? group kind inNamespace name = other at hfind
  cases hfind with
  | some ho => exact ho.document
  | none => exact .inl rfl

theorem carries_registry : registry.Carries Likeness.bodies := by
  constructor
  · intro type
    simp only [registry]
    apply carries_call .resolveType
    intro first second hw
    rw [hw.resolve]
    exact Results.Like.refl (fun _ => rfl) _
  · intro watcher type inNamespace name
    simp only [registry]
    apply carries_call .registryGet
    intro first second hw
    rw [hw.resolve]
    cases first.resolve type with
    | error failure => exact .error failure
    | ok descriptor => exact .ok (hw.shown type.group type.kind (placeOf descriptor inNamespace) name)
  · intro watcher type inNamespace selector
    simp only [registry]
    apply carries_call .registryList
    intro first second hw
    rw [hw.resolve]
    cases first.resolve type with
    | error failure => exact .error failure
    | ok descriptor => exact .ok (hw.select descriptor type.kind inNamespace selector)

theorem carries_collaborators : collaborators.Carries Likeness.bodies where
  client := carries_client
  registry live hr := by
    cases hr
    exact carries_registry

end ObjectStore

/-! ## Runs -/

theorem Session.Like.flag? {σ : Type} {likeness : Likeness σ} {first second : Session σ}
    (h : first.Like likeness second) (name : String) : second.flag? name = first.flag? name := by
  unfold Session.flag?
  have hmembers := h.members name
  generalize first.member? name = one at hmembers
  generalize second.member? name = other at hmembers
  cases hmembers with
  | some hm => exact congrArg some (h.isSensitive hm.place)
  | none => rfl

theorem Session.Like.cache {σ : Type} {likeness : Likeness σ} {first second : Session σ}
    (h : first.Like likeness second) (name : String) :
    Option.Rel (AnswerCache.Like likeness.documents) ((first.member? name).map Member.cache)
      ((second.member? name).map Member.cache) := by
  have hmembers := h.members name
  generalize first.member? name = one at hmembers
  generalize second.member? name = other at hmembers
  cases hmembers with
  | some hm => exact .some hm.cache
  | none => exact .none

/-- What is picked out of entries that are alike, if it does not tell these apart, is the same. -/
theorem filterMap_eq_of_like {α : Type} {R : Document → Document → Prop} {pick : Entry → Option α}
    (hpick : ∀ one other : Entry, one.Like R other → pick other = pick one) {first second : Journal}
    (h : List.Forall₂ (Entry.Like R) first second) : second.filterMap pick = first.filterMap pick := by
  induction h with
  | nil => rfl
  | cons he _ ih => rw [List.filterMap_cons, List.filterMap_cons, hpick _ _ he, ih]

theorem Event.Like.differInBodies {first second : Event ObjectStore}
    (h : first.Like .bodies second) : first.DifferInBodies second := by
  have hjournal : List.Forall₂ (Entry.Like Document.Rewritten) first.report.journal
      second.report.journal := by
    have hcompared := h.report.journal
    simpa [Likeness.Journals, Likeness.bodies] using hcompared
  refine ⟨h.step, h.report.result, hjournal, ?_, ?_, h.after.flag?, h.after.cache⟩
  · exact filterMap_eq_of_like (fun _ _ he => by cases he <;> rfl) hjournal
  · exact filterMap_eq_of_like (fun _ _ he => by cases he <;> rfl) hjournal

/-- Sessions over clusters in memory that hold the same objects with other bodies go alike, step by step,
up to the bodies that they answer and remember. -/
theorem bodies_unseen {first second : ObjectStore} (h : first.Rewritten second)
    (settings : LookupSettings) {steps : List (Step ObjectStore)}
    (hs : ∀ step ∈ steps, step.Carries .bodies) :
    List.Forall₂ Event.DifferInBodies
      ((Session.start settings first).trace ObjectStore.collaborators steps)
      ((Session.start settings second).trace ObjectStore.collaborators steps) := by
  have hevents := (Session.like_start settings h).trace ObjectStore.carries_collaborators
    (Session.each_start _ settings first) hs
  exact hevents.imp fun _ _ he => he.differInBodies

/-- The small cluster with a secret in its token. -/
def secretStore : ObjectStore :=
  { smallStore with
    objects := [⟨"", "Secret", "team-a", "token", [], .object [("data", .text "hunter2")]⟩]
    outages := [⟨.list, some 1, .system .timeout ""⟩] }

/-- The same with nothing in the token. -/
def blankStore : ObjectStore :=
  { secretStore with objects := smallStore.objects }

/-- Lookups on both paths: a token that is there, a key that is missing, and a list that fails once. -/
def mixedSteps : List (Step ObjectStore) :=
  [.create "page" ⟨.unrestricted, none⟩ none,
    .create "live" ⟨⟨"team-a", []⟩, some default⟩ (some "common"),
    .lookup "page" .lenient (secretLookup "token"), .lookup "live" .strict (secretLookup "token"),
    .lookup "page" .strict (secretLookup "key"), .lookup "live" .lenient (secretLookup "key"),
    .lookup "page" .lenient (secretLookup ""), .lookup "page" .lenient (secretLookup ""),
    .lookup "live" .lenient (secretLookup ""), .lookup "page" .lenient (secretLookup "token")]

theorem bodies_unseen_token :
    secretStore.Rewritten blankStore ∧ (∀ step ∈ mixedSteps, step.Carries .bodies) ∧
      List.Forall₂ Event.DifferInBodies
        ((Session.start .standard secretStore).trace ObjectStore.collaborators mixedSteps)
        ((Session.start .standard blankStore).trace ObjectStore.collaborators mixedSteps) := by
  have h : secretStore.Rewritten blankStore :=
    ⟨rfl, .cons ⟨rfl, rfl, rfl⟩ .nil, rfl, rfl⟩
  have hs : ∀ step ∈ mixedSteps, step.Carries .bodies := by
    simp [mixedSteps, Step.Carries]
  exact ⟨h, hs, bodies_unseen h .standard hs⟩

end ClusterLookup
