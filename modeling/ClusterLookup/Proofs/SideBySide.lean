import ClusterLookup.Proofs.Sensitivity
import Mathlib.Data.List.Forall2

/-!
# Lookups side by side

Two runs of one lookup, from contexts that need not be the same. A likeness says how they are compared:
which states of the collaborators belong together, which documents may stand for each other, and which
entries of a journal are looked at. Collaborators that carry a likeness over from their states to their
answers carry it over to whole lookups, since no stage of a lookup looks into a document.
-/

namespace ClusterLookup

/-! ## What is compared -/

/-- Whether two attempts succeed with related values, or fail with one failure. -/
inductive Results.Like {α : Type} (R : α → α → Prop) : Except Failure α → Except Failure α → Prop
  | ok {first second : α} (h : R first second) : Like R (.ok first) (.ok second)
  | error (failure : Failure) : Like R (.error failure) (.error failure)

/-- Whether two answers are of one shape, with related documents in it. -/
inductive Answer.Like (R : Document → Document → Prop) : Answer → Answer → Prop
  | absent : Like R .absent .absent
  | document {first second : Document} (h : R first second) :
      Like R (.document first) (.document second)
  | items {first second : List Document} (h : List.Forall₂ R first second) :
      Like R (.items first) (.items second)

/-- Whether two entries are one, or one call to a collaborator with answers that are alike. -/
inductive Entry.Like (R : Document → Document → Prop) : Entry → Entry → Prop
  | same (entry : Entry) : Like R entry entry
  | get (descriptor : Descriptor) (kind inNamespace name : String)
      {first second : Except Failure Document} (h : Results.Like R first second) :
      Like R (.client (.get descriptor kind inNamespace name first))
        (.client (.get descriptor kind inNamespace name second))
  | list (descriptor : Descriptor) (kind inNamespace selector : String)
      {first second : Except Failure (List Document)}
      (h : Results.Like (List.Forall₂ R) first second) :
      Like R (.client (.list descriptor kind inNamespace selector first))
        (.client (.list descriptor kind inNamespace selector second))
  | registryGet (watcher : Identity) (type : GroupVersionKind) (inNamespace name : String)
      {first second : Except Failure Document} (h : Results.Like R first second) :
      Like R (.registry (.get watcher type inNamespace name first))
        (.registry (.get watcher type inNamespace name second))
  | registryList (watcher : Identity) (type : GroupVersionKind) (inNamespace selector : String)
      {first second : Except Failure (List Document)}
      (h : Results.Like (List.Forall₂ R) first second) :
      Like R (.registry (.list watcher type inNamespace selector first))
        (.registry (.list watcher type inNamespace selector second))

/-- Whether two caches hold answers to the same questions, with related documents. -/
structure AnswerCache.Like (R : Document → Document → Prop) (first second : AnswerCache) : Prop where
  answers : List.Forall₂ (fun one other => other.1 = one.1 ∧ List.Forall₂ R one.2 other.2)
    first.answers second.answers
  descriptors : second.descriptors = first.descriptors

/-- Whether two actions come out alike, in what they answer, leave behind and enter. -/
structure Outcome.Like {ε σ α : Type} (V : α → α → Prop) (S : σ → σ → Prop)
    (J : List ε → List ε → Prop) (first second : Outcome ε σ α) : Prop where
  result : Results.Like V first.result second.result
  state : S first.state second.state
  journal : J first.journal second.journal

/-- How two runs are compared. Documents that stand for each other are answers of one shape, and whether
an entry is looked at is not for the documents in it to decide. -/
structure Likeness (σ : Type) where
  worlds : σ → σ → Prop
  documents : Document → Document → Prop
  compared : Entry → Bool
  refl : ∀ document, documents document document
  answers : ∀ {first second}, documents first second →
    (Answer.ofDocument first).Like documents (Answer.ofDocument second)
  compared_eq : ∀ {first second}, Entry.Like documents first second →
    compared second = compared first

namespace Likeness
variable {σ : Type}

def Journals (likeness : Likeness σ) (first second : Journal) : Prop :=
  List.Forall₂ (Entry.Like likeness.documents) (first.filter likeness.compared)
    (second.filter likeness.compared)

def Notices (likeness : Likeness σ) (first second : List Notice) : Prop :=
  likeness.Journals (first.map Notice.entry) (second.map Notice.entry)

/-- Contexts that are alike up to the flag, which nothing in a lookup reads. -/
structure Contexts (likeness : Likeness σ) (first second : Context σ) : Prop where
  cache : first.cache.Like likeness.documents second.cache
  world : likeness.worlds first.world second.world

end Likeness

/-- Whether a call comes out alike in states that belong together. -/
def Action.Carries {σ α : Type} (likeness : Likeness σ) (V : α → α → Prop)
    (call : Action Notice σ α) : Prop :=
  ∀ first second, likeness.worlds first second →
    (call first).Like V likeness.worlds likeness.Notices (call second)

structure ClusterClient.Carries {σ : Type} (likeness : Likeness σ) (client : ClusterClient σ) : Prop
    where
  discover : ∀ type, (client.discover type).Carries likeness Eq
  get : ∀ descriptor kind inNamespace name,
    (client.get descriptor kind inNamespace name).Carries likeness likeness.documents
  list : ∀ descriptor kind inNamespace selector,
    (client.list descriptor kind inNamespace selector).Carries likeness
      (List.Forall₂ likeness.documents)

structure Registry.Carries {σ : Type} (likeness : Likeness σ) (registry : Registry σ) : Prop where
  resolveType : ∀ type, (registry.resolveType type).Carries likeness Eq
  get : ∀ watcher type inNamespace name,
    (registry.get watcher type inNamespace name).Carries likeness likeness.documents
  list : ∀ watcher type inNamespace selector,
    (registry.list watcher type inNamespace selector).Carries likeness
      (List.Forall₂ likeness.documents)

def Source.Carries {σ : Type} (likeness : Likeness σ) : Source σ → Prop
  | .cluster client => client.Carries likeness
  | .registry live _ => live.Carries likeness

structure Collaborators.Carries {σ : Type} (likeness : Likeness σ) (collaborators : Collaborators σ) :
    Prop where
  client : collaborators.client.Carries likeness
  registry : ∀ registry, collaborators.registry = some registry → registry.Carries likeness

/-- Every evaluation that such collaborators make reads from a source that carries the likeness. -/
theorem Collaborators.Carries.evaluation {σ : Type} {likeness : Likeness σ}
    {collaborators : Collaborators σ} (h : collaborators.Carries likeness) {settings : LookupSettings}
    {options : Options} {evaluation : Evaluation σ}
    (he : collaborators.evaluation settings options = .ok evaluation) :
    evaluation.source.Carries likeness := by
  cases Collaborators.makes_of_evaluation he with
  | unwatched policy => exact h.client
  | watched policy watcher hr => exact h.registry _ hr

/-! ## Results, answers and journals that are alike -/

namespace Results
variable {α β : Type} {R : α → α → Prop} {S : β → β → Prop} {first second : Except Failure α}

theorem Like.refl (hR : ∀ a, R a a) : ∀ result : Except Failure α, Like R result result
  | .ok a => .ok (hR a)
  | .error failure => .error failure

theorem Like.imp {R' : α → α → Prop} (h : Like R first second) (hR : ∀ a b, R a b → R' a b) :
    Like R' first second := by
  cases h with
  | ok h => exact .ok (hR _ _ h)
  | error failure => exact .error failure

theorem Like.map (h : Like R first second) {f : α → β} (hf : ∀ a b, R a b → S (f a) (f b)) :
    Like S (first.map f) (second.map f) := by
  cases h with
  | ok h => exact .ok (hf _ _ h)
  | error failure => exact .error failure

theorem Like.mapError (h : Like R first second) (f : Failure → Failure) :
    Like R (first.mapError f) (second.mapError f) := by
  cases h with
  | ok h => exact .ok h
  | error failure => exact .error (f failure)

theorem Like.bind (h : Like R first second) {f : α → Except Failure β}
    (hf : ∀ a b, R a b → Like S (f a) (f b)) : Like S (first.bind f) (second.bind f) := by
  cases h with
  | ok h => exact hf _ _ h
  | error failure => exact .error failure

theorem Like.toOption (h : Like R first second) : Option.Rel R first.toOption second.toOption := by
  cases h with
  | ok h => exact .some h
  | error failure => exact .none

theorem like_eq_iff : Like Eq first second ↔ second = first := by
  constructor
  · intro h
    cases h with
    | ok h => rw [h]
    | error failure => rfl
  · rintro rfl
    exact Like.refl (fun _ => rfl) second

end Results

/-- A document is null exactly when it is the answer for nothing. -/
theorem Document.isNull_eq_not_isPresent (document : Document) :
    document.isNull = !(Answer.ofDocument document).isPresent := by
  cases document <;> rfl

namespace Answer
variable {R : Document → Document → Prop} {first second : Answer}

theorem Like.refl (hR : ∀ document, R document document) : ∀ answer : Answer, answer.Like R answer
  | .absent => .absent
  | .document value => .document (hR value)
  | .items _ => .items (List.forall₂_same.mpr fun value _ => hR value)

theorem Like.ending (h : first.Like R second) (isList : Bool) :
    second.ending isList = first.ending isList := by
  cases h with
  | absent => rfl
  | document h => rfl
  | items h =>
    cases h with
    | nil => rfl
    | cons h hs => rfl

theorem Like.isPresent (h : first.Like R second) : second.isPresent = first.isPresent := by
  cases h <;> rfl

theorem like_eq_iff : first.Like Eq second ↔ second = first := by
  constructor
  · intro h
    cases h with
    | absent => rfl
    | document h => rw [h]
    | items h => rw [List.forall₂_eq_eq_eq] at h; rw [h]
  · rintro rfl
    exact Like.refl (fun _ => rfl) second

end Answer

theorem Entry.like_eq_iff {first second : Entry} : first.Like Eq second ↔ second = first := by
  constructor
  · intro h
    cases h with
    | same entry => rfl
    | get _ _ _ _ h => rw [Results.like_eq_iff.mp h]
    | list _ _ _ _ h => rw [List.forall₂_eq_eq_eq] at h; rw [Results.like_eq_iff.mp h]
    | registryGet _ _ _ _ h => rw [Results.like_eq_iff.mp h]
    | registryList _ _ _ _ h => rw [List.forall₂_eq_eq_eq] at h; rw [Results.like_eq_iff.mp h]
  · rintro rfl
    exact .same second

namespace Likeness
variable {σ : Type} {likeness : Likeness σ} {first second first' second' : Journal}

theorem journals_refl (likeness : Likeness σ) (journal : Journal) :
    likeness.Journals journal journal :=
  List.forall₂_same.mpr fun entry _ => .same entry

theorem Journals.append (h : likeness.Journals first second)
    (h' : likeness.Journals first' second') :
    likeness.Journals (first ++ first') (second ++ second') := by
  unfold Journals
  rw [List.filter_append, List.filter_append]
  exact List.rel_append h h'

theorem journals_singleton {entry entry' : Entry} (h : entry.Like likeness.documents entry') :
    likeness.Journals [entry] [entry'] := by
  unfold Journals
  rw [List.filter_singleton, List.filter_singleton, likeness.compared_eq h]
  cases likeness.compared entry with
  | true => exact .cons h .nil
  | false => exact .nil

end Likeness

/-! ## Caches that are alike -/

section Entries
variable {κ α : Type} [DecidableEq κ] {R : α → α → Prop} {first second : List (κ × α)}

theorem valueOf?_like (h : List.Forall₂ (fun one other => other.1 = one.1 ∧ R one.2 other.2)
    first second) (key : κ) : Option.Rel R (valueOf? key first) (valueOf? key second) := by
  induction h with
  | nil => exact .none
  | @cons one other first second ha _ ih =>
    obtain ⟨k, a⟩ := one
    obtain ⟨k', b⟩ := other
    obtain ⟨heq, hR⟩ := ha
    change k' = k at heq
    subst heq
    by_cases hk : k' = key
    · simpa [valueOf?, hk] using Option.Rel.some hR
    · simpa [valueOf?, hk] using ih

theorem addEntry_like (h : List.Forall₂ (fun one other => other.1 = one.1 ∧ R one.2 other.2)
    first second) (key : κ) {a b : α} (hR : R a b) :
    List.Forall₂ (fun one other => other.1 = one.1 ∧ R one.2 other.2)
      (addEntry key a first) (addEntry key b second) := by
  have hvalue := valueOf?_like h key
  unfold addEntry
  cases hf : valueOf? key first with
  | none =>
    rw [hf] at hvalue
    generalize valueOf? key second = found at hvalue
    cases hvalue
    exact List.rel_append h (.cons ⟨rfl, hR⟩ .nil)
  | some a' =>
    rw [hf] at hvalue
    generalize valueOf? key second = found at hvalue
    cases hvalue
    exact h

end Entries

namespace AnswerCache
variable {R : Document → Document → Prop} {first second : AnswerCache}

theorem Like.refl (hR : ∀ document, R document document) (cache : AnswerCache) :
    cache.Like R cache where
  answers := List.forall₂_same.mpr fun _ _ => ⟨rfl, List.forall₂_same.mpr fun document _ => hR document⟩
  descriptors := rfl

theorem Like.find? (h : first.Like R second) (identity : Identity) :
    Option.Rel (List.Forall₂ R) (first.find? identity) (second.find? identity) :=
  valueOf?_like h.answers identity

theorem Like.descriptor? (h : first.Like R second) (type : GroupVersionKind) :
    second.descriptor? type = first.descriptor? type := by
  unfold AnswerCache.descriptor?
  rw [h.descriptors]

theorem Like.store (h : first.Like R second) (identity : Identity) {one other : List Document}
    (hd : List.Forall₂ R one other) : (first.store identity one).Like R (second.store identity other)
    where
  answers := addEntry_like h.answers identity hd
  descriptors := h.descriptors

theorem Like.storeDescriptor (h : first.Like R second) (type : GroupVersionKind)
    (descriptor : Descriptor) :
    (first.storeDescriptor type descriptor).Like R (second.storeDescriptor type descriptor) where
  answers := h.answers
  descriptors := congrArg (addEntry type descriptor) h.descriptors

theorem Like.learn (h : first.Like R second) (identity : Identity) {one other : Option (List Document)}
    (hd : Option.Rel (List.Forall₂ R) one other) :
    (first.learn identity one).Like R (second.learn identity other) := by
  cases hd with
  | some hd => exact h.store identity hd
  | none => exact h

theorem Like.learnType (h : first.Like R second) (type : GroupVersionKind)
    (answer : Except Failure Descriptor) :
    (first.learnType type answer).Like R (second.learnType type answer) := by
  cases answer with
  | ok descriptor => exact h.storeDescriptor type descriptor
  | error failure => exact h

theorem like_eq_iff : first.Like Eq second ↔ second = first := by
  constructor
  · intro h
    have hanswers : List.Forall₂ Eq first.answers second.answers := by
      refine h.answers.imp fun one other heq => ?_
      rw [List.forall₂_eq_eq_eq] at heq
      exact Prod.ext heq.1.symm heq.2
    rw [List.forall₂_eq_eq_eq] at hanswers
    obtain ⟨answers, descriptors⟩ := first
    exact congrArg₂ AnswerCache.mk hanswers.symm h.descriptors
  · rintro rfl
    exact Like.refl (fun _ => rfl) second

end AnswerCache

/-! ## Lookups -/

section Lookups
variable {σ : Type} {likeness : Likeness σ} {source : Source σ} {first second : Context σ}

namespace Lookup

theorem probeEntries_eq {R : Document → Document → Prop} {one other : Option (List Document)}
    (h : Option.Rel (List.Forall₂ R) one other) (identity : Identity) :
    probeEntries identity other = probeEntries identity one := by
  cases h with
  | none => rfl
  | some h => simp only [probeEntries, rememberedRecord, h.length_eq, Option.isSome_some]

theorem recalled_like {one other : List Document} (h : List.Forall₂ likeness.documents one other)
    (identity : Identity) :
    (recalled identity one).Like likeness.documents (recalled identity other) := by
  unfold recalled
  split
  · exact .items h
  · apply likeness.answers
    cases h with
    | nil => exact likeness.refl .null
    | cons h _ => exact h

theorem lesson_like {R : Document → Document → Prop} {one other : Except Failure Document}
    (h : Results.Like R one other) : Option.Rel (List.Forall₂ R) (lesson one) (lesson other) := by
  cases h with
  | ok h => exact .some (.cons h .nil)
  | error failure =>
    simp only [lesson]
    split
    · exact .some .nil
    · exact .none

theorem absenceEntries_eq {R : Document → Document → Prop} {one other : Except Failure Document}
    (h : Results.Like R one other) (identity : Identity) :
    absenceEntries identity other = absenceEntries identity one := by
  cases h <;> rfl

/-- Documents that are alike are both null or neither of them is. -/
theorem present_like {one other : Document} (h : likeness.documents one other) (identity : Identity)
    (descriptor : Descriptor) :
    Results.Like (Answer.Like likeness.documents) (present identity descriptor one)
      (present identity descriptor other) := by
  have hanswers := likeness.answers h
  have hnull : other.isNull = one.isNull := by
    rw [Document.isNull_eq_not_isPresent, Document.isNull_eq_not_isPresent, hanswers.isPresent]
  unfold present
  rw [hnull]
  split
  · exact .error _
  · exact .ok hanswers

theorem resolveType_like (h : source.Carries likeness) (hc : likeness.Contexts first second)
    (type : GroupVersionKind) :
    (resolveType source type first).Like Eq likeness.Contexts likeness.Journals
      (resolveType source type second) := by
  cases source with
  | cluster client =>
    have hdescriptor := hc.cache.descriptor? type
    cases hd : first.cache.descriptor? type with
    | some descriptor =>
      rw [resolveType_of_remembered hd, resolveType_of_remembered (hdescriptor.trans hd)]
      exact ⟨.ok rfl, hc, .nil⟩
    | none =>
      rw [resolveType_of_unknown hd, resolveType_of_unknown (hdescriptor.trans hd)]
      have hasked := h.discover type _ _ hc.world
      have hresult := Results.like_eq_iff.mp hasked.result
      simp only [hresult]
      exact ⟨Results.Like.refl (fun _ => rfl) _, ⟨hc.cache.learnType type _, hasked.state⟩,
        hasked.journal.append (Likeness.journals_refl likeness _)⟩
  | registry live watcher =>
    rw [resolveType_registry, resolveType_registry]
    have hasked := h.resolveType type _ _ hc.world
    have hresult := Results.like_eq_iff.mp hasked.result
    simp only [hresult]
    exact ⟨Results.Like.refl (fun _ => rfl) _, ⟨hc.cache, hasked.state⟩,
      hasked.journal.append (Likeness.journals_refl likeness _)⟩

theorem readAnswer_cluster_like {client : ClusterClient σ} (h : client.Carries likeness)
    (hc : likeness.Contexts first second) (identity : Identity) (descriptor : Descriptor) :
    (readAnswer (.cluster client) identity descriptor first).Like (Answer.Like likeness.documents)
      likeness.Contexts likeness.Journals
      (readAnswer (.cluster client) identity descriptor second) := by
  have hfind := hc.cache.find? identity
  have hprobe := probeEntries_eq hfind identity
  generalize hf : first.cache.find? identity = one at hfind hprobe
  generalize hs : second.cache.find? identity = other at hfind hprobe
  cases hfind with
  | @some remembered remembered' hdocuments =>
    rw [readAnswer_of_remembered hf, readAnswer_of_remembered hs, hprobe]
    exact ⟨.ok (recalled_like hdocuments identity), hc, Likeness.journals_refl likeness _⟩
  | none =>
    cases hl : identity.isList with
    | true =>
      rw [readAnswer_list hl hf, readAnswer_list hl hs]
      have hasked := h.list descriptor identity.type.kind identity.inNamespace identity.selector _ _
        hc.world
      exact ⟨hasked.result.map fun _ _ => .items,
        ⟨hc.cache.learn identity hasked.result.toOption, hasked.state⟩,
        (Likeness.journals_refl likeness _).append
          (hasked.journal.append (Likeness.journals_singleton (.list _ _ _ _ hasked.result)))⟩
    | false =>
      rw [readAnswer_get hl hf, readAnswer_get hl hs]
      have hasked := h.get descriptor identity.type.kind identity.inNamespace identity.name _ _
        hc.world
      refine ⟨hasked.result.map fun _ _ => likeness.answers,
        ⟨hc.cache.learn identity (lesson_like hasked.result), hasked.state⟩, ?_⟩
      simp only [absenceEntries_eq hasked.result]
      exact (Likeness.journals_refl likeness _).append
        ((hasked.journal.append (Likeness.journals_singleton (.get _ _ _ _ hasked.result))).append
          (Likeness.journals_refl likeness _))

theorem readAnswer_registry_like {registry : Registry σ} (h : registry.Carries likeness)
    (hc : likeness.Contexts first second) (watcher identity : Identity) (descriptor : Descriptor) :
    (readAnswer (.registry registry watcher) identity descriptor first).Like
      (Answer.Like likeness.documents) likeness.Contexts likeness.Journals
      (readAnswer (.registry registry watcher) identity descriptor second) := by
  cases hl : identity.isList with
  | true =>
    rw [readAnswer_registry_list hl, readAnswer_registry_list hl]
    have hasked := h.list watcher identity.type identity.inNamespace identity.selector _ _ hc.world
    exact ⟨(hasked.result.mapError _).map fun _ _ => .items, ⟨hc.cache, hasked.state⟩,
      hasked.journal.append (Likeness.journals_singleton (.registryList _ _ _ _ hasked.result))⟩
  | false =>
    rw [readAnswer_registry_get hl, readAnswer_registry_get hl]
    have hasked := h.get watcher identity.type identity.inNamespace identity.name _ _ hc.world
    exact ⟨(hasked.result.mapError _).bind fun _ _ hd => present_like hd identity descriptor,
      ⟨hc.cache, hasked.state⟩,
      hasked.journal.append (Likeness.journals_singleton (.registryGet _ _ _ _ hasked.result))⟩

theorem readAnswer_like (h : source.Carries likeness) (hc : likeness.Contexts first second)
    (identity : Identity) (descriptor : Descriptor) :
    (readAnswer source identity descriptor first).Like (Answer.Like likeness.documents)
      likeness.Contexts likeness.Journals (readAnswer source identity descriptor second) := by
  cases source with
  | cluster client => exact readAnswer_cluster_like h hc identity descriptor
  | registry live watcher => exact readAnswer_registry_like h hc watcher identity descriptor

theorem marks_like {R : Document → Document → Prop} {one other : Except Failure Answer}
    (h : Results.Like (Answer.Like R) one other) (evaluation : Evaluation σ) (identity : Identity) :
    marks evaluation identity other = marks evaluation identity one := by
  cases h with
  | ok h => simp only [marks, h.ending]
  | error failure => rfl

end Lookup

namespace Evaluation
variable {evaluation : Evaluation σ} {one other : Except Failure Answer}
variable {R : Document → Document → Prop}

theorem lenient_like (h : Results.Like (Answer.Like R) one other) :
    Results.Like (Answer.Like R) (lenient one) (lenient other) := by
  cases h with
  | ok h => exact .ok h
  | error failure =>
    simp only [lenient]
    split
    · exact .ok .absent
    · exact .error failure

theorem closingEntries_like (h : Results.Like (Answer.Like R) one other) (evaluation : Evaluation σ)
    (arguments : Arguments) :
    closingEntries evaluation arguments other = closingEntries evaluation arguments one := by
  cases h with
  | ok h => simp only [closingEntries, h.ending, h.isPresent]
  | error failure => rfl

theorem flags_like (h : Results.Like (Answer.Like R) one other) (evaluation : Evaluation σ)
    (arguments : Arguments) : evaluation.flags arguments other = evaluation.flags arguments one := by
  unfold flags
  cases arguments.identity evaluation.policy with
  | ok identity => exact Lookup.marks_like h evaluation identity
  | error failure => rfl

theorem answer_like (h : evaluation.source.Carries likeness) (hc : likeness.Contexts first second)
    (identity : Identity) :
    (evaluation.answer identity first).Like (Answer.Like likeness.documents) likeness.Contexts
      likeness.Journals (evaluation.answer identity second) := by
  have hresolved := Lookup.resolveType_like h hc identity.type
  have hresult := Results.like_eq_iff.mp hresolved.result
  cases ht : (Lookup.resolveType evaluation.source identity.type first).result with
  | error failure =>
    rw [answer_of_unresolved ht, answer_of_unresolved (hresult.trans ht)]
    exact ⟨.error failure, hresolved.state, hresolved.journal⟩
  | ok descriptor =>
    cases ha : evaluation.policy.admits descriptor identity.type.kind identity.name with
    | false =>
      rw [answer_of_refused ht ha, answer_of_refused (hresult.trans ht) ha]
      exact ⟨.error _, hresolved.state,
        hresolved.journal.append (Likeness.journals_refl likeness _)⟩
    | true =>
      rw [answer_of_admitted ht ha, answer_of_admitted (hresult.trans ht) ha]
      have hread := Lookup.readAnswer_like h hresolved.state identity descriptor
      exact ⟨hread.result, ⟨hread.state.cache, hread.state.world⟩,
        hresolved.journal.append hread.journal⟩

theorem lookupStrict_like (h : evaluation.source.Carries likeness)
    (hc : likeness.Contexts first second) (arguments : Arguments) :
    (evaluation.lookupStrict arguments first).Like (Answer.Like likeness.documents) likeness.Contexts
      likeness.Journals (evaluation.lookupStrict arguments second) := by
  cases hi : arguments.identity evaluation.policy with
  | error failure =>
    rw [lookupStrict_of_invalid hi, lookupStrict_of_invalid hi]
    exact ⟨.error failure, hc, Likeness.journals_refl likeness _⟩
  | ok identity =>
    rw [lookupStrict_of_valid hi, lookupStrict_of_valid hi]
    exact answer_like h hc identity

/-- What carries a likeness over from the collaborators to their answers makes lookups go alike. -/
theorem perform_like (h : evaluation.source.Carries likeness) (hc : likeness.Contexts first second)
    (arguments : Arguments) (strictness : Strictness) :
    (evaluation.perform arguments strictness first).Like (Answer.Like likeness.documents)
      likeness.Contexts likeness.Journals (evaluation.perform arguments strictness second) := by
  have hstrict := lookupStrict_like h hc arguments
  cases strictness with
  | strict => exact hstrict
  | lenient =>
    simp only [perform, lookup_eq, closingEntries_like hstrict.result]
    exact ⟨lenient_like hstrict.result, hstrict.state,
      (Likeness.journals_refl likeness [_]).append
        (hstrict.journal.append (Likeness.journals_refl likeness _))⟩

end Evaluation

end Lookups

/-! ## Sessions -/

/-- Whether two members are one evaluation with caches that are alike, and note sensitive data in one
place. -/
structure Member.Like {σ : Type} (R : Document → Document → Prop) (first second : Member σ) : Prop where
  evaluation : second.evaluation = first.evaluation
  place : second.place = first.place
  cache : first.cache.Like R second.cache

structure Session.Like {σ : Type} (likeness : Likeness σ) (first second : Session σ) : Prop where
  settings : second.settings = first.settings
  made : second.made = first.made
  sensitive : second.sensitive = first.sensitive
  members : ∀ name, Option.Rel (Member.Like likeness.documents) (first.member? name)
    (second.member? name)
  world : likeness.worlds first.world second.world

structure Report.Like {σ : Type} (likeness : Likeness σ) (first second : Report) : Prop where
  result : Results.Like (Option.Rel (Answer.Like likeness.documents)) first.result second.result
  journal : likeness.Journals first.journal second.journal

structure Event.Like {σ : Type} (likeness : Likeness σ) (first second : Event σ) : Prop where
  step : second.step = first.step
  report : first.report.Like likeness second.report
  after : first.after.Like likeness second.after

/-- Whether a step that changes the collaborators takes states that belong together to such states. -/
def Step.Carries {σ : Type} (likeness : Likeness σ) : Step σ → Prop
  | .change f => ∀ first second, likeness.worlds first second → likeness.worlds (f first) (f second)
  | _ => True

namespace Session
variable {σ : Type} {likeness : Likeness σ} {collaborators : Collaborators σ}
variable {first second : Session σ}

theorem like_start (settings : LookupSettings) {one other : σ} (h : likeness.worlds one other) :
    (start settings one).Like likeness (start settings other) :=
  ⟨rfl, rfl, rfl, fun _ => .none, h⟩

theorem Like.isSensitive (h : first.Like likeness second) {one other : Member σ}
    (hp : other.place = one.place) : second.isSensitive other = first.isSensitive one := by
  unfold Session.isSensitive
  rw [h.sensitive, hp]

theorem Like.context (h : first.Like likeness second) {one other : Member σ}
    (hm : one.Like likeness.documents other) :
    likeness.Contexts (first.context one) (second.context other) :=
  ⟨hm.cache, h.world⟩

theorem Like.afterwards (h : first.Like likeness second) {name : String} {one other : Member σ}
    (hf : first.member? name = some one) (hs : second.member? name = some other)
    (hm : one.Like likeness.documents other) {context context' : Context σ}
    (hc : likeness.Contexts context context') (hflag : context'.sensitive = context.sensitive) :
    (first.afterwards name one context).Like likeness (second.afterwards name other context') where
  settings := h.settings
  made := h.made
  sensitive := by simp only [Session.afterwards, hflag, hm.place, h.sensitive]
  members asked := by
    by_cases ha : asked = name
    · subst ha
      rw [member?_afterwards_self hf, member?_afterwards_self hs]
      exact .some ⟨hm.evaluation, hm.place, hc.cache⟩
    · rw [member?_afterwards_of_ne ha, member?_afterwards_of_ne ha]
      exact h.members asked
  world := hc.world

/-- An evaluation does something in both sessions that comes out alike. -/
theorem Like.run {α : Type} (h : first.Like likeness second) (name : String)
    {x : Member σ → Lookup σ α} {V : α → α → Prop} {answer : α → Option Answer}
    (hanswer : ∀ a b, V a b → Option.Rel (Answer.Like likeness.documents) (answer a) (answer b))
    (hx : ∀ one other, first.member? name = some one → one.Like likeness.documents other →
      (x one (first.context one)).Like V likeness.Contexts likeness.Journals
          (x other (second.context other)) ∧
        (x other (second.context other)).state.sensitive =
          (x one (first.context one)).state.sensitive) :
    (first.run name x answer).2.Like likeness (second.run name x answer).2 ∧
      (first.run name x answer).1.Like likeness (second.run name x answer).1 := by
  unfold Session.run
  have hmembers := h.members name
  generalize hf : first.member? name = found at hmembers
  generalize hs : second.member? name = found' at hmembers
  cases hmembers with
  | none => exact ⟨⟨.error _, .nil⟩, h⟩
  | @some one other hm =>
    obtain ⟨hlike, hflag⟩ := hx one other hf hm
    exact ⟨⟨hlike.result.map hanswer, hlike.journal⟩, h.afterwards hf hs hm hlike.state hflag⟩

theorem Like.lookup (h : first.Like likeness second)
    (hr : first.Each fun evaluation _ _ => evaluation.source.Carries likeness) (name : String)
    (arguments : Arguments) (strictness : Strictness) :
    let x : Member σ → Lookup σ Answer := fun member => member.evaluation.perform arguments strictness
    (first.run name x some).2.Like likeness (second.run name x some).2 ∧
      (first.run name x some).1.Like likeness (second.run name x some).1 := by
  intro x
  apply h.run name (V := Answer.Like likeness.documents)
  · exact fun _ _ ha => .some ha
  · intro one other hf hm
    have hlike := Evaluation.perform_like (hr name one hf) (h.context hm) arguments strictness
    simp only [x, hm.evaluation]
    refine ⟨hlike, ?_⟩
    rw [Evaluation.sensitive_perform, Evaluation.sensitive_perform,
      Evaluation.flags_like hlike.result]
    exact congrArg (· || _) (h.isSensitive hm.place)

/-- An evaluation is written to in both sessions: its cache, its flag, or neither. -/
theorem Like.write (h : first.Like likeness second) (name : String) {cached : AnswerCache → AnswerCache}
    (hcached : ∀ one other : AnswerCache, one.Like likeness.documents other →
      (cached one).Like likeness.documents (cached other)) (flagged : Bool → Bool) :
    let x : Member σ → Lookup σ Unit := fun _ => Action.modify fun context =>
      ⟨cached context.cache, flagged context.sensitive, context.world⟩
    (first.run name x fun _ => none).2.Like likeness (second.run name x fun _ => none).2 ∧
      (first.run name x fun _ => none).1.Like likeness (second.run name x fun _ => none).1 := by
  intro x
  apply h.run name (V := fun _ _ => True)
  · exact fun _ _ _ => .none
  · intro one other _ hm
    exact ⟨⟨.ok trivial, ⟨hcached _ _ hm.cache, h.world⟩, .nil⟩,
      congrArg flagged (h.isSensitive hm.place)⟩

theorem Like.create (h : first.Like likeness second) (name : String) (options : Options)
    (place : Option String) :
    let one := first.create collaborators name options place
    let other := second.create collaborators name options place
    one.2.Like likeness other.2 ∧ one.1.Like likeness other.1 := by
  intro one other
  simp only [one, other, Session.create, h.settings, h.made]
  cases collaborators.evaluation first.settings options with
  | error failure => exact ⟨⟨.error failure, .nil⟩, h⟩
  | ok evaluation =>
    refine ⟨⟨.ok .none, .nil⟩, ⟨rfl, rfl, h.sensitive, ?_, h.world⟩⟩
    intro asked
    by_cases ha : name = asked
    · simpa [member?, valueOf?, ha] using
        Option.Rel.some ⟨rfl, rfl, AnswerCache.Like.refl likeness.refl .empty⟩
    · simpa [member?, valueOf?, ha] using h.members asked

theorem Like.step (h : first.Like likeness second)
    (hr : first.Each fun evaluation _ _ => evaluation.source.Carries likeness) {step : Step σ}
    (hs : step.Carries likeness) :
    (first.eventOf collaborators step).Like likeness (second.eventOf collaborators step) := by
  suffices hstep : (first.step collaborators step).2.Like likeness
      (second.step collaborators step).2 ∧
        (first.step collaborators step).1.Like likeness (second.step collaborators step).1 from
    ⟨rfl, hstep.1, hstep.2⟩
  cases step with
  | create name options place => exact h.create name options place
  | lookup name strictness arguments =>
    cases strictness with
    | lenient => exact h.lookup hr name arguments .lenient
    | strict => exact h.lookup hr name arguments .strict
  | store name identity documents =>
    exact h.write name (fun _ _ hl => hl.store identity (List.forall₂_same.mpr fun document _ =>
      likeness.refl document)) id
  | storeDescriptor name type descriptor =>
    exact h.write name (fun _ _ hl => hl.storeDescriptor type descriptor) id
  | mark name => exact h.write name (fun _ _ hl => hl) fun _ => true
  | change f =>
    exact ⟨⟨.ok .none, .nil⟩, h.settings, h.made, h.sensitive, h.members, hs _ _ h.world⟩
  | configure f =>
    exact ⟨⟨.ok .none, .nil⟩, congrArg f h.settings, h.made, h.sensitive, h.members, h.world⟩

/-- Runs of sessions that are alike go alike, step by step. -/
theorem Like.trace (h : first.Like likeness second) (hc : collaborators.Carries likeness)
    (hr : first.Each fun evaluation _ _ => evaluation.source.Carries likeness) {steps : List (Step σ)}
    (hs : ∀ step ∈ steps, step.Carries likeness) :
    List.Forall₂ (Event.Like likeness) (first.trace collaborators steps)
      (second.trace collaborators steps) := by
  induction steps generalizing first second with
  | nil => exact .nil
  | cons step steps ih =>
    have hevent : (first.eventOf collaborators step).Like likeness
        (second.eventOf collaborators step) := h.step hr (hs step List.mem_cons_self)
    refine .cons hevent (ih hevent.after ?_ ?_)
    · exact hr.step_evaluation (fun _ _ _ he => hc.evaluation he) step
    · intro other hmem
      exact hs other (List.mem_cons_of_mem step hmem)

end Session

end ClusterLookup
