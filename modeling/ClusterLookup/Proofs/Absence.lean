import ClusterLookup.Proofs.Stability
import ClusterLookup.Proofs.Transparency

/-!
# How a missing object shows

A strict lookup fails when it learns from its source that the object is missing. Through a cache this
happens once: the cache then holds that there is no such object, and the same lookup answers with
nothing. A strict lookup thus has no single outcome for a missing object; that it answers with nothing
says that the cache had been told before.
-/

namespace ClusterLookup

/-- Whether an entry is a call by which an object turns out to be missing. -/
def Entry.reportsMissing : Entry → Bool
  | .client (.get _ _ _ _ (.error failure)) => failure.isNotFound
  | .registry (.get _ _ _ _ (.ok document)) => document.isNull
  | _ => false

/-- Whether the cache of an evaluation holds that the object which arguments name is missing. -/
def Member.KnowsMissing {σ : Type} (member : Member σ) (arguments : Arguments) : Prop :=
  member.evaluation.path = .cacheFirst ∧
    ∃ identity, arguments.identity member.evaluation.policy = .ok identity ∧
      member.cache.find? identity = some []

/-- Whether a client answers with an object or not at all when it is asked for one. -/
def ClusterClient.GivesObjects {σ : Type} (client : ClusterClient σ) : Prop :=
  ∀ descriptor kind inNamespace name world document,
    (client.get descriptor kind inNamespace name world).result = .ok document →
      document.isObject = true

theorem Document.isNull_of_isObject {document : Document} (h : document.isObject = true) :
    document.isNull = false := by
  cases document with
  | null => cases h
  | _ => rfl

theorem Answer.ofDocument_ne_absent {document : Document} (h : document.isNull = false) :
    Answer.ofDocument document ≠ .absent := by
  cases document with
  | null => cases h
  | _ => simp [ofDocument]

/-! ## What a cache holds of objects -/

/-- Whether the entries of a cache are answers to questions that the evaluation was let ask, and those
of a name hold one document or none. -/
structure Evaluation.Kept {σ : Type} (evaluation : Evaluation σ) (cache : AnswerCache) : Prop where
  admitted : ∀ identity documents, cache.find? identity = some documents →
    ∃ descriptor, cache.descriptor? identity.type = some descriptor ∧
      evaluation.policy.admits descriptor identity.type.kind identity.name = true
  single : ∀ identity documents, cache.find? identity = some documents → identity.isList = false →
    documents = [] ∨ ∃ document, documents = [document] ∧ document.isNull = false

namespace Evaluation.Kept
variable {σ : Type} {evaluation : Evaluation σ} {cache : AnswerCache} {identity : Identity}

theorem empty (evaluation : Evaluation σ) : evaluation.Kept .empty where
  admitted identity documents h := by cases h
  single identity documents h := by cases h

theorem storeDescriptor (h : evaluation.Kept cache) (type : GroupVersionKind)
    (descriptor : Descriptor) : evaluation.Kept (cache.storeDescriptor type descriptor) where
  admitted identity documents hf := by
    obtain ⟨found, hd, ha⟩ := h.admitted identity documents hf
    exact ⟨found, (AnswerCache.within_storeDescriptor cache type descriptor).descriptors hd, ha⟩
  single := h.single

theorem store (h : evaluation.Kept cache) {documents : List Document} {descriptor : Descriptor}
    (hd : cache.descriptor? identity.type = some descriptor)
    (ha : evaluation.policy.admits descriptor identity.type.kind identity.name = true)
    (hs : identity.isList = false →
      documents = [] ∨ ∃ document, documents = [document] ∧ document.isNull = false) :
    evaluation.Kept (cache.store identity documents) where
  admitted other found hf := by
    rcases AnswerCache.find?_store_eq_some hf with hold | ⟨rfl, rfl⟩
    · exact h.admitted other found hold
    · exact ⟨descriptor, hd, ha⟩
  single other found hf hl := by
    rcases AnswerCache.find?_store_eq_some hf with hold | ⟨rfl, rfl⟩
    · exact h.single other found hold hl
    · exact hs hl

end Evaluation.Kept

namespace Lookup
variable {σ : Type} {evaluation : Evaluation σ} {client : ClusterClient σ} {context : Context σ}
variable {type : GroupVersionKind} {identity : Identity} {descriptor : Descriptor}

theorem kept_resolveType (h : evaluation.Kept context.cache) (source : Source σ)
    (type : GroupVersionKind) :
    evaluation.Kept (resolveType source type context).state.cache := by
  have hresolving := resolving_resolveType source type context
  generalize resolveType source type context = resolved at hresolving ⊢
  cases hresolving with
  | remembered hd => exact h
  | @discovered _ asked hd ha =>
    cases asked.result with
    | error failure => exact h
    | ok descriptor => exact h.storeDescriptor type descriptor
  | watched ha => exact h

theorem kept_readAnswer (hc : client.GivesObjects) (h : evaluation.Kept context.cache)
    (hd : context.cache.descriptor? identity.type = some descriptor)
    (ha : evaluation.policy.admits descriptor identity.type.kind identity.name = true) :
    evaluation.Kept (readAnswer (.cluster client) identity descriptor context).state.cache := by
  have hreading := reading_readAnswer (.cluster client) identity descriptor context
  generalize readAnswer (.cluster client) identity descriptor context = outcome at hreading ⊢
  cases hreading with
  | remembered hf => exact h
  | @listed _ asked hf hl =>
    cases asked.result with
    | error failure => exact h
    | ok documents => exact h.store hd ha fun hn => by simp [hl] at hn
  | @got _ asked hf hl hasked =>
    cases hr : asked.result with
    | ok document =>
      have hnull : document.isNull = false :=
        Document.isNull_of_isObject (hc _ _ _ _ _ _ (hasked ▸ hr))
      exact h.store hd ha fun _ => .inr ⟨document, rfl, hnull⟩
    | error failure =>
      cases hn : failure.isNotFound with
      | true =>
        simp only [lesson, hn, if_true]
        exact h.store hd ha fun _ => .inl rfl
      | false =>
        simp only [lesson, hn]
        exact h

end Lookup

/-! ## Strict lookups of one object -/

theorem Entry.read?_ne_none_of_reportsMissing {entry : Entry} (h : entry.reportsMissing = true) :
    entry.read? ≠ none := by
  unfold Entry.reportsMissing at h
  split at h
  · simp [read?]
  · simp [read?]
  · cases h

namespace Lookup
variable {σ : Type} {client : ClusterClient σ} {registry : Registry σ} {watcher : Identity}
variable {identity : Identity} {descriptor : Descriptor} {context : Context σ} {entry : Entry}

theorem read?_of_mem_probeEntries {cached : Option (List Document)}
    (h : entry ∈ probeEntries identity cached) : entry.read? = none := by
  rcases mem_probeEntries h with ⟨notice, rfl⟩ | ⟨hit, rfl⟩
  · exact read?_entry notice
  · rfl

/-- A client that misses an object makes the reading of it fail, and is remembered. -/
theorem readAnswer_of_missing (hl : identity.isList = false)
    (h : entry ∈ (readAnswer (.cluster client) identity descriptor context).journal)
    (hm : entry.reportsMissing = true) :
    ∃ failure, (readAnswer (.cluster client) identity descriptor context).result =
        .error failure ∧ failure.isNotFound = true ∧
      (readAnswer (.cluster client) identity descriptor context).state.cache.find? identity =
        some [] := by
  have hread := Entry.read?_ne_none_of_reportsMissing hm
  cases hf : context.cache.find? identity with
  | some documents =>
    rw [readAnswer_of_remembered hf] at h
    exact absurd (read?_of_mem_probeEntries h) hread
  | none =>
    simp only [readAnswer_get hl hf, List.mem_append, List.mem_map, List.mem_singleton] at h ⊢
    rcases h with h | (⟨notice, _, rfl⟩ | rfl) | h
    · exact absurd (read?_of_mem_probeEntries h) hread
    · exact absurd (read?_entry notice) hread
    · cases hr : (client.get descriptor identity.type.kind identity.inNamespace identity.name
          context.world).result with
      | ok document => simp [hr, Entry.reportsMissing] at hm
      | error failure =>
        have hn : failure.isNotFound = true := by simpa [hr, Entry.reportsMissing] using hm
        refine ⟨failure, rfl, hn, ?_⟩
        simp [lesson, hn, AnswerCache.learn, AnswerCache.find?_store_self, hf]
    · obtain ⟨notice, rfl⟩ := mem_absenceEntries h
      exact absurd (read?_entry notice) hread

/-- An object that the registry shows as null makes the reading of it fail. -/
theorem readAnswer_registry_of_missing (hl : identity.isList = false)
    (h : entry ∈ (readAnswer (.registry registry watcher) identity descriptor context).journal)
    (hm : entry.reportsMissing = true) :
    (readAnswer (.registry registry watcher) identity descriptor context).result =
      .error (.notFound descriptor.group descriptor.resource identity.inNamespace identity.name) := by
  have hread := Entry.read?_ne_none_of_reportsMissing hm
  simp only [readAnswer_registry_get hl, List.mem_append, List.mem_map, List.mem_singleton] at h ⊢
  rcases h with ⟨notice, _, rfl⟩ | rfl
  · exact absurd (read?_entry notice) hread
  · cases hr : (registry.get watcher identity.type identity.inNamespace identity.name
        context.world).result with
    | error failure => simp [hr, Entry.reportsMissing] at hm
    | ok document =>
      have hn : document.isNull = true := by simpa [hr, Entry.reportsMissing] using hm
      simp [Results.mapError_ok, Except.bind, present, hn]

end Lookup

namespace Evaluation
variable {σ : Type} {evaluation : Evaluation σ} {client : ClusterClient σ} {registry : Registry σ}
variable {watcher identity : Identity} {context : Context σ} {arguments : Arguments} {entry : Entry}

/-- Through a cache, a strict lookup answers with nothing exactly for what is known to be missing. -/
theorem answer_eq_absent_iff (hc : client.GivesObjects) (hs : evaluation.source = .cluster client)
    (h : evaluation.Kept context.cache) (hi : arguments.identity evaluation.policy = .ok identity)
    (hl : identity.isList = false) :
    (evaluation.lookupStrict arguments context).result = .ok .absent ↔
      context.cache.find? identity = some [] := by
  cases hf : context.cache.find? identity with
  | some documents =>
    obtain ⟨descriptor, hd, ha⟩ := h.admitted identity documents hf
    have hrecalls := lookupStrict_recalls hs hi (.answered hd ha hf)
    rw [hrecalls.result]
    rcases h.single identity documents hf hl with rfl | ⟨document, rfl, hnull⟩
    · simp [Lookup.recalled, hl, Answer.ofDocument]
    · simp [Lookup.recalled, hl, Answer.ofDocument_ne_absent hnull]
  | none =>
    refine iff_of_false ?_ (by simp)
    rw [lookupStrict_of_valid hi]
    have hf' := (Lookup.find?_resolveType evaluation.source identity.type context identity).trans hf
    have hcourse := course_answer evaluation identity context
    generalize evaluation.answer identity context = performed at hcourse
    cases hcourse with
    | unresolved ht => simp
    | refused ht ha => simp
    | admitted ht ha hr =>
      simp only [hs] at hf' hr
      rw [Lookup.readAnswer_get hl hf'] at hr
      subst hr
      simp only [Results.map_eq_ok_iff, not_exists, not_and]
      intro document hread
      exact Answer.ofDocument_ne_absent (Document.isNull_of_isObject (hc _ _ _ _ _ _ hread))

theorem answer_registry_ne_absent (hs : evaluation.source = .registry registry watcher)
    (hl : identity.isList = false) : (evaluation.answer identity context).result ≠ .ok .absent := by
  have hcourse := course_answer evaluation identity context
  generalize evaluation.answer identity context = performed at hcourse
  cases hcourse with
  | unresolved ht => simp
  | refused ht ha => simp
  | admitted ht ha hr =>
    rw [hs, Lookup.readAnswer_registry_get hl] at hr
    subst hr
    intro h
    obtain ⟨document, _, hp⟩ := Results.bind_eq_ok_iff.mp h
    unfold Lookup.present at hp
    split at hp
    · cases hp
    · next hn =>
      have hnull : document.isNull = false := by simpa using hn
      exact Answer.ofDocument_ne_absent hnull (Except.ok.inj hp)

/-- A strict lookup that learns that its object is missing fails, and a cache remembers it. -/
theorem answer_of_missing (hl : identity.isList = false)
    (h : entry ∈ (evaluation.answer identity context).journal) (hm : entry.reportsMissing = true) :
    ∃ failure, (evaluation.answer identity context).result = .error failure ∧
      failure.isNotFound = true ∧ (evaluation.path = .cacheFirst →
        (evaluation.answer identity context).state.cache.find? identity = some []) := by
  have hread := Entry.read?_ne_none_of_reportsMissing hm
  have hresolve : entry ∉ (Lookup.resolveType evaluation.source identity.type context).journal := by
    intro he
    exact hread (Journal.untouched_iff.mp (untouched_resolveType _ _ _) entry he).1
  have hcourse := course_answer evaluation identity context
  generalize evaluation.answer identity context = performed at hcourse h ⊢
  cases hcourse with
  | unresolved ht => exact absurd h hresolve
  | refused ht ha =>
    simp only [List.mem_append, hresolve, false_or] at h
    exact absurd (Journal.untouched_iff.mp (untouched_refusalEntries _) entry h).1 hread
  | admitted ht ha hr =>
    simp only [List.mem_append, hresolve, false_or] at h ⊢
    subst hr
    cases hs : evaluation.source with
    | cluster client =>
      simp only [hs] at h ⊢
      obtain ⟨failure, hr, hn, hf⟩ := Lookup.readAnswer_of_missing hl h hm
      exact ⟨failure, hr, hn, fun _ => hf⟩
    | registry registry watcher =>
      simp only [hs] at h ⊢
      refine ⟨_, Lookup.readAnswer_registry_of_missing hl h hm, rfl, ?_⟩
      intro hp
      simp [path, hs, Source.path] at hp

theorem kept_perform (hc : client.GivesObjects) (hs : evaluation.source = .cluster client)
    (h : evaluation.Kept context.cache) (arguments : Arguments) (strictness : Strictness) :
    evaluation.Kept (evaluation.perform arguments strictness context).state.cache := by
  rw [state_perform]
  refine keep_lookupStrict (P := fun cache _ => evaluation.Kept cache) evaluation arguments h ?_ ?_
  · intro type
    exact Lookup.kept_resolveType h evaluation.source type
  · intro identity descriptor resolved ht ha hkept
    simp only [resolved, hs] at ht hkept ⊢
    exact Lookup.kept_readAnswer hc hkept (Lookup.descriptor?_resolveType ht) ha

end Evaluation

/-! ## Whole runs -/

theorem Arguments.isList_of_identity {policy : Policy} {arguments : Arguments} {identity : Identity}
    (hn : arguments.name ≠ "") (h : arguments.identity policy = .ok identity) :
    identity.isList = false := by
  obtain ⟨_, _, _, _, _, hname⟩ := identity_eq_ok_iff.mp h
  exact Identity.isList_eq_false_iff.mpr (hname ▸ hn)

/-- How strict lookups of one object tell that it is missing. -/
structure Event.TellsMissing {σ : Type} (event : Event σ) (name : String) (arguments : Arguments)
    (member : Member σ) : Prop where
  /-- Answering with nothing says that the cache held that the object is missing. -/
  silent : event.report.result = .ok (some .absent) ↔ member.KnowsMissing arguments
  /-- Learning it is a failure, and is remembered. -/
  loud : (∃ entry ∈ event.report.journal, entry.reportsMissing = true) →
    ∃ failure, event.report.result = .error failure ∧ failure.isNotFound = true ∧
      (member.evaluation.path = .cacheFirst →
        ∃ later, event.after.member? name = some later ∧ later.KnowsMissing arguments)

namespace Session
variable {σ : Type} {collaborators : Collaborators σ} {session : Session σ} {name : String}
variable {member : Member σ} {arguments : Arguments}

/-- Steps that write nothing else into a cache leave there only answers that lookups were given. -/
theorem keeps_kept (hc : collaborators.client.GivesObjects) {step : Step σ}
    (hs : step.writesCache = false) :
    step.Keeps fun evaluation cache _ => ReadsClient collaborators evaluation ∧
      (evaluation.path = .cacheFirst → evaluation.Kept cache) := by
  refine step.keeps_of_perform hs ?_
  intro evaluation context arguments strictness h
  exact ⟨h.1, fun hp => evaluation.kept_perform hc (h.1 hp) (h.2 hp) arguments strictness⟩

theorem lookupStrict_eq_absent_iff (session : Session σ) (hc : collaborators.client.GivesObjects)
    (hs : ReadsClient collaborators member.evaluation)
    (hk : member.evaluation.path = .cacheFirst → member.evaluation.Kept member.cache)
    (hn : arguments.name ≠ "") :
    (member.evaluation.lookupStrict arguments (session.context member)).result = .ok .absent ↔
      member.KnowsMissing arguments := by
  unfold Member.KnowsMissing
  cases hi : arguments.identity member.evaluation.policy with
  | error failure => simp [Evaluation.lookupStrict_of_invalid hi]
  | ok identity =>
    have hl := Arguments.isList_of_identity hn hi
    cases hsource : member.evaluation.source with
    | registry registry watcher =>
      rw [Evaluation.lookupStrict_of_valid hi]
      refine iff_of_false (Evaluation.answer_registry_ne_absent hsource hl) ?_
      simp [Evaluation.path, hsource, Source.path]
    | cluster client =>
      have hp : member.evaluation.path = .cacheFirst := by
        rw [Evaluation.path, hsource]
        rfl
      have hkept : member.evaluation.Kept (session.context member).cache := hk hp
      rw [Evaluation.answer_eq_absent_iff hc (hs hp) hkept hi hl]
      simp [hp, context]

theorem tellsMissing_eventOf (hc : collaborators.client.GivesObjects)
    (hm : session.member? name = some member) (hs : ReadsClient collaborators member.evaluation)
    (hk : member.evaluation.path = .cacheFirst → member.evaluation.Kept member.cache)
    (hn : arguments.name ≠ "") :
    (session.eventOf collaborators (.lookup name .strict arguments)).TellsMissing name arguments
      member := by
  have hreport := report_eventOf_lookup collaborators hm .strict arguments
  constructor
  · rw [hreport, ← lookupStrict_eq_absent_iff session hc hs hk hn]
    simp [Results.map_eq_ok_iff, Evaluation.perform]
  · rintro ⟨entry, he, hmissing⟩
    rw [hreport] at he ⊢
    rw [after_eventOf_lookup hm]
    simp only [Evaluation.perform] at he ⊢
    cases hi : arguments.identity member.evaluation.policy with
    | error failure =>
      rw [Evaluation.lookupStrict_of_invalid hi] at he
      exact absurd (Journal.untouched_iff.mp (Evaluation.untouched_refusalEntries _) entry he).1
        (Entry.read?_ne_none_of_reportsMissing hmissing)
    | ok identity =>
      rw [Evaluation.lookupStrict_of_valid hi] at he ⊢
      obtain ⟨failure, hr, hnot, hf⟩ :=
        Evaluation.answer_of_missing (Arguments.isList_of_identity hn hi) he hmissing
      refine ⟨failure, congrArg (Except.map some) hr, hnot, fun hp => ?_⟩
      exact ⟨_, member?_afterwards_self hm _, hp, identity, hi, hf hp⟩

end Session

/-- In every run, a strict lookup of one object answers with nothing exactly when its cache held that
the object is missing, and fails whenever it learns so itself. -/
theorem trace_tellsMissing {σ : Type} {collaborators : Collaborators σ}
    (hc : collaborators.client.GivesObjects) (settings : LookupSettings) (world : σ)
    {steps : List (Step σ)} (hs : ∀ step ∈ steps, step.writesCache = false) :
    ∀ event ∈ (Session.start settings world).trace collaborators steps, ∀ name arguments member,
      event.step = .lookup name .strict arguments → arguments.name ≠ "" →
        event.before.member? name = some member → event.TellsMissing name arguments member := by
  intro event he name arguments member hlookup hn hm
  have heach := Session.before_of_mem_trace (I := Session.Each fun evaluation cache _ =>
    Session.ReadsClient collaborators evaluation ∧
      (evaluation.path = .cacheFirst → evaluation.Kept cache))
    (Session.each_start _ settings world) (fun step hstep session h => h.step ?_ ?_) he
  · obtain ⟨hreads, hkept⟩ := heach name member hm
    rw [Session.eq_eventOf_of_mem_trace he, hlookup]
    exact Session.tellsMissing_eventOf hc hm hreads hkept hn
  · intro _ _ evaluation _ hmade
    exact ⟨Session.readsClient_of_evaluation hmade, fun _ => .empty evaluation⟩
  · exact Session.keeps_kept hc (hs step hstep)

theorem frozenCollaborators_givesObjects : frozenCollaborators.client.GivesObjects := by
  intro descriptor kind inNamespace name world document h
  have hfound : smallStore.getDocument descriptor kind inNamespace name = .ok document := h
  unfold ObjectStore.getDocument at hfound
  split at hfound
  · next object ho =>
    cases hfound
    have hmem := List.mem_of_find?_eq_some ho
    simp only [smallStore, List.mem_singleton] at hmem
    rw [hmem]
    rfl
  · cases hfound

/-- The same strict lookup twice, of a secret that is not there. -/
def missedTwice : List (Step Unit) :=
  [.create "page" ⟨⟨"", []⟩, none⟩ none, .lookup "page" .strict (secretLookup "key"),
    .lookup "page" .strict (secretLookup "key")]

theorem trace_tellsMissing_secret :
    let session := ((Session.start .standard ()).steps frozenCollaborators (missedTwice.take 2)).1
    let again := session.eventOf frozenCollaborators (.lookup "page" .strict (secretLookup "key"))
    frozenCollaborators.client.GivesObjects ∧ (∀ step ∈ missedTwice, step.writesCache = false) ∧
      ∃ member, session.member? "page" = some member ∧
        again.TellsMissing "page" (secretLookup "key") member ∧
          member.KnowsMissing (secretLookup "key") := by
  intro session again
  have hs : ∀ step ∈ missedTwice, step.writesCache = false := by
    simp [missedTwice, Step.writesCache]
  have hagain : again ∈ (Session.start .standard ()).trace frozenCollaborators missedTwice :=
    List.mem_cons_of_mem _ (List.mem_cons_of_mem _ List.mem_cons_self)
  have htells := trace_tellsMissing frozenCollaborators_givesObjects .standard () hs again hagain
    "page" (secretLookup "key") _ rfl (by decide) rfl
  have habsent : again.report.result = .ok (some .absent) := by with_unfolding_all rfl
  exact ⟨frozenCollaborators_givesObjects, hs, _, rfl, htells, htells.silent.mp habsent⟩

/-- The second lookup answers with nothing where the first one fails. -/
theorem missedTwice_differ :
    ((Session.start .standard ()).trace frozenCollaborators missedTwice).map (·.report.result) =
      [.ok none, .error (.notFound "" "secrets" "team-a" "key"), .ok (some .absent)] := by
  with_unfolding_all rfl

end ClusterLookup
