import ClusterLookup.Proofs.Confinement

/-!
# Stability of answers

A cache forgets nothing, and its first entries stay. A question that an evaluation has answered once is
therefore answered alike for as long as the evaluation lives, without another call: whatever happens to
the cluster, whatever other lookups are made, and whether or not the client still answers. So is a
question that the guard for cluster-scoped objects has refused.

This rests on a client that says of objects alone that they are missing. A failure to find the type, or a
list, is not remembered, so it must not pass for an answer.
-/

namespace ClusterLookup

/-! ## Caches grow -/

/-- Whether a cache knows all that another one knows. -/
structure AnswerCache.Within (cache larger : AnswerCache) : Prop where
  answers : ∀ {identity documents}, cache.find? identity = some documents →
    larger.find? identity = some documents
  descriptors : ∀ {type descriptor}, cache.descriptor? type = some descriptor →
    larger.descriptor? type = some descriptor

namespace AnswerCache
variable {cache middle larger : AnswerCache}

theorem Within.refl (cache : AnswerCache) : cache.Within cache := ⟨id, id⟩

theorem Within.trans (h : cache.Within middle) (h' : middle.Within larger) : cache.Within larger :=
  ⟨fun hf => h'.answers (h.answers hf), fun hd => h'.descriptors (h.descriptors hd)⟩

theorem within_store (cache : AnswerCache) (identity : Identity) (documents : List Document) :
    cache.Within (cache.store identity documents) := by
  refine ⟨?_, id⟩
  intro other found hf
  by_cases ho : other = identity
  · subst ho
    rw [find?_store_self, hf]
    rfl
  · rw [find?_store_of_ne ho]
    exact hf

theorem within_storeDescriptor (cache : AnswerCache) (type : GroupVersionKind)
    (descriptor : Descriptor) : cache.Within (cache.storeDescriptor type descriptor) := by
  refine ⟨id, ?_⟩
  intro other found hd
  by_cases ho : other = type
  · subst ho
    rw [descriptor?_storeDescriptor_self, hd]
    rfl
  · rw [descriptor?_storeDescriptor_of_ne ho]
    exact hd

theorem within_learn (cache : AnswerCache) (identity : Identity)
    (documents : Option (List Document)) : cache.Within (cache.learn identity documents) := by
  cases documents with
  | none => exact .refl cache
  | some documents => exact within_store cache identity documents

theorem within_learnType (cache : AnswerCache) (type : GroupVersionKind)
    (answer : Except Failure Descriptor) : cache.Within (cache.learnType type answer) := by
  cases answer with
  | error failure => exact .refl cache
  | ok descriptor => exact within_storeDescriptor cache type descriptor

end AnswerCache

open AnswerCache (Within)

namespace Lookup
variable {σ : Type}

theorem within_resolveType (source : Source σ) (type : GroupVersionKind) (context : Context σ) :
    context.cache.Within (resolveType source type context).state.cache := by
  have hresolving := resolving_resolveType source type context
  generalize resolveType source type context = resolved at hresolving ⊢
  cases hresolving with
  | remembered hd => exact .refl _
  | discovered hd ha => exact AnswerCache.within_learnType _ _ _
  | watched ha => exact .refl _

theorem within_readAnswer (source : Source σ) (identity : Identity) (descriptor : Descriptor)
    (context : Context σ) :
    context.cache.Within (readAnswer source identity descriptor context).state.cache := by
  have hreading := reading_readAnswer source identity descriptor context
  generalize readAnswer source identity descriptor context = outcome at hreading ⊢
  cases hreading with
  | remembered hf => exact .refl _
  | listed hf hl ha => exact AnswerCache.within_learn _ _ _
  | got hf hl ha => exact AnswerCache.within_learn _ _ _
  | watchedList hl ha => exact .refl _
  | watchedGet hl ha => exact .refl _

end Lookup

theorem Evaluation.within_perform {σ : Type} (evaluation : Evaluation σ) (arguments : Arguments)
    (strictness : Strictness) (context : Context σ) :
    context.cache.Within (evaluation.perform arguments strictness context).state.cache := by
  rw [state_perform]
  refine keep_lookupStrict (P := fun cache _ => context.cache.Within cache) evaluation arguments
    (.refl _) ?_ ?_
  · intro type
    exact Lookup.within_resolveType _ _ _
  · intro identity descriptor _ _ _ h
    exact h.trans (Lookup.within_readAnswer _ _ _ _)

/-- Nothing that is done to an evaluation makes its cache forget. -/
theorem Step.within_effect {σ : Type} {step : Step σ} {name : String}
    {act : Evaluation σ → Context σ → Context σ} (h : step.effect? = some (name, act))
    (evaluation : Evaluation σ) (context : Context σ) :
    context.cache.Within (act evaluation context).cache := by
  cases step with
  | create name options place => cases h
  | lookup name strictness arguments =>
    cases h
    exact evaluation.within_perform arguments strictness context
  | store name identity documents =>
    cases h
    exact AnswerCache.within_store _ _ _
  | storeDescriptor name type descriptor =>
    cases h
    exact AnswerCache.within_storeDescriptor _ _ _
  | mark name =>
    cases h
    exact .refl _
  | change f => cases h
  | configure f => cases h

/-! ## An evaluation stays while others come and go -/

/-- The name of the evaluation that a step makes, if it makes one. -/
def Step.made? {σ : Type} : Step σ → Option String
  | .create name _ _ => some name
  | _ => none

namespace Session
variable {σ : Type} {collaborators : Collaborators σ} {session : Session σ} {name : String}
variable {member : Member σ}

/-- Whether an evaluation is still there under its name, knowing all that it knew. -/
def Retains (session : Session σ) (name : String) (member : Member σ) : Prop :=
  ∃ found, session.member? name = some found ∧ found.evaluation = member.evaluation ∧
    member.cache.Within found.cache

theorem retains_of_member? (h : session.member? name = some member) : session.Retains name member :=
  ⟨member, h, rfl, .refl _⟩

theorem Retains.step (h : session.Retains name member) {step : Step σ}
    (hs : step.made? ≠ some name) : (session.step collaborators step).1.Retains name member := by
  obtain ⟨found, hf, he, hw⟩ := h
  have hmoves := moves_step collaborators session step
  generalize (session.step collaborators step).1 = next at hmoves
  cases hmoves with
  | @made other options place evaluation result _ =>
    have hne : other ≠ name := fun h => hs (congrArg some h)
    refine ⟨found, ?_, he, hw⟩
    rw [← hf]
    simp [member?, valueOf?, hne]
  | @acted _ other actor act ha hm =>
    by_cases ho : other = name
    · subst ho
      obtain rfl := Option.some.inj (hm.symm.trans hf)
      have hgrown := Step.within_effect ha actor.evaluation (session.context actor)
      exact ⟨_, member?_afterwards_self hm _, he, hw.trans hgrown⟩
    · exact ⟨found, (member?_afterwards_of_ne (Ne.symm ho) _ _).trans hf, he, hw⟩
  | changed f => exact ⟨found, hf, he, hw⟩
  | configured f => exact ⟨found, hf, he, hw⟩
  | idle => exact ⟨found, hf, he, hw⟩

theorem Retains.steps (h : session.Retains name member) {steps : List (Step σ)}
    (hs : ∀ step ∈ steps, step.made? ≠ some name) :
    (session.steps collaborators steps).1.Retains name member :=
  keep_steps (I := fun session => session.Retains name member) h fun step hm _ hr =>
    hr.step (hs step hm)

end Session

/-! ## Settled questions -/

/-- How a question comes out that needs nothing but the cache. -/
inductive AnswerCache.Settles (cache : AnswerCache) (policy : Policy) (identity : Identity) :
    Except Failure Answer → Prop
  | answered {descriptor : Descriptor} {documents : List Document}
      (resolved : cache.descriptor? identity.type = some descriptor)
      (admitted : policy.admits descriptor identity.type.kind identity.name = true)
      (known : cache.find? identity = some documents) :
      Settles cache policy identity (.ok (Lookup.recalled identity documents))
  | refused {descriptor : Descriptor}
      (resolved : cache.descriptor? identity.type = some descriptor)
      (barred : policy.admits descriptor identity.type.kind identity.name = false) :
      Settles cache policy identity
        (.error (.clusterScoped descriptor.group identity.type.kind identity.name))

theorem AnswerCache.Settles.within {cache larger : AnswerCache} {policy : Policy}
    {identity : Identity} {outcome : Except Failure Answer}
    (h : cache.Settles policy identity outcome) (hw : cache.Within larger) :
    larger.Settles policy identity outcome := by
  cases h with
  | answered resolved admitted known =>
    exact .answered (hw.descriptors resolved) admitted (hw.answers known)
  | refused resolved barred => exact .refused (hw.descriptors resolved) barred

/-- Whether a client says that something is missing when it is asked for an object, and then alone. -/
structure ClusterClient.MissesObjectsOnly {σ : Type} (client : ClusterClient σ) : Prop where
  discover (type : GroupVersionKind) (world : σ) (failure : Failure) :
    (client.discover type world).result = .error failure → failure.isNotFound = false
  list (descriptor : Descriptor) (kind inNamespace selector : String) (world : σ)
      (failure : Failure) :
    (client.list descriptor kind inNamespace selector world).result = .error failure →
      failure.isNotFound = false

namespace Lookup
variable {σ : Type} {client : ClusterClient σ} {identity : Identity} {descriptor : Descriptor}
variable {context : Context σ}

theorem isNotFound_of_resolveType (hc : client.MissesObjectsOnly) {type : GroupVersionKind}
    {failure : Failure} (h : (resolveType (.cluster client) type context).result = .error failure) :
    failure.isNotFound = false := by
  cases hd : context.cache.descriptor? type with
  | some descriptor => simp [resolveType_of_remembered hd] at h
  | none =>
    rw [resolveType_of_unknown hd] at h
    exact hc.discover type context.world failure h

/-- What was read is known afterwards, an object that is missing too. -/
theorem known_of_readAnswer (hc : client.MissesObjectsOnly) {answer : Answer}
    (h : Evaluation.lenient (readAnswer (.cluster client) identity descriptor context).result =
      .ok answer) :
    ∃ documents, (readAnswer (.cluster client) identity descriptor context).state.cache.find?
      identity = some documents ∧ answer = recalled identity documents := by
  have hstore : context.cache.find? identity = none → ∀ documents : List Document,
      (context.cache.store identity documents).find? identity = some documents := by
    intro hf documents
    rw [AnswerCache.find?_store_self, hf]
    rfl
  have hreading := reading_readAnswer (.cluster client) identity descriptor context
  generalize readAnswer (.cluster client) identity descriptor context = outcome at hreading h ⊢
  cases hreading with
  | remembered hf => exact ⟨_, hf, (Except.ok.inj h).symm⟩
  | @listed _ asked hf hl ha =>
    cases hr : asked.result with
    | ok documents =>
      simp only [hr] at h ⊢
      refine ⟨documents, hstore hf documents, ?_⟩
      simpa [recalled, hl] using (Except.ok.inj h).symm
    | error failure =>
      have hn := hc.list _ _ _ _ _ _ (ha ▸ hr)
      simp [hr, Except.map, Evaluation.lenient, hn] at h
  | @got _ asked hf hl ha =>
    cases hr : asked.result with
    | ok document =>
      simp only [hr] at h ⊢
      refine ⟨[document], hstore hf [document], ?_⟩
      simpa [recalled, hl] using (Except.ok.inj h).symm
    | error failure =>
      cases hn : failure.isNotFound with
      | false => simp [hr, Except.map, Evaluation.lenient, hn] at h
      | true =>
        simp only [hr, Except.map, Evaluation.lenient, hn, if_true, Except.ok.injEq] at h ⊢
        refine ⟨[], ?_, ?_⟩
        · simpa [lesson, hn, AnswerCache.learn] using hstore hf []
        · simp [recalled, hl, Answer.ofDocument, ← h]

end Lookup

namespace Evaluation
variable {σ : Type} {evaluation : Evaluation σ} {client : ClusterClient σ} {context : Context σ}
variable {arguments : Arguments} {identity : Identity} {outcome : Except Failure Answer}

open Lookup (recalled)

/-- What a lookup of a settled question does: it calls nobody, and the guard refuses it anew. -/
structure Recalls (performed : Outcome Entry (Context σ) Answer) (outcome : Except Failure Answer) :
    Prop where
  result : performed.result = outcome
  silent : ∀ entry ∈ performed.journal, entry.isCall = false
  denied : ∀ failure, outcome = .error failure →
    Entry.count (.denials .clusterScope) ∈ performed.journal

theorem lookupStrict_recalls (hs : evaluation.source = .cluster client)
    (hi : arguments.identity evaluation.policy = .ok identity)
    (h : context.cache.Settles evaluation.policy identity outcome) :
    Recalls (evaluation.lookupStrict arguments context) outcome := by
  have ht : ∀ {descriptor}, context.cache.descriptor? identity.type = some descriptor →
      Lookup.resolveType evaluation.source identity.type context = ⟨.ok descriptor, context, []⟩ := by
    intro descriptor resolved
    rw [hs]
    exact Lookup.resolveType_of_remembered resolved
  rw [lookupStrict_of_valid hi]
  cases h with
  | @answered descriptor documents resolved admitted known =>
    have hr : Lookup.readAnswer evaluation.source identity descriptor context =
        ⟨.ok (recalled identity documents), context,
          Lookup.probeEntries identity (some documents)⟩ := by
      rw [hs]
      exact Lookup.readAnswer_of_remembered known
    rw [answer_of_admitted (congrArg Outcome.result (ht resolved)) admitted]
    simp only [ht resolved, hr, List.nil_append]
    refine ⟨rfl, fun entry he => Lookup.isCall_of_mem_probeEntries he, ?_⟩
    intro failure hf
    cases hf
  | @refused descriptor resolved barred =>
    rw [answer_of_refused (congrArg Outcome.result (ht resolved)) barred]
    simp only [ht resolved, List.nil_append]
    refine ⟨rfl, fun entry he => ?_, fun _ _ => List.mem_cons_self⟩
    have hmem : entry ∈ Lookup.refusalEntries
        (.clusterScoped descriptor.group identity.type.kind identity.name) := he
    exact Lookup.isCall_of_mem_refusalEntries hmem

/-- What a lookup answers is settled from then on. -/
theorem settles_of_lenient_eq_ok (hc : client.MissesObjectsOnly)
    (hs : evaluation.source = .cluster client)
    (hi : arguments.identity evaluation.policy = .ok identity) {answer : Answer}
    (h : lenient (evaluation.lookupStrict arguments context).result = .ok answer) :
    (evaluation.lookupStrict arguments context).state.cache.Settles evaluation.policy identity
      (.ok answer) := by
  rw [lookupStrict_of_valid hi] at h ⊢
  have hcourse := course_answer evaluation identity context
  generalize evaluation.answer identity context = performed at hcourse h ⊢
  cases hcourse with
  | unresolved ht =>
    rw [hs] at ht
    have hn := Lookup.isNotFound_of_resolveType hc ht
    simp [lenient, hn] at h
  | refused ht ha => simp [lenient, Failure.isNotFound] at h
  | @admitted descriptor _ ht ha hr =>
    rw [hs] at ht hr
    subst hr
    obtain ⟨documents, known, rfl⟩ := Lookup.known_of_readAnswer hc h
    have hw := Lookup.within_readAnswer (.cluster client) identity descriptor
      (Lookup.resolveType (.cluster client) identity.type context).state
    exact .answered (hw.descriptors (Lookup.descriptor?_resolveType ht)) ha known

/-- The guard for cluster-scoped objects counts what it refuses, and nothing else counts for it. -/
theorem settles_of_denied (hs : evaluation.source = .cluster client)
    (h : Entry.count (.denials .clusterScope) ∈
      (evaluation.lookupStrict arguments context).journal) :
    ∃ identity group, arguments.identity evaluation.policy = .ok identity ∧
      (evaluation.lookupStrict arguments context).result =
        .error (.clusterScoped group identity.type.kind identity.name) ∧
      (evaluation.lookupStrict arguments context).state.cache.Settles evaluation.policy identity
        (.error (.clusterScoped group identity.type.kind identity.name)) := by
  cases hi : arguments.identity evaluation.policy with
  | error failure =>
    rw [lookupStrict_of_invalid hi] at h
    rcases Arguments.identity_eq_error hi with ⟨_, rfl⟩ | ⟨_, _, rfl⟩ | ⟨_, _, rfl⟩ <;>
      simp [Lookup.refusalEntries] at h
  | ok identity =>
    rw [lookupStrict_of_valid hi] at h ⊢
    have hcourse := course_answer evaluation identity context
    generalize evaluation.answer identity context = performed at hcourse h ⊢
    cases hcourse with
    | unresolved ht =>
      rcases Lookup.mem_resolveType h with ⟨notice, hn⟩ | hr
      · exact absurd hn.symm (entry_ne_count notice _)
      · cases hr
    | admitted ht ha hr =>
      subst hr
      exact absurd h (denials_not_mem_of_admitted .clusterScope)
    | @refused descriptor ht ha =>
      rw [hs] at ht ⊢
      exact ⟨identity, descriptor.group, rfl, rfl,
        .refused (Lookup.descriptor?_resolveType ht) ha⟩

end Evaluation

/-! ## Whole runs -/

/-- Whether two calls ask the same under a policy. -/
structure Arguments.Same (policy : Policy) (first second : Arguments) : Prop where
  apiVersion : first.apiVersion = second.apiVersion
  kind : first.kind = second.kind
  inNamespace :
    policy.effectiveNamespace first.inNamespace = policy.effectiveNamespace second.inNamespace
  name : first.name = second.name
  selector : canonicalSelector first.selector = canonicalSelector second.selector

theorem Arguments.Same.identity_eq {policy : Policy} {first second : Arguments}
    (h : first.Same policy second) : first.identity policy = second.identity policy := by
  unfold Arguments.identity
  rw [h.apiVersion, h.kind, h.inNamespace, h.name, h.selector]

/-- Whether the guard for cluster-scoped objects refused a lookup. -/
def Event.Denied {σ : Type} (event : Event σ) : Prop :=
  Entry.count (.denials .clusterScope) ∈ event.report.journal

/-- Whether a lookup comes out as an earlier one did, without a call. -/
structure Event.Repeats {σ : Type} (later earlier : Event σ) : Prop where
  result : later.report.result = earlier.report.result
  silent : ∀ entry ∈ later.report.journal, entry.isCall = false

namespace Evaluation
variable {σ : Type} {evaluation : Evaluation σ} {client : ClusterClient σ} {context : Context σ}
variable {arguments : Arguments} {identity : Identity} {outcome : Except Failure Answer}

theorem lenient_of_settles {cache : AnswerCache} {policy : Policy}
    (h : cache.Settles policy identity outcome) : lenient outcome = outcome := by
  cases h <;> rfl

theorem perform_recalls (hs : evaluation.source = .cluster client)
    (hi : arguments.identity evaluation.policy = .ok identity)
    (h : context.cache.Settles evaluation.policy identity outcome) (strictness : Strictness) :
    Recalls (evaluation.perform arguments strictness context) outcome := by
  have hr := lookupStrict_recalls hs hi h
  cases strictness with
  | strict => exact hr
  | lenient =>
    refine ⟨?_, isCall_of_mem_perform hr.silent .lenient, ?_⟩
    · simp only [perform, lookup_eq, hr.result, lenient_of_settles h]
    · intro failure hf
      exact (alike_lookup evaluation arguments context _ rfl).mp (hr.denied failure hf)

theorem settles_perform (hc : client.MissesObjectsOnly) (hs : evaluation.source = .cluster client)
    {strictness : Strictness} {answer : Answer}
    (h : (evaluation.perform arguments strictness context).result = .ok answer) :
    ∃ identity, arguments.identity evaluation.policy = .ok identity ∧
      (evaluation.perform arguments strictness context).state.cache.Settles evaluation.policy
        identity (.ok answer) := by
  obtain ⟨identity, hi⟩ := exists_identity_of_perform h
  rw [state_perform]
  exact ⟨identity, hi, settles_of_lenient_eq_ok hc hs hi (lenient_eq_ok_of_perform h)⟩

theorem settles_perform_of_denied (hs : evaluation.source = .cluster client)
    {strictness : Strictness} (h : Entry.count (.denials .clusterScope) ∈
      (evaluation.perform arguments strictness context).journal) :
    ∃ identity group, arguments.identity evaluation.policy = .ok identity ∧
      (evaluation.perform arguments strictness context).result =
        .error (.clusterScoped group identity.type.kind identity.name) ∧
      (evaluation.perform arguments strictness context).state.cache.Settles evaluation.policy
        identity (.error (.clusterScoped group identity.type.kind identity.name)) := by
  rw [state_perform]
  cases strictness with
  | strict => exact settles_of_denied hs h
  | lenient =>
    have hd := (alike_lookup evaluation arguments context _ rfl).mpr h
    obtain ⟨identity, group, hi, hr, hsettles⟩ := settles_of_denied hs hd
    refine ⟨identity, group, hi, ?_, hsettles⟩
    simp only [perform, lookup_eq, hr]
    rfl

end Evaluation

namespace Session
variable {σ : Type} {collaborators : Collaborators σ} {session : Session σ} {name : String}
variable {member : Member σ} {strictness : Strictness} {first again : Arguments}
variable {identity : Identity} {outcome : Except Failure Answer}

/-- A question that a lookup has settled stays settled while the evaluation is there. -/
theorem recalls_of_settles {between : List (Step σ)}
    (hs : member.evaluation.source = .cluster collaborators.client)
    (hm : session.member? name = some member) (hb : ∀ step ∈ between, step.made? ≠ some name)
    (hi : first.identity member.evaluation.policy = .ok identity)
    (hsame : first.Same member.evaluation.policy again)
    (h : (member.evaluation.perform first strictness
      (session.context member)).state.cache.Settles member.evaluation.policy identity outcome)
    (later : Strictness) :
    let event := session.eventOf collaborators (.lookup name strictness first)
    let next := (event.after.steps collaborators between).1.eventOf collaborators
      (.lookup name later again)
    next.report.result = outcome.map some ∧
      (∀ entry ∈ next.report.journal, entry.isCall = false) ∧
      ∀ failure, outcome = .error failure → next.Denied := by
  intro event next
  have hafter : event.after.member? name = some { member with
      cache := (member.evaluation.perform first strictness (session.context member)).state.cache } := by
    rw [after_eventOf_lookup hm]
    exact member?_afterwards_self hm _
  have hretains : (event.after.steps collaborators between).1.Retains name _ :=
    (retains_of_member? hafter).steps hb
  obtain ⟨found, hf, he, hw⟩ := hretains
  have hs' : found.evaluation.source = .cluster collaborators.client := he ▸ hs
  have hi' : again.identity found.evaluation.policy = .ok identity := by
    rw [he]
    exact hsame.identity_eq ▸ hi
  have hsettles : found.cache.Settles found.evaluation.policy identity outcome := by
    rw [he]
    exact h.within hw
  have hrecalls := Evaluation.perform_recalls hs' hi' (show ((event.after.steps collaborators
    between).1.context found).cache.Settles _ _ _ from hsettles) later
  unfold Event.Denied
  rw [report_eventOf_lookup collaborators hf]
  exact ⟨congrArg (Except.map some) hrecalls.result, hrecalls.silent, hrecalls.denied⟩

end Session

/-- Once a lookup through the cache has answered, every later lookup of the same evaluation that asks
the same answers alike, without a call; and what the guard for cluster-scoped objects has refused it
refuses again. Anything may happen in between, and the lookups may be strict or not. -/
theorem trace_stable {σ : Type} {collaborators : Collaborators σ}
    (hc : collaborators.client.MissesObjectsOnly) (settings : LookupSettings) (world : σ)
    (before between : List (Step σ)) {name : String} (hb : ∀ step ∈ between, step.made? ≠ some name)
    (strictness later : Strictness) (first again : Arguments) :
    let session := ((Session.start settings world).steps collaborators before).1
    let event := session.eventOf collaborators (.lookup name strictness first)
    let next := (event.after.steps collaborators between).1.eventOf collaborators
      (.lookup name later again)
    ∀ member, session.member? name = some member → member.evaluation.path = .cacheFirst →
      first.Same member.evaluation.policy again →
        ((∃ answer, event.report.result = .ok (some answer)) → next.Repeats event) ∧
        (event.Denied → next.Repeats event ∧ next.Denied ∧
          ∃ group, next.report.result = .error (.clusterScoped group again.kind again.name)) := by
  intro session event next member hm hp hsame
  have hs : member.evaluation.source = .cluster collaborators.client :=
    Session.each_readsClient collaborators settings world before name member hm hp
  have hreport : event.report =
      let outcome := member.evaluation.perform first strictness (session.context member)
      ⟨outcome.result.map some, outcome.journal⟩ :=
    Session.report_eventOf_lookup collaborators hm strictness first
  constructor
  · rintro ⟨answer, ha⟩
    rw [hreport] at ha
    obtain ⟨found, hr, hfound⟩ := Results.map_eq_ok_iff.mp ha
    cases hfound
    obtain ⟨identity, hi, hsettles⟩ := Evaluation.settles_perform hc hs hr
    obtain ⟨hresult, hsilent, _⟩ := Session.recalls_of_settles hs hm hb hi hsame hsettles later
    refine ⟨?_, hsilent⟩
    rw [hresult, hreport]
    exact (congrArg (Except.map some) hr).symm
  · intro hd
    unfold Event.Denied at hd
    rw [hreport] at hd
    obtain ⟨identity, group, hi, hr, hsettles⟩ := Evaluation.settles_perform_of_denied hs hd
    obtain ⟨hresult, hsilent, hdenied⟩ :=
      Session.recalls_of_settles hs hm hb hi hsame hsettles later
    obtain ⟨_, _, _, _, hkind, hname⟩ := Arguments.identity_eq_ok_iff.mp hi
    refine ⟨⟨?_, hsilent⟩, hdenied _ rfl, group, ?_⟩
    · rw [hresult, hreport]
      exact (congrArg (Except.map some) hr).symm
    · rw [hresult, ← hsame.kind, ← hsame.name, hkind, hname]
      rfl

/-- A cluster in memory of which `get` alone meets outages. -/
def shakyClient : ClusterClient ObjectStore where
  discover type := fun store => ⟨store.resolve type, store, []⟩
  get := ObjectStore.client.get
  list descriptor kind inNamespace selector := fun store =>
    ⟨.ok (store.select descriptor kind inNamespace selector), store, []⟩

theorem shakyClient_missesObjectsOnly : shakyClient.MissesObjectsOnly where
  discover type store failure h := by
    have hr : store.resolve type = .error failure := h
    unfold ObjectStore.resolve at hr
    split at hr
    · cases hr
    · cases hr
      rfl
  list descriptor kind inNamespace selector store failure h := by cases h

/-- The object is deleted, its type is no longer served, and `get` fails from now on. -/
def upheaval (store : ObjectStore) : ObjectStore :=
  { store.delete "" "Secret" "team-a" "token" with
    types := []
    outages := [⟨.get, none, .system .timeout ""⟩] }

/-- Another evaluation is made and finds that the type is gone, and so does the first one. -/
def upheavalSteps : List (Step ObjectStore) :=
  [.change upheaval, .create "other" ⟨⟨"", []⟩, none⟩ none,
    .lookup "other" .lenient (secretLookup "token"), .lookup "page" .lenient (secretLookup "key")]

theorem trace_stable_secret :
    let collaborators : Collaborators ObjectStore := ⟨shakyClient, none⟩
    let policy : Policy := ⟨"team-a", []⟩
    let again : Arguments := ⟨"v1", "Secret", "", "token", none⟩
    let session := ((Session.start .standard smallStore).steps collaborators
      [.create "page" ⟨policy, none⟩ none]).1
    let event := session.eventOf collaborators (.lookup "page" .lenient (secretLookup "token"))
    let next := (event.after.steps collaborators upheavalSteps).1.eventOf collaborators
      (.lookup "page" .lenient again)
    shakyClient.MissesObjectsOnly ∧ (∀ step ∈ upheavalSteps, step.made? ≠ some "page") ∧
      (secretLookup "token").Same policy again ∧
      event.report.result = .ok (some (.document (.object []))) ∧ next.Repeats event := by
  intro collaborators policy again session event next
  have hb : ∀ step ∈ upheavalSteps, step.made? ≠ some "page" := by
    simp [upheavalSteps, Step.made?]
  have hsame : (secretLookup "token").Same policy again := ⟨rfl, rfl, rfl, rfl, rfl⟩
  have hanswer : event.report.result = .ok (some (.document (.object []))) := rfl
  exact ⟨shakyClient_missesObjectsOnly, hb, hsame, hanswer,
    (@trace_stable _ collaborators shakyClient_missesObjectsOnly .standard smallStore
      [.create "page" ⟨policy, none⟩ none] upheavalSteps "page" hb .lenient .lenient
      (secretLookup "token") again _ rfl rfl hsame).1 ⟨_, hanswer⟩⟩

end ClusterLookup
