import ClusterLookup.Proofs.Trace

/-!
# Transparency of the answer cache

With a client whose answers depend on nothing but the call, a lookup through the cache comes out as it
would without one. What the cache holds is what the client would answer again, so a lookup is a
function of its arguments, and what was looked up before it makes no difference.

A strict lookup is NOT one: a missing object is a failure when it is asked for first, and an absent
answer when it is known to be missing. Lookups that take a missing object for an answer do not show
this.
-/

namespace ClusterLookup

/-- What a client answers whose answers depend on the call alone. -/
structure ClientAnswers where
  discover : GroupVersionKind → Except Failure Descriptor
  get : Descriptor → String → String → String → Except Failure Document
  list : Descriptor → String → String → String → Except Failure (List Document)

namespace ClusterClient
variable {σ : Type}

/-- Whether the answers of a client depend on the call alone, not on its state. -/
structure Steady (client : ClusterClient σ) : Prop where
  discover (type : GroupVersionKind) (first second : σ) :
    (client.discover type first).result = (client.discover type second).result
  get (descriptor : Descriptor) (kind inNamespace name : String) (first second : σ) :
    (client.get descriptor kind inNamespace name first).result =
      (client.get descriptor kind inNamespace name second).result
  list (descriptor : Descriptor) (kind inNamespace selector : String) (first second : σ) :
    (client.list descriptor kind inNamespace selector first).result =
      (client.list descriptor kind inNamespace selector second).result

def answersIn (client : ClusterClient σ) (world : σ) : ClientAnswers where
  discover type := (client.discover type world).result
  get descriptor kind inNamespace name := (client.get descriptor kind inNamespace name world).result
  list descriptor kind inNamespace selector :=
    (client.list descriptor kind inNamespace selector world).result

end ClusterClient

namespace ClientAnswers
open Evaluation (lenient)
open Lookup (recalled)

/-- The answer to a question of which the type is resolved. -/
def read (answers : ClientAnswers) (identity : Identity) (descriptor : Descriptor) :
    Except Failure Answer :=
  if identity.isList then
    (answers.list descriptor identity.type.kind identity.inNamespace identity.selector).map .items
  else
    (answers.get descriptor identity.type.kind identity.inNamespace identity.name).map .ofDocument

/-- The answer to a lookup without a memory. -/
def answer (answers : ClientAnswers) (policy : Policy) (arguments : Arguments) :
    Except Failure Answer := do
  let identity ← arguments.identity policy
  let descriptor ← answers.discover identity.type
  if policy.admits descriptor identity.type.kind identity.name then answers.read identity descriptor
  else .error (.clusterScoped descriptor.group identity.type.kind identity.name)

/-- Whether a cache holds nothing but what the client would answer again. -/
structure Faithful (answers : ClientAnswers) (cache : AnswerCache) : Prop where
  descriptor : ∀ type descriptor, cache.descriptor? type = some descriptor →
    answers.discover type = .ok descriptor
  documents : ∀ identity documents descriptor, cache.find? identity = some documents →
    answers.discover identity.type = .ok descriptor →
      lenient (answers.read identity descriptor) = .ok (recalled identity documents)

variable {answers : ClientAnswers} {cache : AnswerCache} {identity : Identity}
variable {descriptor : Descriptor}

theorem faithful_empty (answers : ClientAnswers) : answers.Faithful .empty where
  descriptor type descriptor h := by cases h
  documents identity documents descriptor h := by cases h

theorem Faithful.learnType (h : answers.Faithful cache) (type : GroupVersionKind) :
    answers.Faithful (cache.learnType type (answers.discover type)) := by
  cases hd : answers.discover type with
  | error failure => exact h
  | ok descriptor =>
    refine ⟨?_, h.documents⟩
    intro other found hf
    simp only [AnswerCache.learnType] at hf
    by_cases ho : other = type
    · subst ho
      rw [AnswerCache.descriptor?_storeDescriptor_self, Option.some.injEq] at hf
      cases hc : cache.descriptor? other with
      | none =>
        rw [hc] at hf
        rw [hd, ← hf]
        rfl
      | some old =>
        rw [hc] at hf
        rw [← hf]
        exact h.descriptor other old hc
    · rw [AnswerCache.descriptor?_storeDescriptor_of_ne ho] at hf
      exact h.descriptor other found hf

theorem Faithful.store (h : answers.Faithful cache) {documents : List Document}
    (hd : answers.discover identity.type = .ok descriptor)
    (hr : lenient (answers.read identity descriptor) = .ok (recalled identity documents)) :
    answers.Faithful (cache.store identity documents) := by
  refine ⟨h.descriptor, ?_⟩
  intro other found otherDescriptor hf ho
  by_cases hi : other = identity
  · subst hi
    -- First entries stay: an old entry of the question is found instead of the one stored.
    rw [AnswerCache.find?_store_self, Option.some.injEq] at hf
    cases hc : cache.find? other with
    | none =>
      rw [hc] at hf
      obtain rfl : descriptor = otherDescriptor := Except.ok.inj (hd.symm.trans ho)
      rw [← hf]
      exact hr
    | some old =>
      rw [hc] at hf
      rw [← hf]
      exact h.documents other old otherDescriptor hc ho
  · rw [AnswerCache.find?_store_of_ne hi] at hf
    exact h.documents other found otherDescriptor hf ho

theorem Faithful.learn_list (h : answers.Faithful cache) (hl : identity.isList = true)
    (hd : answers.discover identity.type = .ok descriptor) :
    answers.Faithful (cache.learn identity (answers.list descriptor identity.type.kind
      identity.inNamespace identity.selector).toOption) := by
  cases hr : answers.list descriptor identity.type.kind identity.inNamespace identity.selector with
  | error failure => exact h
  | ok documents =>
    apply h.store hd
    simp [read, recalled, hl, hr, lenient, Except.map]

theorem Faithful.learn_get (h : answers.Faithful cache) (hl : identity.isList = false)
    (hd : answers.discover identity.type = .ok descriptor) :
    answers.Faithful (cache.learn identity (Lookup.lesson (answers.get descriptor identity.type.kind
      identity.inNamespace identity.name))) := by
  cases hr : answers.get descriptor identity.type.kind identity.inNamespace identity.name with
  | ok document =>
    apply h.store hd
    simp [read, recalled, hl, hr, lenient, Except.map]
  | error failure =>
    by_cases hn : failure.isNotFound = true
    · simp only [Lookup.lesson, hn, if_true]
      apply h.store hd
      simp [read, recalled, hl, hr, lenient, Except.map, hn, Answer.ofDocument]
    · simp only [Lookup.lesson, hn]
      exact h

end ClientAnswers

/-! ## The stages of a lookup -/

section Stages
variable {σ : Type} {client : ClusterClient σ} {world : σ} {context : Context σ}
variable {identity : Identity} {descriptor : Descriptor}

open Evaluation (lenient)

theorem result_resolveType (hc : client.Steady)
    (h : (client.answersIn world).Faithful context.cache) (type : GroupVersionKind) :
    (Lookup.resolveType (.cluster client) type context).result =
      (client.answersIn world).discover type := by
  have hresolving := Lookup.resolving_resolveType (.cluster client) type context
  generalize Lookup.resolveType (.cluster client) type context = resolved at hresolving ⊢
  cases hresolving with
  | remembered hd => exact (h.descriptor type _ hd).symm
  | discovered hd ha =>
    subst ha
    exact hc.discover type context.world world

theorem faithful_resolveType (hc : client.Steady)
    (h : (client.answersIn world).Faithful context.cache) (type : GroupVersionKind) :
    (client.answersIn world).Faithful
      (Lookup.resolveType (.cluster client) type context).state.cache := by
  have hresolving := Lookup.resolving_resolveType (.cluster client) type context
  generalize Lookup.resolveType (.cluster client) type context = resolved at hresolving ⊢
  cases hresolving with
  | remembered hd => exact h
  | discovered hd ha =>
    subst ha
    rw [hc.discover type context.world world]
    exact h.learnType type

theorem lenient_readAnswer (hc : client.Steady)
    (h : (client.answersIn world).Faithful context.cache)
    (hd : (client.answersIn world).discover identity.type = .ok descriptor) :
    lenient (Lookup.readAnswer (.cluster client) identity descriptor context).result =
      lenient ((client.answersIn world).read identity descriptor) := by
  have hreading := Lookup.reading_readAnswer (.cluster client) identity descriptor context
  generalize Lookup.readAnswer (.cluster client) identity descriptor context = outcome at hreading ⊢
  cases hreading with
  | remembered hf =>
    rw [h.documents identity _ descriptor hf hd]
    rfl
  | listed hf hl ha =>
    subst ha
    simp only [ClientAnswers.read, hl, if_true]
    rw [hc.list _ _ _ _ context.world world]
    rfl
  | got hf hl ha =>
    subst ha
    simp only [ClientAnswers.read, hl, Bool.false_eq_true, if_false]
    rw [hc.get _ _ _ _ context.world world]
    rfl

theorem faithful_readAnswer (hc : client.Steady)
    (h : (client.answersIn world).Faithful context.cache)
    (hd : (client.answersIn world).discover identity.type = .ok descriptor) :
    (client.answersIn world).Faithful
      (Lookup.readAnswer (.cluster client) identity descriptor context).state.cache := by
  have hreading := Lookup.reading_readAnswer (.cluster client) identity descriptor context
  generalize Lookup.readAnswer (.cluster client) identity descriptor context = outcome at hreading ⊢
  cases hreading with
  | remembered hf => exact h
  | listed hf hl ha =>
    subst ha
    rw [hc.list _ _ _ _ context.world world]
    exact h.learn_list hl hd
  | got hf hl ha =>
    subst ha
    rw [hc.get _ _ _ _ context.world world]
    exact h.learn_get hl hd

/-! ## Whole lookups -/

namespace Evaluation
variable {evaluation : Evaluation σ} {arguments : Arguments}

/-- A lookup comes out as it would without a memory if both of its stages do. -/
theorem lenient_lookupStrict {answers : ClientAnswers}
    (hresolve : ∀ type, (Lookup.resolveType evaluation.source type context).result =
      answers.discover type)
    (hread : ∀ identity descriptor, answers.discover identity.type = .ok descriptor →
      lenient (Lookup.readAnswer evaluation.source identity descriptor
          (Lookup.resolveType evaluation.source identity.type context).state).result =
        lenient (answers.read identity descriptor))
    (arguments : Arguments) :
    lenient (evaluation.lookupStrict arguments context).result =
      lenient (answers.answer evaluation.policy arguments) := by
  unfold ClientAnswers.answer
  cases hi : arguments.identity evaluation.policy with
  | error failure =>
    rw [lookupStrict_of_invalid hi]
    rfl
  | ok identity =>
    rw [lookupStrict_of_valid hi]
    have hr := hresolve identity.type
    cases hd : answers.discover identity.type with
    | error failure =>
      rw [hd] at hr
      rw [answer_of_unresolved hr]
      simp [bind, Except.bind, hd]
    | ok descriptor =>
      rw [hd] at hr
      cases ha : evaluation.policy.admits descriptor identity.type.kind identity.name with
      | false =>
        rw [answer_of_refused hr ha]
        simp [bind, Except.bind, hd, ha]
      | true =>
        rw [answer_of_admitted hr ha]
        simp only [bind, Except.bind, hd, ha, if_true]
        exact hread identity descriptor hd

theorem lenient_lookupStrict_cluster (hc : client.Steady) (hs : evaluation.source = .cluster client)
    (h : (client.answersIn world).Faithful context.cache) (arguments : Arguments) :
    lenient (evaluation.lookupStrict arguments context).result =
      lenient ((client.answersIn world).answer evaluation.policy arguments) := by
  apply lenient_lookupStrict
  · intro type
    rw [hs]
    exact result_resolveType hc h type
  · intro identity descriptor hd
    rw [hs]
    exact lenient_readAnswer hc (faithful_resolveType hc h identity.type) hd

theorem result_lookup (hc : client.Steady) (hs : evaluation.source = .cluster client)
    (h : (client.answersIn world).Faithful context.cache) (arguments : Arguments) :
    (evaluation.lookup arguments context).result =
      lenient ((client.answersIn world).answer evaluation.policy arguments) := by
  simp only [lookup_eq]
  exact lenient_lookupStrict_cluster hc hs h arguments

/-- A lookup through a faithful cache answers and marks as the same lookup does by itself. -/
theorem lookup_of_faithful (hc : client.Steady) (hs : evaluation.source = .cluster client)
    (h : (client.answersIn world).Faithful context.cache) (arguments : Arguments) (fresh : σ) :
    (evaluation.lookup arguments context).result =
        (evaluation.lookup arguments (Context.fresh fresh)).result ∧
      (evaluation.lookup arguments context).state.sensitive =
        (context.sensitive ||
          (evaluation.lookup arguments (Context.fresh fresh)).state.sensitive) := by
  have hempty : (client.answersIn world).Faithful (Context.fresh fresh).cache :=
    ClientAnswers.faithful_empty _
  have hresult : (evaluation.lookup arguments context).result =
      (evaluation.lookup arguments (Context.fresh fresh)).result := by
    rw [result_lookup hc hs h, result_lookup hc hs hempty]
  refine ⟨hresult, ?_⟩
  rw [sensitive_lookup, hresult, sensitive_lookup]
  rfl

theorem faithful_lookupStrict (hc : client.Steady) (hs : evaluation.source = .cluster client)
    (h : (client.answersIn world).Faithful context.cache) (arguments : Arguments) :
    (client.answersIn world).Faithful (evaluation.lookupStrict arguments context).state.cache := by
  cases hi : arguments.identity evaluation.policy with
  | error failure =>
    rw [lookupStrict_of_invalid hi]
    exact h
  | ok identity =>
    rw [lookupStrict_of_valid hi]
    have hr := result_resolveType hc h identity.type
    have hf := faithful_resolveType hc h identity.type
    rw [← hs] at hr hf
    cases hd : (client.answersIn world).discover identity.type with
    | error failure =>
      rw [hd] at hr
      rw [answer_of_unresolved hr]
      exact hf
    | ok descriptor =>
      rw [hd] at hr
      cases ha : evaluation.policy.admits descriptor identity.type.kind identity.name with
      | false =>
        rw [answer_of_refused hr ha]
        exact hf
      | true =>
        rw [answer_of_admitted hr ha]
        simp only [hs] at hf ⊢
        exact faithful_readAnswer hc hf hd

theorem faithful_perform (hc : client.Steady) (hs : evaluation.source = .cluster client)
    (h : (client.answersIn world).Faithful context.cache) (arguments : Arguments)
    (strictness : Strictness) :
    (client.answersIn world).Faithful
      (evaluation.perform arguments strictness context).state.cache := by
  have hstrict := faithful_lookupStrict hc hs h arguments
  cases strictness with
  | strict => exact hstrict
  | lenient =>
    simp only [perform, lookup_eq]
    exact hstrict

end Evaluation

end Stages

/-! ## Whole runs -/

/-- Whether a step writes into a cache what no lookup has asked for. -/
def Step.writesCache {σ : Type} : Step σ → Bool
  | .store _ _ _ => true
  | .storeDescriptor _ _ _ => true
  | _ => false

/-- A step that writes nothing of the kind does a lookup, or leaves the cache and the collaborators as
they are. -/
theorem Step.effect_of_not_writesCache {σ : Type} {step : Step σ} (hs : step.writesCache = false)
    {name : String} {act : Evaluation σ → Context σ → Context σ}
    (ha : step.effect? = some (name, act)) (evaluation : Evaluation σ) (context : Context σ) :
    (∃ arguments strictness,
      act evaluation context = (evaluation.perform arguments strictness context).state) ∨
    ((act evaluation context).cache = context.cache ∧
      (act evaluation context).world = context.world) := by
  cases step with
  | create name options place => cases ha
  | lookup name strictness arguments =>
    cases ha
    exact .inl ⟨arguments, strictness, rfl⟩
  | store name identity documents => cases hs
  | storeDescriptor name type descriptor => cases hs
  | mark name =>
    cases ha
    exact .inr ⟨rfl, rfl⟩
  | change f => cases ha
  | configure f => cases ha

/-- What lookups keep of an evaluation and its cache is kept by every step that writes nothing else. -/
theorem Step.keeps_of_perform {σ : Type} {P : Evaluation σ → AnswerCache → Prop} {step : Step σ}
    (hs : step.writesCache = false)
    (h : ∀ evaluation context arguments strictness, P evaluation context.cache →
      P evaluation (evaluation.perform arguments strictness context).state.cache) :
    step.Keeps fun evaluation cache _ => P evaluation cache where
  acted name act evaluation context ha hp := by
    rcases Step.effect_of_not_writesCache hs ha evaluation context with
      ⟨arguments, strictness, hact⟩ | ⟨hcache, _⟩
    · rw [hact]
      exact h evaluation context arguments strictness hp
    · rw [hcache]
      exact hp
  beside _ _ _ _ _ _ _ _ hp := hp
  changed _ _ _ _ _ hp := hp

/-- Whether a lookup that reads through a cache answers, and sets the flag for sensitive data, as it
would with nothing remembered. The third part takes the flag away before the lookup. -/
def Event.Transparent {σ : Type} (event : Event σ) : Prop :=
  ∀ name arguments member, event.step = .lookup name .lenient arguments →
    event.before.member? name = some member → member.evaluation.path = .cacheFirst →
      ∀ world, let alone := member.evaluation.lookup arguments (Context.fresh world)
        event.report.result = alone.result.map some ∧
        event.after.isSensitive member =
          (event.before.isSensitive member || alone.state.sensitive) ∧
        (member.evaluation.lookup arguments
          { event.before.context member with sensitive := false }).state.sensitive =
            alone.state.sensitive

namespace Session
variable {σ : Type} {collaborators : Collaborators σ} {session : Session σ} {world : σ}
variable {name : String} {member : Member σ}

/-- Whether the evaluations that read through a cache read from the session's client, and their
caches hold what it would answer again. -/
def Faithful (collaborators : Collaborators σ) (world : σ) (session : Session σ) : Prop :=
  ∀ name member, session.member? name = some member → member.evaluation.path = .cacheFirst →
    member.evaluation.source = .cluster collaborators.client ∧
      (collaborators.client.answersIn world).Faithful member.cache

theorem faithful_start (collaborators : Collaborators σ) (settings : LookupSettings)
    (world first : σ) : (start settings first).Faithful collaborators world := by
  intro name member hm
  cases hm

theorem faithful_step (hc : collaborators.client.Steady)
    (h : session.Faithful collaborators world) {step : Step σ} (hs : step.writesCache = false) :
    (session.step collaborators step).1.Faithful collaborators world := by
  refine Each.step_of (P := fun evaluation cache _ => evaluation.path = .cacheFirst →
    evaluation.source = .cluster collaborators.client ∧
      (collaborators.client.answersIn world).Faithful cache) h ?_ (step.keeps_of_perform hs ?_)
  · intro name options place evaluation _ he hp
    cases Collaborators.makes_of_evaluation he with
    | unwatched policy => exact ⟨rfl, ClientAnswers.faithful_empty _⟩
    | watched policy watcher hr => cases hp
  · intro evaluation context arguments strictness hf hp
    obtain ⟨hsource, hcache⟩ := hf hp
    exact ⟨hsource, Evaluation.faithful_perform hc hsource hcache arguments strictness⟩

theorem transparent_eventOf (hc : collaborators.client.Steady)
    (h : session.Faithful collaborators world) (step : Step σ) :
    (session.eventOf collaborators step).Transparent := by
  rintro name arguments member rfl hm hp fresh
  have hm' : session.member? name = some member := hm
  obtain ⟨hs, hf⟩ := h name member hm' hp
  intro alone
  obtain ⟨hresult, hflag⟩ :=
    @Evaluation.lookup_of_faithful _ _ world (session.context member) _ hc hs hf arguments fresh
  have hstep : session.step collaborators (.lookup name .lenient arguments) = _ :=
    step_lookup hm' .lenient arguments
  have hafter : (session.eventOf collaborators (.lookup name .lenient arguments)).after =
      session.afterwards name member
        (member.evaluation.lookup arguments (session.context member)).state :=
    congrArg Prod.fst hstep
  have hreport : (session.eventOf collaborators (.lookup name .lenient arguments)).report.result =
      (member.evaluation.lookup arguments (session.context member)).result.map some :=
    congrArg (fun outcome => outcome.2.result) hstep
  refine ⟨?_, ?_, ?_⟩
  · rw [hreport, hresult]
  · rw [hafter, isSensitive_afterwards, hflag]
    change (session.isSensitive member || (session.isSensitive member || alone.state.sensitive)) =
      (session.isSensitive member || alone.state.sensitive)
    rw [← Bool.or_assoc, Bool.or_self]
  · have hclear := @Evaluation.lookup_of_faithful _ _ world
      { session.context member with sensitive := false } _ hc hs hf arguments fresh
    exact hclear.2

end Session

/-- However many lookups were made before it, and in whichever order, a lookup through the cache
answers and marks as the same lookup does by itself. -/
theorem trace_transparent {σ : Type} {collaborators : Collaborators σ}
    (hc : collaborators.client.Steady) (settings : LookupSettings) (world : σ)
    {steps : List (Step σ)} (hs : ∀ step ∈ steps, step.writesCache = false) :
    ∀ event ∈ (Session.start settings world).trace collaborators steps, event.Transparent := by
  intro event he
  have hf : event.before.Faithful collaborators world := by
    apply Session.before_of_mem_trace (Session.faithful_start collaborators settings world world) _ he
    intro step hm session h
    exact Session.faithful_step hc h (hs step hm)
  rw [Session.eq_eventOf_of_mem_trace he]
  exact Session.transparent_eventOf hc hf event.step

/-- A client that always answers as another one does in one state. -/
def ClusterClient.frozen {σ τ : Type} (client : ClusterClient σ) (world : σ) : ClusterClient τ where
  discover type := Action.ofExcept (client.discover type world).result
  get descriptor kind inNamespace name :=
    Action.ofExcept (client.get descriptor kind inNamespace name world).result
  list descriptor kind inNamespace selector :=
    Action.ofExcept (client.list descriptor kind inNamespace selector world).result

def frozenCollaborators : Collaborators Unit := ⟨ObjectStore.client.frozen smallStore, none⟩

/-- A missing secret is looked up twice, and then one that is there. -/
def secretSteps : List (Step Unit) :=
  [.create "page" ⟨⟨"", []⟩, none⟩ none, .lookup "page" .lenient (secretLookup "key"),
    .lookup "page" .lenient (secretLookup "key"), .lookup "page" .lenient (secretLookup "token")]

theorem trace_transparent_secret :
    frozenCollaborators.client.Steady ∧ (∀ step ∈ secretSteps, step.writesCache = false) ∧
      ∀ event ∈ (Session.start .standard ()).trace frozenCollaborators secretSteps,
        event.Transparent := by
  have hc : frozenCollaborators.client.Steady :=
    ⟨fun _ _ _ => rfl, fun _ _ _ _ _ _ => rfl, fun _ _ _ _ _ _ => rfl⟩
  have hs : ∀ step ∈ secretSteps, step.writesCache = false := by
    simp [secretSteps, Step.writesCache]
  exact ⟨hc, hs, trace_transparent hc .standard () hs⟩

-- The strict lookup of a missing secret fails, and then answers from the cache.
example : ((Session.start .standard ()).trace frozenCollaborators
    [.create "page" ⟨⟨"", []⟩, none⟩ none, .lookup "page" .strict (secretLookup "key"),
      .lookup "page" .strict (secretLookup "key")]).map (·.report.result.isOk) =
    [true, false, true] := by cbv

end ClusterLookup
