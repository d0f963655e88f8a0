import ClusterLookup.Proofs.Noninterference
import ClusterLookup.Proofs.Transparency
import Mathlib.Data.List.Forall2

/-!
# Agreement of the two paths

An evaluation with a watcher reads from a registry and remembers nothing, one without reads from a client
through a cache. They differ in how they learn that an object is missing, in which failures they wrap, and
in whether they ask again. If the registry tells what the client tells, none of this can be seen from
outside: lookups answer and fail alike, and find sensitive data alike, throughout a run.

A strict lookup is left out of the comparison of answers. Of an object that is known to be missing the
cache answers that it is absent, where the registry is asked anew and the lookup fails.
-/

namespace ClusterLookup

open Evaluation (lenient)

/-- Whether a registry tells of an object what a client tells: the document, null if there is no such
object, or the same failure. -/
inductive Registry.Tallies (descriptor : Descriptor) (inNamespace name : String) :
    Except Failure Document → Except Failure Document → Prop
  | found (document : Document) : Tallies descriptor inNamespace name (.ok document) (.ok document)
  | missing : Tallies descriptor inNamespace name (.ok .null)
      (.error (.notFound descriptor.group descriptor.resource inNamespace name))
  | failed {failure : Failure} (h : failure.isLookup = true) :
      Tallies descriptor inNamespace name (.error failure) (.error failure)

/-- Whether a registry tells in every state what a client answers: of types, and of the objects of the
types that there are. -/
structure Registry.Mirrors {σ : Type} (registry : Registry σ) (answers : ClientAnswers) : Prop where
  resolveType (type : GroupVersionKind) (world : σ) :
    (registry.resolveType type world).result = answers.discover type
  unresolved (type : GroupVersionKind) (failure : Failure) :
    answers.discover type = .error failure → failure.isLookup = true
  get (watcher : Identity) (type : GroupVersionKind) (descriptor : Descriptor)
      (inNamespace name : String) (world : σ) : answers.discover type = .ok descriptor →
    Registry.Tallies descriptor inNamespace name (registry.get watcher type inNamespace name world).result
      (answers.get descriptor type.kind inNamespace name)
  list (watcher : Identity) (type : GroupVersionKind) (descriptor : Descriptor)
      (inNamespace selector : String) (world : σ) : answers.discover type = .ok descriptor →
    (registry.list watcher type inNamespace selector world).result =
      answers.list descriptor type.kind inNamespace selector
  unlisted (type : GroupVersionKind) (descriptor : Descriptor) (inNamespace selector : String)
      (failure : Failure) : answers.discover type = .ok descriptor →
    answers.list descriptor type.kind inNamespace selector = .error failure →
      failure.isLookup = true

/-! ## Lookups through the registry -/

theorem mapError_during {α : Type} {operation : String} {result : Except Failure α}
    (h : ∀ failure, result = .error failure → failure.isLookup = true) :
    result.mapError (·.during operation) = result := by
  cases result with
  | ok a => rfl
  | error failure =>
    rw [Results.mapError_error, Failure.during_of_isLookup (h failure rfl)]

/-- A registry that tallies with the client gives the answer that the client gives. -/
theorem Registry.Tallies.lenient_present {identity : Identity} {descriptor : Descriptor}
    {told asked : Except Failure Document}
    (h : Tallies descriptor identity.inNamespace identity.name told asked) (operation : String) :
    lenient ((told.mapError (·.during operation)).bind (Lookup.present identity descriptor)) =
      lenient (asked.map .ofDocument) := by
  cases h with
  | found document =>
    rw [Results.mapError_ok]
    cases document <;> rfl
  | missing => rfl
  | failed hl =>
    rw [Results.mapError_error, Failure.during_of_isLookup hl]
    rfl

section Lookups
variable {σ : Type} {client : ClusterClient σ} {registry : Registry σ} {answers : ClientAnswers}
variable {watcher : Identity} {context : Context σ}

theorem result_resolveType_registry (h : registry.Mirrors answers) (watcher : Identity)
    (type : GroupVersionKind) (context : Context σ) :
    (Lookup.resolveType (.registry registry watcher) type context).result = answers.discover type := by
  rw [Lookup.resolveType_registry]
  simp only [h.resolveType type context.world]
  exact mapError_during (h.unresolved type)

theorem lenient_readAnswer_registry (h : registry.Mirrors answers) {identity : Identity}
    {descriptor : Descriptor} (hd : answers.discover identity.type = .ok descriptor) :
    lenient (Lookup.readAnswer (.registry registry watcher) identity descriptor context).result =
      lenient (answers.read identity descriptor) := by
  unfold ClientAnswers.read
  cases hl : identity.isList with
  | true =>
    rw [Lookup.readAnswer_registry_list hl]
    simp only [h.list watcher identity.type descriptor _ _ context.world hd, if_true]
    rw [mapError_during fun failure => h.unlisted identity.type descriptor _ _ failure hd]
  | false =>
    rw [Lookup.readAnswer_registry_get hl]
    exact (h.get watcher identity.type descriptor _ _ context.world hd).lenient_present _

/-- Whether a source answers with what a client answers in one state: the client itself, behind a cache
that holds nothing else, or a registry. -/
inductive Source.Tells (client : ClusterClient σ) (registry : Registry σ) (world : σ)
    (cache : AnswerCache) : Source σ → Prop
  | cluster (h : (client.answersIn world).Faithful cache) :
      Tells client registry world cache (.cluster client)
  | registry (watcher : Identity) : Tells client registry world cache (.registry registry watcher)

theorem Evaluation.lenient_of_tells {world : σ} (hc : client.Steady)
    (hm : registry.Mirrors (client.answersIn world)) {evaluation : Evaluation σ}
    (h : evaluation.source.Tells client registry world context.cache) (arguments : Arguments) :
    lenient (evaluation.lookupStrict arguments context).result =
      lenient ((client.answersIn world).answer evaluation.policy arguments) := by
  generalize hs : evaluation.source = source at h
  cases h with
  | cluster hf => exact lenient_lookupStrict_cluster hc hs hf arguments
  | registry watcher =>
    apply lenient_lookupStrict
    · intro type
      rw [hs]
      exact result_resolveType_registry hm watcher type context
    · intro identity descriptor hd
      rw [hs]
      exact lenient_readAnswer_registry hm hd

theorem Evaluation.tells_perform {world : σ} (hc : client.Steady) {evaluation : Evaluation σ}
    (h : evaluation.source.Tells client registry world context.cache) (arguments : Arguments)
    (strictness : Strictness) : evaluation.source.Tells client registry world
      (evaluation.perform arguments strictness context).state.cache := by
  generalize hs : evaluation.source = source at h
  cases h with
  | cluster hf => exact .cluster (faithful_perform hc hs hf arguments strictness)
  | registry watcher => exact .registry watcher

theorem Evaluation.agree {world : σ} (hc : client.Steady)
    (hm : registry.Mirrors (client.answersIn world)) {one other : Evaluation σ}
    {context context' : Context σ} (ho : one.source.Tells client registry world context.cache)
    (ho' : other.source.Tells client registry world context'.cache) (hp : other.policy = one.policy)
    (hk : other.sensitiveKind = one.sensitiveKind) (hs : context'.sensitive = context.sensitive)
    (arguments : Arguments) :
    (other.lookup arguments context').result = (one.lookup arguments context).result ∧
      ∀ strictness, (other.perform arguments strictness context').state.sensitive =
        (one.perform arguments strictness context).state.sensitive := by
  -- Both come out as a lookup without a memory, which knows nothing of the path.
  have hlenient : lenient (other.lookupStrict arguments context').result =
      lenient (one.lookupStrict arguments context).result := by
    rw [lenient_of_tells hc hm ho', lenient_of_tells hc hm ho, hp]
  have hflags : ∀ result, other.flags arguments result = one.flags arguments result := by
    intro result
    simp only [flags, Lookup.marks, hp, hk]
  refine ⟨?_, ?_⟩
  · simp only [lookup_eq, hlenient]
  · intro strictness
    rw [state_perform, state_perform, sensitive_lookupStrict, sensitive_lookupStrict, hs,
      ← flags_lenient other, ← flags_lenient one, hlenient, hflags]

end Lookups

/-! ## Two runs -/

/-- A step that makes no evaluation follow what it reads. -/
def Step.unwatched {σ : Type} : Step σ → Step σ
  | .create name options place => .create name { options with watcher := none } place
  | step => step

/-- What can be told of an evaluation without knowing where it reads. -/
def Member.profile {σ : Type} (member : Member σ) : Policy × String × ResultPlace :=
  (member.evaluation.policy, member.evaluation.sensitiveKind, member.place)

/-- Whether an evaluation of that name is marked as having read sensitive data, if there is one. -/
def Session.flag? {σ : Type} (session : Session σ) (name : String) : Option Bool :=
  (session.member? name).map session.isSensitive

/-- Whether two events report the same and leave the same flags behind. What strict lookups report is
not compared. -/
structure Event.Agrees {σ : Type} (first second : Event σ) : Prop where
  result : (∀ name arguments, first.step ≠ .lookup name .strict arguments) →
    first.report.result = second.report.result
  flags : ∀ name, first.after.flag? name = second.after.flag? name

/-- Whether two sessions have the same evaluations but for where they read, and the same flags. -/
structure Session.Concurs {σ : Type} (first second : Session σ) : Prop where
  settings : second.settings = first.settings
  made : second.made = first.made
  sensitive : second.sensitive = first.sensitive
  profile : ∀ name,
    (second.member? name).map Member.profile = (first.member? name).map Member.profile

/-- Whether the evaluations of a session answer with what the client answers in one state. -/
def Session.Tells {σ : Type} (client : ClusterClient σ) (registry : Registry σ) (world : σ)
    (session : Session σ) : Prop :=
  session.Each fun evaluation cache _ => evaluation.source.Tells client registry world cache

namespace Session
variable {σ : Type} {client : ClusterClient σ} {registry : Registry σ} {world : σ}
variable {first second : Session σ}

/-- The evaluations of a name in concurring sessions: none, or two of one profile and with one flag. -/
theorem Concurs.pair (h : first.Concurs second) (name : String) :
    (first.member? name = none ∧ second.member? name = none) ∨
      ∃ one other, first.member? name = some one ∧ second.member? name = some other ∧
        other.profile = one.profile ∧ second.isSensitive other = first.isSensitive one := by
  have hp := h.profile name
  cases hf : first.member? name with
  | none =>
    rw [hf] at hp
    exact .inl ⟨rfl, Option.map_eq_none_iff.mp hp⟩
  | some one =>
    rw [hf] at hp
    obtain ⟨other, ho, heq⟩ := Option.map_eq_some_iff.mp hp
    have hplace : other.place = one.place := congrArg (·.2.2) heq
    refine .inr ⟨one, other, rfl, ho, heq, ?_⟩
    simp only [isSensitive, h.sensitive, hplace]

theorem Concurs.flag? (h : first.Concurs second) (name : String) :
    first.flag? name = second.flag? name := by
  unfold Session.flag?
  rcases h.pair name with ⟨hf, hs⟩ | ⟨one, other, hf, hs, _, hflag⟩
  · rw [hf, hs]
    rfl
  · rw [hf, hs]
    exact congrArg some hflag.symm

theorem profile_afterwards (session : Session σ) {member : Member σ}
    (hm : session.member? name = some member) (context : Context σ) (asked : String) :
    ((session.afterwards name member context).member? asked).map Member.profile =
      (session.member? asked).map Member.profile := by
  by_cases ha : asked = name
  · subst ha
    rw [member?_afterwards_self hm, hm]
    rfl
  · rw [member?_afterwards_of_ne ha]

theorem Concurs.run {α : Type} (h : first.Concurs second) (name : String)
    {x : Member σ → Lookup σ α} (answer : α → Option Answer)
    (hx : ∀ one other, first.member? name = some one → second.member? name = some other →
      other.profile = one.profile → second.isSensitive other = first.isSensitive one →
        (x other (second.context other)).state.sensitive =
          (x one (first.context one)).state.sensitive) :
    (first.run name x answer).1.Concurs (second.run name x answer).1 := by
  unfold Session.run
  rcases h.pair name with ⟨hf, hs⟩ | ⟨one, other, hf, hs, hp, hflag⟩
  · simpa only [hf, hs] using h
  · have hsensitive := hx one other hf hs hp hflag
    have hplace : other.place = one.place := congrArg (·.2.2) hp
    simp only [hf, hs]
    refine ⟨h.settings, h.made, ?_, ?_⟩
    · simp only [afterwards, hsensitive, hplace, h.sensitive]
    · intro asked
      rw [profile_afterwards second hs, profile_afterwards first hf, h.profile]

theorem Concurs.result_run {α : Type} (h : first.Concurs second) (name : String)
    {x : Member σ → Lookup σ α} (answer : α → Option Answer)
    (hx : ∀ one other, first.member? name = some one → second.member? name = some other →
      other.profile = one.profile → second.isSensitive other = first.isSensitive one →
        (x other (second.context other)).result = (x one (first.context one)).result) :
    (first.run name x answer).2.result = (second.run name x answer).2.result := by
  unfold Session.run
  rcases h.pair name with ⟨hf, hs⟩ | ⟨one, other, hf, hs, hp, hflag⟩
  · simp only [hf, hs]
  · simp only [hf, hs, hx one other hf hs hp hflag]

theorem Concurs.add (h : first.Concurs second) (name : String) {one other : Member σ}
    (hp : other.profile = one.profile) :
    Concurs { first with members := (name, one) :: first.members, made := first.made + 1 }
      { second with members := (name, other) :: second.members, made := second.made + 1 } where
  settings := h.settings
  made := congrArg (· + 1) h.made
  sensitive := h.sensitive
  profile asked := by
    by_cases ha : name = asked
    · simpa [member?, valueOf?, ha] using hp
    · simpa [member?, valueOf?, ha] using h.profile asked

theorem Concurs.create (h : first.Concurs second) (name : String) (options : Options)
    (place : Option String) :
    let collaborators : Collaborators σ := ⟨client, some registry⟩
    let one := first.create collaborators name options place
    let other := second.create collaborators name { options with watcher := none } place
    one.2.result = other.2.result ∧ one.1.Concurs other.1 := by
  obtain ⟨policy, watcher⟩ := options
  intro collaborators one other
  -- The new evaluations have one profile, whichever sources they get.
  have hprofile : ∀ source source' : Source σ,
      Member.profile ⟨⟨policy, source', second.settings.sensitiveKind⟩, .empty,
          (place.map ResultPlace.shared).getD (.own second.made)⟩ =
        Member.profile ⟨⟨policy, source, first.settings.sensitiveKind⟩, .empty,
          (place.map ResultPlace.shared).getD (.own first.made)⟩ := by
    intro source source'
    simp only [Member.profile, h.settings, h.made]
  cases watcher with
  | none => exact ⟨rfl, h.add name (hprofile _ _)⟩
  | some watcher => exact ⟨rfl, h.add name (hprofile _ _)⟩

theorem Tells.step (hc : client.Steady) (h : first.Tells client registry world) {step : Step σ}
    (hs : step.writesCache = false) :
    (first.step ⟨client, some registry⟩ step).1.Tells client registry world := by
  apply Each.step_of h
  · intro name options place evaluation _ he
    cases Collaborators.makes_of_evaluation he with
    | unwatched policy => exact .cluster (ClientAnswers.faithful_empty _)
    | watched policy watcher hregistry =>
      cases hregistry
      exact .registry watcher
  · refine step.keeps_of_perform hs ?_
    intro evaluation context arguments strictness ht
    exact Evaluation.tells_perform hc ht arguments strictness

section Steps
variable (hc : client.Steady) (hm : registry.Mirrors (client.answersIn world))
include hc hm

theorem Concurs.lookup (h : first.Concurs second) (hf : first.Tells client registry world)
    (hs : second.Tells client registry world) (name : String) (strictness : Strictness)
    (arguments : Arguments) :
    let collaborators : Collaborators σ := ⟨client, some registry⟩
    let one := first.step collaborators (.lookup name strictness arguments)
    let other := second.step collaborators (.lookup name strictness arguments)
    (strictness = .lenient → one.2.result = other.2.result) ∧ one.1.Concurs other.1 := by
  intro collaborators one other
  have hagree : ∀ member member', first.member? name = some member →
      second.member? name = some member' → member'.profile = member.profile →
        second.isSensitive member' = first.isSensitive member →
          (member'.evaluation.lookup arguments (second.context member')).result =
              (member.evaluation.lookup arguments (first.context member)).result ∧
            ∀ strictness,
              (member'.evaluation.perform arguments strictness
                  (second.context member')).state.sensitive =
                (member.evaluation.perform arguments strictness
                  (first.context member)).state.sensitive := by
    intro member member' hfirst hsecond hp hflag
    exact Evaluation.agree hc hm (hf name member hfirst) (hs name member' hsecond)
      (congrArg (·.1) hp) (congrArg (·.2.1) hp) hflag arguments
  cases strictness with
  | lenient =>
    refine ⟨fun _ => h.result_run name some ?_, h.run name some ?_⟩
    · intro member member' hfirst hsecond hp hflag
      exact (hagree member member' hfirst hsecond hp hflag).1
    · intro member member' hfirst hsecond hp hflag
      exact (hagree member member' hfirst hsecond hp hflag).2 .lenient
  | strict =>
    refine ⟨(fun hl => by cases hl), h.run name some ?_⟩
    intro member member' hfirst hsecond hp hflag
    exact (hagree member member' hfirst hsecond hp hflag).2 .strict

theorem Concurs.step (h : first.Concurs second) (hf : first.Tells client registry world)
    (hs : second.Tells client registry world) {step : Step σ} (hw : step.writesCache = false) :
    let collaborators : Collaborators σ := ⟨client, some registry⟩
    (first.eventOf collaborators step).Agrees (second.eventOf collaborators step.unwatched) ∧
      (first.step collaborators step).1.Concurs (second.step collaborators step.unwatched).1 := by
  intro collaborators
  -- Of the flags it is enough that the sessions concur.
  suffices hstep : ((∀ name arguments, step ≠ .lookup name .strict arguments) →
        (first.step collaborators step).2.result =
          (second.step collaborators step.unwatched).2.result) ∧
      (first.step collaborators step).1.Concurs (second.step collaborators step.unwatched).1 from
    ⟨⟨hstep.1, hstep.2.flag?⟩, hstep.2⟩
  cases step with
  | create name options place =>
    obtain ⟨hr, hconcurs⟩ := h.create name options place
    exact ⟨fun _ => hr, hconcurs⟩
  | lookup name strictness arguments =>
    obtain ⟨hr, hconcurs⟩ := Concurs.lookup hc hm h hf hs name strictness arguments
    refine ⟨fun hl => hr ?_, hconcurs⟩
    cases strictness with
    | lenient => rfl
    | strict => exact absurd rfl (hl name arguments)
  | store => cases hw
  | storeDescriptor => cases hw
  | mark name =>
    refine ⟨fun _ => h.result_run name _ ?_, h.run name _ ?_⟩
    · intro _ _ _ _ _ _
      rfl
    · intro _ _ _ _ _ _
      rfl
  | change f => exact ⟨fun _ => rfl, h.settings, h.made, h.sensitive, h.profile⟩
  | configure f => exact ⟨fun _ => rfl, congrArg f h.settings, h.made, h.sensitive, h.profile⟩

theorem Concurs.trace (h : first.Concurs second) (hf : first.Tells client registry world)
    (hs : second.Tells client registry world) {steps : List (Step σ)}
    (hw : ∀ step ∈ steps, step.writesCache = false) :
    let collaborators : Collaborators σ := ⟨client, some registry⟩
    List.Forall₂ Event.Agrees (first.trace collaborators steps)
      (second.trace collaborators (steps.map Step.unwatched)) := by
  intro collaborators
  induction steps generalizing first second with
  | nil => exact .nil
  | cons step steps ih =>
    have hwrites : step.writesCache = false := hw step List.mem_cons_self
    have hwrites' : step.unwatched.writesCache = false := by
      cases step <;> exact hwrites
    obtain ⟨hagrees, hconcurs⟩ := Concurs.step hc hm h hf hs hwrites
    refine .cons hagrees (ih hconcurs (Tells.step hc hf hwrites) (Tells.step hc hs hwrites') ?_)
    intro other hmem
    exact hw other (List.mem_cons_of_mem step hmem)

end Steps

end Session

/-- If a registry tells what the client answers, it makes no difference to lookups and flags whether
evaluations are watched and read from the registry, or not and read from the client through a cache. -/
theorem watched_agrees {σ : Type} {client : ClusterClient σ} {registry : Registry σ}
    (hc : client.Steady) {world : σ} (hm : registry.Mirrors (client.answersIn world))
    (settings : LookupSettings) {steps : List (Step σ)}
    (hs : ∀ step ∈ steps, step.writesCache = false) :
    let collaborators : Collaborators σ := ⟨client, some registry⟩
    let session := Session.start settings world
    List.Forall₂ Event.Agrees (session.trace collaborators steps)
      (session.trace collaborators (steps.map Step.unwatched)) :=
  Session.Concurs.trace hc hm ⟨rfl, rfl, rfl, fun _ => rfl⟩ (Session.each_start _ settings world)
    (Session.each_start _ settings world) hs

/-! ## A cluster in memory -/

/-- A registry that always tells what another one does in one state. -/
def Registry.frozen {σ τ : Type} (registry : Registry σ) (world : σ) : Registry τ where
  resolveType type := Action.ofExcept (registry.resolveType type world).result
  get watcher type inNamespace name :=
    Action.ofExcept (registry.get watcher type inNamespace name world).result
  list watcher type inNamespace selector :=
    Action.ofExcept (registry.list watcher type inNamespace selector world).result

namespace ObjectStore
variable {store : ObjectStore}

theorem result_call {α : Type} (h : store.outages = []) (operation : Operation)
    (answer : ObjectStore → Except Failure α) :
    (call operation answer store).result = answer (store.counted operation) := by
  rw [call_of_no_outage]
  simp [outage?, counted, h]

theorem discover_frozen (h : store.outages = []) (type : GroupVersionKind) :
    ((client.frozen store : ClusterClient Unit).answersIn ()).discover type = store.resolve type :=
  result_call h .discover _

/-- Without outages the registry of a cluster in memory tells what its client answers. -/
theorem mirrors_frozen (h : store.outages = []) (hg : store.KeepsGroups) :
    (registry.frozen store : Registry Unit).Mirrors
      ((client.frozen store : ClusterClient Unit).answersIn ()) where
  resolveType type _ := by
    rw [discover_frozen h]
    exact result_call h .resolveType _
  unresolved type failure hf := by
    have hr : store.resolve type = .error failure := (discover_frozen h type).symm.trans hf
    unfold resolve at hr
    split at hr
    · cases hr
    · cases hr
      rfl
  get watcher type descriptor inNamespace name _ hd := by
    have hr : store.resolve type = .ok descriptor := (discover_frozen h type).symm.trans hd
    have htold : ((registry.frozen store : Registry Unit).get watcher type inNamespace name ()).result =
        .ok (((store.find? descriptor.group type.kind (placeOf descriptor inNamespace) name).map
          (·.document)).getD .null) := by
      refine (result_call h _ _).trans ?_
      change (store.resolve type >>= _) = _
      rw [hr, hg type descriptor hr]
      rfl
    have hasked : ((client.frozen store : ClusterClient Unit).answersIn ()).get descriptor type.kind
        inNamespace name = store.getDocument descriptor type.kind inNamespace name :=
      result_call h _ _
    rw [htold, hasked, getDocument]
    cases store.find? descriptor.group type.kind (placeOf descriptor inNamespace) name with
    | some object => exact .found object.document
    | none => exact .missing
  list watcher type descriptor inNamespace selector _ hd := by
    have hr : store.resolve type = .ok descriptor := (discover_frozen h type).symm.trans hd
    refine (result_call h _ _).trans (Eq.trans ?_ (result_call h _ _).symm)
    change (store.resolve type >>= _) = _
    rw [hr]
    rfl
  unlisted type descriptor inNamespace selector failure _ hf := by
    have hlisted := (result_call h .list _).symm.trans hf
    cases hlisted

end ObjectStore

/-- A missing secret is looked up twice, then one that is there, and a list. -/
def watchedSteps : List (Step Unit) :=
  [.create "page" ⟨⟨"team-a", []⟩, some default⟩ none,
    .lookup "page" .lenient (secretLookup "key"), .lookup "page" .lenient (secretLookup "key"),
    .lookup "page" .lenient (secretLookup "token"), .lookup "page" .lenient (secretLookup "")]

theorem watched_agrees_secret :
    let client : ClusterClient Unit := ObjectStore.client.frozen smallStore
    let registry : Registry Unit := ObjectStore.registry.frozen smallStore
    let session : Session Unit := .start .standard ()
    client.Steady ∧ registry.Mirrors (client.answersIn ()) ∧
      (∀ step ∈ watchedSteps, step.writesCache = false) ∧
      List.Forall₂ Event.Agrees (session.trace ⟨client, some registry⟩ watchedSteps)
        (session.trace ⟨client, some registry⟩ (watchedSteps.map Step.unwatched)) := by
  intro client registry session
  have hc : client.Steady := ⟨fun _ _ _ => rfl, fun _ _ _ _ _ _ => rfl, fun _ _ _ _ _ _ => rfl⟩
  have hm : registry.Mirrors (client.answersIn ()) :=
    ObjectStore.mirrors_frozen rfl (ObjectStore.keepsGroups_of_types (by simp [smallStore]))
  have hs : ∀ step ∈ watchedSteps, step.writesCache = false := by
    simp [watchedSteps, Step.writesCache]
  exact ⟨hc, hm, hs, watched_agrees hc hm .standard hs⟩

end ClusterLookup
