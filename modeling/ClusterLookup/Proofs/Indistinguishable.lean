import ClusterLookup.Proofs.Trace

/-!
# Worlds that an evaluation cannot tell apart

Two states of the collaborators may differ in what nobody asks for. If a source answers alike in both to
whatever a restricted evaluation may ask, and leaves states behind that differ in the same way, then whole
runs of restricted evaluations go alike: they answer alike and enter the same into their journals.

What the worlds have in common is a relation between them and left open here.
-/

namespace ClusterLookup

/-- Whether outcomes differ at most in the states that they leave behind, and these are related. -/
structure Outcome.Alike {ε σ α : Type} (R : σ → σ → Prop) (first second : Outcome ε σ α) : Prop where
  result : second.result = first.result
  journal : second.journal = first.journal
  state : R first.state second.state

/-- Whether an action comes out alike in related states. -/
def Action.Respects {ε σ α : Type} (R : σ → σ → Prop) (x : Action ε σ α) : Prop :=
  ∀ first second, R first second → (x first).Alike R (x second)

/-- Contexts that differ at most in the states of the collaborators, which are related. -/
structure Context.Alike {σ : Type} (R : σ → σ → Prop) (first second : Context σ) : Prop where
  cache : second.cache = first.cache
  sensitive : second.sensitive = first.sensitive
  world : R first.world second.world

/-- Whether a source answers alike in related states to what an evaluation under a restriction may ask
it. A client may be asked for what the policy admits. A registry is asked by the type instead, so that
what counts is the descriptor to which it resolves the type. -/
inductive Source.Respects {σ : Type} (policy : Policy) (R : σ → σ → Prop) : Source σ → Prop
  | cluster {client : ClusterClient σ}
      (discover : ∀ type, (client.discover type).Respects R)
      (get : ∀ descriptor kind name, name ≠ "" → policy.admits descriptor kind name = true →
        (client.get descriptor kind policy.restriction name).Respects R)
      (list : ∀ descriptor kind selector, policy.admits descriptor kind "" = true →
        (client.list descriptor kind policy.restriction selector).Respects R) :
      Respects policy R (.cluster client)
  | registry {registry : Registry σ} {watcher : Identity}
      {Resolves : GroupVersionKind → Descriptor → Prop}
      (resolveType : ∀ type, (registry.resolveType type).Respects R)
      (resolves : ∀ type descriptor first second, R first second →
        (registry.resolveType type first).result = .ok descriptor → Resolves type descriptor)
      (get : ∀ type descriptor name, Resolves type descriptor → name ≠ "" →
        policy.admits descriptor type.kind name = true →
          (registry.get watcher type policy.restriction name).Respects R)
      (list : ∀ type descriptor selector, Resolves type descriptor →
        policy.admits descriptor type.kind "" = true →
          (registry.list watcher type policy.restriction selector).Respects R) :
      Respects policy R (.registry registry watcher)

/-! ## Lookups -/

section Lookups
variable {σ : Type} {R : σ → σ → Prop} {policy : Policy} {source : Source σ}
variable {first second : Context σ} {identity : Identity} {descriptor : Descriptor}

namespace Lookup

theorem resolveType_alike (h : source.Respects policy R) (hc : first.Alike R second)
    (type : GroupVersionKind) :
    (resolveType source type first).Alike (Context.Alike R) (resolveType source type second) := by
  cases h with
  | @cluster client discover _ _ =>
    cases hd : first.cache.descriptor? type with
    | some descriptor =>
      rw [resolveType_of_remembered hd, resolveType_of_remembered (hc.cache ▸ hd)]
      exact ⟨rfl, rfl, hc⟩
    | none =>
      rw [resolveType_of_unknown hd, resolveType_of_unknown (hc.cache ▸ hd)]
      have ha := discover type first.world second.world hc.world
      refine ⟨ha.result, ?_, ⟨?_, hc.sensitive, ha.state⟩⟩
      · simp only [ha.result, ha.journal]
      · simp only [ha.result, hc.cache]
  | registry resolveType _ _ _ =>
    rw [resolveType_registry, resolveType_registry]
    have ha := resolveType type first.world second.world hc.world
    refine ⟨?_, ?_, ⟨hc.cache, hc.sensitive, ha.state⟩⟩
    · simp only [ha.result]
    · simp only [ha.result, ha.journal]

/-- A client that answers alike to what a question asks it is read alike. -/
theorem readAnswer_cluster_alike {client : ClusterClient σ} (hc : first.Alike R second)
    (hget : identity.isList = false →
      (client.get descriptor identity.type.kind identity.inNamespace identity.name).Respects R)
    (hlist : identity.isList = true →
      (client.list descriptor identity.type.kind identity.inNamespace identity.selector).Respects R) :
    (readAnswer (.cluster client) identity descriptor first).Alike (Context.Alike R)
      (readAnswer (.cluster client) identity descriptor second) := by
  cases hf : first.cache.find? identity with
  | some documents =>
    rw [readAnswer_of_remembered hf, readAnswer_of_remembered (hc.cache ▸ hf)]
    exact ⟨rfl, rfl, hc⟩
  | none =>
    have hf' : second.cache.find? identity = none := hc.cache ▸ hf
    cases hl : identity.isList with
    | true =>
      have ha := hlist hl _ _ hc.world
      rw [readAnswer_list hl hf, readAnswer_list hl hf']
      refine ⟨?_, ?_, ⟨?_, hc.sensitive, ha.state⟩⟩
      · simp only [ha.result]
      · simp only [ha.result, ha.journal]
      · simp only [ha.result, hc.cache]
    | false =>
      have ha := hget hl _ _ hc.world
      rw [readAnswer_get hl hf, readAnswer_get hl hf']
      refine ⟨?_, ?_, ⟨?_, hc.sensitive, ha.state⟩⟩
      · simp only [ha.result]
      · simp only [ha.result, ha.journal]
      · simp only [ha.result, hc.cache]

theorem readAnswer_registry_alike {registry : Registry σ} {watcher : Identity}
    (hc : first.Alike R second)
    (hget : identity.isList = false →
      (registry.get watcher identity.type identity.inNamespace identity.name).Respects R)
    (hlist : identity.isList = true →
      (registry.list watcher identity.type identity.inNamespace identity.selector).Respects R) :
    (readAnswer (.registry registry watcher) identity descriptor first).Alike (Context.Alike R)
      (readAnswer (.registry registry watcher) identity descriptor second) := by
  cases hl : identity.isList with
  | true =>
    have ha := hlist hl _ _ hc.world
    rw [readAnswer_registry_list hl, readAnswer_registry_list hl]
    refine ⟨?_, ?_, ⟨hc.cache, hc.sensitive, ha.state⟩⟩
    · simp only [ha.result]
    · simp only [ha.result, ha.journal]
  | false =>
    have ha := hget hl _ _ hc.world
    rw [readAnswer_registry_get hl, readAnswer_registry_get hl]
    refine ⟨?_, ?_, ⟨hc.cache, hc.sensitive, ha.state⟩⟩
    · simp only [ha.result]
    · simp only [ha.result, ha.journal]

/-- A question that the guard lets pass is read alike once its type has been resolved. -/
theorem readAnswer_alike (h : source.Respects policy R) (hc : first.Alike R second)
    (hn : identity.inNamespace = policy.restriction)
    (ht : (resolveType source identity.type first).result = .ok descriptor)
    (ha : policy.admits descriptor identity.type.kind identity.name = true) :
    (readAnswer source identity descriptor (resolveType source identity.type first).state).Alike
      (Context.Alike R)
      (readAnswer source identity descriptor (resolveType source identity.type second).state) := by
  have hresolved := (resolveType_alike h hc identity.type).state
  have hall : identity.isList = true → policy.admits descriptor identity.type.kind "" = true := by
    intro hl
    exact Identity.isList_eq_true_iff.mp hl ▸ ha
  cases h with
  | cluster _ get list =>
    apply readAnswer_cluster_alike hresolved
    · intro hl
      exact hn ▸ get descriptor _ _ (Identity.isList_eq_false_iff.mp hl) ha
    · intro hl
      exact hn ▸ list descriptor _ _ (hall hl)
  | registry _ resolves get list =>
    have hdescriptor := resolves identity.type descriptor _ _ hc.world
      (Results.mapError_eq_ok_iff.mp ht)
    apply readAnswer_registry_alike hresolved
    · intro hl
      exact hn ▸ get identity.type descriptor _ hdescriptor (Identity.isList_eq_false_iff.mp hl) ha
    · intro hl
      exact hn ▸ list identity.type descriptor _ hdescriptor (hall hl)

end Lookup

namespace Evaluation
variable {evaluation : Evaluation σ}

theorem answer_alike (h : evaluation.source.Respects evaluation.policy R)
    (hc : first.Alike R second) (hn : identity.inNamespace = evaluation.policy.restriction) :
    (evaluation.answer identity first).Alike (Context.Alike R) (evaluation.answer identity second) := by
  have hresolved := Lookup.resolveType_alike h hc identity.type
  cases ht : (Lookup.resolveType evaluation.source identity.type first).result with
  | error failure =>
    rw [answer_of_unresolved ht, answer_of_unresolved (hresolved.result.trans ht)]
    exact ⟨rfl, hresolved.journal, hresolved.state⟩
  | ok descriptor =>
    have ht' := hresolved.result.trans ht
    cases ha : evaluation.policy.admits descriptor identity.type.kind identity.name with
    | false =>
      rw [answer_of_refused ht ha, answer_of_refused ht' ha]
      refine ⟨rfl, ?_, hresolved.state⟩
      simp only [hresolved.journal]
    | true =>
      rw [answer_of_admitted ht ha, answer_of_admitted ht' ha]
      have hread := Lookup.readAnswer_alike h hc hn ht ha
      refine ⟨hread.result, ?_, ⟨hread.state.cache, ?_, hread.state.world⟩⟩
      · simp only [hresolved.journal, hread.journal]
      · simp only [hread.result, hread.state.sensitive]

theorem lookupStrict_alike (h : evaluation.source.Respects evaluation.policy R)
    (hr : evaluation.policy.restriction ≠ "") (hc : first.Alike R second) (arguments : Arguments) :
    (evaluation.lookupStrict arguments first).Alike (Context.Alike R)
      (evaluation.lookupStrict arguments second) := by
  cases hi : arguments.identity evaluation.policy with
  | error failure =>
    rw [lookupStrict_of_invalid hi, lookupStrict_of_invalid hi]
    exact ⟨rfl, rfl, hc⟩
  | ok identity =>
    obtain ⟨_, hn, _⟩ := Arguments.identity_eq_ok_iff.mp hi
    have hr' : evaluation.policy.restriction.isEmpty = false := by simpa using hr
    rw [lookupStrict_of_valid hi, lookupStrict_of_valid hi]
    exact answer_alike h hc (Policy.eq_restriction_of_effectiveNamespace hr' hn)

theorem perform_alike (h : evaluation.source.Respects evaluation.policy R)
    (hr : evaluation.policy.restriction ≠ "") (hc : first.Alike R second) (arguments : Arguments)
    (strictness : Strictness) :
    (evaluation.perform arguments strictness first).Alike (Context.Alike R)
      (evaluation.perform arguments strictness second) := by
  have hstrict := lookupStrict_alike h hr hc arguments
  cases strictness with
  | strict => exact hstrict
  | lenient =>
    simp only [perform, lookup_eq]
    refine ⟨?_, ?_, hstrict.state⟩
    · simp only [hstrict.result]
    · simp only [hstrict.result, hstrict.journal]

end Evaluation

end Lookups

/-! ## Sessions -/

/-- Sessions that differ at most in the states of the collaborators, which are related. -/
structure Session.Alike {σ : Type} (R : σ → σ → Prop) (first second : Session σ) : Prop where
  settings : second.settings = first.settings
  members : second.members = first.members
  made : second.made = first.made
  sensitive : second.sensitive = first.sensitive
  world : R first.world second.world

/-- Whether every evaluation of a session is restricted by a policy, and reads from a source that
answers it alike in related states. -/
def Session.Respects {σ : Type} (policy : Policy) (R : σ → σ → Prop) (session : Session σ) : Prop :=
  session.Each fun evaluation _ _ =>
    evaluation.policy = policy ∧ evaluation.source.Respects policy R

/-- Whether a step leaves the collaborators to the evaluations, and one that makes an evaluation
restricts it by a policy and gives it a source that answers it alike in related states. -/
def Step.Respects {σ : Type} (collaborators : Collaborators σ) (policy : Policy) (R : σ → σ → Prop) :
    Step σ → Prop
  | .create _ options _ => options.policy = policy ∧ ∀ settings evaluation,
      collaborators.evaluation settings options = .ok evaluation →
        evaluation.source.Respects policy R
  | .change _ => False
  | _ => True

theorem Collaborators.policy_evaluation {σ : Type} {collaborators : Collaborators σ}
    {settings : LookupSettings} {options : Options} {evaluation : Evaluation σ}
    (h : collaborators.evaluation settings options = .ok evaluation) :
    evaluation.policy = options.policy := by
  cases makes_of_evaluation h <;> rfl

namespace Session
variable {σ : Type} {collaborators : Collaborators σ} {policy : Policy} {R : σ → σ → Prop}
variable {first second : Session σ}

theorem Alike.member? (h : first.Alike R second) (name : String) :
    second.member? name = first.member? name := by
  unfold Session.member?
  rw [h.members]

theorem Alike.context (h : first.Alike R second) (member : Member σ) :
    (first.context member).Alike R (second.context member) := by
  refine ⟨rfl, ?_, h.world⟩
  simp only [Session.context, isSensitive, h.sensitive]

theorem Alike.afterwards (h : first.Alike R second) (name : String) (member : Member σ)
    {one other : Context σ} (hc : one.Alike R other) :
    (first.afterwards name member one).Alike R (second.afterwards name member other) where
  settings := h.settings
  members := by simp only [Session.afterwards, h.members, hc.cache]
  made := h.made
  sensitive := by simp only [Session.afterwards, h.sensitive, hc.sensitive]
  world := hc.world

theorem Alike.run {α : Type} (h : first.Alike R second) (name : String) {x : Member σ → Lookup σ α}
    (answer : α → Option Answer)
    (hx : ∀ member, first.member? name = some member → (x member).Respects (Context.Alike R)) :
    (second.run name x answer).2 = (first.run name x answer).2 ∧
      (first.run name x answer).1.Alike R (second.run name x answer).1 := by
  unfold Session.run
  rw [h.member? name]
  cases hm : first.member? name with
  | none => exact ⟨rfl, h⟩
  | some member =>
    have ha := hx member hm _ _ (h.context member)
    refine ⟨?_, h.afterwards name member ha.state⟩
    simp only [ha.result, ha.journal]

theorem Alike.create (h : first.Alike R second) (name : String) (options : Options)
    (place : Option String) :
    (second.create collaborators name options place).2 =
        (first.create collaborators name options place).2 ∧
      (first.create collaborators name options place).1.Alike R
        (second.create collaborators name options place).1 := by
  unfold Session.create
  rw [h.settings]
  cases collaborators.evaluation first.settings options with
  | error failure => exact ⟨rfl, h⟩
  | ok evaluation =>
    refine ⟨rfl, ⟨rfl, ?_, ?_, h.sensitive, h.world⟩⟩
    · simp only [h.members, h.made]
    · simp only [h.made]

theorem Alike.step (h : first.Alike R second) (hr : policy.restriction ≠ "")
    (hm : first.Respects policy R) {step : Step σ} (hs : step.Respects collaborators policy R) :
    (second.step collaborators step).2 = (first.step collaborators step).2 ∧
      (first.step collaborators step).1.Alike R (second.step collaborators step).1 := by
  have hlookup : ∀ name arguments strictness member, first.member? name = some member →
      (member.evaluation.perform arguments strictness).Respects (Context.Alike R) := by
    intro name arguments strictness member hmember one other hc
    obtain ⟨rfl, hsource⟩ := hm name member hmember
    exact Evaluation.perform_alike hsource hr hc arguments strictness
  cases step with
  | create name options place => exact h.create name options place
  | lookup name strictness arguments =>
    cases strictness with
    | lenient => exact h.run name some fun member hmember => hlookup name arguments .lenient member hmember
    | strict => exact h.run name some fun member hmember => hlookup name arguments .strict member hmember
  | store name identity documents =>
    apply h.run
    intro _ _ one other hc
    exact ⟨rfl, rfl, ⟨by simp [Lookup.store, hc.cache], hc.sensitive, hc.world⟩⟩
  | storeDescriptor name type descriptor =>
    apply h.run
    intro _ _ one other hc
    exact ⟨rfl, rfl, ⟨by simp [Lookup.storeDescriptor, hc.cache], hc.sensitive, hc.world⟩⟩
  | mark name =>
    apply h.run
    intro _ _ one other hc
    exact ⟨rfl, rfl, ⟨hc.cache, rfl, hc.world⟩⟩
  | change f => exact hs.elim
  | configure f =>
    refine ⟨rfl, ⟨?_, h.members, h.made, h.sensitive, h.world⟩⟩
    simp only [Session.step, h.settings]

theorem Respects.step (hm : first.Respects policy R) {step : Step σ}
    (hs : step.Respects collaborators policy R) :
    (first.step collaborators step).1.Respects policy R := by
  apply Each.step_of hm
  · rintro name options place evaluation rfl he
    exact ⟨(Collaborators.policy_evaluation he).trans hs.1, hs.2 _ _ he⟩
  · exact step.keeps_of_evaluation fun evaluation =>
      evaluation.policy = policy ∧ evaluation.source.Respects policy R

/-- Runs that start alike go alike. -/
theorem Alike.steps (h : first.Alike R second) (hr : policy.restriction ≠ "")
    (hm : first.Respects policy R) {steps : List (Step σ)}
    (hs : ∀ step ∈ steps, step.Respects collaborators policy R) :
    (second.steps collaborators steps).2 = (first.steps collaborators steps).2 ∧
      (first.steps collaborators steps).1.Alike R (second.steps collaborators steps).1 := by
  induction steps generalizing first second with
  | nil => exact ⟨rfl, h⟩
  | cons step steps ih =>
    have hstep := hs step List.mem_cons_self
    obtain ⟨hreport, hnext⟩ := h.step hr hm hstep
    obtain ⟨hreports, hlast⟩ := ih hnext (hm.step hstep) fun other hmem =>
      hs other (List.mem_cons_of_mem step hmem)
    refine ⟨?_, hlast⟩
    simp only [Session.steps, hreport, hreports]

end Session

end ClusterLookup
