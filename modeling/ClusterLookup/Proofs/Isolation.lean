import ClusterLookup.Proofs.Sensitivity
import ClusterLookup.Proofs.SideBySide

/-!
# Evaluations are isolated

What an evaluation answers, calls and remembers does not depend on the lookups of the others. A run from
which those are taken out goes alike for it, as long as the collaborators answer by what only steps that
are meant to change them can change. Evaluations that share a place for sensitive data share their flag
and nothing else.

Collaborators may still keep records of their own, say of the calls made so far. This is why a state is
seen through a view, and why the records and requests in a journal are left out of account.
-/

namespace ClusterLookup

/-! ## Collaborators that are changed by steps alone -/

/-- Whether a call answers by what is in view, and leaves that as it was. -/
structure Action.AnswersBy {σ ω α : Type} (view : σ → ω) (call : Action Notice σ α) : Prop where
  result : ∀ first second, view second = view first → (call second).result = (call first).result
  view : ∀ world, view (call world).state = view world

structure ClusterClient.AnswersBy {σ ω : Type} (view : σ → ω) (client : ClusterClient σ) : Prop where
  discover : ∀ type, (client.discover type).AnswersBy view
  get : ∀ descriptor kind inNamespace name,
    (client.get descriptor kind inNamespace name).AnswersBy view
  list : ∀ descriptor kind inNamespace selector,
    (client.list descriptor kind inNamespace selector).AnswersBy view

structure Registry.AnswersBy {σ ω : Type} (view : σ → ω) (registry : Registry σ) : Prop where
  resolveType : ∀ type, (registry.resolveType type).AnswersBy view
  get : ∀ watcher type inNamespace name, (registry.get watcher type inNamespace name).AnswersBy view
  list : ∀ watcher type inNamespace selector,
    (registry.list watcher type inNamespace selector).AnswersBy view

def Source.AnswersBy {σ ω : Type} (view : σ → ω) : Source σ → Prop
  | .cluster client => client.AnswersBy view
  | .registry live _ => live.AnswersBy view

structure Collaborators.AnswersBy {σ ω : Type} (view : σ → ω) (collaborators : Collaborators σ) : Prop
    where
  client : collaborators.client.AnswersBy view
  registry : ∀ registry, collaborators.registry = some registry → registry.AnswersBy view

theorem Collaborators.AnswersBy.evaluation {σ ω : Type} {view : σ → ω}
    {collaborators : Collaborators σ} (h : collaborators.AnswersBy view) {settings : LookupSettings}
    {options : Options} {evaluation : Evaluation σ}
    (he : collaborators.evaluation settings options = .ok evaluation) :
    evaluation.source.AnswersBy view := by
  cases Collaborators.makes_of_evaluation he with
  | unwatched policy => exact h.client
  | watched policy watcher hr => exact h.registry _ hr

/-- Whether a step that changes the collaborators changes what is in view by what is in view. -/
def Step.ChangesBy {σ ω : Type} (view : σ → ω) : Step σ → Prop
  | .change f => ∀ first second, view second = view first → view (f second) = view (f first)
  | _ => True

/-- Whether a step is a lookup of another evaluation. -/
def Step.isLookupBeside {σ : Type} (name : String) : Step σ → Bool
  | .lookup other _ _ => other != name
  | _ => false

/-! ## What stays the same -/

/-- Whether an entry is a call to a collaborator, or a count. -/
def Entry.isDeed : Entry → Bool
  | .client _ => true
  | .registry _ => true
  | .count _ => true
  | _ => false

def Journal.deeds (journal : Journal) : Journal := journal.filter Entry.isDeed

/-- Whether two reports tell of one answer, and of the same calls and counts. -/
structure Report.SameDeeds (first second : Report) : Prop where
  result : second.result = first.result
  deeds : second.journal.deeds = first.journal.deeds

namespace Session
variable {σ : Type}

def places (session : Session σ) : List (String × ResultPlace) :=
  session.members.map fun entry => (entry.1, entry.2.place)

/-- Whether no evaluation of another name notes sensitive data at a place. -/
def Owned (session : Session σ) (name : String) (place : ResultPlace) : Prop :=
  ∀ entry ∈ session.places, entry.2 = place → entry.1 = name

/-- Whether two sessions are the same for the evaluation of a name: it is the same in both, its cache
included, and so is its flag, unless another evaluation shares it. -/
structure AgreesFor (name : String) (first second : Session σ) : Prop where
  member : second.member? name = first.member? name
  flag : ∀ member, first.member? name = some member → first.Owned name member.place →
    second.isSensitive member = first.isSensitive member

end Session

/-- Whether an event of one run is the same for the evaluation of a name as an event of another. -/
structure Event.AgreesFor {σ : Type} (name : String) (first second : Event σ) : Prop where
  step : second.step = first.step
  report : first.report.SameDeeds second.report
  after : first.after.AgreesFor name second.after

/-! ## Lookups by what is in view -/

theorem isDeed_entry (notice : Notice) : notice.entry.isDeed = false := by cases notice <;> rfl

/-- Runs are compared by what is in view and by their calls and counts. -/
def Likeness.ofView {σ ω : Type} (view : σ → ω) : Likeness σ where
  worlds first second := view second = view first
  documents := Eq
  compared := Entry.isDeed
  refl _ := rfl
  answers h := h ▸ Answer.Like.refl (fun _ => rfl) _
  compared_eq h := congrArg Entry.isDeed (Entry.like_eq_iff.mp h)

section Views
variable {σ ω : Type} {view : σ → ω}

theorem Likeness.deeds_eq {first second : Journal}
    (h : (Likeness.ofView view).Journals first second) : second.deeds = first.deeds := by
  have heq : List.Forall₂ Eq first.deeds second.deeds :=
    List.Forall₂.imp (fun _ _ hl => (Entry.like_eq_iff.mp hl).symm) h
  rw [List.forall₂_eq_eq_eq] at heq
  exact heq.symm

theorem Action.AnswersBy.carries {α : Type} {V : α → α → Prop} {call : Action Notice σ α}
    (h : call.AnswersBy view) (hV : ∀ a, V a a) : call.Carries (Likeness.ofView view) V := by
  have hnone : ∀ notices : List Notice, (notices.map Notice.entry).filter Entry.isDeed = [] := by
    intro notices
    simp [List.filter_eq_nil_iff, isDeed_entry]
  intro first second hw
  refine ⟨?_, ?_, ?_⟩
  · rw [h.result first second hw]
    exact Results.Like.refl hV _
  · exact (h.view second).trans (hw.trans (h.view first).symm)
  · change List.Forall₂ _ (List.filter Entry.isDeed _) (List.filter Entry.isDeed _)
    rw [hnone, hnone]
    exact .nil

theorem Source.AnswersBy.carries {source : Source σ} (h : source.AnswersBy view) :
    source.Carries (Likeness.ofView view) := by
  have hlist : ∀ documents : List Document,
      List.Forall₂ (Likeness.ofView view).documents documents documents := by
    intro documents
    exact List.forall₂_same.mpr fun _ _ => rfl
  cases source with
  | cluster client =>
    exact ⟨fun type => (h.discover type).carries fun _ => rfl,
      fun descriptor kind inNamespace name =>
        (h.get descriptor kind inNamespace name).carries fun _ => rfl,
      fun descriptor kind inNamespace selector =>
        (h.list descriptor kind inNamespace selector).carries hlist⟩
  | registry live watcher =>
    exact ⟨fun type => (h.resolveType type).carries fun _ => rfl,
      fun watcher type inNamespace name =>
        (h.get watcher type inNamespace name).carries fun _ => rfl,
      fun watcher type inNamespace selector =>
        (h.list watcher type inNamespace selector).carries hlist⟩

theorem Lookup.view_resolveType {source : Source σ} (h : source.AnswersBy view)
    (type : GroupVersionKind) (context : Context σ) :
    view (resolveType source type context).state.world = view context.world := by
  have hresolving := resolving_resolveType source type context
  generalize resolveType source type context = resolved at hresolving ⊢
  cases hresolving with
  | remembered hd => rfl
  | discovered hd ha => exact ha ▸ (h.discover _).view context.world
  | watched ha => exact ha ▸ (h.resolveType _).view context.world

theorem Lookup.view_readAnswer {source : Source σ} (h : source.AnswersBy view) (identity : Identity)
    (descriptor : Descriptor) (context : Context σ) :
    view (readAnswer source identity descriptor context).state.world = view context.world := by
  have hreading := reading_readAnswer source identity descriptor context
  generalize readAnswer source identity descriptor context = outcome at hreading ⊢
  cases hreading with
  | remembered hf => rfl
  | listed hf hl ha => exact ha ▸ (h.list _ _ _ _).view context.world
  | got hf hl ha => exact ha ▸ (h.get _ _ _ _).view context.world
  | watchedList hl ha => exact ha ▸ (h.list _ _ _ _).view context.world
  | watchedGet hl ha => exact ha ▸ (h.get _ _ _ _).view context.world

/-- A lookup changes nothing that is in view. -/
theorem Evaluation.view_perform {evaluation : Evaluation σ} (h : evaluation.source.AnswersBy view)
    (arguments : Arguments) (strictness : Strictness) (context : Context σ) :
    view (evaluation.perform arguments strictness context).state.world = view context.world := by
  rw [state_perform]
  apply keep_lookupStrict (P := fun _ world => view world = view context.world) evaluation arguments rfl
  · intro type
    exact Lookup.view_resolveType h type context
  · intro identity descriptor _ _ _ hw
    exact (Lookup.view_readAnswer h identity descriptor _).trans hw

/-- What one evaluation does in two contexts that agree on its cache and on what is in view. -/
structure Context.Agrees (view : σ → ω) (first second : Context σ) : Prop where
  cache : second.cache = first.cache
  world : view second.world = view first.world

theorem Evaluation.perform_agrees {evaluation : Evaluation σ} (h : evaluation.source.AnswersBy view)
    {first second : Context σ} (hc : first.Agrees view second) (arguments : Arguments)
    (strictness : Strictness) :
    let one := evaluation.perform arguments strictness first
    let other := evaluation.perform arguments strictness second
    other.result = one.result ∧ Journal.deeds other.journal = Journal.deeds one.journal ∧
      one.state.Agrees view other.state ∧
      (second.sensitive = first.sensitive → other.state.sensitive = one.state.sensitive) := by
  intro one other
  have hlike : one.Like _ _ _ other := perform_like h.carries
    ⟨AnswerCache.like_eq_iff.mpr hc.cache, hc.world⟩ arguments strictness
  have hresult : other.result = one.result :=
    Results.like_eq_iff.mp (hlike.result.imp fun _ _ ha => (Answer.like_eq_iff.mp ha).symm)
  refine ⟨hresult, Likeness.deeds_eq hlike.journal,
    ⟨AnswerCache.like_eq_iff.mp hlike.state.cache, hlike.state.world⟩, ?_⟩
  intro hs
  have hone := sensitive_perform evaluation arguments strictness first
  have hother := sensitive_perform evaluation arguments strictness second
  rw [hother, hone, hs, show (evaluation.perform arguments strictness second).result =
    (evaluation.perform arguments strictness first).result from hresult]

end Views

/-! ## Two runs of a session -/

namespace Session
variable {σ ω : Type} {view : σ → ω} {collaborators : Collaborators σ} {first second : Session σ}
variable {name : String} {steps : List (Step σ)}

theorem places_afterwards (session : Session σ) (name : String) (member : Member σ)
    (context : Context σ) : (session.afterwards name member context).places = session.places := by
  unfold places afterwards
  induction session.members with
  | nil => rfl
  | cons entry members ih =>
    obtain ⟨n, m⟩ := entry
    by_cases hn : n = name
    · simp [withCache, hn]
    · simpa [withCache, hn] using ih

theorem valueOf?_places (session : Session σ) (name : String) :
    valueOf? name session.places = (session.member? name).map Member.place := by
  unfold places member?
  induction session.members with
  | nil => rfl
  | cons entry members ih =>
    obtain ⟨n, m⟩ := entry
    by_cases hn : n = name
    · simp [valueOf?, hn]
    · simpa [valueOf?, hn] using ih

theorem mem_places {member : Member σ} {session : Session σ}
    (h : session.member? name = some member) : (name, member.place) ∈ session.places := by
  apply mem_of_valueOf?
  rw [valueOf?_places, h]
  rfl

/-- Two sessions that differ in what the other evaluations have looked up: in their caches, in the flags
that they may set, and in what the collaborators keep out of view. -/
structure Isolates (view : σ → ω) (name : String) (first second : Session σ) : Prop where
  settings : second.settings = first.settings
  made : second.made = first.made
  places : second.places = first.places
  member : second.member? name = first.member? name
  owned : ∀ place, first.Owned name place → (place ∈ second.sensitive ↔ place ∈ first.sensitive)
  world : view second.world = view first.world

theorem isolates_start (view : σ → ω) (name : String) (settings : LookupSettings) (world : σ) :
    (start settings world).Isolates view name (start settings world) :=
  ⟨rfl, rfl, rfl, rfl, fun _ _ => Iff.rfl, rfl⟩

theorem Isolates.flag (h : first.Isolates view name second) {one other : Member σ}
    (hp : other.place = one.place) (ho : first.Owned name one.place) :
    second.isSensitive other = first.isSensitive one := by
  rw [Bool.eq_iff_iff, isSensitive_iff, isSensitive_iff, hp]
  exact h.owned one.place ho

theorem Isolates.agreesFor (h : first.Isolates view name second) : first.AgreesFor name second where
  member := h.member
  flag _ _ ho := h.flag rfl ho

theorem Isolates.place_eq (h : first.Isolates view name second) (asked : String) :
    (second.member? asked).map Member.place = (first.member? asked).map Member.place := by
  rw [← valueOf?_places, ← valueOf?_places, h.places]

/-- An evaluation is there in both sessions, with one place, or in neither. -/
theorem Isolates.pair (h : first.Isolates view name second) (asked : String) :
    (first.member? asked = none ∧ second.member? asked = none) ∨
      ∃ one other, first.member? asked = some one ∧ second.member? asked = some other ∧
        other.place = one.place := by
  have hplaces := h.place_eq asked
  cases hf : first.member? asked with
  | none =>
    rw [hf] at hplaces
    exact .inl ⟨rfl, Option.map_eq_none_iff.mp hplaces⟩
  | some one =>
    rw [hf] at hplaces
    obtain ⟨other, ho, hp⟩ := Option.map_eq_some_iff.mp hplaces
    exact .inr ⟨one, other, rfl, ho, hp⟩

/-- Another evaluation does something in one of the sessions that changes nothing in view. -/
theorem Isolates.beside (h : first.Isolates view name second) {other : String} (ho : other ≠ name)
    {member : Member σ} (hm : first.member? other = some member) {context : Context σ}
    (hw : view context.world = view first.world) :
    (first.afterwards other member context).Isolates view name second where
  settings := h.settings
  made := h.made
  places := h.places.trans (places_afterwards first other member context).symm
  member := h.member.trans (member?_afterwards_of_ne ho.symm member context).symm
  owned place howned := by
    have howned' : first.Owned name place := by
      simpa only [Owned, places_afterwards] using howned
    have hne : place ≠ member.place := by
      rintro rfl
      exact ho (howned' _ (mem_places hm) rfl)
    rw [h.owned place howned', mem_sensitive_afterwards]
    simp [hne]
  world := h.world.trans hw.symm

/-- An evaluation does something in both sessions. -/
theorem Isolates.afterwards (h : first.Isolates view name second) {asked : String}
    {one other : Member σ} (hf : first.member? asked = some one)
    (hs : second.member? asked = some other) {context context' : Context σ}
    (hcache : asked = name → context'.cache = context.cache)
    (hflag : asked = name → first.Owned name one.place → context'.sensitive = context.sensitive)
    (hw : view context'.world = view context.world) :
    (first.afterwards asked one context).Isolates view name
      (second.afterwards asked other context') where
  settings := h.settings
  made := h.made
  places := by rw [places_afterwards, places_afterwards, h.places]
  member := by
    by_cases ha : asked = name
    · subst ha
      obtain rfl : other = one := Option.some.inj (hs.symm.trans (h.member.trans hf))
      rw [member?_afterwards_self hs, member?_afterwards_self hf, hcache rfl]
    · rw [member?_afterwards_of_ne (Ne.symm ha), member?_afterwards_of_ne (Ne.symm ha), h.member]
  owned place howned := by
    have howned' : first.Owned name place := by
      simpa only [Owned, places_afterwards] using howned
    have hplace : other.place = one.place := by
      have hplaces := h.place_eq asked
      rw [hf, hs] at hplaces
      exact Option.some.inj hplaces
    rw [mem_sensitive_afterwards, mem_sensitive_afterwards, h.owned place howned', hplace]
    by_cases hp : place = one.place
    · -- The place is the evaluation's own, so that it is the one of that name.
      subst hp
      have ha : asked = name := howned' _ (mem_places hf) rfl
      rw [hflag ha howned']
    · simp [hp]
  world := hw

/-- An evaluation is written to in both sessions: its cache, its flag, or neither. -/
theorem Isolates.write (h : first.Isolates view name second) (asked : String)
    (cached : AnswerCache → AnswerCache) (flagged : Bool → Bool) :
    let x : Member σ → Lookup σ Unit := fun _ => Action.modify fun context =>
      ⟨cached context.cache, flagged context.sensitive, context.world⟩
    let one := first.run asked x fun _ => none
    let other := second.run asked x fun _ => none
    one.2.SameDeeds other.2 ∧ one.1.Isolates view name other.1 := by
  intro x one other
  simp only [one, other, run]
  rcases h.pair asked with ⟨hf, hs⟩ | ⟨member, member', hf, hs, hp⟩
  · simp only [hf, hs]
    exact ⟨⟨rfl, rfl⟩, h⟩
  · simp only [hf, hs]
    refine ⟨⟨rfl, rfl⟩, h.afterwards hf hs ?_ ?_ h.world⟩
    · rintro rfl
      obtain rfl : member' = member := Option.some.inj (hs.symm.trans (h.member.trans hf))
      rfl
    · intro _ ho
      exact congrArg flagged (h.flag hp ho)

theorem Isolates.create (h : first.Isolates view name second) (asked : String) (options : Options)
    (place : Option String) :
    let one := first.create collaborators asked options place
    let other := second.create collaborators asked options place
    one.2.SameDeeds other.2 ∧ one.1.Isolates view name other.1 := by
  intro one other
  simp only [one, other, Session.create, h.settings, h.made]
  cases collaborators.evaluation first.settings options with
  | error failure => exact ⟨⟨rfl, rfl⟩, h⟩
  | ok evaluation =>
    refine ⟨⟨rfl, rfl⟩, ?_⟩
    constructor
    · rfl
    · rfl
    · exact congrArg (List.cons _) h.places
    · by_cases ha : asked = name
      · simp [member?, valueOf?, ha]
      · simpa [member?, valueOf?, ha] using h.member
    · -- Whoever is alone at a place afterwards was alone there before.
      intro place howned
      apply h.owned place
      intro entry hmem
      exact howned entry (List.mem_cons_of_mem _ hmem)
    · exact h.world

theorem Isolates.lookup (h : first.Isolates view name second)
    (hr : first.Each fun evaluation _ _ => evaluation.source.AnswersBy view) (strictness : Strictness)
    (arguments : Arguments) :
    let one := first.step collaborators (.lookup name strictness arguments)
    let other := second.step collaborators (.lookup name strictness arguments)
    one.2.SameDeeds other.2 ∧ one.1.Isolates view name other.1 := by
  intro one other
  cases hf : first.member? name with
  | none =>
    have hs : second.member? name = none := h.member.trans hf
    simp only [one, other, step_lookup_unknown hf, step_lookup_unknown hs]
    exact ⟨⟨rfl, rfl⟩, h⟩
  | some member =>
    have hs : second.member? name = some member := h.member.trans hf
    have hcontexts : (first.context member).Agrees view (second.context member) := ⟨rfl, h.world⟩
    obtain ⟨hresult, hdeeds, hstate, hflag⟩ :=
      Evaluation.perform_agrees (hr name member hf) hcontexts arguments strictness
    simp only [one, other, step_lookup hf, step_lookup hs]
    refine ⟨⟨by simp only [hresult], hdeeds⟩,
      h.afterwards hf hs (fun _ => hstate.cache) (fun _ ho => hflag (h.flag rfl ho)) hstate.world⟩

/-- A step that is not the lookup of another evaluation goes alike for this one. -/
theorem Isolates.step (h : first.Isolates view name second)
    (hr : first.Each fun evaluation _ _ => evaluation.source.AnswersBy view) {step : Step σ}
    (hb : step.isLookupBeside name = false) (hc : step.ChangesBy view) :
    (first.step collaborators step).2.SameDeeds (second.step collaborators step).2 ∧
      (first.step collaborators step).1.Isolates view name (second.step collaborators step).1 := by
  cases step with
  | create asked options place => exact h.create asked options place
  | lookup asked strictness arguments =>
    obtain rfl : asked = name := by simpa [Step.isLookupBeside] using hb
    exact h.lookup hr strictness arguments
  | store asked identity documents => exact h.write asked (·.store identity documents) id
  | storeDescriptor asked type descriptor => exact h.write asked (·.storeDescriptor type descriptor) id
  | mark asked => exact h.write asked id fun _ => true
  | change f =>
    exact ⟨⟨rfl, rfl⟩, h.settings, h.made, h.places, h.member, h.owned, hc _ _ h.world⟩
  | configure f =>
    exact ⟨⟨rfl, rfl⟩, congrArg f h.settings, h.made, h.places, h.member, h.owned, h.world⟩

/-- The lookup of another evaluation in one of the sessions changes nothing for this one. -/
theorem Isolates.skip (h : first.Isolates view name second)
    (hr : first.Each fun evaluation _ _ => evaluation.source.AnswersBy view) {step : Step σ}
    (hb : step.isLookupBeside name = true) :
    (first.step collaborators step).1.Isolates view name second := by
  cases step with
  | lookup other strictness arguments =>
    have ho : other ≠ name := by simpa [Step.isLookupBeside] using hb
    cases hm : first.member? other with
    | none =>
      rw [step_lookup_of_none hm]
      exact h
    | some member =>
      rw [step_lookup hm]
      exact h.beside ho hm (Evaluation.view_perform (hr other member hm) arguments strictness _)
  | _ => cases hb

theorem Isolates.trace (h : first.Isolates view name second) (hc : collaborators.AnswersBy view)
    (hr : first.Each fun evaluation _ _ => evaluation.source.AnswersBy view)
    (hs : ∀ step ∈ steps, step.ChangesBy view) :
    let kept := steps.filter fun step => !step.isLookupBeside name
    List.Forall₂ (Event.AgreesFor name)
        ((first.trace collaborators steps).filter fun event => !event.step.isLookupBeside name)
        (second.trace collaborators kept) ∧
      (first.steps collaborators steps).1.Isolates view name (second.steps collaborators kept).1 := by
  intro kept
  induction steps generalizing first second with
  | nil => exact ⟨.nil, h⟩
  | cons step steps ih =>
    have hnext : (first.step collaborators step).1.Each
        fun evaluation _ _ => evaluation.source.AnswersBy view :=
      hr.step_evaluation (fun _ _ _ he => hc.evaluation he) step
    have hrest : ∀ other ∈ steps, other.ChangesBy view := by
      intro other hmem
      exact hs other (List.mem_cons_of_mem step hmem)
    cases hb : step.isLookupBeside name with
    | true =>
      have hskip : (first.step collaborators step).1.Isolates view name second := h.skip hr hb
      simpa [kept, Session.trace, Session.steps, eventOf, hb] using ih hskip hnext hrest
    | false =>
      obtain ⟨hreport, hafter⟩ :
          (first.step collaborators step).2.SameDeeds (second.step collaborators step).2 ∧
            (first.step collaborators step).1.Isolates view name (second.step collaborators step).1 :=
        h.step hr hb (hs step List.mem_cons_self)
      obtain ⟨hevents, hlast⟩ := ih hafter hnext hrest
      have hevent : (first.eventOf collaborators step).AgreesFor name
          (second.eventOf collaborators step) := ⟨rfl, hreport, hafter.agreesFor⟩
      simp only [kept, Session.trace, eventOf, hb, List.filter_cons_of_pos, Bool.not_false]
      exact ⟨.cons hevent hevents, hlast⟩

end Session

/-- A run of a session and the same run without the lookups of all other evaluations go alike for the one
of a name: its answers and failures, its calls and counts, its cache, and its flag as long as no other
evaluation shares the place where it is noted. -/
theorem lookups_isolated {σ ω : Type} {view : σ → ω} {collaborators : Collaborators σ}
    (hc : collaborators.AnswersBy view) (name : String) (settings : LookupSettings) (world : σ)
    {steps : List (Step σ)} (hs : ∀ step ∈ steps, step.ChangesBy view) :
    let session := Session.start settings world
    let kept := steps.filter fun step => !step.isLookupBeside name
    List.Forall₂ (Event.AgreesFor name)
        ((session.trace collaborators steps).filter fun event => !event.step.isLookupBeside name)
        (session.trace collaborators kept) ∧
      (session.steps collaborators steps).1.AgreesFor name (session.steps collaborators kept).1 := by
  intro session kept
  obtain ⟨hevents, hlast⟩ := (Session.isolates_start view name settings world).trace hc
    (Session.each_start _ settings world) hs
  exact ⟨hevents, hlast.agreesFor⟩

/-! ## A cluster in memory -/

theorem Action.answersBy_onPart {σ τ α : Type} {part : τ → σ} {withPart : τ → σ → τ}
    (h : ∀ world next, part (withPart world next) = part world) (call : Action Notice σ α) :
    (call.onPart part withPart).AnswersBy part where
  result first second hw := by simp only [onPart, hw]
  view world := h world _

/-- What stands in a cluster in memory, whatever calls have been made. -/
def ObjectStore.standing (store : ObjectStore) : ObjectStore :=
  { store with outages := [], calls := [] }

def ObjectStore.withCalls (store next : ObjectStore) : ObjectStore :=
  { store with calls := next.calls ++ store.calls }

/-- A cluster in memory of which no outage comes true. It still counts the calls. -/
def ObjectStore.unfailing : Collaborators ObjectStore where
  client := client.onPart standing withCalls
  registry := some (registry.onPart standing withCalls)

theorem ObjectStore.answersBy_unfailing : unfailing.AnswersBy standing := by
  have hstands : ∀ world next, standing (withCalls world next) = standing world := fun _ _ => rfl
  have hcall : ∀ {α : Type} (call : Action Notice ObjectStore α),
      (call.onPart standing withCalls).AnswersBy standing :=
    fun call => Action.answersBy_onPart hstands call
  refine ⟨⟨fun _ => hcall _, fun _ _ _ _ => hcall _, fun _ _ _ _ => hcall _⟩, ?_⟩
  intro live hr
  cases hr
  exact ⟨fun _ => hcall _, fun _ _ _ _ => hcall _, fun _ _ _ _ => hcall _⟩

/-- Two pages and a live view. A key that the page does not find is put up, and then found by the others,
while the page goes on by what it remembers. -/
def pageSteps : List (Step ObjectStore) :=
  [.create "page" ⟨.unrestricted, none⟩ none,
    .create "other" ⟨.unrestricted, none⟩ none,
    .create "live" ⟨.unrestricted, some default⟩ (some "common"),
    .lookup "other" .lenient (secretLookup "token"),
    .lookup "page" .lenient (secretLookup "key"),
    .change (·.put ⟨"", "Secret", "team-a", "key", [], .object []⟩),
    .lookup "other" .strict (secretLookup "key"),
    .lookup "live" .lenient (secretLookup ""),
    .lookup "page" .lenient (secretLookup "key")]

theorem lookups_isolated_page :
    let session := Session.start .standard smallStore
    let kept := pageSteps.filter fun step => !step.isLookupBeside "page"
    ObjectStore.unfailing.AnswersBy ObjectStore.standing ∧
      (∀ step ∈ pageSteps, step.ChangesBy ObjectStore.standing) ∧ kept.length = 6 ∧
      List.Forall₂ (Event.AgreesFor "page")
          ((session.trace ObjectStore.unfailing pageSteps).filter fun event =>
            !event.step.isLookupBeside "page")
          (session.trace ObjectStore.unfailing kept) ∧
        (session.steps ObjectStore.unfailing pageSteps).1.AgreesFor "page"
          (session.steps ObjectStore.unfailing kept).1 := by
  intro session kept
  have hs : ∀ step ∈ pageSteps, step.ChangesBy ObjectStore.standing := by
    have hput : ∀ first second : ObjectStore, second.standing = first.standing →
        ∀ object, (second.put object).standing = (first.put object).standing := by
      intro first second hw object
      exact congrArg (fun store => ObjectStore.put store object) hw
    simp only [pageSteps, List.forall_mem_cons, Step.ChangesBy, true_and, List.not_mem_nil,
      false_imp_iff, implies_true, and_true]
    intro first second hw
    exact hput first second hw _
  exact ⟨ObjectStore.answersBy_unfailing, hs, rfl,
    lookups_isolated ObjectStore.answersBy_unfailing "page" .standard smallStore hs⟩

end ClusterLookup
