import ClusterLookup.Cluster.ObjectStore
import ClusterLookup.Proofs.Stages
import ClusterLookup.Session

/-!
# Runs of a session

A run is recorded as a trace: every step with the session before and after it and with its report.
What holds of the first session and is kept by each step holds before every event of the trace.
-/

namespace ClusterLookup

/-- A step of a run, the session before and after it, and what it reported. -/
structure Event (σ : Type) where
  before : Session σ
  step : Step σ
  after : Session σ
  report : Report

def Evaluation.perform {σ : Type} (evaluation : Evaluation σ) (arguments : Arguments) :
    Strictness → Lookup σ Answer
  | .lenient => evaluation.lookup arguments
  | .strict => evaluation.lookupStrict arguments

/-- Both lookups leave the same behind. -/
theorem Evaluation.state_perform {σ : Type} (evaluation : Evaluation σ) (arguments : Arguments)
    (strictness : Strictness) (context : Context σ) :
    (evaluation.perform arguments strictness context).state =
      (evaluation.lookupStrict arguments context).state := by
  cases strictness with
  | strict => rfl
  | lenient => simp only [perform, lookup_eq]

theorem Evaluation.lenient_eq_ok_of_perform {σ : Type} {evaluation : Evaluation σ}
    {arguments : Arguments} {strictness : Strictness} {context : Context σ} {answer : Answer}
    (h : (evaluation.perform arguments strictness context).result = .ok answer) :
    lenient (evaluation.lookupStrict arguments context).result = .ok answer := by
  cases strictness with
  | strict =>
    rw [show (evaluation.lookupStrict arguments context).result = .ok answer from h]
    rfl
  | lenient => simpa only [perform, lookup_eq] using h

/-- Arguments that are answered stand for a question. -/
theorem Evaluation.exists_identity_of_perform {σ : Type} {evaluation : Evaluation σ}
    {arguments : Arguments} {strictness : Strictness} {context : Context σ} {answer : Answer}
    (h : (evaluation.perform arguments strictness context).result = .ok answer) :
    ∃ identity, arguments.identity evaluation.policy = .ok identity := by
  cases hi : arguments.identity evaluation.policy with
  | ok identity => exact ⟨identity, rfl⟩
  | error failure =>
    have hl := lenient_eq_ok_of_perform h
    rw [lookupStrict_of_invalid hi] at hl
    rcases Arguments.identity_eq_error hi with ⟨_, rfl⟩ | ⟨_, _, rfl⟩ | ⟨_, _, rfl⟩ <;> cases hl

/-- What a step does to an evaluation, in its context, and the name of that evaluation. -/
def Step.effect? {σ : Type} : Step σ → Option (String × (Evaluation σ → Context σ → Context σ))
  | .lookup name strictness arguments =>
    some (name, fun evaluation context => (evaluation.perform arguments strictness context).state)
  | .store name identity documents =>
    some (name, fun _ context => (Lookup.store identity documents context).state)
  | .storeDescriptor name type descriptor =>
    some (name, fun _ context => (Lookup.storeDescriptor type descriptor context).state)
  | .mark name => some (name, fun _ context => (Lookup.noteSensitive context).state)
  | _ => none

/-- Whether a step keeps something, for the evaluation that it names, for another one beside it, and when
it changes the state of the collaborators. -/
structure Step.Keeps {σ : Type} (P : Evaluation σ → AnswerCache → σ → Prop) (step : Step σ) : Prop
    where
  acted : ∀ name act evaluation context, step.effect? = some (name, act) →
    P evaluation context.cache context.world →
      P evaluation (act evaluation context).cache (act evaluation context).world
  beside : ∀ name act evaluation cache other context, step.effect? = some (name, act) →
    P other context.cache context.world → P evaluation cache context.world →
      P evaluation cache (act other context).world
  changed : ∀ f evaluation cache world, step = .change f →
    P evaluation cache world → P evaluation cache (f world)

/-- No step changes an evaluation itself. -/
theorem Step.keeps_of_evaluation {σ : Type} (P : Evaluation σ → Prop) (step : Step σ) :
    step.Keeps fun evaluation _ _ => P evaluation where
  acted _ _ _ _ _ h := h
  beside _ _ _ _ _ _ _ _ h := h
  changed _ _ _ _ _ h := h

/-- The evaluations that collaborators make under some settings. -/
inductive Collaborators.Makes {σ : Type} (collaborators : Collaborators σ) (settings : LookupSettings) :
    Options → Evaluation σ → Prop
  | unwatched (policy : Policy) : Makes collaborators settings ⟨policy, none⟩
      ⟨policy, .cluster collaborators.client, settings.sensitiveKind⟩
  | watched (policy : Policy) (watcher : Identity) {registry : Registry σ}
      (h : collaborators.registry = some registry) : Makes collaborators settings
      ⟨policy, some watcher⟩ ⟨policy, .registry registry watcher, settings.sensitiveKind⟩

theorem Collaborators.makes_of_evaluation {σ : Type} {collaborators : Collaborators σ}
    {settings : LookupSettings} {options : Options} {evaluation : Evaluation σ}
    (h : collaborators.evaluation settings options = .ok evaluation) :
    collaborators.Makes settings options evaluation := by
  obtain ⟨policy, watcher⟩ := options
  cases watcher with
  | none =>
    cases h
    exact .unwatched policy
  | some watcher =>
    simp only [Collaborators.evaluation] at h
    split at h
    · next registry hr =>
      cases h
      exact .watched policy watcher hr
    · cases h

namespace Session
variable {σ : Type} {collaborators : Collaborators σ} {session : Session σ} {event : Event σ}
variable {steps : List (Step σ)}

/-- The ways in which a step changes a session. -/
inductive Moves (collaborators : Collaborators σ) (session : Session σ) : Step σ → Session σ → Prop
  | made {name : String} {options : Options} {place : Option String} {evaluation : Evaluation σ}
      {result : ResultPlace}
      (h : collaborators.evaluation session.settings options = .ok evaluation) :
      Moves collaborators session (.create name options place)
        { session with
          members := (name, ⟨evaluation, .empty, result⟩) :: session.members
          made := session.made + 1 }
  | acted {step : Step σ} {name : String} {member : Member σ}
      {act : Evaluation σ → Context σ → Context σ} (ha : step.effect? = some (name, act))
      (hm : session.member? name = some member) :
      Moves collaborators session step
        (session.afterwards name member (act member.evaluation (session.context member)))
  | changed (f : σ → σ) :
      Moves collaborators session (.change f) { session with world := f session.world }
  | configured (f : LookupSettings → LookupSettings) :
      Moves collaborators session (.configure f) { session with settings := f session.settings }
  | idle {step : Step σ}
      (h : ∀ name act, step.effect? = some (name, act) → session.member? name = none) :
      Moves collaborators session step session

theorem moves_run {α : Type} {step : Step σ} {name : String} {x : Member σ → Lookup σ α}
    {act : Evaluation σ → Context σ → Context σ} (answer : α → Option Answer)
    (ha : step.effect? = some (name, act))
    (hx : ∀ member, (x member (session.context member)).state =
      act member.evaluation (session.context member)) :
    session.Moves collaborators step (session.run name x answer).1 := by
  unfold run
  cases hm : session.member? name with
  | none =>
    apply Moves.idle
    intro other _ ho
    cases ha.symm.trans ho
    exact hm
  | some member =>
    simp only [hx]
    exact .acted ha hm

/-- Every step moves a session in one of these ways. -/
theorem moves_step (collaborators : Collaborators σ) (session : Session σ) (step : Step σ) :
    session.Moves collaborators step (session.step collaborators step).1 := by
  cases step with
  | create name options place =>
    simp only [Session.step, create]
    split
    · exact .idle fun _ _ h => by cases h
    · next he => exact .made he
  | lookup name strictness arguments =>
    cases strictness with
    | lenient => exact moves_run some rfl fun member => rfl
    | strict => exact moves_run some rfl fun member => rfl
  | store name identity documents => exact moves_run _ rfl fun member => rfl
  | storeDescriptor name type descriptor => exact moves_run _ rfl fun member => rfl
  | mark name => exact moves_run _ rfl fun member => rfl
  | change f => exact .changed f
  | configure f => exact .configured f

def eventOf (collaborators : Collaborators σ) (session : Session σ) (step : Step σ) : Event σ :=
  ⟨session, step, (session.step collaborators step).1, (session.step collaborators step).2⟩

/-- Everything that happens when a session takes steps. -/
def trace (collaborators : Collaborators σ) (session : Session σ) : List (Step σ) → List (Event σ)
  | [] => []
  | s :: rest =>
    session.eventOf collaborators s :: (session.step collaborators s).1.trace collaborators rest

/-- An event of a trace is the next step of a session that the steps before it lead to. -/
theorem mem_trace_iff : event ∈ session.trace collaborators steps ↔
    ∃ before s rest, steps = before ++ s :: rest ∧
      event = (session.steps collaborators before).1.eventOf collaborators s := by
  constructor
  · intro h
    induction steps generalizing session with
    | nil => simp [trace] at h
    | cons s steps ih =>
      rcases List.mem_cons.mp h with rfl | h
      · exact ⟨[], s, steps, rfl, rfl⟩
      · obtain ⟨before, t, rest, rfl, he⟩ := ih h
        exact ⟨s :: before, t, rest, rfl, he⟩
  · intro hx
    obtain ⟨before, s, rest, rfl, rfl⟩ := hx
    induction before generalizing session with
    | nil => exact List.mem_cons_self
    | cons t before ih => exact List.mem_cons_of_mem _ ih

theorem eq_eventOf_of_mem_trace (h : event ∈ session.trace collaborators steps) :
    event = event.before.eventOf collaborators event.step := by
  obtain ⟨before, s, rest, _, rfl⟩ := mem_trace_iff.mp h
  rfl

/-- What each of the steps keeps holds throughout the run. -/
theorem before_of_mem_trace {I : Session σ → Prop} (hI : I session)
    (keep : ∀ s ∈ steps, ∀ session, I session → I (session.step collaborators s).1)
    (h : event ∈ session.trace collaborators steps) : I event.before := by
  induction steps generalizing session with
  | nil => simp [trace] at h
  | cons s steps ih =>
    rcases List.mem_cons.mp h with rfl | h
    · exact hI
    · apply ih (keep s List.mem_cons_self session hI) _ h
      intro t ht
      exact keep t (List.mem_cons_of_mem s ht)

/-- What each of the steps keeps holds after the run. -/
theorem keep_steps {I : Session σ → Prop} (hI : I session)
    (keep : ∀ s ∈ steps, ∀ session, I session → I (session.step collaborators s).1) :
    I (session.steps collaborators steps).1 := by
  induction steps generalizing session with
  | nil => exact hI
  | cons s steps ih =>
    apply ih (keep s List.mem_cons_self session hI)
    intro t ht
    exact keep t (List.mem_cons_of_mem s ht)

/-- What each of the steps keeps, given what was collected from the events so far, holds after the run
with all that its events give. -/
theorem collect_steps {α : Type} {I : List α → Session σ → Prop} {found : List α}
    (collect : Event σ → List α) (hI : I found session)
    (keep : ∀ s ∈ steps, ∀ found session, I found session →
      I (found ++ collect (session.eventOf collaborators s)) (session.step collaborators s).1) :
    I (found ++ (session.trace collaborators steps).flatMap collect)
      (session.steps collaborators steps).1 := by
  induction steps generalizing session found with
  | nil => simpa [trace, Session.steps] using hI
  | cons s steps ih =>
    have hrest := ih (keep s List.mem_cons_self found session hI) fun t ht =>
      keep t (List.mem_cons_of_mem s ht)
    simpa only [trace, Session.steps, List.flatMap_cons, List.append_assoc] using hrest

theorem step_lookup {name : String} {member : Member σ} (h : session.member? name = some member)
    (strictness : Strictness) (arguments : Arguments) :
    session.step collaborators (.lookup name strictness arguments) =
      let outcome := member.evaluation.perform arguments strictness (session.context member)
      (session.afterwards name member outcome.state,
        ⟨outcome.result.map some, outcome.journal⟩) := by
  cases strictness with
  | lenient => simp [step, run, h, Evaluation.perform]
  | strict => simp [step, run, h, Evaluation.perform]

theorem after_eventOf_steps (collaborators : Collaborators σ) (session : Session σ)
    (steps : List (Step σ)) (step : Step σ) :
    ((session.steps collaborators steps).1.eventOf collaborators step).after =
      (session.steps collaborators (steps ++ [step])).1 := by
  rw [steps_append]
  rfl

theorem step_lookup_unknown {name : String} (h : session.member? name = none) (strictness : Strictness)
    (arguments : Arguments) : session.step collaborators (.lookup name strictness arguments) =
      (session, ⟨.error .noEntry, []⟩) := by
  cases strictness with
  | lenient => simp [step, run, h]
  | strict => simp [step, run, h]

theorem step_lookup_of_none {name : String} (h : session.member? name = none) (strictness : Strictness)
    (arguments : Arguments) :
    (session.step collaborators (.lookup name strictness arguments)).1 = session :=
  congrArg Prod.fst (step_lookup_unknown h strictness arguments)

theorem report_eventOf_lookup (collaborators : Collaborators σ) {name : String} {member : Member σ}
    (h : session.member? name = some member) (strictness : Strictness) (arguments : Arguments) :
    (session.eventOf collaborators (.lookup name strictness arguments)).report =
      let outcome := member.evaluation.perform arguments strictness (session.context member)
      ⟨outcome.result.map some, outcome.journal⟩ :=
  congrArg Prod.snd (step_lookup h strictness arguments)

theorem after_eventOf_lookup {name : String} {member : Member σ}
    (h : session.member? name = some member) (strictness : Strictness) (arguments : Arguments) :
    (session.eventOf collaborators (.lookup name strictness arguments)).after =
      session.afterwards name member
        (member.evaluation.perform arguments strictness (session.context member)).state :=
  congrArg Prod.fst (step_lookup h strictness arguments)

theorem member?_afterwards_self {name : String} {member : Member σ}
    (hm : session.member? name = some member) (context : Context σ) :
    (session.afterwards name member context).member? name =
      some { member with cache := context.cache } := by
  have hself := valueOf?_withCache_self name context.cache session.members
  rw [show valueOf? name session.members = some member from hm] at hself
  exact hself

theorem member?_afterwards_of_ne {name other : String} (h : other ≠ name) (member : Member σ)
    (context : Context σ) :
    (session.afterwards name member context).member? other = session.member? other :=
  valueOf?_withCache_of_ne h context.cache session.members

/-! ## What holds of every evaluation -/

/-- Whether something holds of every evaluation, its cache and the state of the collaborators. -/
def Each (P : Evaluation σ → AnswerCache → σ → Prop) (session : Session σ) : Prop :=
  ∀ name member, session.member? name = some member →
    P member.evaluation member.cache session.world

variable {P : Evaluation σ → AnswerCache → σ → Prop}

theorem each_start (P : Evaluation σ → AnswerCache → σ → Prop) (settings : LookupSettings)
    (world : σ) : (start settings world).Each P := by
  intro name member hm
  cases hm

/-- What holds of the evaluation that a step makes, and is kept by the step, holds of all of them after
it. -/
theorem Each.step_of (h : session.Each P) {step : Step σ}
    (made : ∀ name options place evaluation, step = .create name options place →
      collaborators.evaluation session.settings options = .ok evaluation →
        P evaluation .empty session.world)
    (kept : step.Keeps P) : (session.step collaborators step).1.Each P := by
  have hmoves := moves_step collaborators session step
  generalize (session.step collaborators step).1 = next at hmoves
  intro other found hf
  cases hmoves with
  | @made name options place evaluation result he =>
    simp only [member?, valueOf?] at hf
    split at hf
    · cases hf
      exact made _ _ _ _ rfl he
    · exact h other found hf
  | @acted _ name member act ha hm =>
    have hp := h name member hm
    by_cases ho : other = name
    · subst ho
      rw [member?_afterwards_self hm] at hf
      cases hf
      exact kept.acted other act member.evaluation (session.context member) ha hp
    · rw [member?_afterwards_of_ne ho] at hf
      exact kept.beside name act found.evaluation found.cache member.evaluation
        (session.context member) ha hp (h other found hf)
  | changed f => exact kept.changed f _ _ _ rfl (h other found hf)
  | configured f => exact h other found hf
  | idle => exact h other found hf

/-- What holds of every evaluation that has read nothing and is kept by a step still holds after it. -/
theorem Each.step (h : session.Each P) {step : Step σ}
    (made : ∀ settings options evaluation world,
      collaborators.evaluation settings options = .ok evaluation → P evaluation .empty world)
    (kept : step.Keeps P) : (session.step collaborators step).1.Each P :=
  h.step_of (fun _ options _ evaluation _ he => made _ options evaluation _ he) kept

/-- What holds of every evaluation when it is made holds of all of them after a step. -/
theorem Each.step_evaluation {Q : Evaluation σ → Prop}
    (h : session.Each fun evaluation _ _ => Q evaluation)
    (made : ∀ settings options evaluation,
      collaborators.evaluation settings options = .ok evaluation → Q evaluation) (step : Step σ) :
    (session.step collaborators step).1.Each fun evaluation _ _ => Q evaluation := by
  apply h.step
  · intro settings options evaluation _ he
    exact made settings options evaluation he
  · exact step.keeps_of_evaluation Q

/-- An evaluation that reads through its cache reads from the client of its session. -/
def ReadsClient (collaborators : Collaborators σ) (evaluation : Evaluation σ) : Prop :=
  evaluation.path = .cacheFirst → evaluation.source = .cluster collaborators.client

theorem readsClient_of_evaluation {settings : LookupSettings} {options : Options}
    {evaluation : Evaluation σ} (h : collaborators.evaluation settings options = .ok evaluation) :
    ReadsClient collaborators evaluation := by
  intro hp
  cases Collaborators.makes_of_evaluation h with
  | unwatched policy => rfl
  | watched policy watcher hr => cases hp

theorem each_readsClient (collaborators : Collaborators σ) (settings : LookupSettings) (world : σ)
    (steps : List (Step σ)) : ((start settings world).steps collaborators steps).1.Each
      fun evaluation _ _ => ReadsClient collaborators evaluation := by
  refine keep_steps (I := Each _) (each_start _ settings world) ?_
  intro step _ session h
  exact h.step_evaluation (fun _ _ _ he => readsClient_of_evaluation he) step

theorem isSensitive_afterwards (session : Session σ) (name : String) (member : Member σ)
    (context : Context σ) : (session.afterwards name member context).isSensitive member =
      (session.isSensitive member || context.sensitive) := by
  rw [Bool.eq_iff_iff]
  cases hc : context.sensitive with
  | false => simp [isSensitive, afterwards, hc]
  | true => simp [isSensitive, afterwards, hc, mem_addPlace]

end Session

/-! ## A small cluster -/

def smallStore : ObjectStore where
  types := [(⟨"", "v1", "Secret"⟩, ⟨"", "v1", "secrets", true⟩)]
  objects := [⟨"", "Secret", "team-a", "token", [], .object []⟩]
  outages := []
  calls := []

def secretLookup (name : String) : Arguments := ⟨"v1", "Secret", "team-a", name, none⟩

end ClusterLookup
