import ClusterLookup.Proofs.Trace

/-!
# Exactness of the flag for sensitive data

A place for sensitive data is noted exactly when it was noted before, was marked by hand, or one of the
evaluations that share it has been answered with something of the sensitive kind. It makes no difference
where the answer came from, and what was noted stays noted.
-/

namespace ClusterLookup

/-- Whether the answer to a lookup of that name found something: an object, or, without a name, a list
with items. -/
def Answer.Finds (name : String) (answer : Answer) : Prop :=
  if name = "" then ∃ documents, answer = .items documents ∧ documents ≠ []
  else answer ≠ .absent

/-- Whether an event notes sensitive data at a place. -/
def Event.Marks {σ : Type} (event : Event σ) (place : ResultPlace) : Prop :=
  ∃ name member, event.before.member? name = some member ∧ member.place = place ∧
    (event.step = .mark name ∨ ∃ strictness arguments answer,
      event.step = .lookup name strictness arguments ∧ event.report.result = .ok (some answer) ∧
        arguments.kind = member.evaluation.sensitiveKind ∧ answer.Finds arguments.name)

/-! ## Lookups -/

namespace Evaluation
variable {σ : Type} {evaluation : Evaluation σ} {arguments : Arguments} {context : Context σ}
variable {strictness : Strictness} {answer : Answer}

theorem sensitive_perform (evaluation : Evaluation σ) (arguments : Arguments)
    (strictness : Strictness) (context : Context σ) :
    (evaluation.perform arguments strictness context).state.sensitive =
      (context.sensitive ||
        evaluation.flags arguments (evaluation.perform arguments strictness context).result) := by
  cases strictness with
  | lenient => exact sensitive_lookup evaluation arguments context
  | strict => exact sensitive_lookupStrict evaluation arguments context

/-- A list is never answered with a single document. -/
theorem ne_document_of_perform {identity : Identity}
    (hi : arguments.identity evaluation.policy = .ok identity) (hl : identity.isList = true)
    (h : (evaluation.perform arguments strictness context).result = .ok answer)
    (document : Document) : answer ≠ .document document := by
  rintro rfl
  have hlenient := lenient_eq_ok_of_perform h
  rw [lookupStrict_of_valid hi] at hlenient
  cases hr : (evaluation.answer identity context).result with
  | ok found =>
    obtain ⟨documents, rfl⟩ := exists_items_of_answer hl hr
    rw [hr] at hlenient
    cases hlenient
  | error failure =>
    cases hn : failure.isNotFound <;> simp [hr, lenient, hn] at hlenient

/-- A lookup sets the flag exactly when it finds something of the sensitive kind. -/
theorem flags_perform_iff :
    evaluation.flags arguments (evaluation.perform arguments strictness context).result = true ↔
      ∃ answer, (evaluation.perform arguments strictness context).result = .ok answer ∧
        arguments.kind = evaluation.sensitiveKind ∧ answer.Finds arguments.name := by
  cases hr : (evaluation.perform arguments strictness context).result with
  | error failure =>
    cases hi : arguments.identity evaluation.policy <;> simp [flags, hi, Lookup.marks]
  | ok answer =>
    obtain ⟨identity, hi⟩ := exists_identity_of_perform hr
    obtain ⟨_, _, _, _, hkind, hname⟩ := Arguments.identity_eq_ok_iff.mp hi
    have hfinds : answer.ending identity.isList = .found ↔ answer.Finds identity.name := by
      cases hl : identity.isList with
      | false =>
        have hn := Identity.isList_eq_false_iff.mp hl
        cases answer <;> simp [Answer.ending, Answer.Finds, hn]
      | true =>
        have hn := Identity.isList_eq_true_iff.mp hl
        cases answer with
        | absent => simp [Answer.ending, Answer.Finds, hn]
        | document document => exact absurd rfl (ne_document_of_perform hi hl hr document)
        | items documents => cases documents <;> simp [Answer.ending, Answer.Finds, hn]
    simp [flags, hi, Lookup.marks, hfinds, hkind, hname, and_comm]

end Evaluation

/-! ## Steps and runs -/

/-- Whether a step is of a kind that may note sensitive data. -/
def Step.mayMark {σ : Type} : Step σ → Bool
  | .lookup _ _ _ => true
  | .mark _ => true
  | _ => false

namespace Session
variable {σ : Type} {collaborators : Collaborators σ} {session : Session σ} {name : String}
variable {member : Member σ} {place : ResultPlace}

theorem isSensitive_iff : session.isSensitive member = true ↔ member.place ∈ session.sensitive := by
  simp [isSensitive]

theorem mem_sensitive_afterwards {context : Context σ} :
    place ∈ (session.afterwards name member context).sensitive ↔
      place ∈ session.sensitive ∨ place = member.place ∧ context.sensitive = true := by
  cases hc : context.sensitive with
  | false => simp [afterwards, hc]
  | true => simp [afterwards, hc, mem_addPlace, or_comm]

theorem marks_mark_iff (hm : session.member? name = some member) :
    (session.eventOf collaborators (.mark name)).Marks place ↔ place = member.place := by
  constructor
  · rintro ⟨other, found, hf, rfl, h | ⟨_, _, _, h, _⟩⟩
    · cases h
      cases hm.symm.trans hf
      rfl
    · cases h
  · rintro rfl
    exact ⟨name, member, hm, rfl, .inl rfl⟩

theorem marks_lookup_iff (hm : session.member? name = some member) (strictness : Strictness)
    (arguments : Arguments) :
    (session.eventOf collaborators (.lookup name strictness arguments)).Marks place ↔
      place = member.place ∧ member.evaluation.flags arguments
        (member.evaluation.perform arguments strictness (session.context member)).result = true := by
  have hreport := report_eventOf_lookup collaborators hm strictness arguments
  rw [Evaluation.flags_perform_iff]
  constructor
  · rintro ⟨other, found, hf, rfl, h | ⟨_, _, answer, h, ha, hkind, hfinds⟩⟩
    · cases h
    · cases h
      cases hm.symm.trans hf
      rw [hreport] at ha
      obtain ⟨_, hr, hs⟩ := Results.map_eq_ok_iff.mp ha
      cases hs
      exact ⟨rfl, answer, hr, hkind, hfinds⟩
  · rintro ⟨rfl, answer, hr, hkind, hfinds⟩
    refine ⟨name, member, hm, rfl, .inr ⟨strictness, arguments, answer, rfl, ?_, hkind, hfinds⟩⟩
    rw [hreport]
    exact congrArg (Except.map some) hr

theorem not_marks_eventOf {step : Step σ} (h : step.mayMark = false) :
    ¬ (session.eventOf collaborators step).Marks place := by
  rintro ⟨name, _, _, _, hs | ⟨_, _, _, hs, _⟩⟩
  · cases hs
    cases h
  · cases hs
    cases h

/-- A step notes sensitive data where it marks, and nowhere else. -/
theorem mem_sensitive_eventOf (collaborators : Collaborators σ) (session : Session σ)
    (step : Step σ) (place : ResultPlace) :
    place ∈ (session.eventOf collaborators step).after.sensitive ↔
      place ∈ session.sensitive ∨ (session.eventOf collaborators step).Marks place := by
  have hmoves : session.Moves collaborators step (session.eventOf collaborators step).after :=
    moves_step collaborators session step
  generalize (session.eventOf collaborators step).after = next at hmoves
  cases hmoves with
  | made he => exact (or_iff_left (not_marks_eventOf rfl)).symm
  | changed f => exact (or_iff_left (not_marks_eventOf rfl)).symm
  | configured f => exact (or_iff_left (not_marks_eventOf rfl)).symm
  | idle hidle =>
    refine (or_iff_left ?_).symm
    rintro ⟨name, member, hm, _, h | ⟨_, _, _, h, _⟩⟩
    · cases h
      cases (hidle name _ rfl).symm.trans hm
    · cases h
      cases (hidle name _ rfl).symm.trans hm
  | @acted _ name member act ha hm =>
    rw [mem_sensitive_afterwards]
    by_cases hp : place ∈ session.sensitive
    · simp [hp]
    -- The context of the evaluation starts from what is noted at its place.
    have hstart : place = member.place → (session.context member).sensitive = false := by
      rintro rfl
      exact Bool.eq_false_iff.mpr (mt isSensitive_iff.mp hp)
    simp only [hp, false_or]
    cases step with
    | create name options place => cases ha
    | change f => cases ha
    | configure f => cases ha
    | mark name =>
      cases ha
      exact (and_iff_left rfl).trans (marks_mark_iff hm).symm
    | lookup name strictness arguments =>
      cases ha
      rw [marks_lookup_iff hm, Evaluation.sensitive_perform]
      apply and_congr_right
      intro hplace
      simp [hstart hplace]
    | store name identity documents =>
      cases ha
      refine iff_of_false ?_ (not_marks_eventOf rfl)
      rintro ⟨hplace, hs⟩
      cases (hstart hplace).symm.trans hs
    | storeDescriptor name type descriptor =>
      cases ha
      refine iff_of_false ?_ (not_marks_eventOf rfl)
      rintro ⟨hplace, hs⟩
      cases (hstart hplace).symm.trans hs

/-- What has been noted is what was noted before and what was marked since. -/
theorem mem_sensitive_steps (collaborators : Collaborators σ) (session : Session σ)
    (steps : List (Step σ)) (place : ResultPlace) :
    place ∈ (session.steps collaborators steps).1.sensitive ↔ place ∈ session.sensitive ∨
      ∃ event ∈ session.trace collaborators steps, event.Marks place := by
  induction steps generalizing session with
  | nil => simp [Session.steps, trace]
  | cons step steps ih =>
    have hstep := mem_sensitive_eventOf collaborators session step place
    simp only [trace, List.mem_cons, exists_eq_or_imp]
    rw [← or_assoc, ← hstep]
    exact ih (session.step collaborators step).1

theorem sensitive_subset_of_mem_trace {steps : List (Step σ)} {event : Event σ}
    (h : event ∈ session.trace collaborators steps) (hp : place ∈ event.before.sensitive) :
    place ∈ event.after.sensitive := by
  rw [eq_eventOf_of_mem_trace h]
  exact (mem_sensitive_eventOf collaborators event.before event.step place).mpr (.inl hp)

/-- Whether the settings and all evaluations of a session have the same sensitive kind. -/
structure Uniform (session : Session σ) (kind : String) : Prop where
  settings : session.settings.sensitiveKind = kind
  members : ∀ name member, session.member? name = some member →
    member.evaluation.sensitiveKind = kind

theorem uniform_start (settings : LookupSettings) (world : σ) :
    (start settings world).Uniform settings.sensitiveKind := by
  refine ⟨rfl, ?_⟩
  intro name member hm
  cases hm

end Session

/-- Whether a step leaves the sensitive kind of the settings as it is. -/
def Step.KeepsKind {σ : Type} : Step σ → Prop
  | .configure f => ∀ settings, (f settings).sensitiveKind = settings.sensitiveKind
  | _ => True

theorem Collaborators.sensitiveKind_evaluation {σ : Type} {collaborators : Collaborators σ}
    {settings : LookupSettings} {options : Options} {evaluation : Evaluation σ}
    (h : collaborators.evaluation settings options = .ok evaluation) :
    evaluation.sensitiveKind = settings.sensitiveKind := by
  cases makes_of_evaluation h <;> rfl

/-- An evaluation takes the sensitive kind of the settings when it is made, and keeps it. -/
theorem Session.Uniform.step {σ : Type} {collaborators : Collaborators σ} {session : Session σ}
    {kind : String} (h : session.Uniform kind) {step : Step σ} (hs : step.KeepsKind) :
    (session.step collaborators step).1.Uniform kind := by
  have hmoves := moves_step collaborators session step
  generalize (session.step collaborators step).1 = next at hmoves
  cases hmoves with
  | @made name options place evaluation result he =>
    refine ⟨h.settings, ?_⟩
    intro other found hf
    simp only [member?, valueOf?] at hf
    split at hf
    · cases hf
      exact (Collaborators.sensitiveKind_evaluation he).trans h.settings
    · exact h.members other found hf
  | @acted _ name member act ha hm =>
    refine ⟨h.settings, ?_⟩
    intro other found hf
    by_cases ho : other = name
    · subst ho
      rw [member?_afterwards_self hm] at hf
      cases hf
      exact h.members other member hm
    · rw [member?_afterwards_of_ne ho] at hf
      exact h.members other found hf
  | changed f => exact ⟨h.settings, h.members⟩
  | configured f => exact ⟨(hs session.settings).trans h.settings, h.members⟩
  | idle => exact h

/-- The flag for sensitive data at a place is exact: it is set by what marks the place and by nothing
else, and it is never taken back. While the sensitive kind of the settings is not changed, it is the
kind by which every evaluation marks. -/
theorem sensitive_exact {σ : Type} (collaborators : Collaborators σ) (session : Session σ)
    (steps : List (Step σ)) (place : ResultPlace) :
    (place ∈ (session.steps collaborators steps).1.sensitive ↔ place ∈ session.sensitive ∨
      ∃ event ∈ session.trace collaborators steps, event.Marks place) ∧
    (∀ event ∈ session.trace collaborators steps,
      place ∈ event.before.sensitive → place ∈ event.after.sensitive) ∧
    ∀ kind, session.Uniform kind → (∀ step ∈ steps, step.KeepsKind) →
      ∀ event ∈ session.trace collaborators steps, event.before.Uniform kind := by
  refine ⟨Session.mem_sensitive_steps collaborators session steps place, ?_, ?_⟩
  · intro event he hp
    exact Session.sensitive_subset_of_mem_trace he hp
  · intro kind hu hs event he
    refine Session.before_of_mem_trace (I := fun session => session.Uniform kind) hu ?_ he
    intro step hm session h
    exact h.step (hs step hm)

/-- An evaluation that follows changes finds a secret, and another one shares its place. -/
def sharedSteps : List (Step ObjectStore) :=
  [.create "page" ⟨⟨"", []⟩, none⟩ (some "common"),
    .create "feed" ⟨⟨"", []⟩, some ⟨⟨"", "v1", "Page"⟩, "team-a", "home", ""⟩⟩ (some "common"),
    .lookup "page" .lenient (secretLookup "key"), .lookup "feed" .strict (secretLookup "token")]

theorem sensitive_exact_shared :
    let collaborators : Collaborators ObjectStore := ⟨ObjectStore.client, some ObjectStore.registry⟩
    let session := Session.start .standard smallStore
    let found := ((session.steps collaborators (sharedSteps.take 3)).1).eventOf collaborators
      (.lookup "feed" .strict (secretLookup "token"))
    session.Uniform "Secret" ∧ (∀ step ∈ sharedSteps, step.KeepsKind) ∧
      found.before.Uniform "Secret" ∧ found.Marks (.shared "common") ∧
      ResultPlace.shared "common" ∈ (session.steps collaborators sharedSteps).1.sensitive ∧
      ResultPlace.shared "common" ∉
        (session.steps collaborators (sharedSteps.take 3)).1.sensitive := by
  intro collaborators session found
  obtain ⟨hiff, _, huniform⟩ := sensitive_exact collaborators session sharedSteps (.shared "common")
  have hkeeps : ∀ step ∈ sharedSteps, step.KeepsKind := by simp [sharedSteps, Step.KeepsKind]
  have hfound : found ∈ session.trace collaborators sharedSteps :=
    List.mem_cons_of_mem _ (List.mem_cons_of_mem _ (List.mem_cons_of_mem _ List.mem_cons_self))
  have hmarks : found.Marks (.shared "common") :=
    ⟨"feed", _, rfl, rfl, .inr ⟨.strict, secretLookup "token", .document (.object []), rfl, rfl, rfl,
      by simp [Answer.Finds, secretLookup]⟩⟩
  have hstart : session.Uniform "Secret" := Session.uniform_start .standard smallStore
  exact ⟨hstart, hkeeps, huniform "Secret" hstart hkeeps found hfound, hmarks,
    hiff.mpr (.inr ⟨found, hfound, hmarks⟩), by decide⟩

end ClusterLookup
