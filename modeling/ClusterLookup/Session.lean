import ClusterLookup.Evaluation

/-!
# Sessions

A resolver with its collaborators, and the evaluations made with it. Evaluations share nothing but
the collaborators, except that several of them may note sensitive data in one common place. A
session is changed by steps; each step answers or fails, and reports what it did.
-/

namespace ClusterLookup

/-- What evaluations may read from: a cluster client, and possibly a registry. -/
structure Collaborators (σ : Type) where
  client : ClusterClient σ
  registry : Option (Registry σ)

/-- The evaluation with those options: with a watcher it reads from the registry, which then has to
be there, and without one from the client. -/
def Collaborators.evaluation {σ : Type} (collaborators : Collaborators σ) (settings : LookupSettings)
    (options : Options) : Except Failure (Evaluation σ) :=
  match options.watcher with
  | none => .ok ⟨options.policy, .cluster collaborators.client, settings.sensitiveKind⟩
  | some watcher =>
    match collaborators.registry with
    | some registry => .ok ⟨options.policy, .registry registry watcher, settings.sensitiveKind⟩
    | none => .error
        (.system .badValue "a watcher was supplied but this resolver has no resource registry")

/-- Where an evaluation notes that it has read sensitive data: a place of its own, by the number of
evaluations made before it, or a named one. -/
inductive ResultPlace where
  | own (serial : Nat)
  | shared (name : String)
  deriving DecidableEq, Repr, Inhabited

/-- An evaluation of a session, its cache, and where it notes sensitive data. -/
structure Member (σ : Type) where
  evaluation : Evaluation σ
  cache : AnswerCache
  place : ResultPlace

/-- A resolver's settings, its evaluations by name, the latest of a name first, the places where
sensitive data has been noted, and the state of the collaborators. -/
structure Session (σ : Type) where
  settings : LookupSettings
  members : List (String × Member σ)
  made : Nat
  sensitive : List ResultPlace
  world : σ

/-- Whether a lookup answers for an object that does not exist, or fails. -/
inductive Strictness where
  | lenient
  | strict
  deriving DecidableEq, Repr, Inhabited

/-- Something done in a session. Evaluations are named. -/
inductive Step (σ : Type) where
  /-- Makes an evaluation; without the name of a common place it gets one of its own. -/
  | create (name : String) (options : Options) (place : Option String)
  | lookup (name : String) (strictness : Strictness) (arguments : Arguments)
  /-- Stores an answer in the cache of an evaluation. -/
  | store (name : String) (identity : Identity) (documents : List Document)
  /-- Stores a descriptor in the cache of an evaluation. -/
  | storeDescriptor (name : String) (type : GroupVersionKind) (descriptor : Descriptor)
  | mark (name : String)
  | change (f : σ → σ)
  /-- Changes the settings; evaluations already made keep theirs. -/
  | configure (f : LookupSettings → LookupSettings)

structure Report where
  result : Except Failure (Option Answer)
  journal : Journal

namespace Session
variable {σ : Type}

def start (settings : LookupSettings) (world : σ) : Session σ := ⟨settings, [], 0, [], world⟩

def member? (session : Session σ) (name : String) : Option (Member σ) := valueOf? name session.members

/-- Whether an evaluation or one that shares its place has read sensitive data. -/
def isSensitive (session : Session σ) (member : Member σ) : Bool :=
  session.sensitive.contains member.place

/-- The context in which an evaluation of the session does its lookups. -/
def context (session : Session σ) (member : Member σ) : Context σ :=
  ⟨member.cache, session.isSensitive member, session.world⟩

/-- Members with the cache of the one of that name replaced. -/
def withCache (name : String) (cache : AnswerCache) :
    List (String × Member σ) → List (String × Member σ)
  | [] => []
  | (n, m) :: members =>
    if n = name then (n, { m with cache := cache }) :: members
    else (n, m) :: withCache name cache members

def addPlace (place : ResultPlace) (places : List ResultPlace) : List ResultPlace :=
  if places.contains place then places else place :: places

/-- The session after an evaluation of it has done something. -/
def afterwards (session : Session σ) (name : String) (member : Member σ) (context : Context σ) :
    Session σ :=
  { session with
    members := withCache name context.cache session.members
    sensitive :=
      if context.sensitive then addPlace member.place session.sensitive else session.sensitive
    world := context.world }

/-- A step that an evaluation does in its context. -/
def run {α : Type} (session : Session σ) (name : String) (x : Member σ → Lookup σ α)
    (answer : α → Option Answer) : Session σ × Report :=
  match session.member? name with
  | none => (session, ⟨.error .noEntry, []⟩)
  | some member =>
    let outcome := x member (session.context member)
    (session.afterwards name member outcome.state,
      ⟨outcome.result.map answer, outcome.journal⟩)

def create (collaborators : Collaborators σ) (session : Session σ) (name : String)
    (options : Options) (place : Option String) : Session σ × Report :=
  match collaborators.evaluation session.settings options with
  | .error failure => (session, ⟨.error failure, []⟩)
  | .ok evaluation =>
    let place := (place.map ResultPlace.shared).getD (.own session.made)
    ({ session with
        members := (name, ⟨evaluation, .empty, place⟩) :: session.members
        made := session.made + 1 },
      ⟨.ok none, []⟩)

def step (collaborators : Collaborators σ) (session : Session σ) : Step σ → Session σ × Report
  | .create name options place => session.create collaborators name options place
  | .lookup name .lenient arguments => session.run name (·.evaluation.lookup arguments) some
  | .lookup name .strict arguments => session.run name (·.evaluation.lookupStrict arguments) some
  | .store name identity documents =>
    session.run name (fun _ => Lookup.store identity documents) fun _ => none
  | .storeDescriptor name type descriptor =>
    session.run name (fun _ => Lookup.storeDescriptor type descriptor) fun _ => none
  | .mark name => session.run name (fun _ => Lookup.noteSensitive) fun _ => none
  | .change f => ({ session with world := f session.world }, ⟨.ok none, []⟩)
  | .configure f => ({ session with settings := f session.settings }, ⟨.ok none, []⟩)

/-- All steps one after another, with what each of them answered and did. -/
def steps (collaborators : Collaborators σ) (session : Session σ) :
    List (Step σ) → Session σ × List Report
  | [] => (session, [])
  | s :: rest =>
    let (next, report) := session.step collaborators s
    let (last, reports) := next.steps collaborators rest
    (last, report :: reports)

/-! ## Members, places and steps -/

theorem mem_addPlace {place other : ResultPlace} {places : List ResultPlace} :
    other ∈ addPlace place places ↔ other = place ∨ other ∈ places := by
  unfold addPlace
  split
  · next h =>
    have hp : place ∈ places := by simpa using h
    constructor
    · exact Or.inr
    · rintro (rfl | ho)
      · exact hp
      · exact ho
  · exact List.mem_cons

theorem valueOf?_withCache_self (name : String) (cache : AnswerCache)
    (members : List (String × Member σ)) :
    valueOf? name (withCache name cache members) =
      (valueOf? name members).map fun m => { m with cache := cache } := by
  induction members with
  | nil => rfl
  | cons entry members ih =>
    obtain ⟨n, m⟩ := entry
    by_cases h : n = name
    · simp [withCache, valueOf?, h]
    · simpa [withCache, valueOf?, h] using ih

theorem valueOf?_withCache_of_ne {name other : String} (h : other ≠ name) (cache : AnswerCache)
    (members : List (String × Member σ)) :
    valueOf? other (withCache name cache members) = valueOf? other members := by
  induction members with
  | nil => rfl
  | cons entry members ih =>
    obtain ⟨n, m⟩ := entry
    by_cases hn : n = name
    · subst hn
      simp [withCache, valueOf?, Ne.symm h]
    · by_cases ho : n = other
      · subst ho
        simp [withCache, valueOf?, hn]
      · simpa [withCache, valueOf?, hn, ho] using ih

theorem steps_append (collaborators : Collaborators σ) (session : Session σ)
    (before after : List (Step σ)) :
    session.steps collaborators (before ++ after) =
      (((session.steps collaborators before).1.steps collaborators after).1,
        (session.steps collaborators before).2 ++
          ((session.steps collaborators before).1.steps collaborators after).2) := by
  induction before generalizing session with
  | nil => rfl
  | cons s before ih => simp [steps, ih]

end Session

end ClusterLookup
