import ClusterLookup.Cluster.Script
import ClusterLookup.Proofs.Adapter
import ClusterLookup.Proofs.Projections

/-!
# Failures that escape

Callers of a lookup expect failures of the lookup family. The adapter turns faults of the API and of the
transport into such failures, but it passes every other fault on, and it trips over a list answer whose
items are no objects. Nothing above it on the way through the cache holds these back, so they are what
a lookup fails with outside of the family, and it fails so in no other case.
-/

namespace ClusterLookup

open Journal (ofCalls_wireExchanges)

def Failure.isRemote (failure : Failure) : Bool := failure.isApi || failure.isTransport

theorem Failure.isLookup_of_isNotFound {failure : Failure} (h : failure.isNotFound = true) :
    failure.isLookup = true := by
  cases failure with
  | notFound group resource inNamespace name => rfl
  | _ => cases h

/-- Whether a fault says that discovery did not come to one resource. -/
def Failure.isDiscovery : Failure → Bool
  | .unknownResource _ => true
  | .ambiguousResource _ => true
  | _ => false

/-- What fails when an answer is taken for a list: its items, if it has any, have to be objects in an
array. -/
def Document.listFault? : Document → Option Failure
  | .object fields =>
    let items := (fieldIn? "items" fields).getD .null
    if items.isVacant then none
    else match items with
      | .array items => if items.all isObject then none else some .noOperation
      | .object _ => some .noOperation
      | .text _ => some .noOperation
      | _ => some .notAList
  | _ => some .noOperation

theorem Document.isLookup_of_listFault? {body : Document} {failure : Failure}
    (h : body.listFault? = some failure) : failure.isLookup = false := by
  cases body with
  | object fields =>
    simp only [listFault?] at h
    split at h
    · cases h
    · split at h
      · split at h <;> cases h
        rfl
      all_goals cases h; rfl
  | _ => cases h; rfl

/-- The failure outside of the lookup family that an exchange with the API brings about, if any. -/
def WireExchange.stray? : WireExchange → Option Failure
  | .resource _ _ (.error failure) =>
    if failure.isLookup || failure.isRemote || failure.isDiscovery then none else some failure
  | .read _ (.error failure) =>
    if failure.isLookup || failure.isRemote then none else some failure
  | .read request (.ok body) => if request.name.isNone then body.listFault? else none
  | .resource _ _ (.ok _) => none

/-- Whether an outcome fails outside of the lookup family exactly as an exchange of its journal has it. -/
def Outcome.Explained {σ α : Type} (outcome : Outcome Entry σ α) : Prop :=
  ∀ failure, (outcome.result = .error failure ∧ failure.isLookup = false) ↔
    ∃ exchange ∈ Journal.wireExchanges outcome.journal, exchange.stray? = some failure

namespace Outcome
variable {σ α β : Type} {outcome : Outcome Entry σ α}

theorem explained_of_silent (hj : Journal.wireExchanges outcome.journal = [])
    (hr : ∀ failure, outcome.result = .error failure → failure.isLookup = true) :
    outcome.Explained := by
  intro failure
  rw [hj]
  refine iff_of_false ?_ (by simp)
  rintro ⟨he, hl⟩
  simp [hr failure he] at hl

theorem explained_of_single (exchange : WireExchange)
    (hj : Journal.wireExchanges outcome.journal = [exchange])
    (hr : ∀ failure, (outcome.result = .error failure ∧ failure.isLookup = false) ↔
      exchange.stray? = some failure) : outcome.Explained := by
  intro failure
  simp [hr failure, hj]

/-- A part that fails explains the outcome that it ends. -/
theorem Explained.stop {first : Outcome Entry σ β} {failure : Failure} (h : first.Explained)
    (hf : first.result = .error failure) (state : σ) :
    (⟨.error failure, state, first.journal⟩ : Outcome Entry σ α).Explained := by
  intro escaped
  rw [← h escaped, hf]
  simp

/-- After a part that went well, an outcome is explained by what comes next. -/
theorem Explained.append {first : Outcome Entry σ β} {a : β} (hf : first.Explained)
    (ha : first.result = .ok a) (h : outcome.Explained) (state : σ) :
    (⟨outcome.result, state, first.journal ++ outcome.journal⟩ : Outcome Entry σ α).Explained := by
  have hnone : ∀ exchange ∈ Journal.wireExchanges first.journal, ∀ failure,
      exchange.stray? ≠ some failure := by
    intro exchange he failure hstray
    obtain ⟨herror, _⟩ := (hf failure).mpr ⟨exchange, he, hstray⟩
    cases ha.symm.trans herror
  intro failure
  rw [h failure, ofCalls_wireExchanges.append]
  constructor
  · rintro ⟨exchange, he, hstray⟩
    exact ⟨exchange, List.mem_append_right _ he, hstray⟩
  · rintro ⟨exchange, he, hstray⟩
    rcases List.mem_append.mp he with he | he
    · exact absurd hstray (hnone exchange he failure)
    · exact ⟨exchange, he, hstray⟩

end Outcome

/-! ## What the adapter passes on -/

/-- Whether a translation brings the known failures into the lookup family and passes on the others. -/
structure Failure.Tames (translate : Failure → Failure) (known : Failure → Bool) : Prop where
  isLookup : ∀ failure, (translate failure).isLookup = known failure
  passes : ∀ failure, known failure = false → translate failure = failure

theorem Failure.Tames.escapes_iff {translate : Failure → Failure} {known : Failure → Bool}
    (h : Tames translate known) (failure escaped : Failure) :
    translate failure = escaped ∧ escaped.isLookup = false ↔
      (if known failure then none else some failure) = some escaped := by
  have hl := h.isLookup failure
  cases hk : known failure with
  | true =>
    refine iff_of_false ?_ (by simp)
    rintro ⟨rfl, he⟩
    simp [hl, hk] at he
  | false =>
    rw [h.passes failure hk] at hl ⊢
    simp only [Bool.false_eq_true, if_false, Option.some.injEq]
    constructor
    · exact And.left
    · rintro rfl
      exact ⟨rfl, hl.trans hk⟩

namespace Adapter

theorem tames_discoveryFailure (type : GroupVersionKind) :
    Failure.Tames (discoveryFailure type) fun failure =>
      failure.isLookup || failure.isRemote || failure.isDiscovery where
  isLookup failure := by cases failure <;> rfl
  passes failure h := by
    cases failure with
    | api fault status reason => cases h
    | transport fault detail => cases h
    | unknownResource detail => cases h
    | ambiguousResource detail => cases h
    | _ => rfl

theorem tames_getFailure (descriptor : Descriptor) (inNamespace name : String) :
    Failure.Tames (getFailure descriptor inNamespace name) fun failure =>
      failure.isLookup || failure.isRemote where
  isLookup failure := by
    cases failure with
    | api fault status reason =>
      -- The status decides which member of the family it becomes.
      simp only [getFailure]
      split <;> rfl
    | _ => rfl
  passes failure h := by
    cases failure with
    | api fault status reason => cases h
    | transport fault detail => cases h
    | _ => rfl

theorem tames_listFailure :
    Failure.Tames listFailure fun failure => failure.isLookup || failure.isRemote where
  isLookup failure := by cases failure <;> rfl
  passes failure h := by
    cases failure with
    | api fault status reason => cases h
    | transport fault detail => cases h
    | _ => rfl

/-- Completing the items of a list fails as soon as one of them is not an object. -/
theorem mapM_completeItem (apiVersion kind : String) (items : List Document) :
    if items.all Document.isObject then
      ∃ completed, items.mapM (completeItem apiVersion kind) = .ok completed
    else items.mapM (completeItem apiVersion kind) = .error .noOperation := by
  induction items with
  | nil => exact ⟨[], rfl⟩
  | cons item items ih =>
    cases item with
    | object fields =>
      simp only [List.mapM_cons, completeItem, List.all_cons, Document.isObject, Bool.true_and]
      split at ih
      · next hall =>
        obtain ⟨completed, hc⟩ := ih
        rw [if_pos hall, hc]
        exact ⟨_, rfl⟩
      · next hall =>
        rw [if_neg hall, ih]
        rfl
    | _ => rfl

theorem listItems_eq_error_iff (apiVersion kind : String) (body : Document) (failure : Failure) :
    listItems apiVersion kind body = .error failure ↔ body.listFault? = some failure := by
  cases body with
  | object fields =>
    simp only [listItems, Document.listFault?]
    generalize (Document.fieldIn? "items" fields).getD .null = items
    cases items.isVacant with
    | true => simp
    | false =>
      cases items with
      | array items =>
        have hitems := mapM_completeItem apiVersion kind items
        split at hitems
        · next hall =>
          obtain ⟨completed, hc⟩ := hitems
          simp [hall, hc]
        · next hall => simp [hall, hitems]
      | _ => simp
  | _ => simp [listItems, Document.listFault?]

end Adapter

/-! ## Lookups over an adapter -/

namespace Lookup
variable {σ : Type} {context : Context (AdapterState σ)} {descriptor : Descriptor}

theorem wireExchanges_discoveryNotices (type : GroupVersionKind) (answer : Except Failure Resource) :
    Journal.wireExchanges ((Adapter.discoveryNotices type answer).map Notice.entry) =
      [.resource type.apiVersion type.kind answer] := by
  cases answer <;> rfl

theorem explained_resolveType (api : ClusterApi σ) (type : GroupVersionKind)
    (context : Context (AdapterState σ)) :
    (resolveType (.cluster api.client) type context).Explained := by
  cases hc : context.cache.descriptor? type with
  | some descriptor =>
    rw [resolveType_of_remembered hc]
    exact Outcome.explained_of_silent rfl fun failure h => by cases h
  | none =>
    simp only [resolveType_of_unknown hc, ClusterApi.client, Adapter.discover_eq]
    generalize (api.resource type.apiVersion type.kind context.world.api).1 = answer
    refine Outcome.explained_of_single (.resource type.apiVersion type.kind answer) ?_ ?_
    · rw [ofCalls_wireExchanges.append, wireExchanges_discoveryNotices]
      rfl
    · intro escaped
      cases answer with
      | ok resource => simp [Results.mapError_ok, Except.map, WireExchange.stray?]
      | error failure =>
        have hescapes := (Adapter.tames_discoveryFailure type).escapes_iff failure escaped
        simpa [Results.mapError_error, Except.map, WireExchange.stray?] using hescapes

theorem explained_readAnswer (api : ClusterApi σ) (identity : Identity)
    (hd : context.world.Serves descriptor) :
    (readAnswer (.cluster api.client) identity descriptor context).Explained := by
  obtain ⟨resource, hr, _⟩ := hd
  cases hf : context.cache.find? identity with
  | some documents =>
    rw [readAnswer_of_remembered hf]
    exact Outcome.explained_of_silent rfl fun failure h => by cases h
  | none =>
    cases hl : identity.isList with
    | true =>
      simp only [readAnswer_list hl hf, ClusterApi.client, Adapter.list_eq hr]
      generalize hrequest : (⟨resource, none, Adapter.sentNamespace descriptor identity.inNamespace,
        Adapter.sentSelector identity.selector⟩ : ReadRequest) = request
      generalize (api.read request context.world.api).1 = answer
      refine Outcome.explained_of_single (.read request answer) rfl ?_
      intro escaped
      subst hrequest
      cases answer with
      | ok body =>
        simp only [Results.mapError_ok, Except.bind, Results.map_eq_error_iff,
          Adapter.listItems_eq_error_iff, WireExchange.stray?, Option.isNone_none, if_true]
        exact and_iff_left_of_imp Document.isLookup_of_listFault?
      | error failure =>
        have hescapes := Adapter.tames_listFailure.escapes_iff failure escaped
        simpa [Results.mapError_error, Except.map, Except.bind, WireExchange.stray?] using hescapes
    | false =>
      simp only [readAnswer_get hl hf, ClusterApi.client, Adapter.get_eq hr]
      generalize hrequest : (⟨resource, some identity.name,
        Adapter.sentNamespace descriptor identity.inNamespace, none⟩ : ReadRequest) = request
      generalize (api.read request context.world.api).1 = answer
      refine Outcome.explained_of_single (.read request answer) ?_ ?_
      · simp only [ofCalls_wireExchanges.append, ofCalls_wireExchanges.absenceEntries]
        rfl
      · intro escaped
        subst hrequest
        cases answer with
        | ok document => simp [Results.mapError_ok, Except.map, WireExchange.stray?]
        | error failure =>
          have hescapes := (Adapter.tames_getFailure descriptor identity.inNamespace
            identity.name).escapes_iff failure escaped
          simpa [Results.mapError_error, Except.map, WireExchange.stray?] using hescapes

end Lookup

namespace Evaluation
variable {σ : Type} {api : ClusterApi σ} {evaluation : Evaluation (AdapterState σ)}
variable {arguments : Arguments} {context : Context (AdapterState σ)}

theorem explained_answer (hs : evaluation.source = .cluster api.client)
    (h : context.world.Covers context.cache) (identity : Identity) :
    (evaluation.answer identity context).Explained := by
  have hresolve := Lookup.explained_resolveType api identity.type context
  rw [← hs] at hresolve
  have hcourse := course_answer evaluation identity context
  generalize evaluation.answer identity context = performed at hcourse
  cases hcourse with
  | unresolved ht => exact hresolve.stop ht _
  | @refused descriptor ht ha =>
    -- A refusal is of the family, and enters no exchange.
    have hrefused : (Lookup.refuse (.clusterScoped descriptor.group identity.type.kind
        identity.name) context : Outcome Entry (Context (AdapterState σ)) Answer).Explained := by
      rw [Lookup.refuse_apply]
      refine Outcome.explained_of_silent rfl fun failure hf => ?_
      cases hf
      rfl
    exact hresolve.append ht hrefused _
  | admitted ht ha hr =>
    have hover : evaluation.source.OverAdapter api := hs ▸ .cluster
    have hserves := Lookup.serves_of_resolveType hover h ht (by rw [hs]; rfl)
    have hread := Lookup.explained_readAnswer api identity hserves
    rw [← hs, hr] at hread
    exact hresolve.append ht hread _

theorem explained_lookupStrict (hs : evaluation.source = .cluster api.client)
    (h : context.world.Covers context.cache) (arguments : Arguments) :
    (evaluation.lookupStrict arguments context).Explained := by
  cases hi : arguments.identity evaluation.policy with
  | error failure =>
    rw [lookupStrict_of_invalid hi]
    refine Outcome.explained_of_silent (ofCalls_wireExchanges.refusalEntries failure) ?_
    intro failure hf
    cases hf
    exact Arguments.isLookup_of_identity hi
  | ok identity =>
    rw [lookupStrict_of_valid hi]
    exact explained_answer hs h identity

theorem lenient_escapes_iff (result : Except Failure Answer) (failure : Failure) :
    lenient result = .error failure ∧ failure.isLookup = false ↔
      result = .error failure ∧ failure.isLookup = false := by
  cases result with
  | ok answer => simp [lenient]
  | error found =>
    cases hn : found.isNotFound with
    | false => simp [lenient, hn]
    | true =>
      -- What a lenient lookup takes for an answer is a failure of the family.
      have hl := Failure.isLookup_of_isNotFound hn
      simp only [lenient, hn, if_true, reduceCtorEq, false_and, false_iff, not_and]
      rintro ⟨⟩
      simp [hl]

theorem explained_perform (hs : evaluation.source = .cluster api.client)
    (h : context.world.Covers context.cache) (arguments : Arguments) (strictness : Strictness) :
    (evaluation.perform arguments strictness context).Explained := by
  have hstrict := explained_lookupStrict hs h arguments
  cases strictness with
  | strict => exact hstrict
  | lenient =>
    intro failure
    rw [ofCalls_wireExchanges.perform, ← hstrict failure, perform, lookup_eq]
    exact lenient_escapes_iff _ failure

end Evaluation

/-! ## Whole runs -/

/-- In every run over one adapter, a lookup through the cache fails outside of the lookup family exactly
when one of its own exchanges with the API is stray, and with what that exchange brings about. -/
theorem trace_escapes_iff {σ : Type} (api : ClusterApi σ) (registry : Option (Registry σ))
    (settings : LookupSettings) (world : AdapterState σ) {steps : List (Step (AdapterState σ))}
    (hs : ∀ step ∈ steps, step.SparesAdapter) :
    ∀ event ∈ (Session.start settings world).trace (api.collaborators registry) steps,
      ∀ name strictness arguments member, event.step = .lookup name strictness arguments →
        event.before.member? name = some member → member.evaluation.path = .cacheFirst →
          ∀ failure, (event.report.result = .error failure ∧ failure.isLookup = false ↔
            ∃ exchange ∈ event.report.journal.wireExchanges, exchange.stray? = some failure) := by
  intro event he name strictness arguments member hlookup hm hp failure
  obtain ⟨hover, hcovers⟩ := Session.each_covers hs he name member hm
  have hstart : (event.before.context member).world.Covers (event.before.context member).cache :=
    hcovers
  have hexplained :=
    Evaluation.explained_perform (hover.eq_cluster hp) hstart arguments strictness failure
  rw [Session.eq_eventOf_of_mem_trace he, hlookup, Session.report_eventOf_lookup _ hm]
  simp only [Results.map_eq_error_iff]
  exact hexplained

/-- An API that serves secrets, times out when one is read, and lists a text among them. -/
def hostileScript : Script where
  catalogue := [⟨"v1", "Secret", .ok ⟨"secrets", some true⟩⟩]
  reads := [.error (.system .timeout "timed out"),
    .ok (.object [("items", .array [.object [], .text "token"])])]

def hostileSteps : List (Step (AdapterState Script)) :=
  [.create "page" ⟨⟨"", []⟩, none⟩ none, .lookup "page" .lenient (secretLookup "token"),
    .lookup "page" .lenient (secretLookup "")]

theorem trace_escapes_iff_timeout :
    let collaborators := Script.api.collaborators none
    let session := ((Session.start .standard (AdapterState.start hostileScript)).steps collaborators
      (hostileSteps.take 1)).1
    let event := session.eventOf collaborators (.lookup "page" .lenient (secretLookup "token"))
    (∀ step ∈ hostileSteps, step.SparesAdapter) ∧
      (event.report.result = .error (.system .timeout "timed out") ∧
        Failure.isLookup (.system .timeout "timed out") = false) ∧
      ∃ exchange ∈ event.report.journal.wireExchanges,
        exchange.stray? = some (.system .timeout "timed out") := by
  intro collaborators session event
  have hs : ∀ step ∈ hostileSteps, step.SparesAdapter := by
    simp [hostileSteps, Step.SparesAdapter, Step.writesCache]
  have hevent : event ∈ (Session.start .standard (AdapterState.start hostileScript)).trace
      collaborators hostileSteps := List.mem_cons_of_mem _ List.mem_cons_self
  have hfails : event.report.result = .error (.system .timeout "timed out") ∧
      Failure.isLookup (.system .timeout "timed out") = false := ⟨rfl, rfl⟩
  exact ⟨hs, hfails, (trace_escapes_iff Script.api none .standard _ hs event hevent "page" .lenient
    (secretLookup "token") _ rfl rfl rfl _).mp hfails⟩

/-- Neither a timeout nor a malformed item is brought into the lookup family. -/
theorem hostileScript_escapes :
    ((Session.start .standard (AdapterState.start hostileScript)).trace (Script.api.collaborators none)
      hostileSteps).map (·.report.result) =
      [.ok none, .error (.system .timeout "timed out"), .error .noOperation] :=
  rfl

end ClusterLookup
