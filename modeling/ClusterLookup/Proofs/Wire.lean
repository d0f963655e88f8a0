import ClusterLookup.Proofs.Escapes
import Mathlib.Data.List.Forall2
import Mathlib.Data.List.Infix

/-!
# What goes over the wire

An evaluation that reads through its cache sees a client, and the adapter behind the client speaks to the
API. As the adapter keeps the resource of every descriptor that a cache holds, each call to the client is
one exchange with the API: discovery is asked for when the client is, and a read is sent with a resource
that was reported before.
-/

namespace ClusterLookup

open Journal (ofCalls_wireExchanges ofExchanges_clientExchanges)
open Results (failure?)

theorem Document.eq_of_listFault? {body : Document} {failure : Failure}
    (h : body.listFault? = some failure) : failure = .noOperation ∨ failure = .notAList := by
  cases body with
  | object fields =>
    simp only [listFault?] at h
    split at h
    · cases h
    · split at h
      · split at h <;> cases h
        exact .inl rfl
      · cases h
        exact .inl rfl
      · cases h
        exact .inl rfl
      · cases h
        exact .inr rfl
  | _ =>
    cases h
    exact .inl rfl

namespace WireExchange

/-- The fault that an exchange met, if any. -/
def fault? : WireExchange → Option Failure
  | resource _ _ answer => failure? answer
  | read _ answer => failure? answer

def isRead : WireExchange → Bool
  | resource _ _ _ => false
  | read _ _ => true

/-- A body that is no list says nothing of entries. -/
theorem fault?_of_stray? {exchange : WireExchange} (h : exchange.stray? = some .noEntry) :
    exchange.fault? = some .noEntry := by
  cases exchange with
  | resource apiVersion kind answer =>
    cases answer with
    | ok found => cases h
    | error failure =>
      simp only [stray?] at h
      split at h
      · cases h
      · exact h
  | read request answer =>
    cases answer with
    | ok body =>
      simp only [stray?] at h
      split at h
      · rcases Document.eq_of_listFault? h with hf | hf <;> cases hf
      · cases h
    | error failure =>
      simp only [stray?] at h
      split at h
      · cases h
      · exact h

end WireExchange

/-- Whether a call to the client was one exchange of its adapter with the API: a read is sent with the
resource that the adapter keeps for the descriptor. -/
inductive ClientExchange.SentAs {σ : Type} (api : ClusterApi σ) (state : AdapterState σ) :
    ClientExchange → WireExchange → Prop
  | discover (type : GroupVersionKind) {remote : σ} {found : Except Failure Resource}
      (answered : (api.resource type.apiVersion type.kind remote).1 = found) :
      SentAs api state
        (.discover type
          ((found.mapError (Adapter.discoveryFailure type)).map (·.descriptor type)))
        (.resource type.apiVersion type.kind found)
  | get {descriptor : Descriptor} {resource : Resource} {remote : σ}
      {found : Except Failure Document} (kind inNamespace name : String)
      (kept : state.resource? descriptor = some resource)
      (answered : (api.read ⟨resource, some name, Adapter.sentNamespace descriptor inNamespace, none⟩
        remote).1 = found) :
      SentAs api state
        (.get descriptor kind inNamespace name
          (found.mapError (Adapter.getFailure descriptor inNamespace name)))
        (.read ⟨resource, some name, Adapter.sentNamespace descriptor inNamespace, none⟩ found)
  | list {descriptor : Descriptor} {resource : Resource} {remote : σ}
      {found : Except Failure Document} (kind inNamespace selector : String)
      (kept : state.resource? descriptor = some resource)
      (answered : (api.read ⟨resource, none, Adapter.sentNamespace descriptor inNamespace,
        Adapter.sentSelector selector⟩ remote).1 = found) :
      SentAs api state
        (.list descriptor kind inNamespace selector ((found.mapError Adapter.listFailure).bind
          (Adapter.listItems (joinApiVersion descriptor.group descriptor.version) kind)))
        (.read ⟨resource, none, Adapter.sentNamespace descriptor inNamespace,
          Adapter.sentSelector selector⟩ found)

/-- Whether the calls of a journal to the client are its exchanges with the API, one by one. -/
def Journal.SentAs {σ : Type} (api : ClusterApi σ) (state : AdapterState σ) (journal : Journal) :
    Prop :=
  List.Forall₂ (ClientExchange.SentAs api state) journal.clientExchanges journal.wireExchanges

namespace Journal
variable {σ : Type} {api : ClusterApi σ} {state : AdapterState σ} {first second : Journal}

/-- What entries of one form carry is picked out of a journal exactly if such an entry is in it. -/
theorem mem_filterMap_iff {α : Type} {pick : Entry → Option α} {entry : α → Entry}
    (h : Function.IsPartialInv entry pick) {journal : Journal} {a : α} :
    a ∈ journal.filterMap pick ↔ entry a ∈ journal := by
  rw [List.mem_filterMap]
  constructor
  · rintro ⟨found, hm, ha⟩
    rwa [(h a found).mp ha]
  · exact fun hm => ⟨_, hm, (h a _).mpr rfl⟩

theorem mem_clientExchanges {journal : Journal} {call : ClientExchange} :
    call ∈ journal.clientExchanges ↔ Entry.client call ∈ journal := by
  apply mem_filterMap_iff
  intro call entry
  cases entry <;> simp [eq_comm]

theorem mem_wireExchanges {journal : Journal} {exchange : WireExchange} :
    exchange ∈ journal.wireExchanges ↔ Entry.wire exchange ∈ journal := by
  apply mem_filterMap_iff
  intro exchange entry
  cases entry <;> simp [eq_comm]

/-- Without the last element, nothing is left of a list that has no more than one. -/
theorem mem_of_mem_dropLast_append {α : Type} {as bs : List α} (h : bs.length ≤ 1) {a : α}
    (ha : a ∈ (as ++ bs).dropLast) : a ∈ as := by
  cases bs with
  | nil =>
    rw [List.append_nil] at ha
    exact List.mem_of_mem_dropLast ha
  | cons b bs =>
    obtain rfl : bs = [] := by simpa using h
    rwa [List.dropLast_concat] at ha

theorem exists_of_mem_left {α β : Type} {R : α → β → Prop} {as : List α} {bs : List β}
    (h : List.Forall₂ R as bs) {a : α} (ha : a ∈ as) : ∃ b ∈ bs, R a b := by
  induction h with
  | nil => cases ha
  | cons hr _ ih =>
    rcases List.mem_cons.mp ha with rfl | ha
    · exact ⟨_, List.mem_cons_self, hr⟩
    · obtain ⟨b, hb, hab⟩ := ih ha
      exact ⟨b, List.mem_cons_of_mem _ hb, hab⟩

theorem SentAs.exists_sent (h : first.SentAs api state) {call : ClientExchange}
    (hc : Entry.client call ∈ first) : ∃ sent ∈ first.wireExchanges, call.SentAs api state sent :=
  exists_of_mem_left h (mem_clientExchanges.mpr hc)

theorem SentAs.exists_call (h : first.SentAs api state) {sent : WireExchange}
    (hs : sent ∈ first.wireExchanges) : ∃ call, Entry.client call ∈ first ∧
      call.SentAs api state sent := by
  obtain ⟨call, hc, hsent⟩ := exists_of_mem_left (List.Forall₂.flip (R := flip _) h) hs
  exact ⟨call, mem_clientExchanges.mp hc, hsent⟩

theorem SentAs.append (hf : first.SentAs api state) (hs : second.SentAs api state) :
    SentAs api state (first ++ second) := by
  unfold SentAs
  rw [ofExchanges_clientExchanges.append, ofCalls_wireExchanges.append]
  exact List.rel_append hf hs

end Journal

namespace Lookup
variable {σ : Type} {api : ClusterApi σ} {context : Context (AdapterState σ)}
variable {identity : Identity} {descriptor : Descriptor} {resource : Resource}

theorem clientExchanges_resolveType_registry {registry : Registry (AdapterState σ)}
    {watcher : Identity} (type : GroupVersionKind) :
    Journal.clientExchanges (resolveType (.registry registry watcher) type context).journal = [] := by
  rw [resolveType_registry, ofExchanges_clientExchanges.notices_append]
  rfl

theorem clientExchanges_readAnswer_registry {registry : Registry (AdapterState σ)}
    {watcher : Identity} :
    Journal.clientExchanges
      (readAnswer (.registry registry watcher) identity descriptor context).journal = [] := by
  cases hl : identity.isList with
  | true =>
    rw [readAnswer_registry_list hl, ofExchanges_clientExchanges.notices_append]
    rfl
  | false =>
    rw [readAnswer_registry_get hl, ofExchanges_clientExchanges.notices_append]
    rfl

theorem sent_resolveType (api : ClusterApi σ) (type : GroupVersionKind)
    (context : Context (AdapterState σ)) (state : AdapterState σ) :
    Journal.SentAs api state (resolveType (.cluster api.client) type context).journal := by
  cases hc : context.cache.descriptor? type with
  | some descriptor =>
    rw [resolveType_of_remembered hc]
    exact .nil
  | none =>
    simp only [resolveType_of_unknown hc, ClusterApi.client, Adapter.discover_eq, Journal.SentAs,
      ofExchanges_clientExchanges.notices_append, ofCalls_wireExchanges.append,
      wireExchanges_discoveryNotices]
    exact .cons (.discover type rfl) .nil

/-- A type that is not known is asked for by its apiVersion and kind. -/
theorem wireExchanges_resolveType {type : GroupVersionKind} (h : context.cache.descriptor? type = none) :
    ∃ answer, Journal.wireExchanges (resolveType (.cluster api.client) type context).journal =
      [.resource type.apiVersion type.kind answer] := by
  simp only [resolveType_of_unknown h, ClusterApi.client, Adapter.discover_eq,
    ofCalls_wireExchanges.append, wireExchanges_discoveryNotices]
  exact ⟨_, rfl⟩

theorem eq_of_mem_resolveType {type : GroupVersionKind} {exchange : WireExchange}
    (h : exchange ∈ Journal.wireExchanges (resolveType (.cluster api.client) type context).journal) :
    ∃ answer, exchange = .resource type.apiVersion type.kind answer := by
  cases hc : context.cache.descriptor? type with
  | some descriptor =>
    rw [resolveType_of_remembered hc] at h
    cases h
  | none =>
    obtain ⟨answer, hwire⟩ := @wireExchanges_resolveType _ api _ _ hc
    rw [hwire] at h
    exact ⟨answer, List.mem_singleton.mp h⟩

theorem isRead_of_mem_resolveType {type : GroupVersionKind} {exchange : WireExchange}
    (h : exchange ∈ Journal.wireExchanges (resolveType (.cluster api.client) type context).journal) :
    exchange.isRead = false := by
  obtain ⟨answer, rfl⟩ := eq_of_mem_resolveType h
  rfl

/-- A question that is not answered from the cache is one read. -/
theorem sent_readAnswer_of_unknown (api : ClusterApi σ)
    (hr : context.world.resource? descriptor = some resource)
    (hf : context.cache.find? identity = none) :
    let outcome := readAnswer (.cluster api.client) identity descriptor context
    ∃ call sent, Journal.clientExchanges outcome.journal = [call] ∧
      Journal.wireExchanges outcome.journal = [sent] ∧
        call.SentAs api outcome.state.world sent ∧ sent.isRead = true := by
  intro outcome
  cases hl : identity.isList with
  | true =>
    simp only [outcome, readAnswer_list hl hf, ClusterApi.client, Adapter.list_eq hr]
    refine ⟨_, _, rfl, rfl, .list _ _ _ ?_ rfl, rfl⟩
    exact hr
  | false =>
    simp only [outcome, readAnswer_get hl hf, ClusterApi.client, Adapter.get_eq hr,
      ofExchanges_clientExchanges.append, ofExchanges_clientExchanges.absenceEntries,
      ofCalls_wireExchanges.append, ofCalls_wireExchanges.absenceEntries]
    refine ⟨_, _, rfl, rfl, .get _ _ _ ?_ rfl, rfl⟩
    exact hr

theorem sent_readAnswer (hd : context.world.Serves descriptor) :
    let outcome := readAnswer (.cluster api.client) identity descriptor context
    Journal.SentAs api outcome.state.world outcome.journal ∧
      (Journal.wireExchanges outcome.journal).length ≤ 1 := by
  intro outcome
  cases hf : context.cache.find? identity with
  | some documents =>
    simp only [outcome, readAnswer_of_remembered hf]
    exact ⟨.nil, Nat.zero_le 1⟩
  | none =>
    obtain ⟨resource, hr, _⟩ := hd
    obtain ⟨call, sent, hcalls, hwire, hsent, _⟩ := sent_readAnswer_of_unknown api hr hf
    refine ⟨?_, ?_⟩
    · rw [Journal.SentAs, hcalls, hwire]
      exact .cons hsent .nil
    · rw [hwire]
      exact Nat.le_refl 1

end Lookup

namespace Evaluation
variable {σ : Type} {api : ClusterApi σ} {evaluation : Evaluation (AdapterState σ)}
variable {context : Context (AdapterState σ)}

theorem sent_lookupStrict (hs : evaluation.source = .cluster api.client)
    (h : context.world.Covers context.cache) (arguments : Arguments) :
    let outcome := evaluation.lookupStrict arguments context
    Journal.SentAs api outcome.state.world outcome.journal := by
  intro outcome
  cases hi : arguments.identity evaluation.policy with
  | error failure =>
    simp only [outcome, lookupStrict_of_invalid hi, Journal.SentAs,
      ofExchanges_clientExchanges.refusalEntries, ofCalls_wireExchanges.refusalEntries]
    exact .nil
  | ok identity =>
    have hresolve := Lookup.sent_resolveType api identity.type context
    rw [← hs] at hresolve
    simp only [outcome, lookupStrict_of_valid hi]
    have hcourse := course_answer evaluation identity context
    generalize evaluation.answer identity context = performed at hcourse
    cases hcourse with
    | unresolved ht => exact hresolve _
    | refused ht ha =>
      refine (hresolve _).append ?_
      rw [Journal.SentAs, ofExchanges_clientExchanges.refusalEntries,
        ofCalls_wireExchanges.refusalEntries]
      exact .nil
    | admitted ht ha hr =>
      have hover : evaluation.source.OverAdapter api := hs ▸ .cluster
      have hserves := Lookup.serves_of_resolveType hover h ht (by rw [hs]; rfl)
      have hread := (@Lookup.sent_readAnswer _ api _ identity _ hserves).1
      rw [← hs, hr] at hread
      exact (hresolve _).append hread

theorem sent_perform (hs : evaluation.source = .cluster api.client)
    (h : context.world.Covers context.cache) (arguments : Arguments) (strictness : Strictness) :
    let outcome := evaluation.perform arguments strictness context
    Journal.SentAs api outcome.state.world outcome.journal := by
  intro outcome
  simp only [outcome, Journal.SentAs, ofExchanges_clientExchanges.perform,
    ofCalls_wireExchanges.perform, state_perform]
  exact sent_lookupStrict hs h arguments

end Evaluation

namespace Session
variable {σ : Type} {api : ClusterApi σ} {registry : Option (Registry σ)}
variable {session : Session (AdapterState σ)} {name : String} {member : Member (AdapterState σ)}

theorem sentAs_eventOf (hs : member.evaluation.source = .cluster api.client)
    (hc : session.world.Covers member.cache) (hm : session.member? name = some member)
    (strictness : Strictness) (arguments : Arguments) :
    let event := session.eventOf (api.collaborators registry) (.lookup name strictness arguments)
    event.report.journal.SentAs api event.after.world := by
  intro event
  simp only [event, report_eventOf_lookup _ hm, after_eventOf_lookup hm]
  have hstart : (session.context member).world.Covers (session.context member).cache := hc
  exact Evaluation.sent_perform hs hstart arguments strictness

end Session

/-- In every run over one adapter, it keeps a resource that fits for each descriptor in a cache. So each
call of a lookup through the cache is one exchange with the API, and a lookup finds no resource wanting
unless the API itself fails so. -/
theorem table_covers {σ : Type} (api : ClusterApi σ) (registry : Option (Registry σ))
    (settings : LookupSettings) (world : AdapterState σ) {steps : List (Step (AdapterState σ))}
    (hs : ∀ step ∈ steps, step.SparesAdapter) :
    let collaborators := api.collaborators registry
    let session := ((Session.start settings world).steps collaborators steps).1
    ∀ name member, session.member? name = some member →
      session.world.Covers member.cache ∧
        (member.evaluation.path = .cacheFirst → ∀ strictness arguments,
          let event := session.eventOf collaborators (.lookup name strictness arguments)
          event.report.journal.SentAs api event.after.world ∧
            (event.report.result = .error .noEntry →
              ∃ exchange ∈ event.report.journal.wireExchanges,
                exchange.fault? = some .noEntry)) := by
  intro collaborators session name member hm
  have hcovered : session.Covered api :=
    Session.keep_steps (Session.covered_start api settings world)
      fun step hstep _ h => h.step (hs step hstep)
  obtain ⟨hover, hcovers⟩ := hcovered name member hm
  refine ⟨hcovers, fun hp strictness arguments => ?_⟩
  have hsource := hover.eq_cluster hp
  refine ⟨Session.sentAs_eventOf hsource hcovers hm strictness arguments, fun hf => ?_⟩
  have hstart : (session.context member).world.Covers (session.context member).cache := hcovers
  rw [Session.report_eventOf_lookup collaborators hm] at hf ⊢
  obtain ⟨exchange, he, hstray⟩ := (Evaluation.explained_perform hsource hstart arguments strictness
    _).mp ⟨Results.map_eq_error_iff.mp hf, rfl⟩
  exact ⟨exchange, he, WireExchange.fault?_of_stray? hstray⟩

/-- An API that serves secrets and namespaces, and answers every read with an empty object. -/
def servingScript : Script where
  catalogue := [⟨"v1", "Secret", .ok ⟨"secrets", some true⟩⟩,
    ⟨"v1", "Namespace", .ok ⟨"namespaces", some false⟩⟩]
  reads := []

/-- From now on discovery leaves open whether secrets are namespaced. -/
def vagueSecrets (state : AdapterState Script) : AdapterState Script :=
  { state with api := { state.api with
      catalogue := ⟨"v1", "Secret", .ok ⟨"secrets", none⟩⟩ :: state.api.catalogue } }

def sharingSteps : List (Step (AdapterState Script)) :=
  [.create "page" ⟨⟨"team-a", [⟨"", "Namespace", "team-a"⟩]⟩, none⟩ none,
    .create "other" ⟨.unrestricted, none⟩ none,
    .lookup "page" .lenient (secretLookup "token"), .change vagueSecrets,
    .lookup "other" .lenient (secretLookup "token")]

theorem sharingSteps_sparesAdapter : ∀ step ∈ sharingSteps, step.SparesAdapter := by
  simp [sharingSteps, Step.SparesAdapter, Step.writesCache, vagueSecrets]

def sharingSession : Session (AdapterState Script) :=
  ((Session.start .standard (.start servingScript)).steps (Script.api.collaborators none)
    sharingSteps).1

theorem table_covers_sharing :
    let collaborators := Script.api.collaborators none
    let described : Descriptor := ⟨"", "v1", "secrets", true⟩
    let event := sharingSession.eventOf collaborators (.lookup "page" .lenient (secretLookup "key"))
    (∀ step ∈ sharingSteps, step.SparesAdapter) ∧ ∃ member,
      sharingSession.member? "page" = some member ∧ member.evaluation.path = .cacheFirst ∧
      member.cache.descriptor? ⟨"", "v1", "Secret"⟩ = some described ∧
      sharingSession.world.Serves described ∧
      event.report.journal.wireExchanges =
        [.read ⟨⟨"secrets", some true⟩, some "key", some "team-a", none⟩ (.ok (.object []))] ∧
      event.report.journal.SentAs Script.api event.after.world := by
  intro collaborators described event
  have hpath : (sharingSession.member? "page").map (·.evaluation.path) = some .cacheFirst := rfl
  have hknown : (sharingSession.member? "page").bind (·.cache.descriptor? ⟨"", "v1", "Secret"⟩) =
      some described := rfl
  obtain ⟨member, hm⟩ : ∃ member, sharingSession.member? "page" = some member := ⟨_, rfl⟩
  rw [hm] at hpath hknown
  obtain ⟨hcovers, hcalls⟩ := table_covers Script.api none .standard (.start servingScript)
    sharingSteps_sparesAdapter "page" member hm
  have hsent := (hcalls (Option.some.inj hpath) .lenient (secretLookup "key")).1
  exact ⟨sharingSteps_sparesAdapter, member, hm, Option.some.inj hpath, hknown,
    (hcovers _ described hknown).2.2, rfl, hsent⟩

end ClusterLookup
