import ClusterLookup.Proofs.ApiVersions
import ClusterLookup.Proofs.Listing
import ClusterLookup.Proofs.Paths
import ClusterLookup.Proofs.Stability

/-!
# The items of a list

The API leaves out of the items of a list what they have in common, their apiVersion and kind. A lookup
gives them back to each item that lacks them, as its template wrote them, and changes nothing else: not the
number of the items, their order, or any field that an item has. The list is asked for in one request, and
from then on it is answered from the cache.
-/

namespace ClusterLookup

open Journal (ofCalls_wireExchanges)

/-- Whether a body is a list of objects with these fields. No items, or null in their place, is a list
without any. -/
inductive Document.Lists : Document → List (List (String × Document)) → Prop
  | missing {fields : List (String × Document)} (h : fieldIn? "items" fields = none) :
      Lists (.object fields) []
  | null {fields : List (String × Document)} (h : fieldIn? "items" fields = some .null) :
      Lists (.object fields) []
  | array {fields : List (String × Document)} {items : List (List (String × Document))}
      (h : fieldIn? "items" fields = some (.array (items.map .object))) : Lists (.object fields) items

/-- An object with its fields, and behind them those of apiVersion and kind that it lacks. -/
def Document.completed (apiVersion kind : String) (fields : List (String × Document)) : Document :=
  .object (fields ++ [("apiVersion", .text apiVersion), ("kind", .text kind)].filter fun field =>
    (fieldIn? field.1 fields).isNone)

/-- Whether a request is the one for a list: of all objects in the namespace, if the type has namespaces and
one is given, that match the selector, if one is given. -/
structure ReadRequest.AsksList (request : ReadRequest) (policy : Policy) (arguments : Arguments)
    (descriptor : Descriptor) : Prop where
  unnamed : request.name = none
  inNamespace : ∃ inNamespace, policy.effectiveNamespace arguments.inNamespace = .ok inNamespace ∧
    request.inNamespace =
      if descriptor.namespaced = true ∧ inNamespace ≠ "" then some inNamespace else none
  selector : ∃ selector, canonicalSelector arguments.selector = .ok selector ∧
    request.selector = if selector ≠ "" then some selector else none

theorem WireExchange.filter_isRead_eq_nil {exchanges : List WireExchange}
    (h : ∀ exchange ∈ exchanges, exchange.isRead = false) : exchanges.filter (·.isRead) = [] := by
  rw [List.filter_eq_nil_iff]
  intro exchange he
  rw [h exchange he]
  exact Bool.false_ne_true

/-! ## Items -/

namespace Document
variable {apiVersion kind : String} {fields : List (String × Document)}

theorem fieldIn?_append_of_ne {name other : String} (h : other ≠ name) (value : Document) :
    fieldIn? name (fields ++ [(other, value)]) = fieldIn? name fields := by
  simp [fieldIn?, List.find?_append, h]

theorem completed_eq (apiVersion kind : String) (fields : List (String × Document)) :
    completed apiVersion kind fields = .object (withDefault "kind" (.text kind)
      (withDefault "apiVersion" (.text apiVersion) fields)) := by
  have hadded : ∀ value, fieldIn? "kind" (fields ++ [("apiVersion", value)]) =
      fieldIn? "kind" fields := fieldIn?_append_of_ne (by decide)
  cases ha : fieldIn? "apiVersion" fields with
  | some found =>
    rw [withDefault_of_some ha]
    cases hk : fieldIn? "kind" fields with
    | some found => simp [completed, withDefault_of_some hk, List.filter, ha, hk]
    | none => simp [completed, withDefault_of_none hk, List.filter, ha, hk]
  | none =>
    rw [withDefault_of_none ha]
    cases hk : fieldIn? "kind" fields with
    | some found =>
      simp [completed, withDefault_of_some ((hadded _).trans hk), List.filter, ha, hk]
    | none => simp [completed, withDefault_of_none ((hadded _).trans hk), List.filter, ha, hk]

end Document

namespace Adapter

theorem mapM_completeItem_object (apiVersion kind : String) (items : List (List (String × Document))) :
    (items.map Document.object).mapM (completeItem apiVersion kind) =
      .ok (items.map (Document.completed apiVersion kind)) := by
  induction items with
  | nil => rfl
  | cons fields items ih =>
    rw [List.map_cons, List.mapM_cons, ih, List.map_cons, Document.completed_eq]
    rfl

theorem listItems_of_lists (apiVersion kind : String) {body : Document}
    {items : List (List (String × Document))} (h : body.Lists items) :
    listItems apiVersion kind body = .ok (items.map (Document.completed apiVersion kind)) := by
  cases h with
  | missing h => simp [listItems, h, Document.isVacant]
  | null h => simp [listItems, h, Document.isVacant]
  | @array fields items h =>
    cases items with
    | nil => simp [listItems, h, Document.isVacant]
    | cons item items =>
      have hcompleted := mapM_completeItem_object apiVersion kind (item :: items)
      simpa [listItems, h, Document.isVacant] using hcompleted

variable {σ : Type} {api : ClusterApi σ} {state : AdapterState σ} {descriptor : Descriptor}
variable {kind inNamespace selector : String} {request : ReadRequest} {body : Document}

/-- A list that was read is one request, after discovery at the most. -/
theorem listed_of_mem_list
    (h : .wire (.read request (.ok body)) ∈ (list api descriptor kind inNamespace selector state).journal) :
    let outcome := list api descriptor kind inNamespace selector state
    outcome.result = listItems (joinApiVersion descriptor.group descriptor.version) kind body ∧
      request = ⟨request.resource, none, sentNamespace descriptor inNamespace, sentSelector selector⟩ ∧
      (Journal.wireExchanges (outcome.journal.map Notice.entry)).filter (·.isRead) =
        [.read request (.ok body)] := by
  intro outcome
  have hdiscovery : (Journal.wireExchanges
      ((resourceOf api descriptor kind state).journal.map Notice.entry)).filter (·.isRead) = [] := by
    apply WireExchange.filter_isRead_eq_nil
    intro exchange he
    obtain ⟨answer, rfl⟩ := eq_of_mem_resourceOf (Lookup.mem_wireExchanges_notices.mp he)
    rfl
  cases hr : (resourceOf api descriptor kind state).result with
  | error failure =>
    rw [list, Action.bind_apply_of_error hr] at h
    obtain ⟨answer, heq⟩ := eq_of_mem_resourceOf h
    cases heq
  | ok resource =>
    simp only [list_of_resourceOf hr, List.mem_append, List.mem_singleton] at h
    rcases h with h | h
    · obtain ⟨answer, heq⟩ := eq_of_mem_resourceOf h
      cases heq
    · injection h with h
      injection h with hrequest hanswer
      subst hrequest
      simp only [outcome, list_of_resourceOf hr, ← hanswer, List.map_append,
        ofCalls_wireExchanges.append, List.filter_append, hdiscovery]
      exact ⟨rfl, trivial, rfl⟩

end Adapter

/-! ## Lookups -/

namespace Lookup
variable {σ : Type} {api : ClusterApi σ} {context : Context (AdapterState σ)} {identity : Identity}
variable {descriptor : Descriptor} {request : ReadRequest} {body : Document}

/-- A list that the cache did not hold is read by one request, and what was read is remembered. -/
theorem listed_of_mem_readAnswer (hl : identity.isList = true) (h : .read request (.ok body) ∈
      Journal.wireExchanges (readAnswer (.cluster api.client) identity descriptor context).journal) :
    let outcome := readAnswer (.cluster api.client) identity descriptor context
    let items := Adapter.listItems (joinApiVersion descriptor.group descriptor.version)
      identity.type.kind body
    context.cache.find? identity = none ∧ outcome.result = items.map .items ∧
      outcome.state.cache = context.cache.learn identity items.toOption ∧
      request = ⟨request.resource, none, Adapter.sentNamespace descriptor identity.inNamespace,
        Adapter.sentSelector identity.selector⟩ ∧
      (Journal.wireExchanges outcome.journal).filter (·.isRead) = [.read request (.ok body)] := by
  intro outcome items
  cases hf : context.cache.find? identity with
  | some documents =>
    rw [readAnswer_of_remembered hf] at h
    cases h
  | none =>
    have hasked : .wire (.read request (.ok body)) ∈ (Adapter.list api descriptor identity.type.kind
        identity.inNamespace identity.selector context.world).journal := by
      simp only [readAnswer_list hl hf, ofCalls_wireExchanges.append, List.mem_append] at h
      rcases h with h | h | h
      · cases h
      · exact mem_wireExchanges_notices.mp h
      · cases h
    obtain ⟨hresult, hrequest, hreads⟩ := Adapter.listed_of_mem_list hasked
    simp only [outcome, readAnswer_list hl hf, ClusterApi.client, hresult,
      ofCalls_wireExchanges.append, List.filter_append, hreads]
    exact ⟨trivial, rfl, rfl, hrequest, rfl⟩

end Lookup

namespace Evaluation
variable {σ : Type} {api : ClusterApi σ} {evaluation : Evaluation (AdapterState σ)}
variable {context : Context (AdapterState σ)} {arguments : Arguments} {strictness : Strictness}
variable {request : ReadRequest} {body : Document}

theorem asksList_of_sent {identity : Identity} {descriptor : Descriptor} {policy : Policy}
    (hi : arguments.identity policy = .ok identity)
    (h : request = ⟨request.resource, none, Adapter.sentNamespace descriptor identity.inNamespace,
      Adapter.sentSelector identity.selector⟩) : request.AsksList policy arguments descriptor := by
  obtain ⟨_, hnamespace, _, hselector, _, _⟩ := Arguments.identity_eq_ok_iff.mp hi
  rw [h]
  refine ⟨rfl, ⟨_, hnamespace, ?_⟩, ⟨_, hselector, ?_⟩⟩
  · simp [Adapter.sentNamespace]
  · simp [Adapter.sentSelector]

/-- The items are completed with what the arguments say, as the descriptor is of the type that they name. -/
theorem listItems_of_described {identity : Identity} {descriptor : Descriptor} {policy : Policy}
    {items : List (List (String × Document))} (hi : arguments.identity policy = .ok identity)
    (hd : descriptor.group = identity.type.group ∧ descriptor.version = identity.type.version)
    (hb : body.Lists items) :
    Adapter.listItems (joinApiVersion descriptor.group descriptor.version) identity.type.kind body =
      .ok (items.map (Document.completed arguments.apiVersion arguments.kind)) := by
  obtain ⟨_, _, _, _, hkind, _⟩ := Arguments.identity_eq_ok_iff.mp hi
  rw [hd.1, hd.2, hkind, ← Arguments.apiVersion_of_identity hi]
  exact Adapter.listItems_of_lists _ _ hb

/-- A lookup of a list to which the API gives a body makes no other read, gives the items of the body to its
template, and has settled its question. -/
theorem listed_of_mem_perform (hs : evaluation.source = .cluster api.client)
    (hc : context.cache.NamesTypes) (hn : arguments.name = "") (h : .read request (.ok body) ∈
      Journal.wireExchanges (evaluation.perform arguments strictness context).journal) :
    let performed := evaluation.perform arguments strictness context
    (Journal.wireExchanges performed.journal).filter (·.isRead) = [.read request (.ok body)] ∧
      (∃ descriptor, evaluation.Resolves arguments context descriptor ∧
        request.AsksList evaluation.policy arguments descriptor) ∧
      ∀ items, body.Lists items →
        let answer := Answer.items (items.map (Document.completed arguments.apiVersion arguments.kind))
        performed.result = .ok answer ∧ ∃ identity,
          arguments.identity evaluation.policy = .ok identity ∧
          performed.state.cache.Settles evaluation.policy identity (.ok answer) := by
  intro performed
  obtain ⟨identity, hi⟩ := exists_identity_of_exchange h
  obtain ⟨_, _, _, _, _, hname⟩ := Arguments.identity_eq_ok_iff.mp hi
  have hl : identity.isList = true := Identity.isList_eq_true_iff.mpr (hname ▸ hn)
  obtain ⟨descriptor, ht, ha, hread⟩ := mem_readAnswer_of_read hs hi h rfl
  have hcourse := answer_of_admitted ht ha
  rw [hs] at ht hread hcourse
  obtain ⟨hf, hresult, hcache, hrequest, hreads⟩ := Lookup.listed_of_mem_readAnswer hl hread
  refine ⟨?_, ⟨descriptor, ⟨identity, hi, hs ▸ ht⟩, asksList_of_sent hi hrequest⟩, ?_⟩
  · have hdiscovery : (Journal.wireExchanges (Lookup.resolveType (.cluster api.client) identity.type
        context).journal).filter (·.isRead) = [] :=
      WireExchange.filter_isRead_eq_nil fun exchange he => Lookup.isRead_of_mem_resolveType he
    simp only [performed, ofCalls_wireExchanges.perform, lookupStrict_of_valid hi, hcourse,
      ofCalls_wireExchanges.append, List.filter_append, hdiscovery, hreads, List.nil_append]
  · intro items hitems answer
    have hover : (Source.cluster api.client).OverAdapter api := .cluster
    have hd := Lookup.namesTypes_resolveType hover hc identity.type _ descriptor
      (Lookup.descriptor?_resolveType ht)
    rw [listItems_of_described hi hd hitems] at hresult hcache
    refine ⟨?_, identity, hi, ?_⟩
    · simp only [performed, result_perform, lookupStrict_of_valid hi, hcourse, hresult]
      cases strictness <;> rfl
    · have hrecalled : Lookup.recalled identity
          (items.map (Document.completed arguments.apiVersion arguments.kind)) = answer := by
        simp only [Lookup.recalled, hl, if_true, answer]
      simp only [performed, state_perform, lookupStrict_of_valid hi, hcourse, ← hrecalled]
      refine .answered ?_ ha ?_
      · exact (Lookup.descriptor?_readAnswer _ _ _ _ _).trans (Lookup.descriptor?_resolveType ht)
      · rw [hcache]
        exact (AnswerCache.find?_store_self _ _ _).trans (by rw [hf]; rfl)

end Evaluation

/-- A list that a lookup reads through the cache is normalised and loses nothing. It is asked for by one
read, of all that the arguments ask for and of nothing else; its items come in the order of the body, each
with all of its fields, and with the apiVersion and kind of the arguments where it had none; and each later
lookup of the same evaluation that asks the same gives the same items without a call. -/
theorem list_normalised {σ : Type} (api : ClusterApi σ) (registry : Option (Registry σ))
    (settings : LookupSettings) (world : AdapterState σ) {before : List (Step (AdapterState σ))}
    (hs : ∀ step ∈ before, step.NamesTypes) :
    let collaborators := api.collaborators registry
    let session := ((Session.start settings world).steps collaborators before).1
    ∀ name member, session.member? name = some member → member.evaluation.path = .cacheFirst →
      ∀ strictness arguments, arguments.name = "" →
        let event := session.eventOf collaborators (.lookup name strictness arguments)
        ∀ request body, .read request (.ok body) ∈ event.report.journal.wireExchanges →
          event.report.journal.wireExchanges.filter (·.isRead) = [.read request (.ok body)] ∧
          (∃ descriptor, member.evaluation.Resolves arguments (session.context member) descriptor ∧
            request.AsksList member.evaluation.policy arguments descriptor) ∧
          ∀ items, body.Lists items →
            let answer := Answer.items
              (items.map (Document.completed arguments.apiVersion arguments.kind))
            event.report.result = .ok (some answer) ∧
            ∀ between later again, (∀ step ∈ between, step.made? ≠ some name) →
              arguments.Same member.evaluation.policy again →
                let next := (event.after.steps collaborators between).1.eventOf collaborators
                  (.lookup name later again)
                next.report.result = .ok (some answer) ∧
                  ∀ entry ∈ next.report.journal, entry.isCall = false := by
  intro collaborators session name member hm hp strictness arguments hn event request body hread
  obtain ⟨hover, hnames⟩ := Session.each_namesTypes hs name member hm
  have hsource : member.evaluation.source = .cluster collaborators.client := hover.eq_cluster hp
  have hreport : event.report =
      let outcome := member.evaluation.perform arguments strictness (session.context member)
      ⟨outcome.result.map some, outcome.journal⟩ :=
    Session.report_eventOf_lookup collaborators hm strictness arguments
  rw [hreport] at hread ⊢
  obtain ⟨hsingle, hasked, hlisted⟩ := Evaluation.listed_of_mem_perform hsource hnames hn hread
  refine ⟨hsingle, hasked, ?_⟩
  intro items hitems answer
  obtain ⟨hresult, identity, hi, hsettles⟩ := hlisted items hitems
  refine ⟨congrArg (Except.map some) hresult, ?_⟩
  intro between later again hb hsame next
  obtain ⟨hnext, hsilent, _⟩ := Session.recalls_of_settles hsource hm hb hi hsame hsettles later
  exact ⟨hnext, hsilent⟩

/-- A list of two items: one that lacks what all have in common, and one with a kind of its own. -/
def sparseList : Document :=
  .object [("items", .array [.object [("data", .object [])], .object [("kind", .null)]])]

/-- An API that serves config maps and answers the first read with that list. -/
def listingScript : Script where
  catalogue := [⟨"v1", "ConfigMap", .ok ⟨"configmaps", some true⟩⟩]
  reads := [.ok sparseList]

/-- A list that is looked up twice, differently written, with the API gone in between. -/
theorem list_normalised_sparse :
    let collaborators := Script.api.collaborators none
    let before : List (Step (AdapterState Script)) := [.create "page" ⟨⟨"team-a", []⟩, none⟩ none]
    let between : List (Step (AdapterState Script)) := [.change fun state => { state with api := ⟨[], []⟩ }]
    let session := ((Session.start .standard (.start listingScript)).steps collaborators before).1
    let event := session.eventOf collaborators
      (.lookup "page" .lenient ⟨"v1", "ConfigMap", "", "", some "app=web"⟩)
    let next := (event.after.steps collaborators between).1.eventOf collaborators
      (.lookup "page" .strict ⟨"v1", "ConfigMap", "team-a", "", some " app = web"⟩)
    let answer := Answer.items [
      .object [("data", .object []), ("apiVersion", .text "v1"), ("kind", .text "ConfigMap")],
      .object [("kind", .null), ("apiVersion", .text "v1")]]
    (∀ step ∈ before, step.NamesTypes) ∧
      event.report.journal.wireExchanges.filter (·.isRead) =
        [.read ⟨⟨"configmaps", some true⟩, none, some "team-a", some "app=web"⟩ (.ok sparseList)] ∧
      event.report.result = .ok (some answer) ∧ next.report.result = .ok (some answer) ∧
      ∀ entry ∈ next.report.journal, entry.isCall = false := by
  intro collaborators before between session event next answer
  have hs : ∀ step ∈ before, step.NamesTypes := by simp [before, Step.NamesTypes]
  let evaluation : Evaluation (AdapterState Script) :=
    ⟨⟨"team-a", []⟩, .cluster Script.api.client, "Secret"⟩
  have hm : session.member? "page" = some ⟨evaluation, .empty, .own 0⟩ := rfl
  have hi : Arguments.identity evaluation.policy ⟨"v1", "ConfigMap", "", "", some "app=web"⟩ =
      .ok ⟨⟨"", "v1", "ConfigMap"⟩, "team-a", "", "app=web"⟩ :=
    Arguments.identity_eq_ok_iff.mpr ⟨rfl, rfl, by cbv, by cbv, rfl, rfl⟩
  have hread : .read ⟨⟨"configmaps", some true⟩, none, some "team-a", some "app=web"⟩ (.ok sparseList) ∈
      event.report.journal.wireExchanges := by
    have hwire : event.report.journal.wireExchanges =
        [.resource "v1" "ConfigMap" (.ok ⟨"configmaps", some true⟩), .read ⟨⟨"configmaps", some true⟩,
          none, some "team-a", some "app=web"⟩ (.ok sparseList)] := by
      simp only [event, Session.report_eventOf_lookup collaborators hm, ofCalls_wireExchanges.perform,
        Evaluation.lookupStrict_of_valid hi]
      rfl
    simp [hwire]
  obtain ⟨hsingle, _, hlisted⟩ := list_normalised Script.api none .standard (.start listingScript) hs
    "page" _ hm rfl .lenient _ rfl _ _ hread
  obtain ⟨hresult, hlater⟩ := hlisted [[("data", .object [])], [("kind", .null)]] (.array rfl)
  have hsame : Arguments.Same evaluation.policy ⟨"v1", "ConfigMap", "", "", some "app=web"⟩
      ⟨"v1", "ConfigMap", "team-a", "", some " app = web"⟩ := ⟨rfl, rfl, rfl, rfl, by cbv⟩
  obtain ⟨hnext, hsilent⟩ := hlater between .strict _ (by simp [between, Step.made?]) hsame
  exact ⟨hs, hsingle, hresult, hnext, hsilent⟩

end ClusterLookup
