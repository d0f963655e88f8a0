import ClusterLookup.Proofs.Faults

/-!
# What absence stands for

On the way from the API to the caller a 404 becomes a failure of the client, an entry of the cache without
documents, and an absent answer. In a run over an adapter each of these stands for such a status, met by
the same evaluation for the same question, and for nothing else.
-/

namespace ClusterLookup

theorem Step.Spares.made?_ne {σ : Type} {step : Step σ} {name : String} (h : step.Spares name) :
    step.made? ≠ some name := by
  cases step with
  | create other options place => exact fun he => h (Option.some.inj he)
  | _ =>
    intro he
    cases he

/-- Whether a step is a lookup by which an evaluation puts a question. -/
def Step.Asks {σ : Type} (name : String) (policy : Policy) (identity : Identity) : Step σ → Prop
  | .lookup other _ arguments => other = name ∧ arguments.identity policy = .ok identity
  | _ => False

/-- Whether the API says in a step that there is no such object as an evaluation asks for. -/
def Event.Misses {σ : Type} (name : String) (policy : Policy) (identity : Identity) (event : Event σ) :
    Prop :=
  event.step.Asks name policy identity ∧
    ∃ exchange ∈ event.report.journal.wireExchanges, exchange.Misses identity.name

/-- What becomes of a question when an exchange meets a fault: the lookup fails, the cache has no entry
for it, and whatever else is done in between, it goes to the cluster when it is put again. What was not
read is read then; where discovery had failed, the guard may refuse it by what was found since. -/
structure Event.Forgets {σ : Type} (collaborators : Collaborators (AdapterState σ)) (name : String)
    (policy : Policy) (identity : Identity) (exchange : WireExchange)
    (event : Event (AdapterState σ)) : Prop where
  failed : ∃ failure, event.report.result = .error failure
  unknown : ∃ member, event.after.member? name = some member ∧ member.cache.find? identity = none
  again : ∀ between later arguments,
    (∀ step ∈ between, step.SparesAdapter ∧ step.Spares name ∧ ¬ step.Asks name policy identity) →
      arguments.identity policy = .ok identity →
        let next := (event.after.steps collaborators between).1.eventOf collaborators
          (.lookup name later arguments)
        if exchange.isRead then ∃ sent ∈ next.report.journal.wireExchanges, sent.isRead = true
        else next.Denied ∨ next.report.journal.wireExchanges ≠ []

theorem Inquiry.entry?_eq_some_iff {policy : Policy} {inquiry : Inquiry} {identity : Identity}
    {documents : List Document} : inquiry.entry? policy = some (identity, documents) ↔
      inquiry.arguments.identity policy = .ok identity ∧
        inquiry.exchange.lesson? = some documents := by
  unfold entry?
  split
  · next hi hd => simp [hi, hd]
  · next hnone =>
    refine iff_of_false (by simp) ?_
    rintro ⟨hi, hd⟩
    exact hnone _ _ hi hd

/-- What is to be remembered of a call for one object is that it is missing exactly when the call says
so. -/
theorem ClientExchange.lesson?_eq_missing_iff {call : ClientExchange} {identity : Identity}
    {descriptor : Descriptor} (ha : call.Asks identity descriptor) (hn : identity.name ≠ "") :
    call.lesson? = some [] ↔ (Entry.client call).reportsMissing = true := by
  cases call with
  | discover type answer => cases ha
  | list described kind inNamespace selector answer => exact absurd ha.1 hn
  | get described kind inNamespace name answer =>
    cases answer with
    | ok document => simp [lesson?, Lookup.lesson, Entry.reportsMissing]
    | error failure =>
      cases hf : failure.isNotFound with
      | true => simp [lesson?, Lookup.lesson, Entry.reportsMissing, hf]
      | false => simp [lesson?, Lookup.lesson, Entry.reportsMissing, hf]

theorem Journal.mem_documentExchanges {journal : Journal} {call : ClientExchange} :
    call ∈ journal.documentExchanges ↔
      Entry.client call ∈ journal ∧ (Entry.client call).documentExchange? = some call := by
  unfold documentExchanges
  rw [List.mem_filterMap]
  constructor
  · rintro ⟨entry, he, hcall⟩
    cases entry with
    | client exchange =>
      cases exchange with
      | discover type answer => cases hcall
      | get descriptor kind inNamespace name answer =>
        cases hcall
        exact ⟨he, rfl⟩
      | list descriptor kind inNamespace selector answer =>
        cases hcall
        exact ⟨he, rfl⟩
    | _ => cases hcall
  · exact fun h => ⟨_, h⟩

theorem ClientExchange.SentAs.documentExchange? {σ : Type} {api : ClusterApi σ}
    {state : AdapterState σ} {call : ClientExchange} {sent : WireExchange}
    (h : call.SentAs api state sent) (hr : sent.isRead = true) :
    (Entry.client call).documentExchange? = some call := by
  cases h with
  | discover type answered => cases hr
  | get | list => rfl

/-- Calls that put other questions leave a question unknown. -/
theorem AnswerCache.Justified.find?_eq_none {policy : Policy} {inquiries others : List Inquiry}
    {cache larger : AnswerCache} {identity : Identity} (h : cache.Justified policy inquiries)
    (hl : larger.Justified policy (inquiries ++ others)) (hf : cache.find? identity = none)
    (ho : ∀ inquiry ∈ others, inquiry.arguments.identity policy ≠ .ok identity) :
    larger.find? identity = none := by
  apply valueOf?_eq_none_iff.mpr
  rw [hl.entries, List.filterMap_append, List.map_append, List.mem_append, ← h.entries]
  rintro (hold | hnew)
  · exact valueOf?_eq_none_iff.mp hf hold
  · obtain ⟨⟨asked, documents⟩, hmem, rfl⟩ := List.mem_map.mp hnew
    obtain ⟨inquiry, hinquiry, hentry⟩ := List.mem_filterMap.mp hmem
    exact ho inquiry hinquiry (Inquiry.entry?_eq_some_iff.mp hentry).1

theorem Event.asks_of_mem_inquiries {σ : Type} {event : Event σ} {name : String} {policy : Policy}
    {identity : Identity} {inquiry : Inquiry} (h : inquiry ∈ event.inquiries name)
    (hi : inquiry.arguments.identity policy = .ok identity) : event.step.Asks name policy identity := by
  unfold Event.inquiries at h
  split at h
  · next other strictness arguments hstep =>
    split at h
    · next hname =>
      obtain ⟨call, _, rfl⟩ := List.mem_map.mp h
      rw [hstep]
      exact ⟨hname, hi⟩
    · cases h
  · cases h

namespace Session
variable {σ : Type} {api : ClusterApi σ} {registry : Option (Registry σ)}
variable {session : Session (AdapterState σ)} {name : String} {policy : Policy}
variable {inquiries : List Inquiry} {arguments : Arguments} {strictness : Strictness}
variable {identity : Identity} {exchange : WireExchange}

theorem mem_inquiries_lookup {collaborators : Collaborators (AdapterState σ)} {inquiry : Inquiry} :
    inquiry ∈ (session.eventOf collaborators (.lookup name strictness arguments)).inquiries name ↔
      inquiry.arguments = arguments ∧ inquiry.exchange ∈ (session.eventOf collaborators
        (.lookup name strictness arguments)).report.journal.documentExchanges := by
  obtain ⟨found, call⟩ := inquiry
  simp only [Event.inquiries, eventOf, if_true, List.mem_map, Inquiry.mk.injEq]
  constructor
  · rintro ⟨other, ho, rfl, rfl⟩
    exact ⟨rfl, ho⟩
  · rintro ⟨rfl, hc⟩
    exact ⟨call, hc, rfl, rfl⟩

theorem Records.lookup (h : session.Records (api.collaborators registry) name policy inquiries)
    (strictness : Strictness) (arguments : Arguments) :
    let event := session.eventOf (api.collaborators registry) (.lookup name strictness arguments)
    event.after.Records (api.collaborators registry) name policy
      (inquiries ++ event.inquiries name) :=
  h.step trivial

/-- A call for documents puts the question of its lookup. -/
theorem Records.asks (h : session.Records (api.collaborators registry) name policy inquiries)
    {call : ClientExchange} (hc : call ∈ (session.eventOf (api.collaborators registry)
      (.lookup name strictness arguments)).report.journal.documentExchanges) :
    ∃ identity descriptor, arguments.identity policy = .ok identity ∧
      call.Asks identity descriptor := by
  obtain ⟨_, _, _, _, hj⟩ := h.lookup strictness arguments
  have hmem := mem_inquiries_lookup.mpr ⟨(rfl : Inquiry.arguments ⟨arguments, call⟩ = arguments), hc⟩
  obtain ⟨identity, descriptor, hi, _, hasks⟩ :=
    hj.asked ⟨arguments, call⟩ (List.mem_append_right _ hmem)
  exact ⟨identity, descriptor, hi, hasks⟩

theorem Records.sentAs (h : session.Records (api.collaborators registry) name policy inquiries)
    (hc : session.Covered api) (strictness : Strictness) (arguments : Arguments) :
    let event := session.eventOf (api.collaborators registry) (.lookup name strictness arguments)
    event.report.journal.SentAs api event.after.world := by
  obtain ⟨member, hm, _, hs, _⟩ := h
  exact sentAs_eventOf hs (hc name member hm).2 hm strictness arguments

/-- A read stands for a call that puts the question of its lookup. -/
theorem Records.exists_asking
    (h : session.Records (api.collaborators registry) name policy inquiries)
    (hc : session.Covered api) (he : exchange ∈ (session.eventOf (api.collaborators registry)
      (.lookup name strictness arguments)).report.journal.wireExchanges)
    (hr : exchange.isRead = true) :
    let event := session.eventOf (api.collaborators registry) (.lookup name strictness arguments)
    ∃ call identity descriptor, call ∈ event.report.journal.documentExchanges ∧
      call.SentAs api event.after.world exchange ∧ arguments.identity policy = .ok identity ∧
        call.Asks identity descriptor := by
  intro event
  obtain ⟨call, hcall, hsent⟩ := (h.sentAs hc strictness arguments).exists_call he
  have hdocument := Journal.mem_documentExchanges.mpr ⟨hcall, hsent.documentExchange? hr⟩
  obtain ⟨identity, descriptor, hi, hasks⟩ := h.asks hdocument
  exact ⟨call, identity, descriptor, hdocument, hsent, hi, hasks⟩

/-- By a lookup, a question gets an entry for a missing object exactly when the API says that there is no
such object. -/
theorem Records.misses_lookup_iff (hg : api.Genuine)
    (h : session.Records (api.collaborators registry) name policy inquiries)
    (hc : session.Covered api) (hn : identity.name ≠ "") (strictness : Strictness)
    (arguments : Arguments) :
    let event := session.eventOf (api.collaborators registry) (.lookup name strictness arguments)
    (∃ inquiry ∈ event.inquiries name, inquiry.entry? policy = some (identity, [])) ↔
      event.Misses name policy identity := by
  intro event
  constructor
  · rintro ⟨inquiry, hmem, hentry⟩
    obtain ⟨rfl, hcall⟩ := mem_inquiries_lookup.mp hmem
    obtain ⟨hi, hlesson⟩ := Inquiry.entry?_eq_some_iff.mp hentry
    obtain ⟨asked, descriptor, hasked, hasks⟩ := h.asks hcall
    cases hi.symm.trans hasked
    obtain ⟨sent, hs, hsent⟩ := (h.sentAs hc strictness inquiry.arguments).exists_sent
      (Journal.mem_documentExchanges.mp hcall).1
    refine ⟨⟨rfl, hi⟩, sent, hs, ?_⟩
    exact (hsent.reportsMissing_iff hg hasks).mp
      ((ClientExchange.lesson?_eq_missing_iff hasks hn).mp hlesson)
  · rintro ⟨⟨_, hi⟩, exchange, he, hmisses⟩
    have hr : exchange.isRead = true := by
      cases exchange with
      | resource apiVersion kind answer => cases hmisses
      | read request answer => rfl
    obtain ⟨call, asked, descriptor, hcall, hsent, hasked, hasks⟩ := h.exists_asking hc he hr
    cases hi.symm.trans hasked
    refine ⟨⟨arguments, call⟩, mem_inquiries_lookup.mpr ⟨rfl, hcall⟩, ?_⟩
    refine Inquiry.entry?_eq_some_iff.mpr ⟨hi, ?_⟩
    exact (ClientExchange.lesson?_eq_missing_iff hasks hn).mpr
      ((hsent.reportsMissing_iff hg hasks).mpr hmisses)

theorem Records.misses_iff (hg : api.Genuine)
    (h : session.Records (api.collaborators registry) name policy inquiries)
    (hc : session.Covered api) (hn : identity.name ≠ "") (step : Step (AdapterState σ)) :
    let event := session.eventOf (api.collaborators registry) step
    (∃ inquiry ∈ event.inquiries name, inquiry.entry? policy = some (identity, [])) ↔
      event.Misses name policy identity := by
  intro event
  by_cases hl : ∃ strictness arguments, step = .lookup name strictness arguments
  · obtain ⟨strictness, arguments, rfl⟩ := hl
    exact h.misses_lookup_iff hg hc hn strictness arguments
  · -- Only lookups of this evaluation ask for anything.
    cases step with
    | lookup other strictness arguments =>
      have hne : other ≠ name := fun he => hl ⟨strictness, arguments, he ▸ rfl⟩
      simp [event, Event.inquiries, Event.Misses, Step.Asks, eventOf, hne]
    | _ => simp [event, Event.inquiries, Event.Misses, Step.Asks, eventOf]

/-- Whether an adapter serves all evaluations, and their caches hold only answers that they were given. -/
structure Sound (api : ClusterApi σ) (registry : Option (Registry σ))
    (session : Session (AdapterState σ)) : Prop where
  covered : session.Covered api
  kept : session.Each fun evaluation cache _ => ReadsClient (api.collaborators registry) evaluation ∧
    (evaluation.path = .cacheFirst → evaluation.Kept cache)

theorem sound_start (api : ClusterApi σ) (registry : Option (Registry σ)) (settings : LookupSettings)
    (world : AdapterState σ) : (start settings world).Sound api registry :=
  ⟨covered_start api settings world, each_start _ settings world⟩

theorem Sound.step (h : session.Sound api registry) (hg : api.Genuine)
    {step : Step (AdapterState σ)} (hs : step.SparesAdapter) :
    (session.step (api.collaborators registry) step).1.Sound api registry := by
  refine ⟨h.covered.step hs, h.kept.step ?_ ?_⟩
  · intro _ _ evaluation _ hmade
    exact ⟨readsClient_of_evaluation hmade, fun _ => .empty evaluation⟩
  · exact keeps_kept hg.givesObjects hs.writesCache

theorem Sound.lookup (h : session.Sound api registry) (hg : api.Genuine) (name : String)
    (strictness : Strictness) (arguments : Arguments) :
    (session.eventOf (api.collaborators registry)
      (.lookup name strictness arguments)).after.Sound api registry :=
  h.step hg rfl

theorem Sound.steps (h : session.Sound api registry) (hg : api.Genuine)
    {steps : List (Step (AdapterState σ))} (hs : ∀ step ∈ steps, step.SparesAdapter) :
    (session.steps (api.collaborators registry) steps).1.Sound api registry :=
  keep_steps h fun step hmem _ hsound => hsound.step hg (hs step hmem)

/-- The entries for missing objects tell where the API has said so. -/
theorem Records.find?_eq_missing_iff (hg : api.Genuine)
    (h : session.Records (api.collaborators registry) name policy [])
    (hc : session.Sound api registry) (hn : identity.name ≠ "")
    {steps : List (Step (AdapterState σ))}
    (hs : ∀ step ∈ steps, step.SparesAdapter ∧ step.Spares name) {member : Member (AdapterState σ)}
    (hm : (session.steps (api.collaborators registry) steps).1.member? name = some member) :
    member.cache.find? identity = some [] ↔
      ∃ event ∈ session.trace (api.collaborators registry) steps,
        event.Misses name policy identity := by
  obtain ⟨found, hfound, _, _, hj⟩ := h.steps fun step hmem => (hs step hmem).2
  cases hfound.symm.trans hm
  have hmisses : ∀ event ∈ session.trace (api.collaborators registry) steps,
      (∃ inquiry ∈ event.inquiries name, inquiry.entry? policy = some (identity, [])) ↔
        event.Misses name policy identity := by
    intro event he
    obtain ⟨before, step, rest, rfl, rfl⟩ := mem_trace_iff.mp he
    have hbefore : ∀ step ∈ before, step.SparesAdapter ∧ step.Spares name :=
      fun step hmem => hs step (List.mem_append_left _ hmem)
    exact (h.steps fun step hmem => (hbefore step hmem).2).misses_iff hg
      (hc.steps hg fun step hmem => (hbefore step hmem).1).covered hn step
  rw [AnswerCache.find?, valueOf?_eq_some_iff hj.single, hj.entries, List.mem_filterMap]
  constructor
  · rintro ⟨inquiry, hmem, hentry⟩
    obtain ⟨event, he, hinquiry⟩ := List.mem_flatMap.mp hmem
    exact ⟨event, he, (hmisses event he).mp ⟨inquiry, hinquiry, hentry⟩⟩
  · rintro ⟨event, he, hmiss⟩
    obtain ⟨inquiry, hinquiry, hentry⟩ := (hmisses event he).mpr hmiss
    exact ⟨inquiry, List.mem_flatMap.mpr ⟨event, he, hinquiry⟩, hentry⟩

/-- A call fails for a missing object only if the API says that the object of the lookup is missing. -/
theorem Records.isNotFound_of_call (hg : api.Genuine)
    (h : session.Records (api.collaborators registry) name policy inquiries)
    {call : ClientExchange} {state : AdapterState σ} {failure : Failure}
    (hcall : Entry.client call ∈ (session.eventOf (api.collaborators registry)
      (.lookup name strictness arguments)).report.journal)
    (hsent : call.SentAs api state exchange) (hf : call.failure? = some failure)
    (hn : ¬ exchange.Misses arguments.name) : failure.isNotFound = false := by
  refine hsent.isNotFound_of_failure hg hf ?_
  rw [← Bool.not_eq_true]
  intro hmissing
  have hdocument : (Entry.client call).documentExchange? = some call := by
    cases call with
    | discover type answer => cases hmissing
    | get | list => rfl
  obtain ⟨identity, descriptor, hi, hasks⟩ :=
    h.asks (Journal.mem_documentExchanges.mpr ⟨hcall, hdocument⟩)
  obtain ⟨_, _, _, _, _, hname⟩ := Arguments.identity_eq_ok_iff.mp hi
  exact hn (hname ▸ (hsent.reportsMissing_iff hg hasks).mp hmissing)

/-- A lookup of which an exchange meets a fault fails, and not for a missing object unless the API says
so. -/
theorem Records.fails (hg : api.Genuine)
    (h : session.Records (api.collaborators registry) name policy inquiries)
    (hc : session.Covered api) {member : Member (AdapterState σ)}
    (hm : session.member? name = some member)
    (he : exchange ∈ (session.eventOf (api.collaborators registry)
      (.lookup name strictness arguments)).report.journal.wireExchanges)
    {fault : Failure} (hf : exchange.fault? = some fault)
    (hn : ¬ exchange.Misses arguments.name) :
    ∃ failure, (member.evaluation.perform arguments strictness (session.context member)).result =
      .error failure ∧ failure.isNotFound = false := by
  obtain ⟨found, hfound, _, hs, _⟩ := id h
  cases hfound.symm.trans hm
  obtain ⟨call, hcall, hsent⟩ := (h.sentAs hc strictness arguments).exists_call he
  obtain ⟨failure, hfailure⟩ := hsent.exists_failure hf
  have hnot := h.isNotFound_of_call hg hcall hsent hfailure hn
  refine ⟨failure, Evaluation.perform_eq_error_iff strictness |>.mpr ⟨?_, ?_⟩, hnot⟩
  · rw [report_eventOf_lookup _ hm, ← Journal.mem_clientExchanges,
      Journal.ofExchanges_clientExchanges.perform, Journal.mem_clientExchanges] at hcall
    exact Evaluation.endsWithCalls_lookupStrict hs arguments _ call failure hcall hfailure
  · exact fun _ => hnot

/-- A question that is not asked in a run stays unknown. -/
theorem Records.find?_eq_none
    (h : session.Records (api.collaborators registry) name policy inquiries)
    {member found : Member (AdapterState σ)} (hm : session.member? name = some member)
    (hf : member.cache.find? identity = none) {steps : List (Step (AdapterState σ))}
    (hs : ∀ step ∈ steps, step.Spares name ∧ ¬ step.Asks name policy identity)
    (hfound : (session.steps (api.collaborators registry) steps).1.member? name = some found) :
    found.cache.find? identity = none := by
  obtain ⟨last, hlast, _, _, hj⟩ := h.steps fun step hmem => (hs step hmem).1
  obtain ⟨first, hfirst, _, _, hold⟩ := h
  cases hlast.symm.trans hfound
  cases hfirst.symm.trans hm
  refine hold.find?_eq_none hj hf ?_
  intro inquiry hmem hi
  obtain ⟨event, he, hinquiry⟩ := List.mem_flatMap.mp hmem
  obtain ⟨before, step, rest, rfl, rfl⟩ := mem_trace_iff.mp he
  exact (hs step (by simp)).2 (Event.asks_of_mem_inquiries hinquiry hi)

/-- An unknown question goes to the cluster unless the guard refuses it. It is read if its type is known
and the guard lets it pass. -/
theorem Records.asks_of_unknown
    (h : session.Records (api.collaborators registry) name policy inquiries)
    (hc : session.Covered api) {member : Member (AdapterState σ)}
    (hm : session.member? name = some member) (hf : member.cache.find? identity = none)
    (hi : arguments.identity policy = .ok identity) (strictness : Strictness) :
    let event := session.eventOf (api.collaborators registry) (.lookup name strictness arguments)
    (event.Denied ∨ event.report.journal.wireExchanges ≠ []) ∧
      ∀ descriptor, member.cache.descriptor? identity.type = some descriptor →
        policy.admits descriptor identity.type.kind identity.name = true →
          ∃ sent ∈ event.report.journal.wireExchanges, sent.isRead = true := by
  intro event
  obtain ⟨found, hfound, rfl, hs, _⟩ := h
  cases hfound.symm.trans hm
  have hcovers : (session.context member).world.Covers (session.context member).cache :=
    (hc name member hm).2
  simp only [event, Event.Denied, report_eventOf_lookup _ hm]
  refine ⟨Evaluation.asks_of_unknown hs hcovers hi hf strictness, fun descriptor hd ha => ?_⟩
  exact Evaluation.exists_read_of_unknown hs hcovers hi hf hd ha strictness

/-- That holds after a run in which the question is not put, too. What is known of its type is known
then still. -/
theorem Records.asks_later (hg : api.Genuine)
    (h : session.Records (api.collaborators registry) name policy inquiries)
    (hc : session.Sound api registry) {member : Member (AdapterState σ)}
    (hm : session.member? name = some member) (hf : member.cache.find? identity = none)
    {between : List (Step (AdapterState σ))} (hb : ∀ step ∈ between,
      step.SparesAdapter ∧ step.Spares name ∧ ¬ step.Asks name policy identity)
    (hi : arguments.identity policy = .ok identity) (strictness : Strictness) :
    let next := (session.steps (api.collaborators registry) between).1.eventOf
      (api.collaborators registry) (.lookup name strictness arguments)
    (next.Denied ∨ next.report.journal.wireExchanges ≠ []) ∧
      ∀ descriptor, member.cache.descriptor? identity.type = some descriptor →
        policy.admits descriptor identity.type.kind identity.name = true →
          ∃ sent ∈ next.report.journal.wireExchanges, sent.isRead = true := by
  intro next
  have hspares : ∀ step ∈ between, step.Spares name := fun step hmem => (hb step hmem).2.1
  have hsound := hc.steps hg fun step hmem => (hb step hmem).1
  have hretains : (session.steps (api.collaborators registry) between).1.Retains name member :=
    (retains_of_member? hm).steps fun step hmem => (hspares step hmem).made?_ne
  obtain ⟨found, hfound, _, hwithin⟩ := hretains
  have hstill := h.find?_eq_none hm hf (fun step hmem => (hb step hmem).2) hfound
  obtain ⟨hasked, hread⟩ :=
    (h.steps hspares).asks_of_unknown hsound.covered hfound hstill hi strictness
  exact ⟨hasked, fun descriptor hd => hread descriptor (hwithin.descriptors hd)⟩

theorem Records.forgets (hg : api.Genuine)
    (h : session.Records (api.collaborators registry) name policy inquiries)
    (hc : session.Sound api registry) (he : exchange ∈ (session.eventOf (api.collaborators registry)
      (.lookup name strictness arguments)).report.journal.wireExchanges)
    {fault : Failure} (hf : exchange.fault? = some fault) (hn : ¬ exchange.Misses arguments.name) :
    ∃ identity, arguments.identity policy = .ok identity ∧
      (session.eventOf (api.collaborators registry) (.lookup name strictness arguments)).Forgets
        (api.collaborators registry) name policy identity exchange := by
  obtain ⟨member, hm, hpolicy, hsource, _⟩ := id h
  subst hpolicy
  obtain ⟨failure, hfailed, hnot⟩ := h.fails hg hc.covered hm he hf hn
  have hreport := report_eventOf_lookup (api.collaborators registry) hm strictness arguments
  have hsent := he
  rw [hreport] at hsent
  obtain ⟨identity, hi⟩ := Evaluation.exists_identity_of_exchange hsent
  have hkept : member.evaluation.Kept member.cache :=
    (hc.kept name member hm).2 (by rw [Evaluation.path, hsource]; rfl)
  have hunknown : (member.evaluation.perform arguments strictness
      (session.context member)).state.cache.find? identity = none :=
    Evaluation.find?_of_failure hsource hkept hi hfailed hnot
      (Journal.mem_wireExchanges.mp hsent) rfl
  have hafter : (session.eventOf (api.collaborators registry)
      (.lookup name strictness arguments)).after.member? name = some { member with
        cache := (member.evaluation.perform arguments strictness
          (session.context member)).state.cache } := by
    rw [after_eventOf_lookup hm]
    exact member?_afterwards_self hm _
  refine ⟨identity, hi, ⟨failure, ?_⟩, ⟨_, hafter, hunknown⟩, ?_⟩
  · rw [hreport]
    exact congrArg (Except.map some) hfailed
  intro between later again hbetween hagain next
  obtain ⟨hasked, hread⟩ := (h.lookup strictness arguments).asks_later hg
    (hc.lookup hg name strictness arguments) hafter hunknown hbetween hagain later
  split
  · next hr =>
    obtain ⟨descriptor, hd, ha⟩ := Evaluation.admitted_of_read hsource hi hsent hr
    exact hread descriptor hd ha
  · exact hasked

/-- Only a question is answered. -/
theorem Records.exists_identity {collaborators : Collaborators (AdapterState σ)}
    (h : session.Records collaborators name policy inquiries) {answer : Answer}
    (ha : (session.eventOf collaborators (.lookup name strictness arguments)).report.result =
      .ok (some answer)) : ∃ identity, arguments.identity policy = .ok identity := by
  obtain ⟨member, hm, rfl, _⟩ := h
  rw [report_eventOf_lookup _ hm] at ha
  obtain ⟨_, hr, _⟩ := Results.map_eq_ok_iff.mp ha
  exact Evaluation.exists_identity_of_perform hr

/-- A list is answered with items or not at all. -/
theorem Records.items_or_failure (hg : api.Genuine)
    (h : session.Records (api.collaborators registry) name policy inquiries)
    (hn : arguments.name = "") (strictness : Strictness) :
    let event := session.eventOf (api.collaborators registry) (.lookup name strictness arguments)
    (∃ documents, event.report.result = .ok (some (.items documents))) ∨
      ∃ failure, event.report.result = .error failure := by
  intro event
  obtain ⟨member, hm, _, hs, _⟩ := h
  simp only [event, report_eventOf_lookup _ hm]
  cases hr : (member.evaluation.perform arguments strictness (session.context member)).result with
  | error failure => exact .inr ⟨failure, rfl⟩
  | ok answer =>
    obtain ⟨identity, hi, hsettles⟩ := Evaluation.settles_perform hg.missesObjectsOnly hs hr
    obtain ⟨_, _, _, _, _, hname⟩ := Arguments.identity_eq_ok_iff.mp hi
    have hl : identity.isList = true := Identity.isList_eq_true_iff.mpr (hname.symm.trans hn)
    left
    cases hsettles with
    | @answered _ documents =>
      refine ⟨documents, ?_⟩
      simp [Lookup.recalled, hl, Except.map]

/-- A lookup that passes over missing objects reports one as absent exactly when the cache then knows
that it is missing. -/
theorem Records.absent_iff_known (hg : api.Genuine)
    (h : session.Records (api.collaborators registry) name policy inquiries)
    (hc : session.Sound api registry) (hi : arguments.identity policy = .ok identity)
    (hl : identity.isList = false) :
    let event := session.eventOf (api.collaborators registry) (.lookup name .lenient arguments)
    event.report.result = .ok (some .absent) ↔
      ∃ later, event.after.member? name = some later ∧ later.cache.find? identity = some [] := by
  intro event
  obtain ⟨member, hm, rfl, hs, _⟩ := h
  have hkept : member.evaluation.Kept (session.context member).cache :=
    (hc.kept name member hm).2 (by rw [Evaluation.path, hs]; rfl)
  have habsent := Evaluation.lookup_eq_absent_iff hg.givesObjects hg.missesObjectsOnly hs hkept hi hl
  have hafter := member?_afterwards_self hm
    (member.evaluation.perform arguments .lenient (session.context member)).state
  simp only [event, report_eventOf_lookup _ hm, after_eventOf_lookup hm, hafter, Option.some.injEq,
    exists_eq_left', Results.map_eq_ok_iff, exists_eq_right]
  exact habsent

/-- An object is reported as absent exactly when the API has said that it is missing, now or before. -/
theorem Records.absent_iff_misses (hg : api.Genuine)
    (h : session.Records (api.collaborators registry) name policy [])
    (hc : session.Sound api registry) {steps : List (Step (AdapterState σ))}
    (hs : ∀ step ∈ steps, step.SparesAdapter ∧ step.Spares name)
    (hi : arguments.identity policy = .ok identity) (hl : identity.isList = false) :
    let collaborators := api.collaborators registry
    ((session.steps collaborators steps).1.eventOf collaborators
      (.lookup name .lenient arguments)).report.result = .ok (some .absent) ↔
        ∃ event ∈ session.trace collaborators (steps ++ [.lookup name .lenient arguments]),
          event.Misses name policy identity := by
  intro collaborators
  have hrecords := h.steps fun step hmem => (hs step hmem).2
  have hsound := hc.steps hg fun step hmem => (hs step hmem).1
  have hwhole : ∀ step ∈ steps ++ [Step.lookup name .lenient arguments],
      step.SparesAdapter ∧ step.Spares name := by
    intro step hmem
    rcases List.mem_append.mp hmem with hmem | hmem
    · exact hs step hmem
    · obtain rfl := List.mem_singleton.mp hmem
      exact ⟨rfl, trivial⟩
  have hname := Identity.isList_eq_false_iff.mp hl
  refine (hrecords.absent_iff_known hg hsound hi hl).trans ?_
  rw [after_eventOf_steps]
  constructor
  · rintro ⟨later, hlater, hknown⟩
    exact (h.find?_eq_missing_iff hg hc hname hwhole hlater).mp hknown
  · intro hmisses
    obtain ⟨later, hlater, _⟩ := h.steps fun step hmem => (hwhole step hmem).2
    exact ⟨later, hlater, (h.find?_eq_missing_iff hg hc hname hwhole hlater).mpr hmisses⟩

theorem Records.absent_iff (hg : api.Genuine)
    (h : session.Records (api.collaborators registry) name policy [])
    (hc : session.Sound api registry) {steps : List (Step (AdapterState σ))}
    (hs : ∀ step ∈ steps, step.SparesAdapter ∧ step.Spares name) (hn : arguments.name ≠ "") :
    let collaborators := api.collaborators registry
    ((session.steps collaborators steps).1.eventOf collaborators
      (.lookup name .lenient arguments)).report.result = .ok (some .absent) ↔
        ∃ identity, arguments.identity policy = .ok identity ∧
          ∃ event ∈ session.trace collaborators (steps ++ [.lookup name .lenient arguments]),
            event.Misses name policy identity := by
  intro collaborators
  constructor
  · intro habsent
    obtain ⟨identity, hi⟩ := (h.steps fun step hmem => (hs step hmem).2).exists_identity habsent
    have hl := Arguments.isList_of_identity hn hi
    exact ⟨identity, hi, (h.absent_iff_misses hg hc hs hi hl).mp habsent⟩
  · rintro ⟨identity, hi, hmisses⟩
    have hl := Arguments.isList_of_identity hn hi
    exact (h.absent_iff_misses hg hc hs hi hl).mpr hmisses

end Session

/-- In every run over one adapter, an evaluation that reads through its cache reports an object as absent
exactly when the API has told it with a 404 that there is no such object. A list is never absent. Whatever
else the API fails with, the lookup fails, and the question goes to the cluster when it is put again. -/
theorem absence_exact {σ : Type} {api : ClusterApi σ} (hg : api.Genuine)
    (registry : Option (Registry σ)) (settings : LookupSettings) (world : AdapterState σ)
    {before : List (Step (AdapterState σ))} (hb : ∀ step ∈ before, step.SparesAdapter) (name : String)
    (policy : Policy) (place : Option String) {steps : List (Step (AdapterState σ))}
    (hs : ∀ step ∈ steps, step.SparesAdapter ∧ step.Spares name) (strictness : Strictness)
    (arguments : Arguments) :
    let collaborators := api.collaborators registry
    let made := (((Session.start settings world).steps collaborators before).1.create collaborators
      name ⟨policy, none⟩ place).1
    let event := (made.steps collaborators steps).1.eventOf collaborators
      (.lookup name strictness arguments)
    (strictness = .lenient → arguments.name ≠ "" →
      (event.report.result = .ok (some .absent) ↔
        ∃ identity, arguments.identity policy = .ok identity ∧
          ∃ past ∈ made.trace collaborators (steps ++ [event.step]),
            past.Misses name policy identity)) ∧
    (arguments.name = "" → (∃ documents, event.report.result = .ok (some (.items documents))) ∨
      ∃ failure, event.report.result = .error failure) ∧
    ∀ exchange ∈ event.report.journal.wireExchanges, ∀ fault, exchange.fault? = some fault →
      ¬ exchange.Misses arguments.name → ∃ identity, arguments.identity policy = .ok identity ∧
        event.Forgets collaborators name policy identity exchange := by
  intro collaborators made event
  have hspared : Step.SparesAdapter (.create name ⟨policy, none⟩ place : Step (AdapterState σ)) := rfl
  have hmade : made.Sound api registry :=
    ((Session.sound_start api registry settings world).steps hg hb).step hg hspared
  have hrecords : made.Records collaborators name policy [] :=
    Session.records_create collaborators _ name policy place
  have hsound := hmade.steps hg fun step hmem => (hs step hmem).1
  have hlast := hrecords.steps fun step hmem => (hs step hmem).2
  refine ⟨?_, fun hn => hlast.items_or_failure hg hn strictness, ?_⟩
  · rintro rfl hn
    exact hrecords.absent_iff hg hmade hs hn
  · intro exchange he fault hf hn
    exact hlast.forgets hg hsound he hf hn

/-- An API that serves every kind as secrets and answers reads with these statuses, and with an empty
object when they are used up. -/
def statusApi : ClusterApi (List Int) where
  resource _ _ := fun statuses => (.ok ⟨"secrets", some true⟩, statuses)
  read _ := fun
    | [] => (.ok (.object []), [])
    | status :: rest => (.error (.api .general (some status) none), rest)

theorem statusApi_genuine : statusApi.Genuine where
  resource apiVersion kind statuses failure h := by cases h
  read request statuses failure h := by
    cases statuses with
    | nil => cases h
    | cons status rest =>
      cases h
      rfl
  object request statuses document h := by
    cases statuses with
    | nil =>
      cases h
      rfl
    | cons status rest => cases h

/-- A secret is first refused, and missing when it is asked for again. -/
theorem absence_exact_statuses :
    let collaborators := statusApi.collaborators none
    let made := ((Session.start .standard (.start [403, 404])).create collaborators "page"
      ⟨.unrestricted, none⟩ none).1
    let lookup : Step (AdapterState (List Int)) := .lookup "page" .lenient (secretLookup "token")
    let question : Identity := ⟨⟨"", "v1", "Secret"⟩, "team-a", "token", ""⟩
    let refusal : WireExchange := .read ⟨⟨"secrets", some true⟩, some "token", some "team-a", none⟩
      (.error (.api .general (some 403) none))
    let missed := (made.steps collaborators [lookup]).1.eventOf collaborators lookup
    statusApi.Genuine ∧ (∀ step ∈ [lookup], step.SparesAdapter ∧ step.Spares "page") ∧
      (made.eventOf collaborators lookup).Forgets collaborators "page" .unrestricted question
        refusal ∧
      missed.report.result = .ok (some .absent) ∧
      ∃ past ∈ made.trace collaborators [lookup, lookup],
        past.Misses "page" .unrestricted question := by
  intro collaborators made lookup question refusal missed
  have hs : ∀ step ∈ [lookup], step.SparesAdapter ∧ step.Spares "page" := by
    simp [lookup, Step.SparesAdapter, Step.writesCache, Step.Spares]
  have hquestion : (secretLookup "token").identity .unrestricted = .ok question :=
    Arguments.identity_eq_ok_iff.mpr ⟨rfl, rfl, by cbv, by cbv, rfl, rfl⟩
  have hbefore : ∀ step ∈ ([] : List (Step (AdapterState (List Int)))), step.SparesAdapter :=
    List.forall_mem_nil _
  have hnone : ∀ step ∈ ([] : List (Step (AdapterState (List Int)))),
      step.SparesAdapter ∧ step.Spares "page" := List.forall_mem_nil _
  have hfirst := absence_exact statusApi_genuine none .standard (.start [403, 404]) hbefore "page"
    .unrestricted none hnone .lenient (secretLookup "token")
  have hsecond := absence_exact statusApi_genuine none .standard (.start [403, 404]) hbefore "page"
    .unrestricted none hs .lenient (secretLookup "token")
  obtain ⟨identity, hi, hforgets⟩ := hfirst.2.2 refusal (List.mem_cons_of_mem _ List.mem_cons_self)
    _ rfl (by simp [refusal, WireExchange.Misses, Failure.isMissing])
  cases hquestion.symm.trans hi
  have hmissed : missed.report.result = .ok (some .absent) := rfl
  obtain ⟨asked, hasked, hmisses⟩ := (hsecond.1 rfl (by decide)).mp hmissed
  cases hquestion.symm.trans hasked
  exact ⟨statusApi_genuine, hs, hforgets, hmissed, hmisses⟩

end ClusterLookup
