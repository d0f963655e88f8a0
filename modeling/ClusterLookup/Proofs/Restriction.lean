import ClusterLookup.Proofs.Listing
import ClusterLookup.Proofs.Paths

/-!
# A restriction refuses and changes nothing else

Beside every lookup under a restriction there is one without it that asks for the restricted namespace.
Either the restriction refuses the first one, for its namespace or for a cluster-scoped object that is not
on the allowlist, or the two are the same: they come out alike, make the same calls and leave the same
behind. So a longer allowlist makes no difference to a lookup that the shorter one does not refuse.
-/

namespace ClusterLookup

def Entry.isLog : Entry → Bool
  | .log _ => true
  | _ => false

/-- Everything in a journal but its log records. -/
def Journal.unlogged (journal : Journal) : Journal := journal.filter fun entry => !entry.isLog

/-- Whether two lookups come out alike, leave the same behind, and differ at most in what they log. -/
structure Outcome.Equals {σ α : Type} (one other : Outcome Entry (Context σ) α) : Prop where
  result : one.result = other.result
  state : one.state = other.state
  unlogged : Journal.unlogged one.journal = Journal.unlogged other.journal

theorem Journal.projection_unlogged : Projection unlogged where
  append := List.filter_append
  log _ := rfl

namespace Arguments
variable {arguments : Arguments} {restriction : String}

/-- The same arguments for the namespace of a restriction. -/
def inside (arguments : Arguments) (restriction : String) : Arguments :=
  { arguments with inNamespace := restriction }

/-- Under a restriction, arguments that keep to it ask what they would ask for in its namespace. -/
theorem identity_inside (hr : restriction ≠ "")
    (hn : arguments.inNamespace = "" ∨ arguments.inNamespace = restriction)
    (allowlist other : Allowlist) :
    arguments.identity ⟨restriction, allowlist⟩ =
      (arguments.inside restriction).identity ⟨"", other⟩ := by
  have hnamespace : Policy.effectiveNamespace ⟨restriction, allowlist⟩ arguments.inNamespace =
      .ok restriction := by
    rcases hn with hn | hn <;> simp [Policy.effectiveNamespace, hr, hn]
  have hinside : Policy.effectiveNamespace ⟨"", other⟩ restriction = .ok restriction :=
    Policy.effectiveNamespace_of_unrestricted rfl restriction
  simp only [identity, inside, hnamespace, hinside]

theorem identity_of_elsewhere (ha : arguments.apiVersion ≠ "") (hk : arguments.kind ≠ "")
    (hr : restriction ≠ "") (hn : arguments.inNamespace ≠ "")
    (hother : arguments.inNamespace ≠ restriction) (allowlist : Allowlist) :
    arguments.identity ⟨restriction, allowlist⟩ =
      .error (.restrictedNamespace arguments.inNamespace restriction) := by
  simp [identity, Policy.effectiveNamespace, ha, hk, hr, hn, hother, bind, Except.bind]

end Arguments

namespace Evaluation
variable {σ : Type} {one other : Evaluation σ} {arguments : Arguments} {context : Context σ}

open Lookup

/-- Evaluations with one source that ask the same and let the same pass do the same. -/
theorem lookupStrict_congr {asked : Arguments} (hsource : one.source = other.source)
    (hkind : one.sensitiveKind = other.sensitiveKind)
    (hi : arguments.identity one.policy = asked.identity other.policy)
    (ha : ∀ descriptor, one.Resolves arguments context descriptor →
      one.policy.admits descriptor arguments.kind arguments.name =
        other.policy.admits descriptor arguments.kind arguments.name) :
    one.lookupStrict arguments context = other.lookupStrict asked context := by
  cases hone : arguments.identity one.policy with
  | error failure => rw [lookupStrict_of_invalid hone, lookupStrict_of_invalid (hi.symm.trans hone)]
  | ok identity =>
    obtain ⟨_, _, _, _, hk, hn⟩ := Arguments.identity_eq_ok_iff.mp hone
    rw [lookupStrict_of_valid hone, lookupStrict_of_valid (hi.symm.trans hone)]
    cases ht : (resolveType one.source identity.type context).result with
    | error failure => rw [answer_of_unresolved ht, answer_of_unresolved (hsource ▸ ht), hsource]
    | ok descriptor =>
      have hadmits := ha descriptor ⟨identity, hone, ht⟩
      rw [hk, hn] at hadmits
      cases hp : one.policy.admits descriptor identity.type.kind identity.name with
      | false =>
        rw [answer_of_refused ht hp, answer_of_refused (hsource ▸ ht) (hadmits.symm.trans hp), hsource]
      | true =>
        rw [answer_of_admitted ht hp, answer_of_admitted (hsource ▸ ht) (hadmits.symm.trans hp),
          hsource]
        simp only [marks, hkind]

theorem unlogged_closingEntries {asked : Arguments} (hsource : one.source = other.source)
    (hname : asked.name = arguments.name) (result : Except Failure Answer) :
    Journal.unlogged (closingEntries one arguments result) =
      Journal.unlogged (closingEntries other asked result) := by
  cases result with
  | ok answer => simp [closingEntries, Journal.unlogged, Entry.isLog, path, hsource, hname]
  | error failure =>
    by_cases hn : failure.isNotFound = true
    · simp [closingEntries, Journal.unlogged, Entry.isLog, path, hsource, hn]
    · by_cases hl : failure.isLookup = true
      · simp [closingEntries, Journal.unlogged, Entry.isLog, path, hsource, hn, hl]
      · simp [closingEntries, hn, hl]

/-- The records at the beginning and at the end of a lookup say what it was asked, and make up all the
difference between two lookups that ask the same in other words. -/
theorem equals_perform {asked : Arguments} (hsource : one.source = other.source)
    (hname : asked.name = arguments.name)
    (h : one.lookupStrict arguments context = other.lookupStrict asked context)
    (strictness : Strictness) :
    (one.perform arguments strictness context).Equals (other.perform asked strictness context) := by
  cases strictness with
  | strict =>
    simp only [perform, h]
    exact ⟨rfl, rfl, rfl⟩
  | lenient =>
    simp only [perform, lookup_eq, h]
    refine ⟨rfl, rfl, ?_⟩
    simp only [Journal.projection_unlogged.log_cons, Journal.projection_unlogged.append,
      unlogged_closingEntries hsource hname]

/-- A lookup that is not refused goes the same way under another allowlist that lets it pass. -/
theorem perform_congr (hsource : one.source = other.source)
    (h : one.lookupStrict arguments context = other.lookupStrict arguments context)
    (strictness : Strictness) :
    one.perform arguments strictness context = other.perform arguments strictness context := by
  have hclosing : closingEntries one arguments = closingEntries other arguments := by
    funext result
    simp only [closingEntries, path, hsource]
  cases strictness with
  | strict => exact h
  | lenient => simp only [perform, lookup_eq, h, hclosing]

end Evaluation

/-- What an allowlist admits is admitted with more entries as well. -/
theorem Policy.admits_of_subset {restriction : String} {allowlist larger : Allowlist}
    (h : allowlist ⊆ larger) {descriptor : Descriptor} {kind name : String}
    (ha : Policy.admits ⟨restriction, allowlist⟩ descriptor kind name = true) :
    Policy.admits ⟨restriction, larger⟩ descriptor kind name = true := by
  simp only [admits, Bool.or_eq_true] at ha ⊢
  rcases ha with ha | ha
  · exact .inl ha
  · obtain ⟨permit, hm, hc⟩ := List.any_eq_true.mp ha
    exact .inr (Allowlist.allows_of_mem (h hm) hc)

namespace Evaluation
variable {σ : Type} {source : Source σ} {sensitiveKind restriction : String}
variable {allowlist larger other : Allowlist} {arguments : Arguments} {context : Context σ}

theorem resolves_inside (hi : arguments.identity ⟨restriction, allowlist⟩ =
      (arguments.inside restriction).identity ⟨"", other⟩) (descriptor : Descriptor) :
    let restricted : Evaluation σ := ⟨⟨restriction, allowlist⟩, source, sensitiveKind⟩
    let unrestricted : Evaluation σ := ⟨⟨"", other⟩, source, sensitiveKind⟩
    restricted.Resolves arguments context descriptor ↔
      unrestricted.Resolves (arguments.inside restriction) context descriptor := by
  simp only [Resolves, hi]

/-- A lookup that neither guard refuses is the lookup without the restriction in its namespace. -/
theorem equals_inside (hi : arguments.identity ⟨restriction, allowlist⟩ =
      (arguments.inside restriction).identity ⟨"", other⟩) (strictness : Strictness) :
    let restricted : Evaluation σ := ⟨⟨restriction, allowlist⟩, source, sensitiveKind⟩
    let unrestricted : Evaluation σ := ⟨⟨"", other⟩, source, sensitiveKind⟩
    let asked := arguments.inside restriction
    (∀ descriptor, unrestricted.Resolves asked context descriptor → descriptor.namespaced = false →
      allowlist.allows descriptor.group arguments.kind arguments.name = true) →
        (restricted.perform arguments strictness context).Equals
          (unrestricted.perform asked strictness context) := by
  intro restricted unrestricted asked hallowed
  have hsource : restricted.source = unrestricted.source := rfl
  have hkind : restricted.sensitiveKind = unrestricted.sensitiveKind := rfl
  have hname : asked.name = arguments.name := rfl
  have hsame : restricted.lookupStrict arguments context = unrestricted.lookupStrict asked context := by
    apply lookupStrict_congr hsource hkind hi
    intro descriptor hd
    have hallows := hallowed descriptor ((resolves_inside hi descriptor).mp hd)
    cases hs : descriptor.namespaced with
    | false => simp [restricted, unrestricted, Policy.admits, hallows hs]
    | true => simp [restricted, unrestricted, Policy.admits, hs]
  exact equals_perform hsource hname hsame strictness

/-- A lookup that the guard lets pass is the same with more entries on the allowlist. -/
theorem perform_of_subset (hsub : allowlist ⊆ larger) {strictness : Strictness} :
    let restricted : Evaluation σ := ⟨⟨restriction, allowlist⟩, source, sensitiveKind⟩
    let enlarged : Evaluation σ := ⟨⟨restriction, larger⟩, source, sensitiveKind⟩
    restricted.Passes arguments strictness context →
      enlarged.perform arguments strictness context =
        restricted.perform arguments strictness context := by
  intro restricted enlarged hpasses
  have hsource : enlarged.source = restricted.source := rfl
  have hkind : enlarged.sensitiveKind = restricted.sensitiveKind := rfl
  have hi : arguments.identity enlarged.policy = arguments.identity restricted.policy := rfl
  have hadmitted : ∀ descriptor, restricted.Resolves arguments context descriptor →
      restricted.policy.admits descriptor arguments.kind arguments.name = true := by
    intro descriptor hd
    exact (hd.passes_iff strictness).mp hpasses
  have hsame : enlarged.lookupStrict arguments context = restricted.lookupStrict arguments context := by
    apply lookupStrict_congr hsource hkind hi
    intro descriptor hd
    rw [hadmitted descriptor hd]
    exact Policy.admits_of_subset hsub (hadmitted descriptor hd)
  exact perform_congr hsource hsame strictness

end Evaluation

/-- A lookup under a restriction is refused for its namespace, or for a cluster-scoped object that is not
on the allowlist, or else it is the lookup in the restricted namespace without the restriction. An
allowlist with more entries makes no difference where the guard refuses nothing. -/
theorem restriction_only_refuses {σ : Type} (source : Source σ) (sensitiveKind : String)
    {restriction : String} (hr : restriction ≠ "") (allowlist other : Allowlist)
    (arguments : Arguments) (ha : arguments.apiVersion ≠ "") (hk : arguments.kind ≠ "")
    (strictness : Strictness) (context : Context σ) :
    let restricted : Evaluation σ := ⟨⟨restriction, allowlist⟩, source, sensitiveKind⟩
    let unrestricted : Evaluation σ := ⟨⟨"", other⟩, source, sensitiveKind⟩
    let asked := arguments.inside restriction
    let outcome := restricted.perform arguments strictness context
    (arguments.inNamespace ≠ "" → arguments.inNamespace ≠ restriction →
        outcome.result = .error (.restrictedNamespace arguments.inNamespace restriction)) ∧
      (arguments.inNamespace = "" ∨ arguments.inNamespace = restriction →
        (∀ descriptor, unrestricted.Resolves asked context descriptor →
          descriptor.namespaced = false →
            allowlist.allows descriptor.group arguments.kind arguments.name = false →
              outcome.result =
                .error (.clusterScoped descriptor.group arguments.kind arguments.name)) ∧
        ((∀ descriptor, unrestricted.Resolves asked context descriptor →
          descriptor.namespaced = false →
            allowlist.allows descriptor.group arguments.kind arguments.name = true) →
              outcome.Equals (unrestricted.perform asked strictness context))) ∧
      ∀ larger : Allowlist, allowlist ⊆ larger → restricted.Passes arguments strictness context →
        let enlarged : Evaluation σ := ⟨⟨restriction, larger⟩, source, sensitiveKind⟩
        enlarged.perform arguments strictness context = outcome := by
  intro restricted unrestricted asked outcome
  refine ⟨?_, ?_, ?_⟩
  · intro hn hother
    have hi := Arguments.identity_of_elsewhere ha hk hr hn hother allowlist
    simp only [outcome]
    rw [Evaluation.perform_eq_error_iff, Evaluation.lookupStrict_of_invalid hi]
    exact ⟨rfl, fun _ => rfl⟩
  · intro hn
    have hi := Arguments.identity_inside hr hn allowlist other
    constructor
    · intro descriptor hd hs hallows
      have hresolves : restricted.Resolves arguments context descriptor :=
        (Evaluation.resolves_inside hi descriptor).mpr hd
      apply hresolves.result_of_refused
      simp [restricted, Policy.admits, hs, hr, hallows]
    · exact Evaluation.equals_inside hi strictness
  · intro larger hsub
    exact Evaluation.perform_of_subset hsub

/-- A restricted evaluation is refused the token of another team and the namespace of that team, and reads
the token of its own. -/
theorem restriction_only_refuses_team :
    let restricted : Evaluation ObjectStore := ⟨teamPolicy, .cluster ObjectStore.client, "Secret"⟩
    let unrestricted : Evaluation ObjectStore := ⟨.unrestricted, .cluster ObjectStore.client, "Secret"⟩
    let context := Context.fresh neighbourStore
    (restricted.perform ⟨"v1", "Secret", "team-b", "token", none⟩ .lenient context).result =
        .error (.restrictedNamespace "team-b" "team-a") ∧
      (restricted.perform ⟨"v1", "Namespace", "", "team-b", none⟩ .lenient context).result =
        .error (.clusterScoped "" "Namespace" "team-b") ∧
      (restricted.perform ⟨"v1", "Secret", "", "token", none⟩ .lenient context).Equals
        (unrestricted.perform (secretLookup "token") .lenient context) ∧
      restricted.Passes ⟨"v1", "Secret", "", "token", none⟩ .lenient context := by
  intro restricted unrestricted context
  have hr : "team-a" ≠ "" := by decide
  have hv : "v1" ≠ "" := by decide
  have hsecret : "Secret" ≠ "" := by decide
  have hnamespace : "Namespace" ≠ "" := by decide
  have honly := fun arguments ha hk => restriction_only_refuses (.cluster ObjectStore.client) "Secret" hr
    teamPolicy.allowlist [] arguments ha hk .lenient context
  have hnamespaces : unrestricted.Resolves ⟨"v1", "Namespace", "team-a", "team-b", none⟩ context
      ⟨"", "v1", "namespaces", false⟩ := ⟨⟨⟨"", "v1", "Namespace"⟩, "team-a", "team-b", ""⟩,
    Results.toOption_eq_some_iff.mp (by decide +kernel), rfl⟩
  have hsecrets : (secretLookup "token").identity unrestricted.policy =
      .ok ⟨⟨"", "v1", "Secret"⟩, "team-a", "token", ""⟩ :=
    Results.toOption_eq_some_iff.mp (by decide +kernel)
  refine ⟨?_, ?_, ?_, ?_⟩
  · exact (honly ⟨"v1", "Secret", "team-b", "token", none⟩ hv hsecret).1 (by decide) (by decide)
  · apply ((honly ⟨"v1", "Namespace", "", "team-b", none⟩ hv hnamespace).2.1 (.inl rfl)).1 _ hnamespaces
    · rfl
    · decide
  · apply ((honly ⟨"v1", "Secret", "", "token", none⟩ hv hsecret).2.1 (.inl rfl)).2
    rintro descriptor ⟨identity, hi, ht⟩ hs
    cases hsecrets.symm.trans hi
    cases ht
    cases hs
  · unfold Evaluation.Passes
    decide +kernel

end ClusterLookup
