import ClusterLookup.Proofs.Counters
import ClusterLookup.Proofs.Permits
import ClusterLookup.Proofs.Precedence

/-!
# Which allowlists let a list pass

A list asks the allowlist with the empty name. Allowlists come from text, and no text gives an entry with
an empty name, so nothing but an entry whose name is the wildcard lets a list of cluster-scoped objects
pass. Such an entry lets each of the objects pass as well.
-/

namespace ClusterLookup

/-- The settings of lookups that the variables of an environment give, possibly changed by the options of a
command line. -/
inductive LookupSettings.Configured (setting? : String → Option String) : LookupSettings → Prop
  | loaded {settings : Settings} (hl : Settings.load setting? = .ok settings) :
      Configured setting? settings.lookup
  | overridden {settings : Settings} {words : CommandLine.LookupWords} {policy : Policy}
      (hl : Settings.load setting? = .ok settings)
      (hp : CommandLine.policyOf settings.lookup.policy words = .ok policy) :
      Configured setting? { settings.lookup with policy }

/-- Whether an entry for the group and the kind has the wildcard as its name. -/
def Allowlist.Lists (allowlist : Allowlist) (group kind : String) : Prop :=
  ∃ permit ∈ allowlist, permit.name = wildcard ∧
    (permit.group = group ∨ permit.group = wildcard) ∧ (permit.kind = kind ∨ permit.kind = wildcard)

/-- Whether a lookup gets to the guard for cluster-scoped objects, with that descriptor. -/
def Evaluation.Resolves {σ : Type} (evaluation : Evaluation σ) (arguments : Arguments)
    (context : Context σ) (descriptor : Descriptor) : Prop :=
  ∃ identity, arguments.identity evaluation.policy = .ok identity ∧
    (Lookup.resolveType evaluation.source identity.type context).result = .ok descriptor

/-- Whether the guard for cluster-scoped objects lets a lookup pass. -/
def Evaluation.Passes {σ : Type} (evaluation : Evaluation σ) (arguments : Arguments)
    (strictness : Strictness) (context : Context σ) : Prop :=
  Guard.clusterScope ∉ Journal.denials (evaluation.perform arguments strictness context).journal

/-! ## Allowlists that come from text -/

theorem Permit.name_ne_of_parse {text : List Char} {permit : Permit}
    (h : Permit.parse text = .ok permit) : permit.name ≠ "" :=
  (ofText?_eq_some_iff.mp (parse_eq_ok_iff_ofText?.mp h)).2.2

theorem Allowlist.names_of_parse {text : List Char} {allowlist : Allowlist}
    (h : Allowlist.parse text = .ok allowlist) : allowlist.Names := by
  intro permit hm
  obtain ⟨piece, _, hp⟩ := Results.exists_of_mem_mapM h hm
  exact Permit.name_ne_of_parse hp

theorem Settings.names_of_load {setting? : String → Option String} {settings : Settings}
    (h : Settings.load setting? = .ok settings) : settings.lookup.policy.allowlist.Names := by
  simp only [load, Results.bind_eq_ok_iff] at h
  obtain ⟨allowlist, ha, _, _, _, _, heq⟩ := h
  cases heq
  exact Allowlist.names_of_parse ha

/-- A restriction that is given replaces the one set, and entries that are given replace the allowlist. -/
theorem CommandLine.policyOf_eq_ok_iff {policy changed : Policy} {words : LookupWords} :
    policyOf policy words = .ok changed ↔
      changed.restriction = words.restriction.getD policy.restriction ∧
        (words.allow = [] ∧ changed.allowlist = policy.allowlist ∨
          words.allow ≠ [] ∧
            Allowlist.parse (",".intercalate words.allow).toList = .ok changed.allowlist) := by
  obtain ⟨restriction, allowlist⟩ := changed
  unfold policyOf
  by_cases ha : words.allow = []
  · simp [ha, bind, Except.bind, eq_comm]
  · simp only [List.isEmpty_eq_false_iff.mpr ha, Bool.false_eq_true, if_false, Results.bind_eq_ok_iff]
    simp [ha, eq_comm, and_comm]

theorem CommandLine.names_of_policyOf {policy changed : Policy} {words : LookupWords}
    (hn : policy.allowlist.Names) (h : policyOf policy words = .ok changed) :
    changed.allowlist.Names := by
  obtain ⟨_, ⟨_, hkept⟩ | ⟨_, hgiven⟩⟩ := policyOf_eq_ok_iff.mp h
  · rw [hkept]
    exact hn
  · exact Allowlist.names_of_parse hgiven

theorem LookupSettings.Configured.names {setting? : String → Option String} {settings : LookupSettings}
    (h : settings.Configured setting?) : settings.policy.allowlist.Names := by
  cases h with
  | loaded hl => exact Settings.names_of_load hl
  | overridden hl hp => exact CommandLine.names_of_policyOf (Settings.names_of_load hl) hp

/-- Where every entry names something, the empty name is allowed by the wildcard alone. -/
theorem Allowlist.allows_empty_iff {allowlist : Allowlist} (hn : allowlist.Names) (group kind : String) :
    allowlist.allows group kind "" = true ↔ allowlist.Lists group kind := by
  unfold allows Lists
  rw [List.any_eq_true]
  constructor
  · rintro ⟨permit, hm, hc⟩
    simp only [Permit.covers, Permit.accepts, Bool.and_eq_true, Bool.or_eq_true, beq_iff_eq] at hc
    obtain ⟨⟨hgroup, hkind⟩, hname⟩ := hc
    exact ⟨permit, hm, hname.resolve_right (hn permit hm), hgroup.symm, hkind.symm⟩
  · rintro ⟨permit, hm, hname, hgroup, hkind⟩
    refine ⟨permit, hm, ?_⟩
    simp [Permit.covers, Permit.accepts, hname, hgroup.symm, hkind.symm]

/-! ## The guard -/

namespace Evaluation
variable {σ : Type} {evaluation : Evaluation σ} {arguments : Arguments} {context : Context σ}
variable {descriptor : Descriptor}

theorem denials_perform (evaluation : Evaluation σ) (arguments : Arguments) (strictness : Strictness)
    (context : Context σ) :
    Journal.denials (evaluation.perform arguments strictness context).journal =
      Journal.denials (evaluation.lookupStrict arguments context).journal :=
  filterMap_counters_perform (fun _ _ => rfl) evaluation arguments strictness context

/-- A lookup that gets to the guard and is not admitted fails with what the guard says. -/
theorem Resolves.result_of_refused (h : evaluation.Resolves arguments context descriptor)
    (ha : evaluation.policy.admits descriptor arguments.kind arguments.name = false)
    (strictness : Strictness) : (evaluation.perform arguments strictness context).result =
      .error (.clusterScoped descriptor.group arguments.kind arguments.name) := by
  obtain ⟨identity, hi, ht⟩ := h
  obtain ⟨_, _, _, _, hkind, hname⟩ := Arguments.identity_eq_ok_iff.mp hi
  rw [hkind, hname] at ha ⊢
  rw [perform_eq_error_iff, lookupStrict_of_valid hi, answer_of_refused ht ha]
  exact ⟨rfl, fun _ => rfl⟩

/-- A lookup that gets to the guard passes it when the policy admits what it asks for. -/
theorem Resolves.passes_iff (h : evaluation.Resolves arguments context descriptor)
    (strictness : Strictness) : evaluation.Passes arguments strictness context ↔
      evaluation.policy.admits descriptor arguments.kind arguments.name = true := by
  obtain ⟨identity, hi, ht⟩ := h
  obtain ⟨_, _, _, _, hkind, hname⟩ := Arguments.identity_eq_ok_iff.mp hi
  unfold Passes
  rw [denials_perform, lookupStrict_of_valid hi, hkind, hname]
  cases ha : evaluation.policy.admits descriptor identity.type.kind identity.name with
  | false =>
    rw [answer_of_refused ht ha]
    simp only [Journal.denials, Journal.unnoticing_counters.append, Lookup.counters_resolveType,
      Lookup.counters_refusalEntries]
    simp [Failure.guard?, Counter.denial?]
  | true =>
    rw [answer_of_admitted ht ha]
    simp only [Journal.denials, Journal.unnoticing_counters.append, Lookup.counters_resolveType,
      Lookup.counters_readAnswer]
    rw [List.nil_append, filterMap_probes (f := fun _ => none) fun _ => rfl]
    simp

end Evaluation

/-- Under settings with a restriction, a list of cluster-scoped objects passes the guard exactly when some
entry for its group and kind has the wildcard as its name. Then an object of that group and kind passes
whatever its name is. Entries with other names let no list pass, however many they are. -/
theorem lists_by_wildcard {σ : Type} (collaborators : Collaborators σ)
    {setting? : String → Option String} {settings : LookupSettings}
    (hc : settings.Configured setting?) (hr : settings.policy.restriction ≠ "")
    {watcher : Option Identity} {evaluation : Evaluation σ}
    (he : collaborators.evaluation settings (settings.options watcher) = .ok evaluation)
    {arguments : Arguments} (hn : arguments.name = "") {context : Context σ} {descriptor : Descriptor}
    (hd : evaluation.Resolves arguments context descriptor) (hs : descriptor.namespaced = false)
    (strictness : Strictness) :
    let allowlist := settings.policy.allowlist
    (evaluation.Passes arguments strictness context ↔
        allowlist.Lists descriptor.group arguments.kind) ∧
      (evaluation.Passes arguments strictness context →
        ∀ single found, single.kind = arguments.kind → found.group = descriptor.group →
          ∀ strictness context, evaluation.Resolves single context found →
            evaluation.Passes single strictness context) ∧
      ((∀ permit ∈ allowlist, permit.name ≠ wildcard) →
        (evaluation.perform arguments strictness context).result =
          .error (.clusterScoped descriptor.group arguments.kind "")) := by
  intro allowlist
  have hnames : allowlist.Names := hc.names
  have hpolicy : evaluation.policy = settings.policy := by
    cases Collaborators.makes_of_evaluation he with
    | unwatched policy => rfl
    | watched policy watcher h => rfl
  have hadmits : evaluation.policy.admits descriptor arguments.kind arguments.name =
      allowlist.allows descriptor.group arguments.kind "" := by
    simp [Policy.admits, hpolicy, hs, hr, hn, allowlist]
  have hpasses : evaluation.Passes arguments strictness context ↔
      allowlist.allows descriptor.group arguments.kind "" = true := by
    rw [hd.passes_iff, hadmits]
  refine ⟨hpasses.trans (Allowlist.allows_empty_iff hnames ..), ?_, ?_⟩
  · intro hp single found hkind hgroup strictness context hfound
    have hall := Allowlist.allows_of_allows_empty hnames (hpasses.mp hp) single.name
    rw [hfound.passes_iff, hpolicy, hkind, Policy.admits, hgroup, Bool.or_eq_true]
    exact .inr hall
  · intro hliteral
    have hrefused : evaluation.policy.admits descriptor arguments.kind arguments.name = false := by
      rw [hadmits, ← Bool.not_eq_true, Allowlist.allows_empty_iff hnames]
      rintro ⟨permit, hm, hname, _⟩
      exact hliteral permit hm hname
    rw [hd.result_of_refused hrefused, hn]

/-- Variables that restrict lookups to a namespace, with entries for all namespaces and for one node. -/
def restrictedSetting? (name : String) : Option String :=
  if name = "LOOKUP_NAMESPACE" then some "team-a"
  else if name = "CLUSTER_SCOPED_ALLOWLIST" then some " /Namespace/*,, /Node/n1"
  else none

/-- A cluster that serves namespaces and nodes. -/
def nodeStore : ObjectStore :=
  { loneStore with
    types := loneStore.types ++ [(⟨"", "v1", "Node"⟩, ⟨"", "v1", "nodes", false⟩)] }

theorem lists_by_wildcard_namespaces :
    let policy : Policy := ⟨"team-a", [⟨"", "Namespace", "*"⟩, ⟨"", "Node", "n1"⟩]⟩
    let settings : LookupSettings := ⟨policy, defaultSensitiveKind⟩
    let evaluation : Evaluation ObjectStore := ⟨policy, .cluster ObjectStore.client, defaultSensitiveKind⟩
    let context := Context.fresh nodeStore
    settings.Configured restrictedSetting? ∧
      ObjectStore.collaborators.evaluation settings (settings.options none) = .ok evaluation ∧
      evaluation.Passes ⟨"v1", "Namespace", "", "", none⟩ .lenient context ∧
      ¬ evaluation.Passes ⟨"v1", "Node", "", "", none⟩ .lenient context := by
  intro policy settings evaluation context
  have hload : Settings.load restrictedSetting? = .ok ⟨settings, .info⟩ :=
    Results.toOption_eq_some_iff.mp (by decide +kernel)
  have hc : settings.Configured restrictedSetting? := .loaded hload
  have hmade : ObjectStore.collaborators.evaluation settings (settings.options none) =
      .ok evaluation := rfl
  have hnamespaces : evaluation.Resolves ⟨"v1", "Namespace", "", "", none⟩ context
      ⟨"", "v1", "namespaces", false⟩ := ⟨⟨⟨"", "v1", "Namespace"⟩, "team-a", "", ""⟩,
    Results.toOption_eq_some_iff.mp (by decide +kernel), rfl⟩
  have hnodes : evaluation.Resolves ⟨"v1", "Node", "", "", none⟩ context
      ⟨"", "v1", "nodes", false⟩ := ⟨⟨⟨"", "v1", "Node"⟩, "team-a", "", ""⟩,
    Results.toOption_eq_some_iff.mp (by decide +kernel), rfl⟩
  have hr : settings.policy.restriction ≠ "" := by decide
  have hlisted := lists_by_wildcard ObjectStore.collaborators hc hr hmade rfl hnamespaces rfl .lenient
  have hunlisted := lists_by_wildcard ObjectStore.collaborators hc hr hmade rfl hnodes rfl .lenient
  refine ⟨hc, hmade, hlisted.1.mpr ?_, mt hunlisted.1.mp ?_⟩
  · exact ⟨⟨"", "Namespace", "*"⟩, by simp [settings, policy], rfl, .inl rfl, .inl rfl⟩
  · simp [Allowlist.Lists, settings, policy, wildcard]

end ClusterLookup
