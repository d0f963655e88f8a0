import ClusterLookup.Proofs.Agreement
import ClusterLookup.Proofs.Document.RoundTrip
import ClusterLookup.Proofs.Listing

/-!
# The command line does a template's lookup

A command line says what to look up and may change the policy of the settings. It does what a template
would do on a fresh evaluation under that policy: the same calls, and the same failure or answer, which is
printed so that it can be read back. The policy is read by two parties, the settings and the options. What
either of them cannot read ends the command before it reaches for the cluster.
-/

namespace ClusterLookup

/-- Whether an action ended in a state of a kind and, if it failed, failed within the lookup family. -/
structure Outcome.InFamily {ε σ α : Type} (outcome : Outcome ε σ α) (within : σ → Prop) : Prop where
  state : within outcome.state
  isLookup : ∀ failure, outcome.result = .error failure → failure.isLookup = true

/-- Whether a client keeps to worlds of a kind and has no failures in them but those of the lookup
family. -/
structure ClusterClient.InFamily {σ : Type} (client : ClusterClient σ) (within : σ → Prop) :
    Prop where
  discover : ∀ type world, within world → (client.discover type world).InFamily within
  get : ∀ descriptor kind inNamespace name world, within world →
    (client.get descriptor kind inNamespace name world).InFamily within
  list : ∀ descriptor kind inNamespace selector world, within world →
    (client.list descriptor kind inNamespace selector world).InFamily within

/-- A policy as the options of a command line change another one: a restriction that is given replaces the
one set, even when it is empty, and allowlist entries that are given replace the allowlist. -/
structure Policy.Overrides (changed policy : Policy) (words : CommandLine.LookupWords) : Prop where
  restriction : changed.restriction = words.restriction.getD policy.restriction
  kept : words.allow = [] → changed.allowlist = policy.allowlist
  given : words.allow ≠ [] →
    Allowlist.parse (",".intercalate words.allow).toList = .ok changed.allowlist

/-- A lookup on a fresh evaluation under the settings, as a template does it. -/
def ClusterClient.freshLookup {σ : Type} (client : ClusterClient σ) (settings : LookupSettings)
    (world : σ) (arguments : Arguments) : Event σ :=
  let collaborators : Collaborators σ := ⟨client, none⟩
  let made := (Session.start settings world).step collaborators
    (.create "template" (settings.options none) none)
  made.1.eventOf collaborators (.lookup "template" .lenient arguments)

/-- Whether an evaluation has read sensitive data when a lookup on it is over. -/
def Event.marked {σ : Type} (event : Event σ) : Bool := (event.after.flag? "template").getD false

namespace CommandLine

/-- Text as it is shown beside the output. -/
def shown (text : String) : String := String.ofList (Text.plain text.toList)

/-- Whether a line is a command to look up what the words say. -/
def LookupWords.SpelledBy (words : LookupWords) (line : List String) : Prop :=
  ∃ level rest, readPrologue line = .ok (.command level rest) ∧ readCommand rest = .ok (.lookup words)

/-- The long name that gives an option a value in the next word. -/
def Flag.word : Flag → String
  | .help => "--help"
  | .logLevel => "--log-level"
  | .inNamespace => "--namespace"
  | .selector => "--selector"
  | .restriction => "--restrict-namespace"
  | .allow => "--allow"

/-- Options as words, each followed by its value. -/
def optionWords (options : List (Flag × String)) : List String :=
  options.flatMap fun option => [option.1.word, option.2]

/-- The options that give what the words say. -/
def LookupWords.options (words : LookupWords) : List (Flag × String) :=
  (.inNamespace, words.inNamespace) ::
    (words.selector.toList.map (Flag.selector, ·) ++
      words.restriction.toList.map (Flag.restriction, ·) ++ words.allow.map (Flag.allow, ·))

/-- A line for the words, with all options ended before the positional words. -/
def LookupWords.spelling (words : LookupWords) : List String :=
  commandName :: (optionWords words.options ++ ["--", words.apiVersion, words.kind, words.name])

/-- Whether a command was ended before it reached for the cluster. -/
structure RunReport.Refuses (report : RunReport) : Prop where
  exitCode : report.result.exitCode = 2
  untried : report.tried = []
  silent : report.journal = []

/-- Whether a command did a lookup and told how it came out: of a failure what it says, of an answer the
document that it is, with a warning when the evaluation has read sensitive data. -/
structure RunReport.Tells {σ : Type} (report : RunReport) (settings : LookupSettings)
    (event : Event σ) : Prop where
  journal : report.journal = event.report.journal
  failed : ∀ failure, event.report.result = .error failure →
    report.result.exitCode = 1 ∧ report.result.output = "" ∧
      report.result.errorOutput = shown s!"Error: {failure.message}\n"
  answered : ∀ found, event.report.result = .ok found →
    report.result.exitCode = 0 ∧ ∃ answer value, found = some answer ∧
      Document.read? report.result.output = some value ∧ value.SameValue answer.toDocument
  warned : ∀ found, event.report.result = .ok found →
    let warning := shown s!"warning: result contains {settings.sensitiveKind} data\n"
    (report.result.errorOutput = warning ↔ event.marked = true) ∧
      (report.result.errorOutput = "" ↔ event.marked = false)

end CommandLine

/-! ## Lookups that fail within the family -/

namespace Lookup
variable {σ : Type} {client : ClusterClient σ} {within : σ → Prop} {context : Context σ}

theorem inFamily_resolveType (hf : client.InFamily within) (hw : within context.world)
    (type : GroupVersionKind) :
    (resolveType (.cluster client) type context).InFamily (within ·.world) := by
  have hresolving := resolving_resolveType (.cluster client) type context
  generalize resolveType (.cluster client) type context = resolved at hresolving ⊢
  cases hresolving with
  | remembered hd => exact ⟨hw, fun _ he => nomatch he⟩
  | discovered hd ha =>
    subst ha
    have hasked := hf.discover type context.world hw
    exact ⟨hasked.state, hasked.isLookup⟩

theorem inFamily_readAnswer (hf : client.InFamily within) (hw : within context.world)
    (identity : Identity) (descriptor : Descriptor) :
    (readAnswer (.cluster client) identity descriptor context).InFamily (within ·.world) := by
  have hreading := reading_readAnswer (.cluster client) identity descriptor context
  generalize readAnswer (.cluster client) identity descriptor context = outcome at hreading ⊢
  cases hreading with
  | remembered hr => exact ⟨hw, fun _ he => nomatch he⟩
  | listed hr hl ha =>
    subst ha
    have hasked := hf.list descriptor identity.type.kind identity.inNamespace identity.selector _ hw
    exact ⟨hasked.state, fun failure he => hasked.isLookup failure (Results.map_eq_error_iff.mp he)⟩
  | got hr hl ha =>
    subst ha
    have hasked := hf.get descriptor identity.type.kind identity.inNamespace identity.name _ hw
    exact ⟨hasked.state, fun failure he => hasked.isLookup failure (Results.map_eq_error_iff.mp he)⟩

end Lookup

namespace Evaluation
variable {σ : Type} {evaluation : Evaluation σ} {client : ClusterClient σ} {within : σ → Prop}
variable {context : Context σ}

theorem inFamily_answer (hf : client.InFamily within) (hs : evaluation.source = .cluster client)
    (hw : within context.world) (identity : Identity) :
    (evaluation.answer identity context).InFamily (within ·.world) := by
  have hresolved := Lookup.inFamily_resolveType hf hw identity.type
  have hcourse := course_answer evaluation identity context
  generalize evaluation.answer identity context = performed at hcourse ⊢
  rw [← hs] at hresolved
  cases hcourse with
  | unresolved ht => exact ⟨hresolved.state, fun _ he => by cases he; exact hresolved.isLookup _ ht⟩
  | refused ht ha => exact ⟨hresolved.state, fun _ he => by cases he; rfl⟩
  | admitted ht ha hr =>
    subst hr
    have hread := Lookup.inFamily_readAnswer hf hresolved.state identity
    rw [← hs] at hread
    exact ⟨(hread _).state, (hread _).isLookup⟩

/-- With a client that has no other failures, a lookup fails within the family. -/
theorem isLookup_lookupStrict (hf : client.InFamily within)
    (hs : evaluation.source = .cluster client) (hw : within context.world) {arguments : Arguments}
    {failure : Failure} (h : (evaluation.lookupStrict arguments context).result = .error failure) :
    failure.isLookup = true := by
  cases hi : arguments.identity evaluation.policy with
  | error found =>
    rw [lookupStrict_of_invalid hi] at h
    cases h
    exact Arguments.isLookup_of_identity hi
  | ok identity =>
    rw [lookupStrict_of_valid hi] at h
    exact (inFamily_answer hf hs hw identity).isLookup failure h

end Evaluation

namespace ObjectStore

theorem inFamily_call {α : Type} (operation : Operation) (answer : ObjectStore → Except Failure α)
    (h : ∀ store failure, answer store = .error failure → failure.isLookup = true)
    {store : ObjectStore} (ho : store.outages = []) :
    (call operation answer store).InFamily (·.outages = []) := by
  refine ⟨by rw [state_call]; exact ho, ?_⟩
  rw [result_call ho]
  exact h (store.counted operation)

/-- Without outages, all that fails is that a type or an object is not there. -/
theorem client_inFamily : client.InFamily (·.outages = []) where
  discover type _ ho := by
    refine inFamily_call .discover (·.resolve type) (fun store failure hf => ?_) ho
    simp only [resolve] at hf
    split at hf <;> cases hf
    rfl
  get descriptor kind inNamespace name _ ho := by
    refine inFamily_call .get (·.getDocument descriptor kind inNamespace name)
      (fun store failure hf => ?_) ho
    simp only [getDocument] at hf
    split at hf <;> cases hf
    rfl
  list descriptor kind inNamespace selector _ ho :=
    inFamily_call .list (fun store => .ok (store.select descriptor kind inNamespace selector))
      (fun _ _ hf => nomatch hf) ho

end ObjectStore

/-! ## The lookup of a template -/

namespace ClusterClient
variable {σ : Type}

/-- What a template's evaluation does, without the session around it. -/
theorem report_freshLookup (client : ClusterClient σ) (settings : LookupSettings) (world : σ)
    (arguments : Arguments) :
    let evaluation : Evaluation σ := ⟨settings.policy, .cluster client, settings.sensitiveKind⟩
    let outcome := evaluation.lookup arguments (.fresh world)
    (client.freshLookup settings world arguments).report =
      ⟨outcome.result.map some, outcome.journal⟩ := rfl

theorem marked_freshLookup (client : ClusterClient σ) (settings : LookupSettings) (world : σ)
    (arguments : Arguments) :
    let evaluation : Evaluation σ := ⟨settings.policy, .cluster client, settings.sensitiveKind⟩
    (client.freshLookup settings world arguments).marked =
      (evaluation.lookup arguments (.fresh world)).state.sensitive := by
  intro evaluation
  let session : Session σ := ((Session.start settings world).step ⟨client, none⟩
    (.create "template" (settings.options none) none)).1
  let member : Member σ := ⟨evaluation, .empty, .own 0⟩
  let context := (evaluation.lookup arguments (.fresh world)).state
  have hflag : (client.freshLookup settings world arguments).after.flag? "template" =
      some ((session.afterwards "template" member context).isSensitive member) := rfl
  rw [Event.marked, hflag, Session.isSensitive_afterwards]
  rfl

end ClusterClient

/-! ## Lines for a lookup -/

namespace CommandLine

/-- Options with their values in the next words are read up to the word that ends them. -/
theorem readWords_optionWords {flags : Flags} {options : List (Flag × String)} (rest : List String)
    (h : ∀ option ∈ options, option.1 ≠ .help ∧ classify flags option.1.word = .option option.1 none) :
    readWords flags true (optionWords options ++ "--" :: rest) = .ok ⟨options, rest⟩ := by
  induction options with
  | nil => rfl
  | cons option options ih =>
    obtain ⟨hhelp, hclass⟩ := h option List.mem_cons_self
    have hrest := ih fun found hm => h found (List.mem_cons_of_mem option hm)
    obtain ⟨flag, value⟩ := option
    have hwords : optionWords ((flag, value) :: options) =
        flag.word :: value :: optionWords options := rfl
    rw [hwords, List.cons_append, List.cons_append, readWords, hclass]
    cases flag with
    | help => exact absurd rfl hhelp
    | _ => simp only [hrest, Except.map, Words.withOption]

theorem LookupWords.classify_options {words : LookupWords} {option : Flag × String}
    (h : option ∈ words.options) :
    option.1 ≠ .help ∧ classify lookupFlags option.1.word = .option option.1 none := by
  have hflag : option.1 ∈ [Flag.inNamespace, .selector, .restriction, .allow] := by
    simp only [LookupWords.options, List.mem_cons, List.mem_append, List.mem_map] at h
    rcases h with rfl | (⟨_, _, rfl⟩ | ⟨_, _, rfl⟩) | ⟨_, _, rfl⟩ <;> simp
  generalize option.1 = flag at hflag
  revert flag
  decide

/-- The values that options have for a flag when each of them is for one flag. -/
theorem filter_map_flag (flag found : Flag) (values : List String) :
    ((values.map (Prod.mk flag)).filter (·.1 == found)).map (·.2) =
      if flag = found then values else [] := by
  by_cases hf : flag = found <;> simp [List.filter_map, Function.comp_def, hf]

theorem LookupWords.values_options (words : LookupWords) (positional : List String) :
    let read : Words := ⟨words.options, positional⟩
    read.values .inNamespace = [words.inNamespace] ∧ read.values .selector = words.selector.toList ∧
      read.values .restriction = words.restriction.toList ∧ read.values .allow = words.allow := by
  simp [Words.values, LookupWords.options, filter_map_flag]

theorem LookupWords.readCommand_spelling (words : LookupWords) :
    readCommand (optionWords words.options ++ ["--", words.apiVersion, words.kind, words.name]) =
      .ok (.lookup words) := by
  have hread := readWords_optionWords [words.apiVersion, words.kind, words.name]
    fun option (hm : option ∈ words.options) => classify_options hm
  obtain ⟨hnamespace, hselector, hrestriction, hallow⟩ :=
    words.values_options [words.apiVersion, words.kind, words.name]
  have hhelp : Words.asksHelp ⟨words.options, [words.apiVersion, words.kind, words.name]⟩ = false := by
    rw [Words.asksHelp, List.any_eq_false]
    exact fun option hm => by simp [(classify_options hm).1]
  simp only [readCommand, hread, bind, Except.bind, hhelp]
  have hlast (value : Option String) : value.toList.getLast? = value := by cases value <;> rfl
  simp [Words.value?, hnamespace, hselector, hrestriction, hallow, hlast]

theorem LookupWords.spelledBy_spelling (words : LookupWords) : words.SpelledBy words.spelling :=
  ⟨none, _, rfl, words.readCommand_spelling⟩

/-! ## What a command tells -/

/-- A warning is never shown as nothing. -/
theorem shown_warning_ne (kind : String) : shown s!"warning: result contains {kind} data\n" ≠ "" := by
  have hfirst : ∃ s, (s!"warning: result contains {kind} data\n").toList = 'w' :: s := by
    change ∃ s, ("warning: result contains " ++ kind ++ " data\n").toList = 'w' :: s
    rw [String.toList_append, String.toList_append]
    exact ⟨_, rfl⟩
  obtain ⟨s, hs⟩ := hfirst
  have hplain : Text.plain ('w' :: s) = 'w' :: Text.plain s := Text.plain_cons_of_ne (by decide) s
  simp [shown, hs, hplain]

-- Stated by itself because the equations of `remark` are too dear to unfold.
theorem remark_failed (failure : Failure) : (Result.failed failure).remark =
    if failure.isLookup then s!"Error: {failure.message}\n" else "" := rfl

variable {σ : Type} {report : RunReport} {settings : LookupSettings} {event : Event σ}

theorem RunReport.tells_failed {failure : Failure} (hf : failure.isLookup = true)
    (hj : report.journal = event.report.journal) (hr : report.result = .failed failure)
    (he : event.report.result = .error failure) : report.Tells settings event := by
  refine ⟨hj, ?_, ?_, ?_⟩
  · intro found hfound
    cases he.symm.trans hfound
    have hremark : (Result.failed failure).remark = s!"Error: {failure.message}\n" := by
      rw [remark_failed, if_pos hf]
    have hshown : (Result.failed failure).errorOutput = shown (Result.failed failure).remark := rfl
    rw [hr, hshown, hremark]
    exact ⟨rfl, rfl, rfl⟩
  · intro found hfound
    cases he.symm.trans hfound
  · intro found hfound
    cases he.symm.trans hfound

theorem RunReport.tells_answered {answer : Answer} (hj : report.journal = event.report.journal)
    (hr : report.result = .answered answer (if event.marked then some settings.sensitiveKind else none))
    (he : event.report.result = .ok (some answer)) : report.Tells settings event := by
  refine ⟨hj, ?_, ?_, ?_⟩
  · intro failure hfailure
    cases he.symm.trans hfailure
  · intro found hfound
    cases he.symm.trans hfound
    obtain ⟨value, hread, hsame⟩ :=
      Document.read?_print answer.toDocument ['\n'] (by simp [Document.isGap])
    rw [hr]
    refine ⟨rfl, answer, value, rfl, ?_, hsame⟩
    rw [← hread]
    congr 1
    simp [Result.output, Document.print]
  · intro found _ warning
    have hwarning : warning ≠ "" := shown_warning_ne settings.sensitiveKind
    have hnone : shown "" = "" := by simp [shown]
    rw [hr]
    cases event.marked with
    | true => exact ⟨iff_of_true rfl rfl, iff_of_false hwarning (by decide)⟩
    | false =>
      have hne : shown "" ≠ warning := by
        rw [hnone]
        exact hwarning.symm
      exact ⟨iff_of_false hne (by decide), iff_of_true hnone rfl⟩

/-- The lookup of a command line is that of a template. -/
theorem tells_runLookup {available : ConfigSource → Bool} (hc : canConnect available = true)
    {client : ClusterClient σ} {within : σ → Prop} (hf : client.InFamily within) {world : σ}
    (hw : within world) (level : Level) (settings : LookupSettings) (arguments : Arguments) :
    (runLookup available client world level settings arguments).Tells settings
      (client.freshLookup settings world arguments) := by
  have hreport := client.report_freshLookup settings world arguments
  have hmarked := client.marked_freshLookup settings world arguments
  let evaluation : Evaluation σ := ⟨settings.policy, .cluster client, settings.sensitiveKind⟩
  simp only [runLookup, hc, if_true]
  cases hr : (evaluation.lookup arguments (.fresh world)).result with
  | error failure =>
    have hperform : (evaluation.perform arguments .lenient (.fresh world)).result =
        .error failure := hr
    have hstrict := (Evaluation.perform_eq_error_iff .lenient).mp hperform
    have hlookup := Evaluation.isLookup_lookupStrict hf rfl hw hstrict.1
    simp only [evaluation] at hr
    simp only [hr] at hreport ⊢
    exact RunReport.tells_failed hlookup (by rw [hreport]) rfl (by rw [hreport]; rfl)
  | ok answer =>
    simp only [evaluation] at hr
    simp only [hr, ← hmarked] at hreport ⊢
    exact RunReport.tells_answered (by rw [hreport]) rfl (by rw [hreport]; rfl)

/-- The policy of a command is the one of the settings with its overrides. -/
theorem policyOf_eq_ok_iff_overrides {policy changed : Policy} {words : LookupWords} :
    policyOf policy words = .ok changed ↔ changed.Overrides policy words := by
  rw [policyOf_eq_ok_iff]
  constructor
  · rintro ⟨hr, ⟨hnone, hkept⟩ | ⟨hsome, hgiven⟩⟩
    · exact ⟨hr, fun _ => hkept, fun hsome => absurd hnone hsome⟩
    · exact ⟨hr, fun hnone => absurd hnone hsome, fun _ => hgiven⟩
  · rintro ⟨hr, hkept, hgiven⟩
    by_cases ha : words.allow = []
    · exact ⟨hr, .inl ⟨ha, hkept ha⟩⟩
    · exact ⟨hr, .inr ⟨ha, hgiven ha⟩⟩

theorem policyOf_eq_error_iff {policy : Policy} {words : LookupWords} {fault : String} :
    policyOf policy words = .error fault ↔
      words.allow ≠ [] ∧ Allowlist.parse (",".intercalate words.allow).toList = .error fault := by
  unfold policyOf
  by_cases ha : words.allow = []
  · simp [ha, bind, Except.bind]
  · simp only [List.isEmpty_eq_false_iff.mpr ha, Bool.false_eq_true, if_false]
    cases Allowlist.parse (",".intercalate words.allow).toList <;> simp [ha, bind, Except.bind]

end CommandLine

/-- The command line does exactly the lookup of a template. Whatever is to be looked up can be spelled. A
line that spells it is refused, with the cluster untouched, when the settings or the allowlist entries
cannot be read. Otherwise it tells how a template's lookup comes out on a fresh evaluation under the policy
of the settings with the overrides of the line. -/
theorem run_performs_lookup {σ : Type} (setting? : String → Option String)
    {available : CommandLine.ConfigSource → Bool} (hc : CommandLine.canConnect available = true)
    {client : ClusterClient σ} {within : σ → Prop} (hf : client.InFamily within) {world : σ}
    (hw : within world) (words : CommandLine.LookupWords) :
    words.SpelledBy words.spelling ∧
      ∀ line, words.SpelledBy line →
        let report := CommandLine.run setting? available client world line
        (∀ fault, Settings.load setting? = .error fault → report.Refuses) ∧
          ∀ settings, Settings.load setting? = .ok settings →
            (∀ fault, words.allow ≠ [] →
                Allowlist.parse (",".intercalate words.allow).toList = .error fault →
                  report.Refuses) ∧
              ∀ policy : Policy, policy.Overrides settings.lookup.policy words →
                let changed : LookupSettings := { settings.lookup with policy }
                report.Tells changed (client.freshLookup changed world words.arguments) := by
  refine ⟨words.spelledBy_spelling, ?_⟩
  rintro line ⟨level, rest, hprologue, hcommand⟩ report
  have hrun : report = CommandLine.run setting? available client world line := rfl
  simp only [CommandLine.run, hprologue] at hrun
  refine ⟨?_, fun settings hload => ⟨?_, ?_⟩⟩
  · intro fault hload
    rw [hrun, hload]
    exact ⟨rfl, rfl, rfl⟩
  · intro fault hgiven hparse
    have hpolicy : CommandLine.policyOf settings.lookup.policy words = .error fault :=
      CommandLine.policyOf_eq_error_iff.mpr ⟨hgiven, hparse⟩
    simp only [hload, CommandLine.runCommand, hcommand, hpolicy] at hrun
    rw [hrun]
    exact ⟨rfl, rfl, rfl⟩
  · intro policy hoverrides changed
    have hpolicy := CommandLine.policyOf_eq_ok_iff_overrides.mpr hoverrides
    simp only [hload, CommandLine.runCommand, hcommand, hpolicy] at hrun
    rw [hrun]
    exact CommandLine.tells_runLookup hc hf hw _ changed words.arguments

/-- An empty restriction on the line lifts the one of the variables. -/
theorem run_performs_lookup_unrestricted :
    let store : ObjectStore := { neighbourStore with outages := [] }
    let words : CommandLine.LookupWords := ⟨"v1", "Secret", "token", "team-b", none, some "", []⟩
    let line := ["lookup", "v1", "Secret", "token", "-nteam-b", "--restrict-namespace="]
    let faulty := line ++ ["--allow", "Node"]
    let policy : Policy := ⟨"", [⟨"", "Namespace", "*"⟩, ⟨"", "Node", "n1"⟩]⟩
    let settings : LookupSettings := ⟨policy, defaultSensitiveKind⟩
    let run := CommandLine.run restrictedSetting? (fun _ => true) ObjectStore.client store
    (run line).Tells settings (ObjectStore.client.freshLookup settings store words.arguments) ∧
      (run line).result.exitCode = 0 ∧ (run faulty).Refuses := by
  intro store words line faulty policy settings run
  have hload : Settings.load restrictedSetting? =
      .ok ⟨⟨⟨"team-a", policy.allowlist⟩, defaultSensitiveKind⟩, .info⟩ :=
    Results.toOption_eq_some_iff.mp (by decide +kernel)
  have hspelled : words.SpelledBy line :=
    ⟨none, line.tail, Results.toOption_eq_some_iff.mp (by decide +kernel),
      Results.toOption_eq_some_iff.mp (by decide +kernel)⟩
  have hfaulty : CommandLine.LookupWords.SpelledBy { words with allow := ["Node"] } faulty :=
    ⟨none, faulty.tail, Results.toOption_eq_some_iff.mp (by decide +kernel),
      Results.toOption_eq_some_iff.mp (by decide +kernel)⟩
  have hconnect : CommandLine.canConnect (fun _ => true) = true := rfl
  have hcalm : store.outages = [] := rfl
  have hperforms := run_performs_lookup restrictedSetting? hconnect ObjectStore.client_inFamily hcalm
  have htells := ((hperforms words).2 line hspelled).2 _ hload
  have hrefuses := ((hperforms { words with allow := ["Node"] }).2 faulty hfaulty).2 _ hload
  have hline := htells.2 policy ⟨rfl, fun _ => rfl, fun h => absurd rfl h⟩
  have hparse : Allowlist.parse "Node".toList = .error (Permit.malformed "Node".toList) := rfl
  exact ⟨hline, by decide +kernel, hrefuses.1 _ (by simp) hparse⟩

end ClusterLookup
