import ClusterLookup.Proofs.Trace

/-!
# Confinement of restricted evaluations

An evaluation that is restricted to a namespace reads in that namespace alone, and cluster-scoped
objects only as far as its allowlist goes. The collaborators are arbitrary, so this does not depend on
what they answer; nor does it depend on what the cache holds.

It is said twice: of the calls in the journal, and by the source itself. Another source that answers
alike to what may be asked leads to the same outcome.
-/

namespace ClusterLookup

/-- A call that reads objects, with the descriptor that it carries, if any. A list has the empty
name. -/
structure Read where
  descriptor : Option Descriptor
  kind : String
  inNamespace : String
  name : String

def Entry.read? : Entry → Option Read
  | .client (.get descriptor kind inNamespace name _) =>
    some ⟨some descriptor, kind, inNamespace, name⟩
  | .client (.list descriptor kind inNamespace _ _) => some ⟨some descriptor, kind, inNamespace, ""⟩
  | .registry (.get _ type inNamespace name _) => some ⟨none, type.kind, inNamespace, name⟩
  | .registry (.list _ type inNamespace _ _) => some ⟨none, type.kind, inNamespace, ""⟩
  | _ => none

/-- Whether an entry is a call to a collaborator or a request that a collaborator made. -/
def Entry.isCall : Entry → Bool
  | .log _ => false
  | .count _ => false
  | _ => true

def Journal.reads (journal : Journal) : List Read := journal.filterMap Entry.read?

/-- Whether a type was resolved to a descriptor by a lookup with that journal. From a cluster it may
have been remembered before. -/
def Source.Resolved {σ : Type} (source : Source σ) (cache : AnswerCache) (type : GroupVersionKind)
    (journal : Journal) (descriptor : Descriptor) : Prop :=
  match source with
  | .cluster _ => cache.descriptor? type = some descriptor ∨
      Entry.client (.discover type (.ok descriptor)) ∈ journal
  | .registry _ _ => Entry.registry (.resolveType type (.ok descriptor)) ∈ journal

/-- Whether no object was read, nor looked for in the cache. -/
def Journal.Untouched (journal : Journal) : Prop :=
  journal.reads = [] ∧ ∀ hit, Entry.count (.probes hit) ∉ journal

namespace Evaluation
variable {σ : Type}

/-- The descriptor to which a lookup resolved the type that its arguments name. -/
def Resolved (evaluation : Evaluation σ) (cache : AnswerCache) (arguments : Arguments)
    (journal : Journal) (descriptor : Descriptor) : Prop :=
  ∃ group version, splitApiVersion arguments.apiVersion = some (group, version) ∧
    evaluation.source.Resolved cache ⟨group, version, arguments.kind⟩ journal descriptor

/-- Whether a restricted evaluation must not read what a lookup asks for, by the descriptor of it. -/
def Forbids (evaluation : Evaluation σ) (arguments : Arguments) (descriptor : Descriptor) : Prop :=
  descriptor.namespaced = false ∧
    evaluation.policy.allowlist.allows descriptor.group arguments.kind arguments.name = false

/-- What a lookup of a restricted evaluation keeps to. -/
structure Confined (evaluation : Evaluation σ) (cache : AnswerCache) (arguments : Arguments)
    (journal : Journal) : Prop where
  inNamespace : ∀ read ∈ journal.reads, read.inNamespace = evaluation.policy.restriction
  asked : ∀ read ∈ journal.reads, read.kind = arguments.kind ∧ read.name = arguments.name
  resolved : ∀ read ∈ journal.reads, ∃ descriptor,
    evaluation.Resolved cache arguments journal descriptor ∧
      ∀ carried, read.descriptor = some carried → carried = descriptor
  allowed : ∀ read ∈ journal.reads, ∀ descriptor,
    evaluation.Resolved cache arguments journal descriptor → descriptor.namespaced = false →
      evaluation.policy.allowlist.allows descriptor.group read.kind read.name = true
  elsewhere : arguments.inNamespace ≠ "" → arguments.inNamespace ≠ evaluation.policy.restriction →
    ∀ entry ∈ journal, entry.isCall = false
  refused : (Entry.count (.denials .clusterScope) ∈ journal ∨
      ∃ descriptor, evaluation.Resolved cache arguments journal descriptor ∧
        evaluation.Forbids arguments descriptor) → journal.Untouched

end Evaluation

/-! ## What the stages enter -/

def Entry.isResolution : Entry → Bool
  | .client (.discover _ _) => true
  | .registry (.resolveType _ _) => true
  | _ => false

theorem Entry.read?_of_isResolution {entry : Entry} (h : entry.isResolution = true) :
    entry.read? = none := by
  unfold Entry.isResolution at h
  split at h
  · rfl
  · rfl
  · cases h

theorem Journal.mem_reads {journal : Journal} {read : Read} :
    read ∈ journal.reads ↔ ∃ entry ∈ journal, entry.read? = some read :=
  List.mem_filterMap

theorem Journal.untouched_iff {journal : Journal} : journal.Untouched ↔
    ∀ entry ∈ journal, entry.read? = none ∧ ∀ hit, entry ≠ .count (.probes hit) := by
  constructor
  · rintro ⟨hr, hp⟩ entry he
    refine ⟨List.filterMap_eq_nil_iff.mp hr entry he, ?_⟩
    rintro hit rfl
    exact hp hit he
  · intro h
    refine ⟨List.filterMap_eq_nil_iff.mpr fun entry he => (h entry he).1, ?_⟩
    intro hit hm
    exact (h _ hm).2 hit rfl

theorem read?_entry (notice : Notice) : notice.entry.read? = none := by cases notice <;> rfl

theorem isResolution_entry (notice : Notice) : notice.entry.isResolution = false := by
  cases notice <;> rfl

theorem entry_ne_count (notice : Notice) (counter : Counter) : notice.entry ≠ .count counter := by
  cases notice <;> simp [Notice.entry]

def Identity.readFrom {σ : Type} (identity : Identity) (descriptor : Descriptor) :
    Source σ → Read
  | .cluster _ => ⟨some descriptor, identity.type.kind, identity.inNamespace, identity.name⟩
  | .registry _ _ => ⟨none, identity.type.kind, identity.inNamespace, identity.name⟩

namespace Lookup
variable {σ : Type} {source : Source σ} {type : GroupVersionKind} {identity : Identity}
variable {descriptor : Descriptor} {context : Context σ} {entry : Entry}

theorem mem_refusalEntries {failure : Failure} (h : entry ∈ refusalEntries failure) :
    (∃ guard, entry = .count (.denials guard)) ∨ ∃ record, entry = .log record := by
  unfold refusalEntries at h
  split at h
  · simp only [List.mem_cons, List.not_mem_nil, or_false] at h
    exact h.imp (fun h => ⟨_, h⟩) fun h => ⟨_, h⟩
  · simp only [List.mem_cons, List.not_mem_nil, or_false] at h
    exact h.imp (fun h => ⟨_, h⟩) fun h => ⟨_, h⟩
  · simp at h

theorem isCall_of_mem_refusalEntries {failure : Failure} (h : entry ∈ refusalEntries failure) :
    entry.isCall = false := by
  rcases mem_refusalEntries h with ⟨guard, rfl⟩ | ⟨record, rfl⟩ <;> rfl

theorem mem_resolveType (h : entry ∈ (resolveType source type context).journal) :
    (∃ notice : Notice, entry = notice.entry) ∨ entry.isResolution = true := by
  have hresolving := resolving_resolveType source type context
  generalize resolveType source type context = resolved at hresolving h
  cases hresolving with
  | remembered hd => cases h
  | discovered hd ha =>
    simp only [List.mem_append, List.mem_map, List.mem_singleton] at h
    rcases h with ⟨notice, _, rfl⟩ | rfl
    · exact .inl ⟨notice, rfl⟩
    · exact .inr rfl
  | watched ha =>
    simp only [List.mem_append, List.mem_map, List.mem_singleton] at h
    rcases h with ⟨notice, _, rfl⟩ | rfl
    · exact .inl ⟨notice, rfl⟩
    · exact .inr rfl

/-- A type is resolved exactly when the stage that resolves it succeeds. -/
theorem resolved_iff : source.Resolved context.cache type (resolveType source type context).journal
    descriptor ↔ (resolveType source type context).result = .ok descriptor := by
  cases source with
  | cluster client =>
    cases hc : context.cache.descriptor? type with
    | some found => simp [Source.Resolved, resolveType_of_remembered hc, hc]
    | none =>
      have hn : ∀ notice : Notice, notice.entry ≠ .client (.discover type (.ok descriptor)) := by
        intro notice
        cases notice <;> simp [Notice.entry]
      simp [Source.Resolved, resolveType_of_unknown hc, hc, hn, eq_comm]
  | registry registry watcher =>
    have hn : ∀ notice : Notice, notice.entry ≠ .registry (.resolveType type (.ok descriptor)) := by
      intro notice
      cases notice <;> simp [Notice.entry]
    rw [resolveType_registry]
    simp only [Results.mapError_eq_ok_iff]
    simp [Source.Resolved, hn, eq_comm]

theorem mem_probeEntries {cached : Option (List Document)}
    (h : entry ∈ probeEntries identity cached) :
    (∃ notice : Notice, entry = notice.entry) ∨ ∃ hit, entry = .count (.probes hit) := by
  simp only [probeEntries, List.mem_cons, List.not_mem_nil, or_false] at h
  rcases h with rfl | rfl
  · exact .inr ⟨_, rfl⟩
  · exact .inl ⟨.log _, rfl⟩

theorem isCall_of_mem_probeEntries {cached : Option (List Document)}
    (h : entry ∈ probeEntries identity cached) : entry.isCall = false := by
  simp only [probeEntries, List.mem_cons, List.not_mem_nil, or_false] at h
  rcases h with rfl | rfl <;> rfl

theorem mem_absenceEntries {answer : Except Failure Document}
    (h : entry ∈ absenceEntries identity answer) : ∃ notice : Notice, entry = notice.entry := by
  unfold absenceEntries at h
  split at h
  · simp at h
  · split at h
    · exact ⟨.log _, List.mem_singleton.mp h⟩
    · simp at h

/-- Reading an answer enters nothing but notices, probes and reads of what the question asks for. -/
theorem mem_readAnswer (h : entry ∈ (readAnswer source identity descriptor context).journal) :
    (∃ notice : Notice, entry = notice.entry) ∨ (∃ hit, entry = .count (.probes hit)) ∨
      entry.read? = some (identity.readFrom descriptor source) := by
  have hname : identity.isList = true → identity.name = "" := Identity.isList_eq_true_iff.mp
  have hreading := reading_readAnswer source identity descriptor context
  generalize readAnswer source identity descriptor context = outcome at hreading h
  cases hreading with
  | remembered hf => exact (mem_probeEntries h).imp_right .inl
  | listed hf hl ha =>
    simp only [List.mem_append, List.mem_map, List.mem_singleton] at h
    rcases h with h | ⟨notice, _, rfl⟩ | rfl
    · exact (mem_probeEntries h).imp_right .inl
    · exact .inl ⟨notice, rfl⟩
    · exact .inr (.inr (by simp [Entry.read?, Identity.readFrom, hname hl]))
  | got hf hl ha =>
    simp only [List.mem_append, List.mem_map, List.mem_singleton] at h
    rcases h with h | (⟨notice, _, rfl⟩ | rfl) | h
    · exact (mem_probeEntries h).imp_right .inl
    · exact .inl ⟨notice, rfl⟩
    · exact .inr (.inr rfl)
    · exact .inl (mem_absenceEntries h)
  | watchedList hl ha =>
    simp only [List.mem_append, List.mem_map, List.mem_singleton] at h
    rcases h with ⟨notice, _, rfl⟩ | rfl
    · exact .inl ⟨notice, rfl⟩
    · exact .inr (.inr (by simp [Entry.read?, Identity.readFrom, hname hl]))
  | watchedGet hl ha =>
    simp only [List.mem_append, List.mem_map, List.mem_singleton] at h
    rcases h with ⟨notice, _, rfl⟩ | rfl
    · exact .inl ⟨notice, rfl⟩
    · exact .inr (.inr rfl)

theorem isResolution_of_mem_readAnswer
    (h : entry ∈ (readAnswer source identity descriptor context).journal) :
    entry.isResolution = false := by
  rcases mem_readAnswer h with ⟨notice, rfl⟩ | ⟨hit, rfl⟩ | hr
  · exact isResolution_entry notice
  · rfl
  · cases hb : entry.isResolution with
    | false => rfl
    | true => simp [Entry.read?_of_isResolution hb] at hr

end Lookup

theorem Source.resolved_append {σ : Type} {source : Source σ} {cache : AnswerCache}
    {type : GroupVersionKind} {first second : Journal} {descriptor : Descriptor}
    (h : ∀ entry ∈ second, entry.isResolution = false) :
    source.Resolved cache type (first ++ second) descriptor ↔
      source.Resolved cache type first descriptor := by
  have hs : ∀ entry : Entry, entry.isResolution = true → entry ∉ second := by
    intro entry hr hm
    simp [h entry hm] at hr
  cases source with
  | cluster client => simp [Source.Resolved, hs (.client (.discover type (.ok descriptor))) rfl]
  | registry registry watcher =>
    simp [Source.Resolved, hs (.registry (.resolveType type (.ok descriptor))) rfl]

/-! ## Lookups of a restricted evaluation -/

namespace Evaluation
variable {σ : Type} {evaluation : Evaluation σ} {cache : AnswerCache} {context : Context σ}
variable {arguments : Arguments} {identity : Identity} {descriptor : Descriptor} {journal : Journal}

theorem resolved_of_valid (hi : arguments.identity evaluation.policy = .ok identity) :
    evaluation.Resolved cache arguments journal descriptor ↔
      evaluation.source.Resolved cache identity.type journal descriptor := by
  obtain ⟨_, _, hs, _, hk, _⟩ := Arguments.identity_eq_ok_iff.mp hi
  constructor
  · intro hx
    obtain ⟨group, version, hs', h⟩ := hx
    rw [hs, Option.some.injEq, Prod.mk.injEq] at hs'
    rw [← hs'.1, ← hs'.2, hk] at h
    exact h
  · intro h
    refine ⟨_, _, hs, ?_⟩
    rw [hk]
    exact h

theorem confined_of_untouched (h : journal.Untouched)
    (he : arguments.inNamespace ≠ "" → arguments.inNamespace ≠ evaluation.policy.restriction →
      ∀ entry ∈ journal, entry.isCall = false) :
    evaluation.Confined cache arguments journal where
  inNamespace read hr := by simp [h.1] at hr
  asked read hr := by simp [h.1] at hr
  resolved read hr := by simp [h.1] at hr
  allowed read hr := by simp [h.1] at hr
  elsewhere := he
  refused _ := h

theorem untouched_refusalEntries (failure : Failure) :
    Journal.Untouched (Lookup.refusalEntries failure) := by
  apply Journal.untouched_iff.mpr
  intro entry he
  rcases Lookup.mem_refusalEntries he with ⟨guard, rfl⟩ | ⟨record, rfl⟩ <;>
    exact ⟨rfl, by simp⟩

theorem untouched_resolveType (source : Source σ) (type : GroupVersionKind) (context : Context σ) :
    Journal.Untouched (Lookup.resolveType source type context).journal := by
  apply Journal.untouched_iff.mpr
  intro entry he
  rcases Lookup.mem_resolveType he with ⟨notice, rfl⟩ | hr
  · exact ⟨read?_entry notice, fun hit => entry_ne_count notice _⟩
  · refine ⟨Entry.read?_of_isResolution hr, ?_⟩
    rintro hit rfl
    cases hr

theorem untouched_append {first second : Journal} (hf : first.Untouched) (hs : second.Untouched) :
    Journal.Untouched (first ++ second) := by
  apply Journal.untouched_iff.mpr
  intro entry he
  rcases List.mem_append.mp he with he | he
  · exact Journal.untouched_iff.mp hf entry he
  · exact Journal.untouched_iff.mp hs entry he

/-- What a question that the guard lets pass makes an evaluation read. -/
theorem mem_reads_of_admitted {read : Read}
    (h : read ∈ Journal.reads ((Lookup.resolveType evaluation.source identity.type context).journal ++
      (Lookup.readAnswer evaluation.source identity descriptor
        (Lookup.resolveType evaluation.source identity.type context).state).journal)) :
    read = identity.readFrom descriptor evaluation.source := by
  obtain ⟨entry, he, hr⟩ := Journal.mem_reads.mp h
  rcases List.mem_append.mp he with he | he
  · have hu := untouched_resolveType evaluation.source identity.type context
    simp [(Journal.untouched_iff.mp hu entry he).1] at hr
  · rcases Lookup.mem_readAnswer he with ⟨notice, rfl⟩ | ⟨hit, rfl⟩ | ha
    · simp [read?_entry] at hr
    · simp [Entry.read?] at hr
    · exact Option.some.inj (hr.symm.trans ha)

theorem resolved_of_admitted {next : Context σ} {other : Descriptor}
    (hi : arguments.identity evaluation.policy = .ok identity)
    (ht : (Lookup.resolveType evaluation.source identity.type context).result = .ok descriptor) :
    evaluation.Resolved context.cache arguments
      ((Lookup.resolveType evaluation.source identity.type context).journal ++
        (Lookup.readAnswer evaluation.source identity descriptor next).journal) other ↔
      other = descriptor := by
  rw [resolved_of_valid hi,
    Source.resolved_append fun entry he => Lookup.isResolution_of_mem_readAnswer he,
    Lookup.resolved_iff, ht, Except.ok.injEq]
  exact eq_comm

theorem allows_of_admits (hr : evaluation.policy.restriction.isEmpty = false)
    (ha : evaluation.policy.admits descriptor arguments.kind arguments.name = true)
    (hd : descriptor.namespaced = false) :
    evaluation.policy.allowlist.allows descriptor.group arguments.kind arguments.name = true := by
  simpa [Policy.admits, hd, hr] using ha

theorem confined_of_admitted {journal : Journal} {read : Read}
    (hr : evaluation.policy.restriction.isEmpty = false)
    (ha : evaluation.policy.admits descriptor arguments.kind arguments.name = true)
    (hread : read.inNamespace = evaluation.policy.restriction ∧ read.kind = arguments.kind ∧
      read.name = arguments.name ∧ ∀ carried, read.descriptor = some carried → carried = descriptor)
    (hreads : ∀ r ∈ journal.reads, r = read)
    (hres : ∀ other, evaluation.Resolved cache arguments journal other ↔ other = descriptor)
    (hden : Entry.count (.denials .clusterScope) ∉ journal)
    (he : arguments.inNamespace ≠ "" → arguments.inNamespace ≠ evaluation.policy.restriction →
      ∀ entry ∈ journal, entry.isCall = false) :
    evaluation.Confined cache arguments journal where
  inNamespace r hm := hreads r hm ▸ hread.1
  asked r hm := hreads r hm ▸ ⟨hread.2.1, hread.2.2.1⟩
  resolved r hm := ⟨descriptor, (hres descriptor).mpr rfl, hreads r hm ▸ hread.2.2.2⟩
  allowed r hm other ho hd := by
    obtain rfl := (hres other).mp ho
    rw [hreads r hm, hread.2.1, hread.2.2.1]
    exact allows_of_admits hr ha hd
  elsewhere := he
  refused := by
    rintro (hc | ⟨other, ho, hd, hf⟩)
    · exact absurd hc hden
    · obtain rfl := (hres other).mp ho
      simp [allows_of_admits hr ha hd] at hf

theorem denials_not_mem_of_admitted {source : Source σ} {type : GroupVersionKind}
    {next : Context σ} (guard : Guard) :
    Entry.count (.denials guard) ∉ (Lookup.resolveType source type context).journal ++
      (Lookup.readAnswer source identity descriptor next).journal := by
  intro hm
  rcases List.mem_append.mp hm with hm | hm
  · rcases Lookup.mem_resolveType hm with ⟨notice, hn⟩ | h
    · exact entry_ne_count notice _ hn.symm
    · cases h
  · rcases Lookup.mem_readAnswer hm with ⟨notice, hn⟩ | ⟨hit, hp⟩ | h
    · exact entry_ne_count notice _ hn.symm
    · cases hp
    · cases h

theorem lookupStrict_confined (evaluation : Evaluation σ) (arguments : Arguments)
    (context : Context σ) (hr : evaluation.policy.restriction ≠ "") :
    evaluation.Confined context.cache arguments (evaluation.lookupStrict arguments context).journal := by
  have hr' : evaluation.policy.restriction.isEmpty = false := by simpa using hr
  cases hi : arguments.identity evaluation.policy with
  | error failure =>
    rw [lookupStrict_of_invalid hi]
    apply confined_of_untouched (untouched_refusalEntries failure)
    exact fun _ _ _ => Lookup.isCall_of_mem_refusalEntries
  | ok identity =>
    obtain ⟨_, hn, _, _, hk, hname⟩ := Arguments.identity_eq_ok_iff.mp hi
    have hns := Policy.eq_restriction_of_effectiveNamespace hr' hn
    -- Arguments that name another namespace do not get as far as a question.
    have elsewhere : arguments.inNamespace ≠ "" →
        arguments.inNamespace ≠ evaluation.policy.restriction → ∀ entry ∈ (evaluation.lookupStrict
          arguments context).journal, entry.isCall = false := by
      intro h1 h2
      simp [Policy.effectiveNamespace, hr, h1, h2] at hn
    simp only [lookupStrict_of_valid hi] at elsewhere ⊢
    cases ht : (Lookup.resolveType evaluation.source identity.type context).result with
    | error failure =>
      simp only [answer_of_unresolved ht] at elsewhere ⊢
      exact confined_of_untouched (untouched_resolveType _ _ _) elsewhere
    | ok descriptor =>
      cases ha : evaluation.policy.admits descriptor identity.type.kind identity.name with
      | false =>
        simp only [answer_of_refused ht ha] at elsewhere ⊢
        exact confined_of_untouched
          (untouched_append (untouched_resolveType _ _ _) (untouched_refusalEntries _)) elsewhere
      | true =>
        simp only [answer_of_admitted ht ha] at elsewhere ⊢
        rw [← hk, ← hname] at ha
        refine confined_of_admitted hr' ha ?_ (fun read hm => mem_reads_of_admitted hm)
          (fun other => resolved_of_admitted hi ht) ?_ elsewhere
        · cases evaluation.source <;> simp [Identity.readFrom, hns, hk, hname]
        · exact denials_not_mem_of_admitted _

end Evaluation

/-! ## Entries beside the answer -/

/-- Whether an entry tells how a lookup went on the whole, or is a log record. -/
def Entry.isPlain : Entry → Bool
  | .log _ => true
  | .count (.lookups _ _) => true
  | _ => false

theorem Entry.read?_of_isPlain {entry : Entry} (h : entry.isPlain = true) : entry.read? = none := by
  unfold Entry.isPlain at h
  split at h
  · rfl
  · rfl
  · cases h

theorem Entry.isCall_of_isPlain {entry : Entry} (h : entry.isPlain = true) :
    entry.isCall = false := by
  unfold Entry.isPlain at h
  split at h
  · rfl
  · rfl
  · cases h

/-- Journals that differ in plain entries alone. -/
def Journal.Alike (first second : Journal) : Prop :=
  ∀ entry : Entry, entry.isPlain = false → (entry ∈ first ↔ entry ∈ second)

namespace Journal.Alike
variable {first second : Journal}

theorem mem_reads (h : first.Alike second) {read : Read} :
    read ∈ first.reads ↔ read ∈ second.reads := by
  simp only [Journal.mem_reads]
  constructor
  · intro hx
    obtain ⟨entry, he, hr⟩ := hx
    cases hp : entry.isPlain with
    | true => simp [Entry.read?_of_isPlain hp] at hr
    | false => exact ⟨entry, (h entry hp).mp he, hr⟩
  · intro hx
    obtain ⟨entry, he, hr⟩ := hx
    cases hp : entry.isPlain with
    | true => simp [Entry.read?_of_isPlain hp] at hr
    | false => exact ⟨entry, (h entry hp).mpr he, hr⟩

theorem resolved {σ : Type} {source : Source σ} {cache : AnswerCache} {type : GroupVersionKind}
    {descriptor : Descriptor} (h : first.Alike second) :
    source.Resolved cache type first descriptor ↔ source.Resolved cache type second descriptor := by
  cases source with
  | cluster client => simp only [Source.Resolved, h (.client (.discover type (.ok descriptor))) rfl]
  | registry registry watcher =>
    simp only [Source.Resolved, h (.registry (.resolveType type (.ok descriptor))) rfl]

theorem untouched (h : first.Alike second) (hu : first.Untouched) : second.Untouched := by
  refine ⟨?_, fun hit hm => hu.2 hit ((h _ rfl).mpr hm)⟩
  apply List.eq_nil_iff_forall_not_mem.mpr
  intro read hm
  have hr := h.mem_reads.mpr hm
  simp [hu.1] at hr

theorem confined {σ : Type} {evaluation : Evaluation σ} {cache : AnswerCache}
    {arguments : Arguments} (h : first.Alike second) (hc : evaluation.Confined cache arguments first) :
    evaluation.Confined cache arguments second := by
  have hres : ∀ descriptor, evaluation.Resolved cache arguments second descriptor ↔
      evaluation.Resolved cache arguments first descriptor := by
    intro descriptor
    simp only [Evaluation.Resolved, h.resolved]
  refine ⟨?_, ?_, ?_, ?_, ?_, ?_⟩
  · exact fun read hm => hc.inNamespace read (h.mem_reads.mpr hm)
  · exact fun read hm => hc.asked read (h.mem_reads.mpr hm)
  · intro read hm
    obtain ⟨descriptor, hd, hcarried⟩ := hc.resolved read (h.mem_reads.mpr hm)
    exact ⟨descriptor, (hres descriptor).mpr hd, hcarried⟩
  · intro read hm descriptor hd
    exact hc.allowed read (h.mem_reads.mpr hm) descriptor ((hres descriptor).mp hd)
  · intro h1 h2 entry he
    cases hp : entry.isPlain with
    | true => exact Entry.isCall_of_isPlain hp
    | false => exact hc.elsewhere h1 h2 entry ((h entry hp).mpr he)
  · intro hf
    apply h.untouched (hc.refused _)
    simp only [hres] at hf
    exact hf.imp_left (h _ rfl).mpr

end Journal.Alike

namespace Evaluation
variable {σ : Type}

theorem isPlain_of_mem_closingEntries {evaluation : Evaluation σ} {arguments : Arguments}
    {result : Except Failure Answer} {entry : Entry}
    (h : entry ∈ closingEntries evaluation arguments result) : entry.isPlain = true := by
  unfold closingEntries at h
  split at h
  · simp only [List.mem_cons, List.not_mem_nil, or_false] at h
    rcases h with rfl | rfl <;> rfl
  · split at h
    · simp only [List.mem_cons, List.not_mem_nil, or_false] at h
      rcases h with rfl | rfl <;> rfl
    · split at h
      · simp only [List.mem_cons, List.not_mem_nil, or_false] at h
        rcases h with rfl | rfl <;> rfl
      · simp at h

theorem alike_lookup (evaluation : Evaluation σ) (arguments : Arguments) (context : Context σ) :
    Journal.Alike (evaluation.lookupStrict arguments context).journal
      (evaluation.lookup arguments context).journal := by
  intro entry hp
  rw [lookup_eq]
  simp only [List.mem_cons, List.mem_append]
  constructor
  · exact fun h => .inr (.inl h)
  · rintro (rfl | h | h)
    · cases hp
    · exact h
    · simp [isPlain_of_mem_closingEntries h] at hp

/-- A lookup calls nobody if it does not when a missing object is a failure. -/
theorem isCall_of_mem_perform {evaluation : Evaluation σ} {arguments : Arguments} {context : Context σ}
    (h : ∀ entry ∈ (evaluation.lookupStrict arguments context).journal, entry.isCall = false)
    (strictness : Strictness) :
    ∀ entry ∈ (evaluation.perform arguments strictness context).journal, entry.isCall = false := by
  cases strictness with
  | strict => exact h
  | lenient =>
    intro entry he
    cases hp : entry.isPlain with
    | true => exact Entry.isCall_of_isPlain hp
    | false => exact h entry ((alike_lookup evaluation arguments context entry hp).mpr he)

theorem perform_confined (evaluation : Evaluation σ) (arguments : Arguments) (strictness : Strictness)
    (context : Context σ) (hr : evaluation.policy.restriction ≠ "") :
    evaluation.Confined context.cache arguments
      (evaluation.perform arguments strictness context).journal := by
  have hs := lookupStrict_confined evaluation arguments context hr
  cases strictness with
  | lenient => exact (alike_lookup evaluation arguments context).confined hs
  | strict => exact hs

end Evaluation

/-! ## What a restricted evaluation can tell apart -/

/-- Whether two sources answer alike to what a restricted evaluation may ask them. -/
inductive Source.AgreeWithin {σ : Type} (policy : Policy) : Source σ → Source σ → Prop where
  | cluster {first second : ClusterClient σ}
      (discover : ∀ type, first.discover type = second.discover type)
      (get : ∀ descriptor kind name, policy.admits descriptor kind name = true →
        first.get descriptor kind policy.restriction name =
          second.get descriptor kind policy.restriction name)
      (list : ∀ descriptor kind selector, policy.admits descriptor kind "" = true →
        first.list descriptor kind policy.restriction selector =
          second.list descriptor kind policy.restriction selector) :
      AgreeWithin policy (.cluster first) (.cluster second)
  | registry {first second : Registry σ} {watcher : Identity}
      (resolveType : ∀ type, first.resolveType type = second.resolveType type)
      (get : ∀ type name, first.get watcher type policy.restriction name =
        second.get watcher type policy.restriction name)
      (list : ∀ type selector, first.list watcher type policy.restriction selector =
        second.list watcher type policy.restriction selector) :
      AgreeWithin policy (.registry first watcher) (.registry second watcher)

namespace Source.AgreeWithin
variable {σ : Type} {policy : Policy} {source other : Source σ}

theorem path_eq (h : source.AgreeWithin policy other) : source.path = other.path := by
  cases h <;> rfl

theorem resolveType_eq (h : source.AgreeWithin policy other) (type : GroupVersionKind) :
    Lookup.resolveType source type = Lookup.resolveType other type := by
  cases h with
  | cluster discover _ _ => simp only [Lookup.resolveType, discover]
  | registry resolveType _ _ => simp only [Lookup.resolveType, resolveType]

theorem listDocuments_eq (h : source.AgreeWithin policy other) {identity : Identity}
    {descriptor : Descriptor} (hn : identity.inNamespace = policy.restriction)
    (ha : policy.admits descriptor identity.type.kind "" = true) :
    Lookup.listDocuments source identity descriptor =
      Lookup.listDocuments other identity descriptor := by
  cases h with
  | cluster _ _ list => simp only [Lookup.listDocuments, hn, list _ _ _ ha]
  | registry _ _ list => simp only [Lookup.listDocuments, hn, list]

theorem getDocument_eq (h : source.AgreeWithin policy other) {identity : Identity}
    {descriptor : Descriptor} (hn : identity.inNamespace = policy.restriction)
    (ha : policy.admits descriptor identity.type.kind identity.name = true) :
    Lookup.getDocument source identity descriptor =
      Lookup.getDocument other identity descriptor := by
  cases h with
  | cluster _ get _ => simp only [Lookup.getDocument, hn, get _ _ _ ha]
  | registry _ get _ => simp only [Lookup.getDocument, hn, get]

theorem readAnswer_eq (h : source.AgreeWithin policy other) {identity : Identity}
    {descriptor : Descriptor} (hn : identity.inNamespace = policy.restriction)
    (ha : policy.admits descriptor identity.type.kind identity.name = true) :
    Lookup.readAnswer source identity descriptor = Lookup.readAnswer other identity descriptor := by
  unfold Lookup.readAnswer
  cases hl : identity.isList with
  | true =>
    rw [Identity.isList_eq_true_iff.mp hl] at ha
    rw [h.listDocuments_eq hn ha]
    rfl
  | false =>
    rw [h.getDocument_eq hn ha]
    rfl

end Source.AgreeWithin

namespace Evaluation
variable {σ : Type} {evaluation : Evaluation σ} {other : Source σ}

theorem answer_of_agree (h : evaluation.source.AgreeWithin evaluation.policy other)
    {identity : Identity} (hn : identity.inNamespace = evaluation.policy.restriction)
    (context : Context σ) :
    { evaluation with source := other }.answer identity context =
      evaluation.answer identity context := by
  unfold answer
  rw [← h.resolveType_eq]
  cases ht : (Lookup.resolveType evaluation.source identity.type context).result with
  | error failure => rw [Action.bind_apply_of_error ht, Action.bind_apply_of_error ht]
  | ok descriptor =>
    rw [Action.bind_apply_of_ok ht, Action.bind_apply_of_ok ht]
    cases ha : evaluation.policy.admits descriptor identity.type.kind identity.name with
    | false =>
      have hother : { evaluation with source := other }.policy.admits descriptor identity.type.kind
        identity.name = false := ha
      rw [Lookup.guardedAnswer_of_refused ha, Lookup.guardedAnswer_of_refused hother]
    | true =>
      have hother : { evaluation with source := other }.policy.admits descriptor identity.type.kind
        identity.name = true := ha
      rw [Lookup.guardedAnswer_of_admitted ha, Lookup.guardedAnswer_of_admitted hother,
        h.readAnswer_eq hn ha]
      rfl

theorem perform_of_agree (h : evaluation.source.AgreeWithin evaluation.policy other)
    (hr : evaluation.policy.restriction ≠ "") (arguments : Arguments) (strictness : Strictness)
    (context : Context σ) :
    { evaluation with source := other }.perform arguments strictness context =
      evaluation.perform arguments strictness context := by
  have hr' : evaluation.policy.restriction.isEmpty = false := by simpa using hr
  have hstrict : { evaluation with source := other }.lookupStrict arguments context =
      evaluation.lookupStrict arguments context := by
    unfold lookupStrict
    cases hi : arguments.identity evaluation.policy with
    | error failure => rfl
    | ok identity =>
      obtain ⟨_, hn, _⟩ := Arguments.identity_eq_ok_iff.mp hi
      exact answer_of_agree h (Policy.eq_restriction_of_effectiveNamespace hr' hn) context
  cases strictness with
  | strict => exact hstrict
  | lenient =>
    have hpath : { evaluation with source := other }.path = evaluation.path := h.path_eq.symm
    simp only [perform, lookup_eq, hstrict, closingEntries, hpath]

end Evaluation

/-! ## Whole runs -/

/-- Every lookup of a restricted evaluation keeps to its restriction, and would go the same way with
any other source that answers alike within it. -/
def Event.Confined {σ : Type} (event : Event σ) : Prop :=
  ∀ name strictness arguments member, event.step = .lookup name strictness arguments →
    event.before.member? name = some member → member.evaluation.policy.restriction ≠ "" →
      member.evaluation.Confined member.cache arguments event.report.journal ∧
      ∀ other, member.evaluation.source.AgreeWithin member.evaluation.policy other →
        { member.evaluation with source := other }.perform arguments strictness
            (event.before.context member) =
          member.evaluation.perform arguments strictness (event.before.context member)

theorem confined_eventOf {σ : Type} (collaborators : Collaborators σ) (session : Session σ)
    (step : Step σ) : (session.eventOf collaborators step).Confined := by
  rintro name strictness arguments member rfl hm hr
  have hm' : session.member? name = some member := hm
  refine ⟨?_, fun other h => Evaluation.perform_of_agree h hr arguments strictness _⟩
  simp only [Session.eventOf, Session.step_lookup hm']
  exact member.evaluation.perform_confined arguments strictness (session.context member) hr

/-- Whatever a session does and whatever its collaborators answer, restricted evaluations stay
confined. -/
theorem trace_confined {σ : Type} (collaborators : Collaborators σ) (session : Session σ)
    (steps : List (Step σ)) : ∀ event ∈ session.trace collaborators steps, event.Confined := by
  intro event h
  rw [Session.eq_eventOf_of_mem_trace h]
  exact confined_eventOf collaborators event.before event.step

def smallCollaborators : Collaborators ObjectStore := ⟨ObjectStore.client, none⟩

def restrictedSession : Session ObjectStore :=
  ((Session.start .standard smallStore).create smallCollaborators "page"
    ⟨⟨"team-a", []⟩, none⟩ none).1

def restrictedEvent : Event ObjectStore :=
  restrictedSession.eventOf smallCollaborators (.lookup "page" .lenient (secretLookup "token"))

theorem trace_confined_secret :
    restrictedEvent ∈ restrictedSession.trace smallCollaborators [restrictedEvent.step] ∧
      restrictedEvent.report.journal.reads.map Read.inNamespace = ["team-a"] ∧
      ∃ member, restrictedSession.member? "page" = some member ∧
        member.evaluation.policy.restriction ≠ "" ∧
        member.evaluation.Confined member.cache (secretLookup "token")
          restrictedEvent.report.journal :=
  ⟨List.mem_cons_self, rfl, _, rfl, by decide,
    (trace_confined smallCollaborators restrictedSession [restrictedEvent.step] restrictedEvent
      List.mem_cons_self "page" .lenient _ _ rfl rfl (by decide)).1⟩

end ClusterLookup
