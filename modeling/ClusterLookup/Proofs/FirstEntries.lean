import ClusterLookup.AnswerCache
import Mathlib.Data.Finset.Card

/-!
# The first entry of a cache is the one that counts

What a cache answers is given by the calls made to it: the documents that were stored first for a question,
and the descriptor that was stored first for a type. The calls for questions and those for types make up
two histories beside each other, and a call that only reads could as well not have been made.
-/

namespace ClusterLookup

/-- A call to an answer cache. -/
inductive CacheCall where
  | store (identity : Identity) (documents : List Document)
  | storeDescriptor (type : GroupVersionKind) (descriptor : Descriptor)
  | lookup (identity : Identity)
  | describe (type : GroupVersionKind)

/-- What a cache answers: to a lookup the documents, of which there are none without an entry, and whether
there is an entry. -/
inductive CacheReply where
  | done
  | documents (documents : List Document) (found : Bool)
  | description (descriptor : Option Descriptor)

namespace CacheCall

def isRead : CacheCall → Bool
  | .lookup _ => true
  | .describe _ => true
  | _ => false

/-- Whether a call is about the documents of a question, and not about a type. -/
def onObjects : CacheCall → Bool
  | .store _ _ => true
  | .lookup _ => true
  | _ => false

/-- The entry for a question that a call would make. -/
def answer? : CacheCall → Option (Identity × List Document)
  | .store identity documents => some (identity, documents)
  | _ => none

/-- The entry for a type that a call would make. -/
def description? : CacheCall → Option (GroupVersionKind × Descriptor)
  | .storeDescriptor type descriptor => some (type, descriptor)
  | _ => none

/-- Whether two calls store for the same question, or for the same type. -/
def Contends : CacheCall → CacheCall → Prop
  | .store identity _, .store other _ => identity = other
  | .storeDescriptor type _, .storeDescriptor other _ => type = other
  | _, _ => False

/-- Whether a call is made in a history and no call before it contends with it. -/
def IsFirst (history : List CacheCall) (call : CacheCall) : Prop :=
  ∃ earlier later, history = earlier ++ call :: later ∧ ∀ other ∈ earlier, ¬other.Contends call

end CacheCall

namespace AnswerCache

def reply (cache : AnswerCache) : CacheCall → CacheReply
  | .lookup identity =>
    .documents ((cache.find? identity).getD []) (cache.find? identity).isSome
  | .describe type => .description (cache.descriptor? type)
  | _ => .done

def next (cache : AnswerCache) : CacheCall → AnswerCache
  | .store identity documents => cache.store identity documents
  | .storeDescriptor type descriptor => cache.storeDescriptor type descriptor
  | _ => cache

/-- The cache after some calls. -/
def following (cache : AnswerCache) (history : List CacheCall) : AnswerCache := history.foldl next cache

/-- Some calls, each with what the cache answers to it. -/
def transcript (cache : AnswerCache) : List CacheCall → List (CacheCall × CacheReply)
  | [] => []
  | call :: history => (call, cache.reply call) :: (cache.next call).transcript history

end AnswerCache

/-! ## Entries that are added one after another -/

section Entries
variable {κ α : Type} [DecidableEq κ]

def addEntries (entries more : List (κ × α)) : List (κ × α) :=
  more.foldl (fun entries entry => addEntry entry.1 entry.2 entries) entries

theorem valueOf?_addEntry (key other : κ) (value : α) (entries : List (κ × α)) :
    valueOf? key (addEntry other value entries) = (valueOf? key entries).or
      (valueOf? key [(other, value)]) := by
  by_cases h : key = other
  · subst h
    rw [valueOf?_addEntry_self]
    cases valueOf? key entries <;> simp [valueOf?]
  · rw [valueOf?_addEntry_of_ne h]
    simp [valueOf?, Ne.symm h]

/-- Added entries are found as they would be at the end of the others. -/
theorem valueOf?_addEntries (key : κ) (entries more : List (κ × α)) :
    valueOf? key (addEntries entries more) = valueOf? key (entries ++ more) := by
  induction more generalizing entries with
  | nil => simp [addEntries]
  | cons entry more ih =>
    have hrest := ih (addEntry entry.1 entry.2 entries)
    rw [valueOf?_append, valueOf?_addEntry, Option.or_assoc, ← valueOf?_append,
      ← valueOf?_append] at hrest
    exact hrest

theorem keys_addEntry (key : κ) (value : α) (entries : List (κ × α)) :
    (addEntry key value entries).map Prod.fst =
      if key ∈ entries.map Prod.fst then entries.map Prod.fst
      else entries.map Prod.fst ++ [key] := by
  cases hv : valueOf? key entries with
  | none => simp [addEntry, hv, if_neg (valueOf?_eq_none_iff.mp hv)]
  | some found =>
    have hmem : key ∈ entries.map Prod.fst := List.mem_map.mpr ⟨_, mem_of_valueOf? hv, rfl⟩
    simp [addEntry, hv, if_pos hmem]

theorem nodup_addEntries {entries : List (κ × α)} (h : (entries.map Prod.fst).Nodup)
    (more : List (κ × α)) : ((addEntries entries more).map Prod.fst).Nodup := by
  induction more generalizing entries with
  | nil => exact h
  | cons entry more ih =>
    apply ih
    rw [keys_addEntry]
    split
    · exact h
    · next hnew => simpa using h.concat hnew

theorem mem_keys_addEntries {key : κ} {entries more : List (κ × α)} :
    key ∈ (addEntries entries more).map Prod.fst ↔
      key ∈ entries.map Prod.fst ∨ key ∈ more.map Prod.fst := by
  rw [← List.mem_append, ← List.map_append, ← not_iff_not, ← valueOf?_eq_none_iff,
    ← valueOf?_eq_none_iff, valueOf?_addEntries]

theorem length_addEntries_nil (more : List (κ × α)) :
    (addEntries [] more).length = (more.map Prod.fst).toFinset.card := by
  have hnodup : ((addEntries [] more).map Prod.fst).Nodup := @nodup_addEntries κ α _ [] List.nodup_nil more
  rw [← List.length_map Prod.fst, ← List.toFinset_card_of_nodup hnodup]
  congr 1
  ext key
  simp only [List.mem_toFinset]
  simpa using @mem_keys_addEntries κ α _ key [] more

end Entries

/-! ## The first entry -/

namespace CacheCall
variable {history : List CacheCall}

theorem isFirst_cons_iff {call head : CacheCall} :
    call.IsFirst (head :: history) ↔ head = call ∨ ¬head.Contends call ∧ call.IsFirst history := by
  constructor
  · rintro ⟨earlier, later, heq, hearlier⟩
    cases earlier with
    | nil =>
      cases heq
      exact .inl rfl
    | cons other earlier =>
      cases heq
      obtain ⟨hhead, hearlier⟩ := List.forall_mem_cons.mp hearlier
      exact .inr ⟨hhead, earlier, later, rfl, hearlier⟩
  · rintro (rfl | ⟨hhead, earlier, later, rfl, hearlier⟩)
    · exact ⟨[], history, rfl, by simp⟩
    · exact ⟨head :: earlier, later, rfl, List.forall_mem_cons.mpr ⟨hhead, hearlier⟩⟩

theorem valueOf?_answers_eq_some_iff {identity : Identity} {documents : List Document} :
    valueOf? identity (history.filterMap answer?) = some documents ↔
      (CacheCall.store identity documents).IsFirst history := by
  induction history with
  | nil => simp [IsFirst]
  | cons call history ih =>
    rw [isFirst_cons_iff, ← ih]
    cases call with
    | store other found =>
      by_cases h : other = identity <;> simp [answer?, valueOf?, Contends, h]
    | _ => simp [List.filterMap_cons, answer?, Contends]

theorem valueOf?_descriptions_eq_some_iff {type : GroupVersionKind} {descriptor : Descriptor} :
    valueOf? type (history.filterMap description?) = some descriptor ↔
      (CacheCall.storeDescriptor type descriptor).IsFirst history := by
  induction history with
  | nil => simp [IsFirst]
  | cons call history ih =>
    rw [isFirst_cons_iff, ← ih]
    cases call with
    | storeDescriptor other found =>
      by_cases h : other = type <;> simp [description?, valueOf?, Contends, h]
    | _ => simp [List.filterMap_cons, description?, Contends]

theorem mem_answers_iff {identity : Identity} {documents : List Document} :
    (identity, documents) ∈ history.filterMap answer? ↔ .store identity documents ∈ history := by
  rw [List.mem_filterMap]
  constructor
  · rintro ⟨call, hm, hcall⟩
    cases call with
    | store other found =>
      cases hcall
      exact hm
    | _ => cases hcall
  · exact fun h => ⟨_, h, rfl⟩

theorem mem_descriptions_iff {type : GroupVersionKind} {descriptor : Descriptor} :
    (type, descriptor) ∈ history.filterMap description? ↔ .storeDescriptor type descriptor ∈ history := by
  rw [List.mem_filterMap]
  constructor
  · rintro ⟨call, hm, hcall⟩
    cases call with
    | storeDescriptor other found =>
      cases hcall
      exact hm
    | _ => cases hcall
  · exact fun h => ⟨_, h, rfl⟩

end CacheCall

/-! ## The two halves of a cache -/

namespace AnswerCache
variable {cache first second : AnswerCache} {history : List CacheCall}

/-- A cache takes up the entries that its calls would make, each half those of its own. -/
theorem following_eq (cache : AnswerCache) (history : List CacheCall) :
    cache.following history = ⟨addEntries cache.answers (history.filterMap CacheCall.answer?),
      addEntries cache.descriptors (history.filterMap CacheCall.description?)⟩ := by
  induction history generalizing cache with
  | nil => rfl
  | cons call history ih =>
    have hnext : cache.following (call :: history) = (cache.next call).following history := rfl
    rw [hnext, ih]
    simp only [List.filterMap_cons]
    cases call <;> rfl

theorem find?_following (history : List CacheCall) (identity : Identity) :
    (empty.following history).find? identity =
      valueOf? identity (history.filterMap CacheCall.answer?) := by
  rw [following_eq]
  exact valueOf?_addEntries identity [] _

theorem descriptor?_following (history : List CacheCall) (type : GroupVersionKind) :
    (empty.following history).descriptor? type =
      valueOf? type (history.filterMap CacheCall.description?) := by
  rw [following_eq]
  exact valueOf?_addEntries type [] _

/-- What is said of questions does not depend on the calls for types. -/
theorem filter_transcript_onObjects (h : first.answers = second.answers) (history : List CacheCall) :
    (first.transcript history).filter (·.1.onObjects) =
      second.transcript (history.filter (·.onObjects)) := by
  induction history generalizing first second with
  | nil => rfl
  | cons call history ih =>
    cases call with
    | store identity documents =>
      have hnext : (first.store identity documents).answers =
          (second.store identity documents).answers := by
        simp only [AnswerCache.store, h]
      exact congrArg _ (ih hnext)
    | storeDescriptor type descriptor => exact ih h
    | lookup identity =>
      have hreply : first.reply (.lookup identity) = second.reply (.lookup identity) := by
        simp only [reply, find?, h]
      have hrest := ih h
      simpa [transcript, CacheCall.onObjects, next, hreply] using hrest
    | describe type => exact ih h

/-- What is said of types does not depend on the calls for questions. -/
theorem filter_transcript_onTypes (h : first.descriptors = second.descriptors)
    (history : List CacheCall) :
    (first.transcript history).filter (fun entry => !entry.1.onObjects) =
      second.transcript (history.filter fun call => !call.onObjects) := by
  induction history generalizing first second with
  | nil => rfl
  | cons call history ih =>
    cases call with
    | store identity documents => exact ih h
    | storeDescriptor type descriptor =>
      have hnext : (first.storeDescriptor type descriptor).descriptors =
          (second.storeDescriptor type descriptor).descriptors := by
        simp only [AnswerCache.storeDescriptor, h]
      exact congrArg _ (ih hnext)
    | lookup identity => exact ih h
    | describe type =>
      have hreply : first.reply (.describe type) = second.reply (.describe type) := by
        simp only [reply, descriptor?, h]
      have hrest := ih h
      simpa [transcript, CacheCall.onObjects, next, hreply] using hrest

/-! ## Whole histories -/

theorem following_append (cache : AnswerCache) (history later : List CacheCall) :
    cache.following (history ++ later) = (cache.following history).following later :=
  List.foldl_append

theorem transcript_append (cache : AnswerCache) (history later : List CacheCall) :
    cache.transcript (history ++ later) =
      cache.transcript history ++ (cache.following history).transcript later := by
  induction history generalizing cache with
  | nil => rfl
  | cons call history ih => exact congrArg _ (ih (cache.next call))

theorem next_of_isRead {call : CacheCall} (h : call.isRead = true) (cache : AnswerCache) :
    cache.next call = cache := by
  cases call with
  | store identity documents => cases h
  | storeDescriptor type descriptor => cases h
  | lookup identity => rfl
  | describe type => rfl

theorem reply_lookup_eq_absent_iff {identity : Identity} :
    cache.reply (.lookup identity) = .documents [] false ↔ cache.find? identity = none := by
  cases hf : cache.find? identity <;> simp [reply, hf]

theorem reply_lookup_eq_present_iff {identity : Identity} {documents : List Document} :
    cache.reply (.lookup identity) = .documents documents true ↔
      cache.find? identity = some documents := by
  cases hf : cache.find? identity <;> simp [reply, hf]

theorem reply_describe_eq_iff {type : GroupVersionKind} {descriptor : Option Descriptor} :
    cache.reply (.describe type) = .description descriptor ↔ cache.descriptor? type = descriptor := by
  simp [reply]

theorem find?_following_eq_none_iff {identity : Identity} :
    (empty.following history).find? identity = none ↔
      ∀ documents, .store identity documents ∉ history := by
  simp only [find?_following, valueOf?_eq_none_iff, List.mem_map, Prod.exists,
    CacheCall.mem_answers_iff]
  simp

theorem descriptor?_following_eq_none_iff {type : GroupVersionKind} :
    (empty.following history).descriptor? type = none ↔
      ∀ descriptor, .storeDescriptor type descriptor ∉ history := by
  simp only [descriptor?_following, valueOf?_eq_none_iff, List.mem_map, Prod.exists,
    CacheCall.mem_descriptions_iff]
  simp

theorem size_following (history : List CacheCall) : (empty.following history).size =
    ((history.filterMap CacheCall.answer?).map Prod.fst).toFinset.card := by
  rw [size, following_eq]
  exact length_addEntries_nil _

end AnswerCache

/-- A cache answers with what was first stored. Whatever calls were made to it, a lookup finds nothing
exactly when nothing was stored for its question, and else the documents of the first store, be it of no
documents; a type has the descriptor that was first stored for it, or none. What is answered for questions
and for types is as if only calls of the one sort had been made, the size counts the questions that
something was stored for, and a read changes nothing. -/
theorem replies_after_history (history : List CacheCall) :
    let cache := AnswerCache.empty.following history
    (∀ identity, cache.reply (.lookup identity) = .documents [] false ↔
      ∀ documents, .store identity documents ∉ history) ∧
    (∀ identity documents, cache.reply (.lookup identity) = .documents documents true ↔
      (CacheCall.store identity documents).IsFirst history) ∧
    (∀ type, cache.reply (.describe type) = .description none ↔
      ∀ descriptor, .storeDescriptor type descriptor ∉ history) ∧
    (∀ type descriptor, cache.reply (.describe type) = .description (some descriptor) ↔
      (CacheCall.storeDescriptor type descriptor).IsFirst history) ∧
    (AnswerCache.empty.transcript history).filter (·.1.onObjects) =
      AnswerCache.empty.transcript (history.filter (·.onObjects)) ∧
    ((AnswerCache.empty.transcript history).filter fun entry => !entry.1.onObjects) =
      AnswerCache.empty.transcript (history.filter fun call => !call.onObjects) ∧
    cache.size = ((history.filterMap CacheCall.answer?).map Prod.fst).toFinset.card ∧
    ∀ read later, read.isRead = true →
      AnswerCache.empty.following (history ++ read :: later) =
        AnswerCache.empty.following (history ++ later) ∧
      AnswerCache.empty.transcript (history ++ later) =
        AnswerCache.empty.transcript history ++ cache.transcript later ∧
      AnswerCache.empty.transcript (history ++ read :: later) =
        AnswerCache.empty.transcript history ++ (read, cache.reply read) :: cache.transcript later := by
  intro cache
  refine ⟨?_, ?_, ?_, ?_, ?_, ?_, AnswerCache.size_following history, ?_⟩
  · intro identity
    exact AnswerCache.reply_lookup_eq_absent_iff.trans AnswerCache.find?_following_eq_none_iff
  · intro identity documents
    rw [AnswerCache.reply_lookup_eq_present_iff, AnswerCache.find?_following,
      CacheCall.valueOf?_answers_eq_some_iff]
  · intro type
    exact AnswerCache.reply_describe_eq_iff.trans AnswerCache.descriptor?_following_eq_none_iff
  · intro type descriptor
    rw [AnswerCache.reply_describe_eq_iff, AnswerCache.descriptor?_following,
      CacheCall.valueOf?_descriptions_eq_some_iff]
  · exact AnswerCache.filter_transcript_onObjects rfl history
  · exact AnswerCache.filter_transcript_onTypes rfl history
  · intro read later hread
    have hnext := AnswerCache.next_of_isRead hread cache
    refine ⟨?_, AnswerCache.transcript_append _ history later, ?_⟩
    · rw [AnswerCache.following_append, AnswerCache.following_append]
      exact congrArg (AnswerCache.following · later) hnext
    · rw [AnswerCache.transcript_append, AnswerCache.transcript, hnext]

/-- A question stored for twice, first with no documents, beside one that differs in its selector. -/
def collidingHistory : List CacheCall :=
  let type : GroupVersionKind := ⟨"", "v1", "ConfigMap"⟩
  [.store ⟨type, "default", "", "app=web"⟩ [], .describe type,
    .store ⟨type, "default", "", "app=web"⟩ [.object []],
    .storeDescriptor type ⟨"", "v1", "configmaps", true⟩,
    .storeDescriptor type ⟨"", "v1", "secrets", false⟩]

theorem replies_after_history_colliding :
    let type : GroupVersionKind := ⟨"", "v1", "ConfigMap"⟩
    let cache := AnswerCache.empty.following collidingHistory
    cache.reply (.lookup ⟨type, "default", "", "app=web"⟩) = .documents [] true ∧
      cache.reply (.lookup ⟨type, "default", "", ""⟩) = .documents [] false ∧
      cache.reply (.describe type) = .description (some ⟨"", "v1", "configmaps", true⟩) ∧
      cache.size = 1 ∧
      AnswerCache.empty.following (collidingHistory ++ [.lookup ⟨type, "default", "", ""⟩]) = cache := by
  intro type cache
  obtain ⟨habsent, hpresent, _, hdescribed, _, _, hsize, hread⟩ := replies_after_history collidingHistory
  refine ⟨(hpresent _ _).mpr ?_, (habsent _).mpr ?_, (hdescribed _ _).mpr ?_, hsize.trans (by decide),
    ?_⟩
  · exact ⟨[], _, rfl, by simp⟩
  · simp [collidingHistory]
  · refine ⟨collidingHistory.take 3, _, rfl, ?_⟩
    simp [collidingHistory, CacheCall.Contends]
  · have hunchanged := (hread (.lookup ⟨type, "default", "", ""⟩) [] rfl).1
    rwa [List.append_nil] at hunchanged

end ClusterLookup
