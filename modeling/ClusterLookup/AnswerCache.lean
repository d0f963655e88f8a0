import ClusterLookup.Document
import ClusterLookup.Identity

/-!
# Answer caches

What an evaluation has learned from the cluster: the documents that answered a question, and the
descriptor of a type. The first answer stays; a question that was answered with no documents is
known to have none, which differs from one that was never asked.
-/

namespace ClusterLookup

/-- The answers that an evaluation remembers, in the order in which they came. -/
structure AnswerCache where
  answers : List (Identity × List Document)
  descriptors : List (GroupVersionKind × Descriptor)
  deriving BEq, Repr, Inhabited

def valueOf? {κ α : Type} [DecidableEq κ] (key : κ) : List (κ × α) → Option α
  | [] => none
  | (k, a) :: entries => if k = key then some a else valueOf? key entries

/-- The entries with one more at the end, unless the key has one. -/
def addEntry {κ α : Type} [DecidableEq κ] (key : κ) (value : α) (entries : List (κ × α)) :
    List (κ × α) :=
  match valueOf? key entries with
  | some _ => entries
  | none => entries ++ [(key, value)]

namespace AnswerCache

def empty : AnswerCache := ⟨[], []⟩

def find? (cache : AnswerCache) (identity : Identity) : Option (List Document) :=
  valueOf? identity cache.answers

def store (cache : AnswerCache) (identity : Identity) (documents : List Document) : AnswerCache :=
  { cache with answers := addEntry identity documents cache.answers }

def descriptor? (cache : AnswerCache) (type : GroupVersionKind) : Option Descriptor :=
  valueOf? type cache.descriptors

def storeDescriptor (cache : AnswerCache) (type : GroupVersionKind) (descriptor : Descriptor) :
    AnswerCache :=
  { cache with descriptors := addEntry type descriptor cache.descriptors }

def size (cache : AnswerCache) : Nat := cache.answers.length

end AnswerCache

/-! ## First entries stay -/

section Entries
variable {κ α : Type} [DecidableEq κ]

@[simp] theorem valueOf?_nil (key : κ) : valueOf? key ([] : List (κ × α)) = none := rfl

theorem valueOf?_eq_none_iff {key : κ} {entries : List (κ × α)} :
    valueOf? key entries = none ↔ key ∉ entries.map Prod.fst := by
  induction entries with
  | nil => simp
  | cons entry entries ih =>
    obtain ⟨k, a⟩ := entry
    by_cases h : k = key
    · simp [valueOf?, h]
    · simp [valueOf?, h, ih, Ne.symm h]

theorem mem_of_valueOf? {key : κ} {value : α} {entries : List (κ × α)}
    (h : valueOf? key entries = some value) : (key, value) ∈ entries := by
  induction entries with
  | nil => cases h
  | cons entry entries ih =>
    obtain ⟨k, a⟩ := entry
    by_cases hk : k = key
    · subst hk
      obtain rfl : a = value := by simpa [valueOf?] using h
      exact List.mem_cons_self
    · exact List.mem_cons_of_mem _ (ih (by simpa [valueOf?, hk] using h))

/-- Where no key has two entries, its value is what stands in its entry. -/
theorem valueOf?_eq_some_iff {key : κ} {value : α} {entries : List (κ × α)}
    (hn : (entries.map Prod.fst).Nodup) :
    valueOf? key entries = some value ↔ (key, value) ∈ entries := by
  refine ⟨mem_of_valueOf?, fun h => ?_⟩
  induction entries with
  | nil => cases h
  | cons entry entries ih =>
    obtain ⟨k, a⟩ := entry
    obtain ⟨hnew, hrest⟩ := List.nodup_cons.mp hn
    rcases List.mem_cons.mp h with heq | h
    · cases heq
      simp [valueOf?]
    · have hk : k ≠ key := by
        rintro rfl
        exact hnew (List.mem_map.mpr ⟨_, h, rfl⟩)
      simp [valueOf?, hk, ih hrest h]

theorem valueOf?_append (key : κ) (entries more : List (κ × α)) :
    valueOf? key (entries ++ more) = (valueOf? key entries).or (valueOf? key more) := by
  induction entries with
  | nil => simp
  | cons e entries ih =>
    obtain ⟨k, a⟩ := e
    by_cases h : k = key <;> simp [valueOf?, h, ih]

theorem valueOf?_addEntry_self (key : κ) (value : α) (entries : List (κ × α)) :
    valueOf? key (addEntry key value entries) = some ((valueOf? key entries).getD value) := by
  unfold addEntry
  split
  · next a h => simp [h]
  · next h => simp [valueOf?_append, h, valueOf?]

theorem valueOf?_addEntry_of_ne {key other : κ} (h : other ≠ key) (value : α)
    (entries : List (κ × α)) : valueOf? other (addEntry key value entries) = valueOf? other entries := by
  unfold addEntry
  split
  · rfl
  · simp [valueOf?_append, valueOf?, Ne.symm h]

end Entries

namespace AnswerCache

theorem find?_store_self (cache : AnswerCache) (identity : Identity) (documents : List Document) :
    (cache.store identity documents).find? identity =
      some ((cache.find? identity).getD documents) :=
  valueOf?_addEntry_self identity documents cache.answers

theorem find?_store_of_ne {identity other : Identity} (h : other ≠ identity) (cache : AnswerCache)
    (documents : List Document) :
    (cache.store identity documents).find? other = cache.find? other :=
  valueOf?_addEntry_of_ne h documents cache.answers

/-- What is found after a store was there before, or is what was stored. -/
theorem find?_store_eq_some {cache : AnswerCache} {identity other : Identity}
    {documents found : List Document} (h : (cache.store identity documents).find? other = some found) :
    cache.find? other = some found ∨ other = identity ∧ found = documents := by
  by_cases ho : other = identity
  · subst ho
    rw [find?_store_self, Option.some.injEq] at h
    cases hc : cache.find? other with
    | none =>
      rw [hc] at h
      exact .inr ⟨rfl, h.symm⟩
    | some old =>
      rw [hc] at h
      exact .inl (congrArg some h)
  · rw [find?_store_of_ne ho] at h
    exact .inl h

theorem descriptor?_storeDescriptor_self (cache : AnswerCache) (type : GroupVersionKind)
    (descriptor : Descriptor) :
    (cache.storeDescriptor type descriptor).descriptor? type =
      some ((cache.descriptor? type).getD descriptor) :=
  valueOf?_addEntry_self type descriptor cache.descriptors

theorem descriptor?_storeDescriptor_of_ne {type other : GroupVersionKind} (h : other ≠ type)
    (cache : AnswerCache) (descriptor : Descriptor) :
    (cache.storeDescriptor type descriptor).descriptor? other = cache.descriptor? other :=
  valueOf?_addEntry_of_ne h descriptor cache.descriptors

end AnswerCache

end ClusterLookup
