import ClusterLookup.Log
import Mathlib.Data.List.Forall2

/-!
# What a log tells of documents

No document is left among the fields of a record, and the other values are as they were. Of the
documents only numbers are told: fields that differ in nothing but the bodies of documents are shown,
and written, as the same.
-/

namespace ClusterLookup

open Document (fieldIn? withField)

variable {fields others : List (String × Document)} {value other : Document} {name : String}

/-- Whether a value holds bodies of documents: it is a document, or a list of nothing else. -/
def HoldsBodies (value : Document) : Prop :=
  value.isObject = true ∨
    ∃ items, value = .array items ∧ items ≠ [] ∧ ∀ item ∈ items, item.isObject = true

/-- Whether two values are equal, or hold documents of one kind and number: documents with equally many
items, documents without a list of items, or lists of equally many documents. -/
inductive SameCounts : Document → Document → Prop where
  | equal (value : Document) : SameCounts value value
  | wrapped {fields others : List (String × Document)} {items more : List Document} :
      fieldIn? "items" fields = some (.array items) → fieldIn? "items" others = some (.array more) →
      items.length = more.length → SameCounts (.object fields) (.object others)
  | single {fields others : List (String × Document)} :
      (∀ items, fieldIn? "items" fields ≠ some (.array items)) →
      (∀ items, fieldIn? "items" others ≠ some (.array items)) →
      SameCounts (.object fields) (.object others)
  | listed {items more : List Document} : items ≠ [] → (∀ item ∈ items, item.isObject = true) →
      (∀ item ∈ more, item.isObject = true) → items.length = more.length →
      SameCounts (.array items) (.array more)

/-! ## One value -/

theorem summary_wrapped {items : List Document} (h : fieldIn? "items" fields = some (.array items)) :
    summary (.object fields) = .text s!"<list of {items.length} documents>" := by
  simp only [summary, h]

theorem summary_single (h : ∀ items, fieldIn? "items" fields ≠ some (.array items)) :
    summary (.object fields) = .text "<document>" := by
  rw [summary]
  split
  · next items hitems => exact absurd hitems (h items)
  · rfl

theorem summary_listed {items : List Document} (hne : items ≠ [])
    (h : ∀ item ∈ items, item.isObject = true) :
    summary (.array items) = .text s!"<{items.length} documents>" := by
  have hitems : (!items.isEmpty && items.all Document.isObject) = true := by
    simpa [hne] using h
  simp only [summary, hitems, if_true]

theorem summary_of_not_holdsBodies (h : ¬HoldsBodies value) : summary value = value := by
  cases value with
  | object fields => exact absurd (.inl rfl) h
  | array items =>
    have hitems : ¬(!items.isEmpty && items.all Document.isObject) = true := by
      intro hitems
      rw [Bool.and_eq_true, Bool.not_eq_true', List.isEmpty_eq_false_iff, List.all_eq_true] at hitems
      exact h (.inr ⟨items, rfl, hitems.1, hitems.2⟩)
    simp only [summary, if_neg hitems]
  | _ => rfl

theorem exists_text_of_holdsBodies (h : HoldsBodies value) : ∃ text, summary value = .text text := by
  rcases h with hobject | ⟨items, rfl, hne, hitems⟩
  · cases value with
    | object fields =>
      by_cases hitems : ∃ items, fieldIn? "items" fields = some (.array items)
      · obtain ⟨items, hitems⟩ := hitems
        exact ⟨_, summary_wrapped hitems⟩
      · exact ⟨_, summary_single fun items h => hitems ⟨items, h⟩⟩
    | _ => cases hobject
  · exact ⟨_, summary_listed hne hitems⟩

theorem not_holdsBodies_text (text : String) : ¬HoldsBodies (.text text) := by
  simp [HoldsBodies, Document.isObject]

theorem not_holdsBodies_summary (value : Document) : ¬HoldsBodies (summary value) := by
  by_cases h : HoldsBodies value
  · obtain ⟨text, htext⟩ := exists_text_of_holdsBodies h
    rw [htext]
    exact not_holdsBodies_text text
  · rwa [summary_of_not_holdsBodies h]

theorem summary_summary (value : Document) : summary (summary value) = summary value :=
  summary_of_not_holdsBodies (not_holdsBodies_summary value)

theorem summary_eq_of_sameCounts (h : SameCounts value other) : summary value = summary other := by
  cases h with
  | equal => rfl
  | wrapped hitems hmore hlength => rw [summary_wrapped hitems, summary_wrapped hmore, hlength]
  | single hfields hothers => rw [summary_single hfields, summary_single hothers]
  | @listed items more hne hitems hmore hlength =>
    have hothers : more ≠ [] := by
      rw [← List.length_pos_iff] at hne ⊢
      omega
    rw [summary_listed hne hitems, summary_listed hothers hmore, hlength]

/-! ## The fields of a record -/

theorem fieldIn?_summarised (name : String) (fields : List (String × Document)) :
    fieldIn? name (summarised fields) = (fieldIn? name fields).map summary := by
  induction fields with
  | nil => rfl
  | cons field fields ih =>
    obtain ⟨n, value⟩ := field
    by_cases hn : n = name
    · simp [summarised, fieldIn?, hn]
    · simpa [summarised, fieldIn?, hn] using ih

theorem summarised_summarised (fields : List (String × Document)) :
    summarised (summarised fields) = summarised fields := by
  simp [summarised, Function.comp_def, summary_summary]

/-- Fields of the same names in the same order, whose values hold documents in the same numbers. -/
def SameFields : List (String × Document) → List (String × Document) → Prop :=
  List.Forall₂ fun field other => field.1 = other.1 ∧ SameCounts field.2 other.2

theorem SameFields.summarised_eq (h : SameFields fields others) :
    summarised fields = summarised others := by
  induction h with
  | nil => rfl
  | @cons field other fields others hfield _ ih =>
    obtain ⟨n, value⟩ := field
    obtain ⟨m, value'⟩ := other
    obtain ⟨rfl, hvalue⟩ := hfield
    change (n, summary value) :: summarised fields = (n, summary value') :: summarised others
    rw [summary_eq_of_sameCounts hvalue, ih]

theorem fieldIn?_summarised_eq
    (h : Option.Rel SameCounts (fieldIn? name fields) (fieldIn? name others)) :
    fieldIn? name (summarised fields) = fieldIn? name (summarised others) := by
  rw [fieldIn?_summarised, fieldIn?_summarised]
  generalize fieldIn? name fields = found at h
  generalize fieldIn? name others = found' at h
  cases h with
  | none => rfl
  | some hvalue => rw [Option.map_some, Option.map_some, summary_eq_of_sameCounts hvalue]

/-- The fields of a record keep their names and tell no body of a document, and nothing else of them is
changed, once or twice. Of the documents no more is told than their numbers. -/
theorem summarised_hides (fields others : List (String × Document)) :
    (summarised fields).map Prod.fst = fields.map Prod.fst ∧
    (∀ field ∈ summarised fields, ¬HoldsBodies field.2) ∧
    (∀ name value, fieldIn? name fields = some value → ¬HoldsBodies value →
      fieldIn? name (summarised fields) = some value) ∧
    summarised (summarised fields) = summarised fields ∧
    ((∀ name, Option.Rel SameCounts (fieldIn? name fields) (fieldIn? name others)) →
      ∀ name, fieldIn? name (summarised fields) = fieldIn? name (summarised others)) ∧
    (SameFields fields others → summarised fields = summarised others) := by
  refine ⟨map_fst_summarised fields, ?_, ?_, summarised_summarised fields, ?_,
    SameFields.summarised_eq⟩
  · intro field hfield
    obtain ⟨⟨name, value⟩, _, rfl⟩ := List.mem_map.mp hfield
    exact not_holdsBodies_summary value
  · intro name value hvalue hno
    rw [fieldIn?_summarised, hvalue, Option.map_some, summary_of_not_holdsBodies hno]
  · intro h name
    exact fieldIn?_summarised_eq (h name)

theorem summarised_hides_secret :
    let fields := [("event", .text "found"), ("answer", .object [("data", .text "secret")])]
    let swapped := [("answer", .object [("kind", .null)]), ("event", .text "found")]
    let others := [("event", .text "found"), ("answer", .object [("data", .text "other")])]
    ¬HoldsBodies (.text "found") ∧ fieldIn? "event" (summarised fields) = some (.text "found") ∧
      (∀ name, Option.Rel SameCounts (fieldIn? name fields) (fieldIn? name swapped)) ∧
      (∀ name, fieldIn? name (summarised fields) = fieldIn? name (summarised swapped)) ∧
      SameFields fields others ∧ summarised fields = summarised others := by
  intro fields swapped others
  have hevent : ¬HoldsBodies (.text "found") := not_holdsBodies_text "found"
  have hrel : ∀ name, Option.Rel SameCounts (fieldIn? name fields) (fieldIn? name swapped) := by
    intro name
    by_cases hevent : "event" = name
    · subst hevent
      exact .some (.equal (.text "found"))
    · by_cases hanswer : "answer" = name
      · subst hanswer
        exact .some (.single (by simp [fieldIn?]) (by simp [fieldIn?]))
      · simp [fields, swapped, fieldIn?, hevent, hanswer]
  have hsame : SameFields fields others :=
    .cons ⟨rfl, .equal _⟩ (.cons ⟨rfl, .single (by simp [fieldIn?]) (by simp [fieldIn?])⟩ .nil)
  obtain ⟨_, _, hkept, _, hlookups, _⟩ := summarised_hides fields swapped
  obtain ⟨_, _, _, _, _, hequal⟩ := summarised_hides fields others
  exact ⟨hevent, hkept "event" _ rfl hevent, hrel, hlookups hrel, hsame, hequal hsame⟩

/-! ## Whole records -/

theorem SameFields.withField (h : SameFields fields others) (hvalue : SameCounts value other)
    (name : String) : SameFields (withField name value fields) (withField name other others) := by
  induction h with
  | nil => exact .cons ⟨rfl, hvalue⟩ .nil
  | @cons field field' fields others hfield hrest ih =>
    obtain ⟨n, v⟩ := field
    obtain ⟨m, v'⟩ := field'
    obtain ⟨rfl, hv⟩ := hfield
    by_cases hn : n = name
    · simp only [Document.withField, if_pos hn]
      exact .cons ⟨rfl, hvalue⟩ hrest
    · simp only [Document.withField, if_neg hn]
      exact .cons ⟨rfl, hv⟩ ih

theorem SameFields.foldl_withField {start start' : List (String × Document)}
    (h : SameFields fields others) (hstart : SameFields start start') :
    SameFields (fields.foldl (fun fields (name, value) => Document.withField name value fields) start)
      (others.foldl (fun fields (name, value) => Document.withField name value fields) start') := by
  induction h generalizing start start' with
  | nil => exact hstart
  | @cons field field' fields others hfield _ ih =>
    obtain ⟨n, v⟩ := field
    obtain ⟨m, v'⟩ := field'
    obtain ⟨rfl, hv⟩ := hfield
    exact ih (hstart.withField hv n)

theorem SameFields.map_fst_eq (h : SameFields fields others) :
    fields.map Prod.fst = others.map Prod.fst := by
  induction h with
  | nil => rfl
  | cons hfield _ ih => rw [List.map_cons, List.map_cons, hfield.1, ih]

namespace LogRecord

variable {first second : LogRecord}

theorem sameFields_allFields (hcomponent : first.component = second.component)
    (hevent : first.event = second.event) (hlevel : first.level = second.level)
    (h : SameFields first.fields second.fields) : SameFields first.allFields second.allFields := by
  unfold allFields
  rw [hcomponent, hevent, hlevel]
  exact ((h.foldl_withField (.cons ⟨rfl, .equal _⟩ .nil)).withField (.equal _) _).withField (.equal _) _

/-- A record is written, or not, whatever is in the bodies of the documents among its fields. -/
theorem written_eq_of_sameFields (hcomponent : first.component = second.component)
    (hevent : first.event = second.event) (hlevel : first.level = second.level)
    (h : SameFields first.fields second.fields) (threshold : Threshold) :
    first.written threshold = second.written threshold := by
  have hpasses : first.passes threshold = second.passes threshold := by
    rw [passes, passes, hlevel]
  have hparts : ∀ parts : List String, (first.fields.any fun field => parts.contains field.1) =
      second.fields.any fun field => parts.contains field.1 := by
    intro parts
    have hnames := congrArg (List.any · parts.contains) h.map_fst_eq
    simpa only [List.any_map, Function.comp_def] using hnames
  simp only [written, hpasses, hparts,
    (sameFields_allFields hcomponent hevent hlevel h).summarised_eq]

end LogRecord

end ClusterLookup
