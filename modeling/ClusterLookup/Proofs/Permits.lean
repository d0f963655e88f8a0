import ClusterLookup.CommandLine.Run
import ClusterLookup.Proofs.Results
import ClusterLookup.Proofs.Splitting
import Mathlib.Data.List.DropRight

/-!
# Allowlists as text

An allowlist that is written is read back, and whatever is read can be written. Texts that are joined by a
comma are read one after the other, so an option that is repeated adds to the allowlist, and of several
malformed pieces the first one is reported.
-/

namespace ClusterLookup

open Results (bind_eq_ok_iff)
open Text (allBlank isBlank not_mem_of_mem_pieces pieces pieces_append pieces_append_cons
  pieces_of_not_mem join join_pieces strip)

/-- Whether text has no blank at its ends. -/
structure Text.Trimmed (s : List Char) : Prop where
  front : ∀ c ∈ s.head?, isBlank c = false
  back : ∀ c ∈ s.getLast?, isBlank c = false

/-- Whether an entry can be written: its fields hold no separator, kind and name are given, and no blank
stands at the ends of its text, where it would be lost. -/
structure Permit.WellFormed (permit : Permit) : Prop where
  whole : ∀ field ∈ [permit.group, permit.kind, permit.name],
    '/' ∉ field.toList ∧ ',' ∉ field.toList
  kindGiven : permit.kind ≠ ""
  nameGiven : permit.name ≠ ""
  front : ∀ c ∈ permit.group.toList.head?, isBlank c = false
  back : ∀ c ∈ permit.name.toList.getLast?, isBlank c = false

/-- Whether a piece of an allowlist is blank, or is the text of an entry with blanks around it. -/
def Permit.Fits (piece : List Char) : Prop :=
  allBlank piece = true ∨ ∃ permit : Permit, permit.WellFormed ∧ strip piece = permit.text.toList

/-- Whether a message is about the first piece of an allowlist that is malformed. -/
def Allowlist.FirstFault (text : List Char) (message : String) : Prop :=
  ∃ earlier piece later, pieces ',' text = earlier ++ piece :: later ∧
    (∀ p ∈ earlier, Permit.Fits p) ∧ ¬Permit.Fits piece ∧ message = Permit.malformed piece

/-! ## Text without blanks at its ends -/

namespace Text
variable {s : List Char}

theorem dropWhile_of_head? {p : Char → Bool} (h : ∀ c ∈ s.head?, p c = false) : s.dropWhile p = s := by
  cases s with
  | nil => rfl
  | cons c s => simp [h c rfl]

theorem head?_dropWhile {p : Char → Bool} {c : Char} (h : c ∈ (s.dropWhile p).head?) : p c = false := by
  have hnot := List.head?_dropWhile_not p s
  rwa [show (s.dropWhile p).head? = some c from h] at hnot

theorem strip_of_trimmed (h : Trimmed s) : strip s = s := by
  have hback : ∀ c ∈ s.reverse.head?, isBlank c = false := by
    intro c hc
    rw [List.head?_reverse] at hc
    exact h.back c hc
  rw [strip, dropWhile_of_head? h.front, dropWhile_of_head? hback, List.reverse_reverse]

theorem trimmed_strip (s : List Char) : Trimmed (strip s) where
  front c hc := by
    -- What stands first after both ends are cut stood first when only the front was cut.
    obtain ⟨rest, hrest⟩ := List.rdropWhile_prefix isBlank (s.dropWhile isBlank)
    have hfront : c ∈ (s.dropWhile isBlank).head? := by
      rw [← hrest, List.head?_append]
      exact Option.or_eq_some_iff.mpr (.inl hc)
    exact head?_dropWhile hfront
  back c hc := by
    rw [strip, List.getLast?_reverse] at hc
    exact head?_dropWhile hc

theorem mem_of_mem_strip {c : Char} (h : c ∈ strip s) : c ∈ s := by
  rw [strip, List.mem_reverse] at h
  have hfront : c ∈ s.dropWhile isBlank :=
    List.mem_reverse.mp ((List.dropWhile_suffix isBlank).mem h)
  exact (List.dropWhile_suffix isBlank).mem hfront

end Text

open Text (Trimmed mem_of_mem_strip strip_of_trimmed trimmed_strip)

/-! ## Entries -/

namespace Permit
variable {permit : Permit} {piece : List Char}

theorem toList_text (permit : Permit) : permit.text.toList =
    permit.group.toList ++ '/' :: (permit.kind.toList ++ '/' :: permit.name.toList) := by
  simp [text, toString]

theorem getLast?_text (h : permit.name ≠ "") :
    permit.text.toList.getLast? = permit.name.toList.getLast? := by
  have htext : permit.text.toList =
      (permit.group.toList ++ '/' :: (permit.kind.toList ++ ['/'])) ++ permit.name.toList := by
    simp [toList_text]
  rw [htext, List.getLast?_append_of_ne_nil _ (by simpa using h)]

theorem ofText?_eq_some_iff : ofText? piece = some permit ↔
    pieces '/' (strip piece) = [permit.group.toList, permit.kind.toList, permit.name.toList] ∧
      permit.kind ≠ "" ∧ permit.name ≠ "" := by
  constructor
  · intro h
    unfold ofText? at h
    split at h
    · next group kind name hp =>
      split at h
      · cases h
      · next hgiven =>
        cases h
        simp only [Bool.or_eq_true, List.isEmpty_iff, not_or] at hgiven
        simpa [hp] using hgiven
    · cases h
  · rintro ⟨hp, kindGiven, nameGiven⟩
    simp [ofText?, hp, kindGiven, nameGiven]

namespace WellFormed

theorem pieces_text (h : permit.WellFormed) : pieces '/' permit.text.toList =
    [permit.group.toList, permit.kind.toList, permit.name.toList] := by
  rw [toList_text, pieces_append (h.whole permit.group (by simp)).1,
    pieces_append (h.whole permit.kind (by simp)).1,
    pieces_of_not_mem (h.whole permit.name (by simp)).1]

theorem comma_not_mem_text (h : permit.WellFormed) : ',' ∉ permit.text.toList := by
  have hgroup := (h.whole permit.group (by simp)).2
  have hkind := (h.whole permit.kind (by simp)).2
  have hname := (h.whole permit.name (by simp)).2
  simp [toList_text, hgroup, hkind, hname]

theorem trimmed_text (h : permit.WellFormed) : Trimmed permit.text.toList where
  front c hc := by
    rw [toList_text, List.head?_append] at hc
    rcases Option.or_eq_some_iff.mp hc with hgroup | ⟨_, hslash⟩
    · exact h.front c hgroup
    · cases hslash
      rfl
  back c hc := by
    rw [getLast?_text h.nameGiven] at hc
    exact h.back c hc

end WellFormed

theorem parse_eq_ok_iff_ofText? : parse piece = .ok permit ↔ ofText? piece = some permit := by
  unfold parse
  cases ofText? piece <;> simp

/-- A piece between commas gives an entry exactly when it is the text of one, blanks around it aside. -/
theorem parse_eq_ok_iff (hp : ',' ∉ piece) :
    parse piece = .ok permit ↔ permit.WellFormed ∧ strip piece = permit.text.toList := by
  rw [parse_eq_ok_iff_ofText?, ofText?_eq_some_iff]
  constructor
  · rintro ⟨hpieces, kindGiven, nameGiven⟩
    have htext : strip piece = permit.text.toList := by
      rw [← join_pieces '/' (strip piece), hpieces, toList_text]
      simp [join]
    have htrimmed : Trimmed permit.text.toList := htext ▸ trimmed_strip piece
    refine ⟨⟨?_, kindGiven, nameGiven, ?_, ?_⟩, htext⟩
    · intro field hf
      have hmem : field.toList ∈ pieces '/' (strip piece) := by
        rw [hpieces]
        exact List.mem_map_of_mem hf
      refine ⟨not_mem_of_mem_pieces hmem, fun hcomma => hp (mem_of_mem_strip ?_)⟩
      rw [htext, toList_text]
      simp only [List.mem_cons, List.not_mem_nil, or_false] at hf
      rcases hf with rfl | rfl | rfl <;> simp [hcomma]
    · intro c hc
      apply htrimmed.front
      rw [toList_text, List.head?_append]
      exact Option.or_eq_some_iff.mpr (.inl hc)
    · intro c hc
      apply htrimmed.back
      rwa [getLast?_text nameGiven]
  · rintro ⟨h, htext⟩
    exact ⟨htext ▸ h.pieces_text, h.kindGiven, h.nameGiven⟩

theorem parse_eq_error_iff {message : String} : parse piece = .error message ↔
    message = malformed piece ∧ ∀ permit, parse piece ≠ .ok permit := by
  unfold parse
  cases ofText? piece <;> simp [eq_comm]

theorem fits_iff (hp : ',' ∉ piece) :
    Fits piece ↔ allBlank piece = true ∨ ∃ permit, parse piece = .ok permit := by
  simp only [Fits, parse_eq_ok_iff hp]

end Permit

/-! ## Lists of entries -/

namespace Allowlist
variable {allowlist : Allowlist} {text : List Char} {message : String}

/-- Text on the two sides of a comma is read from left to right. -/
theorem parse_append_cons (front back : List Char) : parse (front ++ ',' :: back) =
    parse front >>= fun first => parse back >>= fun second => .ok (first ++ second) := by
  unfold parse
  rw [pieces_append_cons, List.filter_append, List.mapM_append]
  rfl

theorem parse_append_eq_ok_iff {front back : List Char} :
    parse (front ++ ',' :: back) = .ok allowlist ↔
      ∃ first second, parse front = .ok first ∧ parse back = .ok second ∧
        allowlist = first ++ second := by
  rw [parse_append_cons]
  simp only [bind_eq_ok_iff, Except.ok.injEq]
  constructor
  · rintro ⟨first, hfirst, second, hsecond, rfl⟩
    exact ⟨first, second, hfirst, hsecond, rfl⟩
  · rintro ⟨first, second, hfirst, hsecond, rfl⟩
    exact ⟨first, hfirst, second, hsecond, rfl⟩

theorem wellFormed_of_parse (h : parse text = .ok allowlist) : ∀ permit ∈ allowlist, permit.WellFormed := by
  intro permit hm
  obtain ⟨piece, hpiece, hp⟩ := Results.exists_of_mem_mapM h hm
  have hcomma : ',' ∉ piece := not_mem_of_mem_pieces (List.mem_of_mem_filter hpiece)
  exact ((Permit.parse_eq_ok_iff hcomma).mp hp).1

theorem parse_eq_error_iff : parse text = .error message ↔ FirstFault text message := by
  unfold parse FirstFault
  rw [Results.mapM_filter_eq_error_iff]
  have hcomma : ∀ {earlier piece later}, pieces ',' text = earlier ++ piece :: later →
      ∀ p ∈ earlier ++ piece :: later, ',' ∉ p :=
    fun heq _ hp => not_mem_of_mem_pieces (heq ▸ hp)
  -- Piece by piece: what passes the filter and fails is what does not fit.
  refine exists_congr fun earlier => exists_congr fun piece => exists_congr fun later =>
    and_congr_right fun heq => ?_
  have hpiece := Permit.fits_iff (hcomma heq piece (by simp))
  refine and_congr ?_ ?_
  · refine forall₂_congr fun p hp => ?_
    rw [Permit.fits_iff (hcomma heq p (by simp [hp]))]
    cases allBlank p <;> simp
  · rw [hpiece, Permit.parse_eq_error_iff]
    cases allBlank piece <;> simp [and_comm]

/-- An entry that is written by itself is read as the only one. -/
theorem parse_text_permit {permit : Permit} (h : permit.WellFormed) :
    parse permit.text.toList = .ok [permit] := by
  have hslash : '/' ∈ permit.text.toList := by simp [Permit.toList_text]
  have hblank : allBlank permit.text.toList = false := by
    rw [allBlank, List.all_eq_false]
    exact ⟨'/', hslash, by decide⟩
  have hparse : Permit.parse permit.text.toList = .ok permit :=
    (Permit.parse_eq_ok_iff h.comma_not_mem_text).mpr ⟨h, strip_of_trimmed h.trimmed_text⟩
  simp [parse, pieces_of_not_mem h.comma_not_mem_text, hblank, hparse, bind, Except.bind, pure,
    Except.pure]

/-- Texts with commas between them are read one after the other. -/
theorem parse_intercalate (texts : List String) : parse (",".intercalate texts).toList =
    (texts.mapM fun text => parse text.toList).map List.flatten := by
  induction texts with
  | nil => rfl
  | cons text texts ih =>
    cases texts with
    | nil =>
      rw [String.intercalate_singleton, List.mapM_cons]
      cases parse text.toList <;> simp [bind, Except.bind, pure, Except.pure, Except.map]
    | cons next texts =>
      have hcomma : (",".intercalate (text :: next :: texts)).toList =
          text.toList ++ ',' :: (",".intercalate (next :: texts)).toList := by
        simp [String.intercalate_cons_cons]
      rw [List.mapM_cons, hcomma, parse_append_cons, ih]
      cases parse text.toList with
      | error fault => rfl
      | ok first =>
        cases (next :: texts).mapM fun text => parse text.toList <;> rfl

theorem parse_text (h : ∀ permit ∈ allowlist, permit.WellFormed) :
    parse allowlist.text.toList = .ok allowlist := by
  have hread : (allowlist.map Permit.text).mapM (fun text => parse text.toList) =
      .ok (allowlist.map fun permit => [permit]) := by
    induction allowlist with
    | nil => rfl
    | cons permit allowlist ih =>
      rw [List.map_cons, List.mapM_cons, parse_text_permit (h permit List.mem_cons_self),
        ih fun p hp => h p (List.mem_cons_of_mem permit hp)]
      rfl
  rw [text, parse_intercalate, hread]
  simp [Except.map, ← List.flatMap_def]

end Allowlist

/-- Entries that are given by an option are read one option after the other. -/
theorem CommandLine.policyOf_of_allow {words : LookupWords} (h : words.allow ≠ []) (policy : Policy) :
    policyOf policy words = (words.allow.mapM fun text => Allowlist.parse text.toList).map fun lists =>
      ⟨words.restriction.getD policy.restriction, lists.flatten⟩ := by
  unfold policyOf
  rw [List.isEmpty_eq_false_iff.mpr h, Allowlist.parse_intercalate]
  cases words.allow.mapM fun text => Allowlist.parse text.toList <;> rfl

/-- Allowlists are read and written without loss. Text with a comma in it is read as its two sides are, one
after the other, and of its malformed pieces the first from the left is reported; so options that give
entries add up. What can be written is read back as it was, in order and with what is repeated, and
whatever was read can be written. -/
theorem allowlists_roundTrip :
    (∀ (front back : String) (allowlist : Allowlist),
      Allowlist.parse (front ++ "," ++ back).toList = .ok allowlist ↔
        ∃ first second, Allowlist.parse front.toList = .ok first ∧
          Allowlist.parse back.toList = .ok second ∧ allowlist = first ++ second) ∧
    (∀ text message, Allowlist.parse text = .error message ↔ Allowlist.FirstFault text message) ∧
    (∀ (policy : Policy) (words : CommandLine.LookupWords), words.allow ≠ [] →
      CommandLine.policyOf policy words =
        (words.allow.mapM fun text => Allowlist.parse text.toList).map fun lists =>
          ⟨words.restriction.getD policy.restriction, lists.flatten⟩) ∧
    (∀ allowlist : Allowlist, (∀ permit ∈ allowlist, permit.WellFormed) →
      Allowlist.parse allowlist.text.toList = .ok allowlist) ∧
    ∀ text allowlist, Allowlist.parse text = .ok allowlist →
      (∀ permit ∈ allowlist, permit.WellFormed) ∧
        Allowlist.parse allowlist.text.toList = .ok allowlist := by
  refine ⟨?_, ?_, ?_, ?_, ?_⟩
  · intro front back allowlist
    rw [show (front ++ "," ++ back).toList = front.toList ++ ',' :: back.toList by simp]
    exact Allowlist.parse_append_eq_ok_iff
  · intro text message
    exact Allowlist.parse_eq_error_iff
  · intro policy words h
    exact CommandLine.policyOf_of_allow h policy
  · intro allowlist h
    exact Allowlist.parse_text h
  · intro text allowlist h
    have hformed := Allowlist.wellFormed_of_parse h
    exact ⟨hformed, Allowlist.parse_text hformed⟩

/-- Two options, one of them with blanks around its entry and with an entry that is repeated, and a third
one that is malformed. -/
theorem allowlists_roundTrip_repeated :
    let team : Permit := ⟨"", "Namespace", "team-a"⟩
    let admin : Permit := ⟨"rbac.authorization.k8s.io", "ClusterRole", "*"⟩
    let read : Allowlist := [team, admin, team]
    Allowlist.parse
        " /Namespace/team-a ,rbac.authorization.k8s.io/ClusterRole/*,,/Namespace/team-a".toList = .ok read ∧
      (∀ permit ∈ read, permit.WellFormed) ∧
      Allowlist.parse read.text.toList = .ok read ∧
      Allowlist.FirstFault " , Node/n1,/Node/".toList (Permit.malformed " Node/n1".toList) := by
  intro team admin read
  obtain ⟨happend, hfault, _, _, hback⟩ := allowlists_roundTrip
  have hread := (happend " /Namespace/team-a "
    "rbac.authorization.k8s.io/ClusterRole/*,,/Namespace/team-a" read).mpr
    ⟨[team], [admin, team], by cbv, by cbv, rfl⟩
  obtain ⟨hformed, hwritten⟩ := hback _ read hread
  refine ⟨hread, hformed, hwritten, ?_⟩
  rw [← hfault]
  rfl

end ClusterLookup
