import ClusterLookup.Proofs.Selector.Equivalence
import ClusterLookup.Proofs.Stages

/-!
# Lookups that ask the same question

Under a policy two lookups stand for one question exactly when they ask the same: of the same apiVersion,
kind and name, in the same namespace, by selectors that require the same. So a cache never answers one
question with the documents of another one, and asks no question twice for being written differently.
-/

namespace ClusterLookup

open Selector (content parse)
open Text (join join_pieces pieces)

/-- An apiVersion is its group and version, put together again. -/
theorem joinApiVersion_of_splitApiVersion {apiVersion group version : String}
    (h : splitApiVersion apiVersion = some (group, version)) :
    joinApiVersion group version = apiVersion := by
  have hjoin := join_pieces '/' apiVersion.toList
  unfold splitApiVersion at h
  split at h
  · cases h
    rfl
  · next front back hp =>
    split at h
    · cases h
    · next hne =>
      cases h
      rw [hp] at hjoin
      have hfront : (String.ofList front).isEmpty = false := by
        cases front with
        | nil => simp at hne
        | cons c front => simp
      rw [joinApiVersion, hfront, ← String.toList_inj]
      simpa [join] using hjoin
  · cases h

/-- No two texts name the same group and version. -/
theorem splitApiVersion_injective {first second : String} {parts : String × String}
    (hf : splitApiVersion first = some parts) (hs : splitApiVersion second = some parts) :
    first = second :=
  (joinApiVersion_of_splitApiVersion hf).symm.trans (joinApiVersion_of_splitApiVersion hs)

/-- Two valid lookups stand for one question exactly when they ask the same. -/
theorem identity_eq_iff {policy : Policy} {first second : Arguments} {one other : Identity}
    (hone : first.identity policy = .ok one) (hother : second.identity policy = .ok other) :
    one = other ↔
      first.apiVersion = second.apiVersion ∧ first.kind = second.kind ∧
      policy.effectiveNamespace first.inNamespace = policy.effectiveNamespace second.inNamespace ∧
      first.name = second.name ∧
      ∃ rs qs, parse (first.selector.getD "").toList = .ok rs ∧
        parse (second.selector.getD "").toList = .ok qs ∧ content rs = content qs := by
  obtain ⟨_, hnamespace, hversion, hselector, hkind, hname⟩ := Arguments.identity_eq_ok_iff.mp hone
  obtain ⟨_, hnamespace', hversion', hselector', hkind', hname'⟩ :=
    Arguments.identity_eq_ok_iff.mp hother
  rw [← Selector.canonicalSelector_eq_iff hselector hselector', hnamespace, hnamespace', hkind, hkind',
    hname, hname']
  constructor
  · rintro rfl
    exact ⟨splitApiVersion_injective hversion hversion', rfl, rfl, rfl, rfl⟩
  · rintro ⟨hv, hk, hn, hm, hs⟩
    obtain ⟨⟨group, version, kind⟩, inNamespace, name, selector⟩ := one
    obtain ⟨⟨group', version', kind'⟩, inNamespace', name', selector'⟩ := other
    rw [hv, hversion'] at hversion
    cases hversion
    cases hk
    cases hn
    cases hm
    cases hs
    rfl

/-- Two lookups of a restricted evaluation that are written differently and ask the same. -/
theorem identity_eq_iff_restricted :
    let policy : Policy := ⟨"team-a", []⟩
    let first : Arguments := ⟨"apps/v1", "Deployment", "", "", some "tier in (web,api),!legacy"⟩
    let second : Arguments :=
      ⟨"apps/v1", "Deployment", "team-a", "", some " !legacy , tier in (api, web) "⟩
    let question : Identity :=
      ⟨⟨"apps", "v1", "Deployment"⟩, "team-a", "", "!legacy,tier in (api,web)"⟩
    first.identity policy = .ok question ∧ second.identity policy = .ok question ∧
      ∃ rs qs, parse "tier in (web,api),!legacy".toList = .ok rs ∧
        parse " !legacy , tier in (api, web) ".toList = .ok qs ∧ content rs = content qs := by
  intro policy first second question
  have hsplit : splitApiVersion "apps/v1" = some ("apps", "v1") := by cbv
  have hfirst : canonicalSelector (some "tier in (web,api),!legacy") =
      .ok "!legacy,tier in (api,web)" := by cbv
  have hsecond : canonicalSelector (some " !legacy , tier in (api, web) ") =
      .ok "!legacy,tier in (api,web)" := by cbv
  have hf : first.identity policy = .ok question :=
    Arguments.identity_eq_ok_iff.mpr ⟨rfl, rfl, hsplit, hfirst, rfl, rfl⟩
  have hs : second.identity policy = .ok question :=
    Arguments.identity_eq_ok_iff.mpr ⟨rfl, rfl, hsplit, hsecond, rfl, rfl⟩
  exact ⟨hf, hs, ((identity_eq_iff hf hs).mp rfl).2.2.2.2⟩

end ClusterLookup
