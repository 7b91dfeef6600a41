/-
# How a registry represents what was declared

A registry keeps what was declared twice: as an ascending list of versions and as a table of
decoders. After any declarations both hold the same versions, and these are the first
spellings among the declared ones (`isFirstSpelling_iff_mem`), one for each version that was
declared (`size_ofDeclarations`). So the version that a search selects is always one that
has a decoder (`represents_declarations`).
-/

import BareMetal.Proofs.Registry.Resolution
import Mathlib

namespace BareMetal

variable {δ : Type}

namespace Registry

/-- The versions that declarations spell, in the order of the declarations. -/
def spelled (xs : List (Declaration δ)) : List Version :=
  xs.filterMap fun x => (Version.ofText x.text).toOption

/-- `v` is the first of its spellings. -/
def IsFirstSpelling (vs : List Version) (v : Version) : Prop :=
  ∃ before after, vs = before ++ v :: after ∧ ∀ u ∈ before, ¬ u.Same v

/-- A version at the end is a first spelling if no spelling of it stands before. -/
theorem isFirstSpelling_concat {vs : List Version} {v w : Version} :
    IsFirstSpelling (vs ++ [w]) v ↔ IsFirstSpelling vs v ∨ v = w ∧ ∀ u ∈ vs, ¬ u.Same w := by
  constructor
  · rintro ⟨before, after, heq, hbefore⟩
    rcases List.eq_nil_or_concat after with rfl | ⟨init, last, rfl⟩
    · obtain ⟨rfl, rfl⟩ := List.append_singleton_inj.1 heq
      exact .inr ⟨rfl, hbefore⟩
    · rw [List.concat_eq_append, ← List.cons_append, ← List.append_assoc] at heq
      exact .inl ⟨before, init, (List.append_singleton_inj.1 heq).1, hbefore⟩
  · rintro (⟨before, after, rfl, hbefore⟩ | ⟨rfl, hbefore⟩)
    · exact ⟨before, after ++ [w], by simp, hbefore⟩
    · exact ⟨vs, [], rfl, hbefore⟩

/-- The spelled versions are those of the declarations whose text is a version. -/
theorem mem_spelled {xs : List (Declaration δ)} {v : Version} :
    v ∈ spelled xs ↔ ∃ x ∈ xs, Version.ofText x.text = .ok v := by
  have parsed : ∀ x : Declaration δ,
      (Version.ofText x.text).toOption = some v ↔ Version.ofText x.text = .ok v := by
    intro x
    cases Version.ofText x.text <;> simp [Except.toOption]
  simp only [spelled, List.mem_filterMap, parsed]

/-- A version is declared exactly if one of the spelled versions is a spelling of it. -/
theorem exists_declares_iff {xs : List (Declaration δ)} {v : Version} :
    (∃ x ∈ xs, x.Declares v) ↔ ∃ u ∈ spelled xs, u.Same v := by
  simp only [mem_spelled, Declaration.Declares]
  constructor
  · rintro ⟨x, hx, u, hu, hs⟩
    exact ⟨u, ⟨x, hx, hu⟩, hs⟩
  · rintro ⟨u, ⟨x, hx, hu⟩, hs⟩
    exact ⟨x, hx, u, hu, hs⟩

/-- A registry contains what was declared, under every spelling. -/
theorem contains_ofDeclarations (kind : String) (xs : List (Declaration δ)) (v : Version) :
    (ofDeclarations kind xs).contains v ↔ ∃ u ∈ spelled xs, u.Same v := by
  rw [(wellFormed_ofDeclarations kind xs).contains_iff, mem_versions_ofDeclarations,
    exists_declares_iff]

/-- The table has the first spellings: a declaration adds its own exactly if the version is
a new one. -/
theorem isFirstSpelling_iff_mem (kind : String) (xs : List (Declaration δ)) (v : Version) :
    v ∈ (ofDeclarations kind xs).decoders.versions ↔ IsFirstSpelling (spelled xs) v := by
  induction xs using List.reverseRecOn with
  | nil => simp [ofDeclarations, DecoderTable.versions, spelled, IsFirstSpelling]
  | append_singleton xs x ih =>
    have step : ofDeclarations kind (xs ++ [x]) = (ofDeclarations kind xs).declare x := by
      simp [ofDeclarations]
    rw [step]
    cases hx : Version.ofText x.text with
    | error e =>
      have same : spelled (xs ++ [x]) = spelled xs := by simp [spelled, hx, Except.toOption]
      rw [declare_of_error _ hx, same, ih]
    | ok w =>
      have more : spelled (xs ++ [x]) = spelled xs ++ [w] := by
        simp [spelled, hx, Except.toOption]
      have known := contains_ofDeclarations kind xs w
      rw [declare_of_ok _ hx, decoders_versions_insert, more, isFirstSpelling_concat, ← ih]
      split
      · next h =>
        obtain ⟨u, hu, hs⟩ := known.1 h
        exact ⟨.inl, fun h => h.elim id fun new => absurd hs (new.2 u hu)⟩
      · next h =>
        have new : ∀ u ∈ spelled xs, ¬ u.Same w := fun u hu hs => h (known.2 ⟨u, hu, hs⟩)
        rw [List.mem_append, List.mem_singleton, and_iff_left new]

/-- Different versions of an ascending list have different keys. -/
theorem nodup_keys {versions : List Version} (asc : versions.Pairwise (· < ·)) :
    (versions.map Version.key).Nodup := by
  refine List.pairwise_map.2 (asc.imp fun {v w} older same => ?_)
  exact Version.not_le.2 older (Version.Same.le (Eq.symm same))

/-- A registry has as many versions as different ones were declared. -/
theorem size_ofDeclarations (kind : String) (xs : List (Declaration δ)) :
    (ofDeclarations kind xs).size = ((spelled xs).map Version.key).toFinset.card := by
  have asc := (wellFormed_ofDeclarations kind xs).ascending
  have keys : ((ofDeclarations kind xs).versions.map Version.key).toFinset =
      ((spelled xs).map Version.key).toFinset := by
    ext key
    have declared (v : Version) :
        (∃ u ∈ (ofDeclarations kind xs).versions, u.Same v) ↔ ∃ u ∈ spelled xs, u.Same v :=
      (mem_versions_ofDeclarations kind).trans exists_declares_iff
    simp only [List.mem_toFinset, List.mem_map]
    constructor
    · rintro ⟨v, hv, rfl⟩
      exact (declared v).1 ⟨v, hv, .refl v⟩
    · rintro ⟨v, hv, rfl⟩
      exact (declared v).2 ⟨v, hv, .refl v⟩
  rw [← keys, List.toFinset_card_of_nodup (nodup_keys asc), List.length_map, size]

/-- **What a registry looks like after any declarations.** Its versions strictly ascend, are
exactly those of the table of decoders, and are the first spellings of the declared versions.
So there are as many of them as different versions were declared; it contains a version
exactly if some spelling of it was declared; and the version that a search selects has a
decoder, which is what resolving yields. -/
theorem represents_declarations (kind : String) (xs : List (Declaration δ)) :
    (ofDeclarations kind xs).versions.Pairwise (· < ·) ∧
    (ofDeclarations kind xs).decoders.versions.Perm (ofDeclarations kind xs).versions ∧
    (∀ v, v ∈ (ofDeclarations kind xs).versions ↔ IsFirstSpelling (spelled xs) v) ∧
    (ofDeclarations kind xs).size = ((spelled xs).map Version.key).toFinset.card ∧
    (∀ v, (ofDeclarations kind xs).contains v ↔ ∃ u ∈ spelled xs, u.Same v) ∧
    ∀ target v, (ofDeclarations kind xs).newest? target = some v →
      ∃ d, (ofDeclarations kind xs).decoders.get? v = some d ∧
        (ofDeclarations kind xs).resolve target = .ok d := by
  have wellFormed := wellFormed_ofDeclarations kind xs
  refine ⟨wellFormed.ascending, wellFormed.decoded, fun v => ?_, size_ofDeclarations kind xs,
    contains_ofDeclarations kind xs, fun target v selected => ?_⟩
  · rw [← wellFormed.decoded.mem_iff, isFirstSpelling_iff_mem]
  · have greatest := isGreatest_of_newest? wellFormed.ascending selected
    obtain ⟨d, hd⟩ := wellFormed.exists_decoder greatest.1.1
    exact ⟨d, hd, wellFormed.resolve_eq_ok_iff.2 ⟨v, greatest, hd⟩⟩

/-- Three texts of two versions, and one that is none: for `3.0` the first spelling of `2.0` is
selected, and it has a decoder. -/
theorem represents_respelled :
    (ofDeclarations "machine" [⟨"2.0", 1⟩, ⟨"v1.0", 2⟩, ⟨"latest", 3⟩, ⟨"2.0.0", 4⟩]).newest?
        { release := [3, 0] } = some { release := [2, 0] } ∧
      ∃ d, (ofDeclarations "machine"
          [⟨"2.0", 1⟩, ⟨"v1.0", 2⟩, ⟨"latest", 3⟩, ⟨"2.0.0", 4⟩]).decoders.get?
            { release := [2, 0] } = some d ∧
        (ofDeclarations "machine" [⟨"2.0", 1⟩, ⟨"v1.0", 2⟩, ⟨"latest", 3⟩, ⟨"2.0.0", 4⟩]).resolve
          { release := [3, 0] } = .ok d := by
  have selected : (ofDeclarations "machine"
      [⟨"2.0", 1⟩, ⟨"v1.0", 2⟩, ⟨"latest", 3⟩, ⟨"2.0.0", 4⟩]).newest? { release := [3, 0] } =
        some { release := [2, 0] } := by decide +kernel
  exact ⟨selected, (represents_declarations _ _).2.2.2.2.2 _ _ selected⟩

end Registry
end BareMetal
