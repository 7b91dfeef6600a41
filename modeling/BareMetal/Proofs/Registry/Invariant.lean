/-
# What every declaration keeps in a registry

The versions of a registry ascend, and they are the versions that the table of
decoders has (`Registry.WellFormed`): so it is in a new registry, and so it stays
when a decoder is declared (`WellFormed.insert`). Hence the version that a search
selects has a decoder, and resolving a version yields the decoder at the greatest
declared version that is not newer (`WellFormed.resolve_eq_ok_iff`).
-/

import BareMetal.Version.Registry
import BareMetal.Proofs.Version.Ascending
import Mathlib.Order.Bounds.Defs

namespace BareMetal

namespace DecoderTable

variable {δ : Type}

/-- Spellings of one version have the same decoder. -/
theorem get?_congr {v w : Version} (h : v.Same w) (table : DecoderTable δ) :
    table.get? v = table.get? w := by
  induction table with
  | nil => rfl
  | cons entry table ih =>
    obtain ⟨u, d⟩ := entry
    have hu : u.Same v ↔ u.Same w := ⟨fun hv => hv.trans h, fun hw => hw.trans h.symm⟩
    simp only [get?, hu, ih]

/-- A lookup after a write finds what was written, under every spelling, and else
what was there. -/
theorem get?_put (table : DecoderTable δ) (v w : Version) (d : δ) :
    (table.put v d).get? w = if v.Same w then some d else table.get? w := by
  induction table with
  | nil => rfl
  | cons entry table ih =>
    obtain ⟨u, e⟩ := entry
    by_cases huv : u.Same v
    · have hu : u.Same w ↔ v.Same w := ⟨fun h => huv.symm.trans h, fun h => huv.trans h⟩
      by_cases hvw : v.Same w <;> simp [put, get?, huv, hu, hvw]
    · by_cases huw : u.Same w
      · have hvw : ¬ v.Same w := fun h => huv (huw.trans h.symm)
        simp [put, get?, huv, huw, hvw]
      · simp [put, get?, huv, huw, ih]

/-- A version has a decoder exactly if a spelling of it stands in the table. -/
theorem isSome_get?_iff {table : DecoderTable δ} {v : Version} :
    (table.get? v).isSome ↔ ∃ u ∈ table.versions, u.Same v := by
  induction table with
  | nil => simp [get?, versions]
  | cons entry table ih =>
    obtain ⟨u, d⟩ := entry
    by_cases h : u.Same v
    · simp [get?, versions, h]
    · simpa [get?, versions, h] using ih

/-- A write adds a version only if no spelling of it is there. -/
theorem versions_put (table : DecoderTable δ) (v : Version) (d : δ) :
    (table.put v d).versions =
      if (table.get? v).isSome then table.versions else table.versions ++ [v] := by
  induction table with
  | nil => rfl
  | cons entry table ih =>
    obtain ⟨u, e⟩ := entry
    by_cases h : u.Same v
    · simp [put, get?, versions, h]
    · simp only [versions] at ih ⊢
      simp only [put, get?, h, if_false, List.map_cons, ih]
      split <;> simp

end DecoderTable

namespace Registry

variable {δ : Type}

/-- The versions ascend and are those that have a decoder. -/
structure WellFormed (r : Registry δ) : Prop where
  ascending : r.versions.Pairwise (· < ·)
  decoded : r.decoders.versions.Perm r.versions

/-- A new registry is well formed, since it has no versions and no decoders. -/
theorem wellFormed_new (kind : String) : WellFormed ({ kind := kind } : Registry δ) :=
  ⟨List.Pairwise.nil, List.Perm.refl []⟩

variable {r : Registry δ}

/-- A registry contains a version exactly if one of its versions is a spelling of it. -/
theorem WellFormed.contains_iff (h : r.WellFormed) {v : Version} :
    r.contains v ↔ ∃ u ∈ r.versions, u.Same v := by
  rw [contains, DecoderTable.isSome_get?_iff]
  constructor <;> rintro ⟨u, hu, hs⟩
  · exact ⟨u, h.decoded.mem_iff.1 hu, hs⟩
  · exact ⟨u, h.decoded.mem_iff.2 hu, hs⟩

/-- A version that is new stands behind the others in the table, and a known one keeps its
place and its first spelling. -/
theorem decoders_versions_insert (r : Registry δ) (v : Version) (d : δ) :
    (r.insert v d).decoders.versions =
      if r.contains v then r.decoders.versions else r.decoders.versions ++ [v] :=
  DecoderTable.versions_put ..

/-- A declaration keeps the versions in order and in step with the decoders. -/
theorem WellFormed.insert (h : r.WellFormed) (v : Version) (d : δ) :
    (r.insert v d).WellFormed := by
  by_cases hc : r.contains v
  · refine ⟨?_, ?_⟩
    · simpa [Registry.insert, hc] using h.ascending
    · rw [decoders_versions_insert, if_pos hc]
      simpa [Registry.insert, hc] using h.decoded
  · have new : ∀ u ∈ r.versions, ¬ u.Same v := fun u hu hs => hc (h.contains_iff.2 ⟨u, hu, hs⟩)
    have hv : (r.insert v d).versions = Version.insertAscending r.versions v := by
      simp [Registry.insert, hc]
    refine ⟨hv ▸ Version.ascending_insertAscending h.ascending new, ?_⟩
    rw [decoders_versions_insert, if_neg hc, hv]
    have hd : (r.decoders.versions ++ [v]).Perm (v :: r.versions) :=
      (List.perm_append_singleton ..).trans (h.decoded.cons v)
    exact hd.trans (Version.insertAscending_perm r.versions v).symm

/-- The search selects the greatest version that is not newer than the target. -/
theorem isGreatest_of_newest? (asc : r.versions.Pairwise (· < ·)) {target v : Version}
    (h : r.newest? target = some v) :
    IsGreatest {u | u ∈ r.versions ∧ u ≤ target} v := by
  have hp := Version.place_isPlace asc target
  unfold newest? at h
  split at h
  · cases h
  · next i hi =>
    rw [hi] at hp
    obtain ⟨hlt, rfl⟩ := List.getElem?_eq_some_iff.1 h
    refine ⟨⟨List.getElem_mem _, hp.before i hlt (by omega)⟩, ?_⟩
    rintro u ⟨hu, hle⟩
    obtain ⟨j, hj, rfl⟩ := List.mem_iff_getElem.1 hu
    have hji : j < i + 1 := Nat.lt_of_not_le fun hn =>
      Version.not_le.2 (hp.behind j hj (by omega)) hle
    exact Version.getElem_le_getElem asc hlt (by omega)

/-- The search finds nothing exactly if every declared version is newer. -/
theorem newest?_eq_none_iff (asc : r.versions.Pairwise (· < ·)) {target : Version} :
    r.newest? target = none ↔ ∀ u ∈ r.versions, ¬ u ≤ target := by
  have hp := Version.place_isPlace asc target
  unfold newest?
  split
  · next h0 =>
    rw [h0] at hp
    refine ⟨fun _ u hu => ?_, fun _ => rfl⟩
    obtain ⟨j, hj, rfl⟩ := List.mem_iff_getElem.1 hu
    exact Version.not_le.2 (hp.behind j hj (by omega))
  · next i hi =>
    rw [hi] at hp
    have hlt : i < r.versions.length := hp.le_length
    rw [List.getElem?_eq_getElem hlt]
    refine ⟨fun h => by simp at h, fun h => ?_⟩
    exact absurd (hp.before i hlt (by omega)) (h _ (List.getElem_mem _))

/-- A selected version has a decoder. -/
theorem WellFormed.exists_decoder (h : r.WellFormed) {v : Version} (hv : v ∈ r.versions) :
    ∃ d, r.decoders.get? v = some d :=
  Option.isSome_iff_exists.1 (h.contains_iff.2 ⟨v, hv, Version.Same.refl v⟩)

/-- Resolving yields the decoder at the greatest declared version that is not newer
than the target. -/
theorem WellFormed.resolve_eq_ok_iff (h : r.WellFormed) {target : Version} {d : δ} :
    r.resolve target = .ok d ↔
      ∃ v, IsGreatest {u | u ∈ r.versions ∧ u ≤ target} v ∧ r.decoders.get? v = some d := by
  unfold resolve
  split
  · next hn =>
    refine ⟨fun h => by simp at h, fun ⟨v, hv, _⟩ => ?_⟩
    exact absurd hv.1.2 ((newest?_eq_none_iff h.ascending).1 hn v hv.1.1)
  · next w hw =>
    have hg := isGreatest_of_newest? h.ascending hw
    obtain ⟨e, he⟩ := h.exists_decoder hg.1.1
    simp only [he, Except.ok.injEq]
    constructor
    · rintro rfl
      exact ⟨w, hg, he⟩
    · rintro ⟨v, hv, hd⟩
      have hs : w.Same v := Version.same_iff_le_and_ge.2 ⟨hv.2 hg.1, hg.2 hv.1⟩
      rw [DecoderTable.get?_congr hs, hd] at he
      exact (Option.some.inj he).symm

/-- Resolving fails exactly if every declared version is newer than the target. -/
theorem WellFormed.resolve_eq_error_iff (h : r.WellFormed) {target : Version} {e : Failure} :
    r.resolve target = .error e ↔
      (∀ u ∈ r.versions, ¬ u ≤ target) ∧
        e = .plain .unsupportedVersion
          s!"no {r.kind} read func for version {target.releaseText}" := by
  rw [← newest?_eq_none_iff h.ascending]
  unfold resolve
  split
  · next hn => simp [hn, eq_comm]
  · next w hw =>
    obtain ⟨d, hd⟩ := h.exists_decoder (isGreatest_of_newest? h.ascending hw).1.1
    simp [hd, hw]

end Registry
end BareMetal
