/-
# Search and insertion in ascending lists of versions

Between its bounds the search keeps two facts: what stands before the lower bound
is not newer than the version looked for, and what stands from the upper bound on
is newer (`placeBetween_isPlace`). When the bounds meet, they are the place. Put at
its place, a version that is not in the list leaves the list ascending.
-/

import BareMetal.Version.Ascending
import BareMetal.Proofs.Version.Order

namespace BareMetal
namespace Version

/-- `p` is the place of `v`: the versions before it are not newer than `v`, and
those from it on are. -/
structure IsPlace (versions : List Version) (v : Version) (p : Nat) : Prop where
  le_length : p ≤ versions.length
  before : ∀ i (h : i < versions.length), i < p → versions[i] ≤ v
  behind : ∀ i (h : i < versions.length), p ≤ i → v < versions[i]

/-- In an ascending list the versions stand in the order of their places. -/
theorem getElem_le_getElem {versions : List Version} (asc : versions.Pairwise (· < ·))
    {i j : Nat} (hj : j < versions.length) (hij : i ≤ j) : versions[i] ≤ versions[j] := by
  rcases Nat.lt_or_eq_of_le hij with h | rfl
  · exact le_of_lt (List.pairwise_iff_getElem.1 asc i j _ hj h)
  · exact le_refl _

/-- Between bounds that hold the place the search finds it; the induction is on the search,
and both bounds keep their property. -/
theorem placeBetween_isPlace {versions : List Version} {v : Version}
    (asc : versions.Pairwise (· < ·)) {low high : Nat} (bound : high ≤ versions.length)
    (ordered : low ≤ high)
    (before : ∀ i (h : i < versions.length), i < low → versions[i] ≤ v)
    (behind : ∀ i (h : i < versions.length), high ≤ i → v < versions[i]) :
    IsPlace versions v (placeBetween versions v low high bound) := by
  fun_induction placeBetween versions v low high bound with
  | case1 low high bound h middle older ih =>
    refine ih (by omega) before fun i hi hm => ?_
    exact lt_of_lt_of_le older (getElem_le_getElem asc hi hm)
  | case2 low high bound h middle newer ih =>
    refine ih (by omega) (fun i hi hm => ?_) behind
    exact le_trans (getElem_le_getElem asc (by omega) (by omega)) (not_lt.1 newer)
  | case3 low high bound h =>
    obtain rfl : low = high := by omega
    exact ⟨bound, before, behind⟩

/-- In an ascending list the search over all of it finds the place. -/
theorem place_isPlace {versions : List Version} (asc : versions.Pairwise (· < ·))
    (v : Version) : IsPlace versions v (place versions v) :=
  placeBetween_isPlace asc (Nat.le_refl _) (Nat.zero_le _) (fun _ _ h => absurd h (by omega))
    fun _ hi h => absurd hi (by omega)

/-- Up to their order, putting a version at its place adds it to the others. -/
theorem insertAscending_perm (versions : List Version) (v : Version) :
    (insertAscending versions v).Perm (v :: versions) := by
  have h : (insertAscending versions v).Perm
      (v :: (versions.take (place versions v) ++ versions.drop (place versions v))) :=
    List.perm_middle
  rwa [List.take_append_drop] at h

/-- Putting a version at its place adds this version and loses none. -/
theorem mem_insertAscending {versions : List Version} {u v : Version} :
    u ∈ insertAscending versions v ↔ u = v ∨ u ∈ versions := by
  rw [(insertAscending_perm versions v).mem_iff, List.mem_cons]

/-- A version that is not in an ascending list is put into it in order. -/
theorem ascending_insertAscending {versions : List Version}
    (asc : versions.Pairwise (· < ·)) {v : Version} (new : ∀ u ∈ versions, ¬ u.Same v) :
    (insertAscending versions v).Pairwise (· < ·) := by
  have hp := place_isPlace asc v
  have before : ∀ u ∈ versions.take (place versions v), u < v := by
    intro u hu
    obtain ⟨i, hi, rfl⟩ := List.mem_take_iff_getElem.1 hu
    exact lt_of_not_same (hp.before i (by omega) (by omega)) (new _ (List.getElem_mem _))
  have behind : ∀ u ∈ versions.drop (place versions v), v < u := by
    intro u hu
    obtain ⟨i, hi, rfl⟩ := List.mem_drop_iff_getElem.1 hu
    exact hp.behind _ _ (by omega)
  refine List.pairwise_append.2 ⟨asc.sublist (List.take_sublist ..), ?_, ?_⟩
  · exact List.pairwise_cons.2 ⟨behind, asc.sublist (List.drop_sublist ..)⟩
  · intro u hu w hw
    rcases List.mem_cons.1 hw with rfl | hw
    · exact before u hu
    · exact lt_trans (before u hu) (behind w hw)

end Version
end BareMetal
