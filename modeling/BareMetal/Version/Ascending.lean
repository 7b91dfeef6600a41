/-
# Ascending lists of versions

The place of a version in an ascending list is behind the versions that are not
newer than it. It is found by halving: between two bounds the version in the
middle is looked at, and the half that the place is not in is given up.
-/

import BareMetal.Version.Order

namespace BareMetal
namespace Version

/-- The place of `v` in an ascending list, given that it is from `low` to `high`. -/
def placeBetween (versions : List Version) (v : Version) (low high : Nat)
    (bound : high ≤ versions.length) : Nat :=
  if h : low < high then
    let middle := (low + high) / 2
    if v < versions[middle] then placeBetween versions v low middle (by omega)
    else placeBetween versions v (middle + 1) high bound
  else low
termination_by high - low

/-- The place of `v` in an ascending list. -/
def place (versions : List Version) (v : Version) : Nat :=
  placeBetween versions v 0 versions.length (Nat.le_refl _)

/-- Puts a version at its place in an ascending list. -/
def insertAscending (versions : List Version) (v : Version) : List Version :=
  versions.take (place versions v) ++ v :: versions.drop (place versions v)

end Version
end BareMetal
