/-
# The partitions of a block device

A block device is a store of its partitions: a partition is found by its identifier, and a
newer state of it is written back. A write fails exactly if the device owns no partition with
the identifier, and the failure shows the identifier if that can be written; else it changes what
is found by that identifier, and nothing besides (`BlockDevice.Replaced`). The identifiers of the
partitions may be repeated.

| writes | come to |
| --- | --- |
| two with the same identifier | the second one alone |
| two with different identifiers | the same in either order |
| what was found, where no identifier is repeated | the device as it was |
-/

import BareMetal.Proofs.Except
import BareMetal.Proofs.Identity
import BareMetal.Proofs.Number.Spelling
import BareMetal.Storage.BlockDevice

namespace BareMetal
namespace BlockDevice

/-- What a write makes of a device: the partition written is found by its identifier, and
everything else stays, the order of the identifiers included. -/
structure Replaced (d : BlockDevice) (p : Partition) (d' : BlockDevice) : Prop where
  written : d'.partition p.id = some p
  others : ∀ id, id ≠ p.id → d'.partition id = d.partition id
  ids_eq : d'.partitions.map Partition.id = d.partitions.map Partition.id
  rest_eq : { d' with partitions := d.partitions } = d

/-- The device with every partition that has the identifier of `p` replaced by it. -/
def replaced (d : BlockDevice) (p : Partition) : BlockDevice :=
  { d with partitions := replaceById Partition.id p d.partitions }

variable {d : BlockDevice} {p q : Partition} {id : Int}

/-- After replacing a partition the one with an identifier is the new one, if the identifier
is its own and was known, and else the one from before. -/
theorem partition_replaced (d : BlockDevice) (p : Partition) (id : Int) :
    (d.replaced p).partition id = (d.partition id).map fun x => if p.id = id then p else x :=
  findById_replaceById

/-- Replacing a partition makes no identifier known and none unknown. -/
theorem partition_replaced_eq_none_iff :
    (d.replaced p).partition id = none ↔ d.partition id = none := by
  rw [partition_replaced, Option.map_eq_none_iff]

/-- An unknown partition is missing, unless its identifier is too long to be shown. -/
theorem withPartition_of_eq_none (h : d.partition p.id = none) :
    d.withPartition p = .error (if Numeral.IsWritable p.id
      then .plain .missing s!"partition {p.id} not found" else Numeral.tooLong) := by
  rw [withPartition, h]
  exact Numeral.write_bind_error p.id fun id => .plain .missing s!"partition {id} not found"

/-- An unknown partition whose identifier can be shown is missing. -/
theorem withPartition_of_isWritable (h : d.partition p.id = none)
    (writable : Numeral.IsWritable p.id) :
    d.withPartition p = .error (.plain .missing s!"partition {p.id} not found") := by
  rw [withPartition_of_eq_none h, if_pos writable]

/-- A known partition is replaced wherever it stands. -/
theorem withPartition_of_ne_none (h : d.partition p.id ≠ none) :
    d.withPartition p = .ok (d.replaced p) := by
  obtain ⟨x, hx⟩ := Option.ne_none_iff_exists'.1 h
  rw [withPartition, hx]
  rfl

/-- Replacing a known partition changes it, and nothing else of the device. -/
theorem replaced_isReplaced (h : d.partition p.id ≠ none) : d.Replaced p (d.replaced p) where
  written := by
    obtain ⟨x, hx⟩ := Option.ne_none_iff_exists'.1 h
    rw [partition_replaced, hx, Option.map_some, if_pos rfl]
  others id other := by
    rw [partition_replaced]
    simp [Ne.symm other]
  ids_eq := map_replaceById ..
  rest_eq := rfl

/-- Two writes come to one exactly where the device owns both identifiers. -/
theorem withPartition_bind_of_ne_none (hp : d.partition p.id ≠ none)
    (hq : d.partition q.id ≠ none) :
    (d.withPartition p >>= (·.withPartition q)) = .ok ((d.replaced p).replaced q) := by
  rw [withPartition_of_ne_none hp]
  exact withPartition_of_ne_none (partition_replaced_eq_none_iff.not.2 hq)

/-- Two writes fail if the device lacks one of the identifiers, whichever comes first. -/
theorem withPartition_bind_of_eq_none (h : d.partition p.id = none ∨ d.partition q.id = none) :
    (d.withPartition p >>= (·.withPartition q)).toOption = none := by
  by_cases hp : d.partition p.id = none
  · rw [withPartition_of_eq_none hp]
    rfl
  · have hq : (d.replaced p).partition q.id = none :=
      partition_replaced_eq_none_iff.2 (h.resolve_left hp)
    rw [withPartition_of_ne_none hp]
    change (withPartition (d.replaced p) q).toOption = none
    rw [withPartition_of_eq_none hq]
    rfl

/-- The second of two writes with the same identifier counts, and fails as it would alone. -/
theorem withPartition_twice (same : p.id = q.id) :
    (d.withPartition p >>= (·.withPartition q)) = d.withPartition q := by
  by_cases hq : d.partition q.id = none
  · rw [withPartition_of_eq_none hq, withPartition_of_eq_none (same ▸ hq), same]
    rfl
  · have again : (d.replaced p).replaced q = d.replaced q := by
      unfold replaced
      rw [replaceById_replaceById same]
    rw [withPartition_bind_of_ne_none (same ▸ hq) hq, withPartition_of_ne_none hq, again]

/-- Two writes of different partitions may be made in either order, and fail in either
order. -/
theorem withPartition_comm (other : p.id ≠ q.id) :
    (d.withPartition p >>= (·.withPartition q)).toOption =
      (d.withPartition q >>= (·.withPartition p)).toOption := by
  by_cases lacks : d.partition p.id = none ∨ d.partition q.id = none
  · rw [withPartition_bind_of_eq_none lacks, withPartition_bind_of_eq_none lacks.symm]
  · obtain ⟨hp, hq⟩ := not_or.1 lacks
    have swap : (d.replaced p).replaced q = (d.replaced q).replaced p := by
      unfold replaced
      rw [replaceById_comm (Ne.symm other)]
    rw [withPartition_bind_of_ne_none hp hq, withPartition_bind_of_ne_none hq hp, swap]

/-- Writing a partition as it is changes nothing. -/
theorem withPartition_of_partition (distinct : (d.partitions.map Partition.id).Nodup)
    (found : d.partition id = some p) : d.withPartition p = .ok d := by
  have own : p.id = id := (mem_of_findById found).2
  have owned : d.partition p.id ≠ none := by
    rw [own, found]
    nofun
  rw [withPartition_of_ne_none owned, replaced, replaceById_of_findById distinct found]

/-- **The partitions of a block device are a store.** A write fails exactly if the device owns
no partition with the identifier, as something missing if the identifier can be shown, and else
puts the new state where the old one was found. Of two writes with the same identifier the second
counts; two with different identifiers can change places; and where no identifier is repeated, what
was found can be written back. -/
theorem partitions_are_store (d : BlockDevice) :
    (∀ p, (Numeral.IsWritable p.id →
          (d.withPartition p = .error (.plain .missing s!"partition {p.id} not found") ↔
            d.partition p.id = none)) ∧
        (¬ Numeral.IsWritable p.id →
          (d.withPartition p = .error Numeral.tooLong ↔ d.partition p.id = none)) ∧
        (d.partition p.id ≠ none → ∃ d', d.withPartition p = .ok d' ∧ d.Replaced p d')) ∧
      (∀ p q, p.id = q.id →
        (d.withPartition p >>= (·.withPartition q)) = d.withPartition q) ∧
      (∀ p q, p.id ≠ q.id →
        (d.withPartition p >>= (·.withPartition q)).toOption =
          (d.withPartition q >>= (·.withPartition p)).toOption) ∧
      ((d.partitions.map Partition.id).Nodup →
        ∀ id p, d.partition id = some p → d.withPartition p = .ok d) := by
  have unknown {p : Partition} {e : Failure} (fails : d.withPartition p = .error e) :
      d.partition p.id = none := by
    by_contra owned
    rw [withPartition_of_ne_none owned] at fails
    cases fails
  exact ⟨fun p => ⟨fun writable => ⟨unknown, fun h => withPartition_of_isWritable h writable⟩,
      fun long => ⟨unknown, fun h => (withPartition_of_eq_none h).trans
        (congrArg Except.error (if_neg long))⟩,
      fun owned => ⟨_, withPartition_of_ne_none owned, replaced_isReplaced owned⟩⟩,
    fun p q => withPartition_twice, fun p q => withPartition_comm,
    fun distinct id p => withPartition_of_partition distinct⟩

/-- Of three partitions, two have the identifier 1; there is none with the identifier 9, nor with
one that is one digit too long. -/
theorem partitions_are_store_repeated :
    let part (id : Int) (size : Nat) : Partition :=
      { resourceUri := "/", id, path := "/dev/sda1", usedFor := "", size }
    let device (parts : List Partition) : BlockDevice :=
      { resourceUri := "/", id := 5, path := "/dev/sda", usedFor := "", size := 90,
        partitions := parts }
    let d := device [part 1 10, part 2 20, part 1 30]
    d.partition 1 ≠ none ∧
      (∃ d', d.withPartition (part 1 11) = .ok d' ∧ d.Replaced (part 1 11) d') ∧
      d.withPartition (part 9 90) =
        .error (.plain .missing "partition 9 not found") ∧
      d.withPartition (part (10 ^ Numeral.digitLimit) 90) = .error Numeral.tooLong ∧
      (d.withPartition (part 1 11) >>= (·.withPartition (part 1 12))) =
        d.withPartition (part 1 12) ∧
      (d.withPartition (part 1 11) >>= (·.withPartition (part 2 21))).toOption =
        (d.withPartition (part 2 21) >>= (·.withPartition (part 1 11))).toOption ∧
      (device [part 1 10, part 2 20]).withPartition (part 2 20) =
        .ok (device [part 1 10, part 2 20]) := by
  intro part device d
  have owned : d.partition 1 ≠ none := by decide
  have long : d.partition (10 ^ Numeral.digitLimit) = none := by
    have short : ∀ p ∈ d.partitions, Numeral.IsWritable p.id := by decide
    exact findById_eq_none_iff.2 fun p hp same =>
      Numeral.not_isWritable_pow (same ▸ short p hp)
  obtain ⟨single, twice, swap, -⟩ := partitions_are_store d
  obtain ⟨-, -, -, back⟩ := partitions_are_store (device [part 1 10, part 2 20])
  exact ⟨owned, (single (part 1 11)).2.2 owned, ((single (part 9 90)).1 (by decide)).2 rfl,
    ((single (part _ 90)).2.1 Numeral.not_isWritable_pow).2 long,
    twice (part 1 11) (part 1 12) rfl, swap (part 1 11) (part 2 21) (by decide),
    back (by decide) 2 (part 2 20) rfl⟩

end BlockDevice
end BareMetal
