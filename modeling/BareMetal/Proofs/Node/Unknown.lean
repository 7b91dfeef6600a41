/-
# Unknown entities that were read

A partition or a block device that is not known is reported as missing, with its identifier in
the message, provided that the identifier has few enough digits to be written. An identifier that
was read from JSON always has, since the numbers in JSON are bounded
(`Shape.isWritable_of_readNumber`, `Json.isMeasured_of_parse`).

So for every partition and every block device that was read, not being known and being reported as
missing are the same (`BlockDevice.withPartition_eq_missing_iff`,
`Machine.withBlockDevice_eq_missing_iff`).
-/

import BareMetal.Proofs.Json.Numbers
import BareMetal.Proofs.Node.BlockDevices
import BareMetal.Proofs.Reader.Fields
import BareMetal.Proofs.Storage.Partitions

namespace BareMetal

/-- **A number that was read can be written.** -/
theorem Shape.isWritable_of_readNumber {d : Datum} {n : ℤ} (measured : d.IsMeasured)
    (reads : Shape.readNumber d = .ok n) : Numeral.IsWritable n := by
  have truncated {source : Datum} {x : Binary64} (below : x.IsBelowLimit)
      (reads : Shape.truncated source x = .ok n) : Numeral.IsWritable n := by
    rw [Shape.truncated] at reads
    split at reads
    · next whole =>
      obtain rfl := Except.ok.inj reads
      exact below.isWritable whole
    · cases reads
  cases measured with
  | int writable =>
    obtain rfl := Except.ok.inj reads
    exact writable
  | float below => exact truncated below reads
  | text s =>
    rw [Shape.readNumber] at reads
    split at reads
    · next whole =>
      obtain rfl := Except.ok.inj reads
      exact Numeral.isWritable_of_int? whole
    · split at reads
      · next number => exact truncated (Numeral.isBelowLimit_of_float? number) reads
      · cases reads
  | _ => cases reads

section Identifiers

variable {es : Entries Datum} (measured : (Datum.map es).IsMeasured)
include measured

/-- An identifier that was read can be written. -/
theorem Field.isWritable_of_read {n : ℤ}
    (reads : Field.read { name := "id", shape := .number } es = .ok n) : Numeral.IsWritable n := by
  cases present : es.get? "id" with
  | none =>
    rw [Field.read_absent_of_no_default present rfl] at reads
    cases reads
  | some d =>
    rw [Field.read_present present] at reads
    exact Shape.isWritable_of_readNumber (measured.of_get? present) (mapError_eq_ok_iff.1 reads)

variable {version : Except Failure Version}

/-- The identifier of a partition that was read can be written. -/
theorem Partition.isWritable_id {p : Partition}
    (reads : Partition.reader.readAt version (.map es) = .ok p) : Numeral.IsWritable p.id := by
  obtain ⟨v, rfl, recent⟩ := Kind.recent_of_readAt_eq_ok (k := .partition) reads
  obtain ⟨_, ⟨⟩, ⟨uri, id, rest⟩, read, made⟩ :=
    (Kind.readAt_eq_ok_iff (k := .partition) recent).1 reads
  obtain ⟨filesystem, -, made⟩ := bind_eq_ok_iff.1 made
  obtain rfl := Except.ok.inj made
  have fields := (Schema.readEntries_cons_eq_ok_iff.1 read).2
  exact Field.isWritable_of_read measured (Schema.readEntries_cons_eq_ok_iff.1 fields).1

/-- The identifier of a block device that was read can be written. -/
theorem BlockDevice.isWritable_id {u : BlockDevice}
    (reads : BlockDevice.reader.readAt version (.map es) = .ok u) : Numeral.IsWritable u.id := by
  obtain ⟨v, rfl, recent⟩ := Kind.recent_of_readAt_eq_ok (k := .blockDevice) reads
  obtain ⟨_, ⟨⟩, ⟨uri, id, rest⟩, read, made⟩ :=
    (Kind.readAt_eq_ok_iff (k := .blockDevice) recent).1 reads
  obtain ⟨filesystem, -, made⟩ := bind_eq_ok_iff.1 made
  obtain ⟨partitions, -, made⟩ := bind_eq_ok_iff.1 made
  obtain rfl := Except.ok.inj made
  have fields := (Schema.readEntries_cons_eq_ok_iff.1 read).2
  exact Field.isWritable_of_read measured (Schema.readEntries_cons_eq_ok_iff.1 fields).1

/-- **A partition that was read is reported as missing** exactly if it is not known. -/
theorem BlockDevice.withPartition_eq_missing_iff (d : BlockDevice) {p : Partition}
    (reads : Partition.reader.readAt version (.map es) = .ok p) :
    d.withPartition p = .error (.plain .missing s!"partition {p.id} not found") ↔
      d.partition p.id = none := by
  refine ⟨fun fails => ?_, fun unknown =>
    withPartition_of_isWritable unknown (Partition.isWritable_id measured reads)⟩
  by_contra owned
  rw [withPartition_of_ne_none owned] at fails
  cases fails

/-- **A block device that was read is reported as missing** exactly if it is not known. -/
theorem Machine.withBlockDevice_eq_missing_iff (m : Machine) {u : BlockDevice}
    (reads : BlockDevice.reader.readAt version (.map es) = .ok u) :
    m.withBlockDevice u =
        .error (.plain .missing s!"block device {u.id} not found on machine {m.systemId}") ↔
      ¬ m.Owns u.id := by
  refine ⟨fun fails owned => ?_, fun unknown =>
    withBlockDevice_of_isWritable unknown (BlockDevice.isWritable_id measured reads)⟩
  rw [withBlockDevice_of_owns owned] at fails
  cases fails

end Identifiers

end BareMetal
