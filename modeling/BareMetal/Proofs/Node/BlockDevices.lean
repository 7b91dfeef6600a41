/-
# The block devices of a machine

A machine keeps its block devices in two lists, which may share devices. A write goes to
both: it fails if neither list owns the identifier, and else it replaces every device with
that identifier and nothing besides. The failure shows the identifier, and so is another one
for an identifier that is too long to be written; none that was read is so long
(`Machine.withBlockDevice_eq_missing_iff`).

| after any row of writes | is |
| --- | --- |
| what the machine finds by an identifier that a list owns | the device last written with it, or else the one before |
| two devices with the same identifier | equal, if that was so before |
| two writes to different identifiers, one after the other | the same the other way round |

A write that fails leaves the machine as it is (`Machine.write`), and so every write can be
taken as one that replaces (`Machine.write_eq`).
-/

import BareMetal.Node.Machine
import BareMetal.Proofs.Except
import BareMetal.Proofs.Identity
import BareMetal.Proofs.Number.Spelling

namespace BareMetal

/-- A device with a newer partition has the same identifier. -/
theorem BlockDevice.id_of_withPartition {d u : BlockDevice} {p : Partition}
    (h : d.withPartition p = .ok u) : u.id = d.id := by
  unfold BlockDevice.withPartition at h
  split at h
  · cases h
    rfl
  · obtain ⟨id, -, h⟩ := bind_eq_ok_iff.1 h
    cases h

/-- The device written last with an identifier. -/
def lastWritten (id : Int) (us : List BlockDevice) : Option BlockDevice :=
  findById BlockDevice.id id us.reverse

/-- Of several writes a later one counts before the first. -/
theorem lastWritten_cons (id : Int) (u : BlockDevice) (us : List BlockDevice) :
    lastWritten id (u :: us) = (lastWritten id us).or (if u.id = id then some u else none) := by
  unfold lastWritten
  rw [List.reverse_cons, findById_append]
  by_cases h : u.id = id <;> simp [findById, h]

namespace Machine

variable (m : Machine)

/-- The block devices of both lists. -/
def allDevices : List BlockDevice := m.blockDevices ++ m.physicalBlockDevices

/-- One of the lists has a device with the identifier. -/
def Owns (id : Int) : Prop := ∃ d ∈ m.allDevices, d.id = id

/-- Devices with the same identifier are equal, in one list and across the two. -/
def Coherent : Prop := ∀ d ∈ m.allDevices, ∀ e ∈ m.allDevices, d.id = e.id → d = e

/-- The machine after a write, which changes nothing if it fails. -/
def write (u : BlockDevice) : Machine :=
  match m.withBlockDevice u with
  | .ok m' => m'
  | .error _ => m

/-- The machine after one write after the other. -/
def writeAll (us : List BlockDevice) : Machine := us.foldl write m

/-- What one write makes of a machine: the lists are rewritten place by place, with their
identifiers in the same order, and everything else stays. -/
structure Written (u : BlockDevice) (m' : Machine) : Prop where
  ids_eq : m'.blockDevices.map BlockDevice.id = m.blockDevices.map BlockDevice.id
  physicalIds_eq :
    m'.physicalBlockDevices.map BlockDevice.id = m.physicalBlockDevices.map BlockDevice.id
  rewritten : Rewritten BlockDevice.id u m.blockDevices m'.blockDevices
  physicalRewritten :
    Rewritten BlockDevice.id u m.physicalBlockDevices m'.physicalBlockDevices
  others_eq : { m' with blockDevices := m.blockDevices,
                        physicalBlockDevices := m.physicalBlockDevices } = m

/-- The machine with every device that has the identifier of `u` replaced by it. -/
def replaced (u : BlockDevice) : Machine :=
  { m with
    blockDevices := replaceById BlockDevice.id u m.blockDevices
    physicalBlockDevices := replaceById BlockDevice.id u m.physicalBlockDevices }

variable {m} {u w : BlockDevice} {id : Int}

/-- A machine has no device with an identifier exactly if the search in each of its lists
finds none. -/
theorem not_owns_iff :
    ¬ m.Owns id ↔ m.blockDevice id = none ∧ m.physicalBlockDevice id = none := by
  unfold blockDevice physicalBlockDevice
  rw [findById_eq_none_iff, findById_eq_none_iff, ← List.forall_mem_append]
  simp [Owns, allDevices]

/-- A known device is replaced wherever it stands. -/
theorem withBlockDevice_of_owns (h : m.Owns u.id) : m.withBlockDevice u = .ok (m.replaced u) := by
  have hfound : ¬ (m.blockDevice u.id = none ∧ m.physicalBlockDevice u.id = none) :=
    fun hnone => not_owns_iff.2 hnone h
  unfold withBlockDevice
  rw [if_neg (by simpa using hfound)]
  rfl

/-- An unknown device is missing, unless its identifier is too long to be shown. -/
theorem withBlockDevice_of_not_owns (h : ¬ m.Owns u.id) :
    m.withBlockDevice u = .error (if Numeral.IsWritable u.id
      then .plain .missing s!"block device {u.id} not found on machine {m.systemId}"
      else Numeral.tooLong) := by
  unfold withBlockDevice
  rw [if_pos (by simpa using not_owns_iff.1 h)]
  exact Numeral.write_bind_error u.id fun id =>
    .plain .missing s!"block device {id} not found on machine {m.systemId}"

/-- An unknown device whose identifier can be shown is missing. -/
theorem withBlockDevice_of_isWritable (h : ¬ m.Owns u.id) (writable : Numeral.IsWritable u.id) :
    m.withBlockDevice u =
      .error (.plain .missing s!"block device {u.id} not found on machine {m.systemId}") := by
  rw [withBlockDevice_of_not_owns h, if_pos writable]

/-- Replacing a device is a write: it changes the two lists in place and nothing else. -/
theorem written_replaced (m : Machine) (u : BlockDevice) : m.Written u (m.replaced u) where
  ids_eq := map_replaceById ..
  physicalIds_eq := map_replaceById ..
  rewritten := rewritten_replaceById
  physicalRewritten := rewritten_replaceById
  others_eq := rfl

/-- A write that fails has nothing to replace. -/
theorem write_eq (m : Machine) (u : BlockDevice) : m.write u = m.replaced u := by
  unfold write
  by_cases h : m.Owns u.id
  · rw [withBlockDevice_of_owns h]
  · have hnone : ∀ d ∈ m.allDevices, d.id ≠ u.id := fun d hd hid => h ⟨d, hd, hid⟩
    rw [withBlockDevice_of_not_owns h]
    unfold replaced
    rw [replaceById_eq_self fun d hd => hnone d (List.mem_append_left _ hd),
      replaceById_eq_self fun d hd => hnone d (List.mem_append_right _ hd)]

/-- After a write the device with an identifier is the one written, if the identifier is its
own and was known, and else the one from before. -/
theorem blockDevice_write (m : Machine) (u : BlockDevice) (id : Int) :
    (m.write u).blockDevice id = (m.blockDevice id).map fun d => if u.id = id then u else d := by
  rw [write_eq]
  exact findById_replaceById

/-- After a write the physical device with an identifier is the one written, if the
identifier is its own and was known, and else the one from before. -/
theorem physicalBlockDevice_write (m : Machine) (u : BlockDevice) (id : Int) :
    (m.write u).physicalBlockDevice id =
      (m.physicalBlockDevice id).map fun d => if u.id = id then u else d := by
  rw [write_eq]
  exact findById_replaceById

/-- Two writes of devices with different identifiers may be made in either order. -/
theorem write_comm (m : Machine) (h : u.id ≠ w.id) : (m.write u).write w = (m.write w).write u := by
  rw [write_eq, write_eq, write_eq, write_eq]
  unfold replaced
  rw [replaceById_comm (Ne.symm h), replaceById_comm (Ne.symm h)]

/-- A write keeps devices with the same identifier equal: a device of the new machine is the
one written, or an old one with another identifier. -/
theorem Coherent.write (h : m.Coherent) (u : BlockDevice) : (m.write u).Coherent := by
  have old (d) (hd : d ∈ (m.write u).allDevices) : d = u ∨ d ∈ m.allDevices ∧ d.id ≠ u.id := by
    rw [write_eq] at hd
    rcases List.mem_append.1 hd with hd | hd
    · exact (mem_replaceById hd).imp_right fun h => ⟨List.mem_append_left _ h.1, h.2⟩
    · exact (mem_replaceById hd).imp_right fun h => ⟨List.mem_append_right _ h.1, h.2⟩
  intro d hd e he hid
  rcases old d hd with rfl | ⟨hd, hdu⟩
  · rcases old e he with rfl | ⟨-, heu⟩
    · rfl
    · exact absurd hid.symm heu
  · rcases old e he with rfl | ⟨he, -⟩
    · exact absurd hid hdu
    · exact h d hd e he hid

/-- However often devices are written, those with the same identifier stay equal. -/
theorem Coherent.writeAll (h : m.Coherent) (us : List BlockDevice) : (m.writeAll us).Coherent := by
  unfold Machine.writeAll
  induction us generalizing m with
  | nil => exact h
  | cons u us ih => exact ih (h.write u)

/-- What a row of writes leaves to be found follows from what one write does. -/
theorem find_writeAll (find : Machine → Option BlockDevice) (id : Int)
    (step : ∀ m u, find (m.write u) = (find m).map fun d => if u.id = id then u else d)
    (m : Machine) (us : List BlockDevice) :
    find (m.writeAll us) = (find m).map fun d => (lastWritten id us).getD d := by
  unfold writeAll
  induction us generalizing m with
  | nil => simp [lastWritten, findById]
  | cons u us ih =>
    rw [List.foldl_cons, ih, step, lastWritten_cons, Option.map_map]
    congr 1
    funext d
    cases lastWritten id us with
    | some d' => rfl
    | none =>
      by_cases hid : u.id = id <;> simp [hid]

/-- Two neighbours with different identifiers in a sequence of writes may change places. -/
theorem writeAll_comm (m : Machine) (h : u.id ≠ w.id) (us vs : List BlockDevice) :
    m.writeAll (us ++ u :: w :: vs) = m.writeAll (us ++ w :: u :: vs) := by
  unfold writeAll
  rw [List.foldl_append, List.foldl_append, List.foldl_cons, List.foldl_cons, List.foldl_cons,
    List.foldl_cons, write_comm _ h]

/-- **The two lists stay in agreement.** A write fails exactly if neither list owns the
identifier, as something missing if the identifier can be shown, and else rewrites both. After
any row of writes, devices with the same identifier are equal if they were so before; a list that
owns an identifier has the device last written with it; writes to different identifiers can change
places; and a device that was found and got a newer partition can be written back. -/
theorem writes_keep_agreement (m : Machine) :
    (∀ u, (¬ m.Owns u.id → Numeral.IsWritable u.id → m.withBlockDevice u = .error
          (.plain .missing s!"block device {u.id} not found on machine {m.systemId}")) ∧
        (¬ m.Owns u.id → ¬ Numeral.IsWritable u.id →
          m.withBlockDevice u = .error Numeral.tooLong) ∧
        (m.Owns u.id → ∃ m', m.withBlockDevice u = .ok m' ∧ m.Written u m')) ∧
      ∀ us, (m.Coherent → (m.writeAll us).Coherent) ∧
        (∀ id,
          (m.writeAll us).blockDevice id =
            (m.blockDevice id).map (fun d => (lastWritten id us).getD d) ∧
          (m.writeAll us).physicalBlockDevice id =
            (m.physicalBlockDevice id).map fun d => (lastWritten id us).getD d) ∧
        (∀ u w vs, u.id ≠ w.id →
          m.writeAll (us ++ u :: w :: vs) = m.writeAll (us ++ w :: u :: vs)) ∧
        ∀ id d p u, (m.writeAll us).blockDevice id = some d → d.withPartition p = .ok u →
          u.id = id ∧ ∃ m', (m.writeAll us).withBlockDevice u = .ok m' ∧
            m'.blockDevice id = some u := by
  refine ⟨fun u => ⟨withBlockDevice_of_isWritable, fun h long => ?_, fun howns => ?_⟩, fun us =>
    ⟨fun h => h.writeAll us, fun id => ⟨?_, ?_⟩, fun u w vs h => writeAll_comm m h us vs, ?_⟩⟩
  · rw [withBlockDevice_of_not_owns h, if_neg long]
  · exact ⟨_, withBlockDevice_of_owns howns, written_replaced m u⟩
  · exact find_writeAll (·.blockDevice id) id (fun m u => blockDevice_write m u id) m us
  · exact find_writeAll (·.physicalBlockDevice id) id
      (fun m u => physicalBlockDevice_write m u id) m us
  · intro id d p u hd hu
    obtain ⟨hmem, hdid⟩ := mem_of_findById hd
    have hid : u.id = id := (BlockDevice.id_of_withPartition hu).trans hdid
    have howns : (m.writeAll us).Owns u.id :=
      ⟨d, List.mem_append_left _ hmem, hdid.trans hid.symm⟩
    refine ⟨hid, _, withBlockDevice_of_owns howns, ?_⟩
    rw [← write_eq, blockDevice_write, hd, Option.map_some, if_pos hid]

/-- The device 1 is in both lists, 2 and 3 in one each, and 9 in none, nor one whose identifier is
one digit too long. -/
theorem writes_keep_agreement_shared :
    let device (id : Int) (size : Nat) : BlockDevice :=
      { resourceUri := "/", id, path := "/dev/sda", usedFor := "", size }
    let m : Machine :=
      { resourceUri := "/", systemId := "4y3ha3", hostname := "a", fqdn := "a.maas",
        operatingSystem := "", distroSeries := "", memory := 0, cpuCount := 1, powerState := "on",
        statusName := "Ready", zone := ⟨"/", "default", ""⟩,
        blockDevices := [device 1 10, device 2 20],
        physicalBlockDevices := [device 3 30, device 1 10] }
    let us := [device 1 11, device 9 90, device 3 31, device 1 12]
    m.Coherent ∧ ¬ m.Owns 9 ∧ (m.writeAll us).Coherent ∧
      (m.writeAll us).blockDevice 1 = some (device 1 12) ∧
      (m.writeAll us).physicalBlockDevice 1 = some (device 1 12) ∧
      (m.writeAll us).blockDevice 3 = none ∧
      m.withBlockDevice (device 9 90) =
        .error (.plain .missing "block device 9 not found on machine 4y3ha3") ∧
      m.withBlockDevice (device (10 ^ Numeral.digitLimit) 90) = .error Numeral.tooLong := by
  intro device m us
  have hcoherent : m.Coherent := by
    unfold Coherent
    decide
  have hforeign : ¬ m.Owns 9 := by
    unfold Owns
    decide
  have hlong : ¬ m.Owns (10 ^ Numeral.digitLimit) := by
    have short : ∀ d ∈ m.allDevices, Numeral.IsWritable d.id := by decide
    rintro ⟨d, hd, hid⟩
    exact Numeral.not_isWritable_pow (hid ▸ short d hd)
  obtain ⟨single, run⟩ := writes_keep_agreement m
  obtain ⟨coherent, found, -, -⟩ := run us
  refine ⟨hcoherent, hforeign, coherent hcoherent, ?_, ?_, ?_,
    (single (device 9 90)).1 hforeign (by decide),
    (single (device _ 90)).2.1 hlong Numeral.not_isWritable_pow⟩
  · rw [(found 1).1]
    rfl
  · rw [(found 1).2]
    rfl
  · rw [(found 3).1]
    rfl

end Machine
end BareMetal
