/-
# The summary of the machines

What is printed of a machine is a block of lines (`Block`): what it is, then an entry for each
of its block devices in order, then an empty line. The entry of a block device has its own line
first, and then one for each of its partitions in order (`DiskEntry`).

A part of the report that prints either prints lines of its form, or fails because a size in it
is too great (`Renders`). This is so of each line, and of everything that is put together of
such parts.
-/

import BareMetal.Proofs.Number.Overflow
import BareMetal.Proofs.Report.Run

namespace BareMetal
namespace Report

open Exchange

/-- The lines of a block device: its own, and below it one for each partition. -/
inductive DiskEntry (d : BlockDevice) : List String → Prop
  | intro {size : String} {lines : List String}
      (shown : Size.text (some (.whole d.size)) = .ok size)
      (partitions : List.Forall₂ (fun p line => partitionLine p = .ok line) d.partitions lines) :
      DiskEntry d (s!"  Disk {d.name}: {size}, {d.usedFor}" :: lines)

/-- The lines of a machine: what it is, its block devices, and an empty line. -/
inductive Block (m : Machine) : List String → Prop
  | intro {disks : List (List String)}
      (entries : List.Forall₂ DiskEntry m.blockDevices disks) :
      Block m (headLines m ++ disks.flatten ++ [""])

/-- A block device, or one of its partitions, is too great to be shown. -/
def TooGreatDisk (d : BlockDevice) : Prop :=
  Binary64.firstOverflow ≤ d.size ∨ ∃ p ∈ d.partitions, Binary64.firstOverflow ≤ p.size

/-- Something on a block device of the machine is too great to be shown. -/
def TooGreat (m : Machine) : Prop := ∃ d ∈ m.blockDevices, TooGreatDisk d

/-- A part of the report prints lines of some form, or fails since something is too great. -/
structure Renders (x : Exchange Unit) (form : List String → Prop) (great : Prop) : Prop where
  prints : ¬ great → ∃ lines, form lines ∧
    ∀ replies, x.run replies = ⟨.ok (), lines.map .print, replies⟩
  fails : great → ∀ replies, (x.run replies).result = .error Size.tooGreat

variable {x y : Exchange Unit} {form more : List String → Prop} {great greater : Prop}

/-- The form of the lines may be widened, and the condition of the failure put in another
way. -/
theorem Renders.congr (h : Renders x form great) (lines : ∀ ls, form ls → more ls)
    (same : great ↔ greater) : Renders x more greater := by
  refine ⟨fun small => ?_, fun exceeds => h.fails (same.2 exceeds)⟩
  obtain ⟨ls, hls, hrun⟩ := h.prints (small ∘ same.1)
  exact ⟨ls, lines ls hls, hrun⟩

/-- Two parts print the lines of the first and then those of the second, or fail since
something in one of them is too great. -/
theorem Renders.bind (hx : Renders x form great) (hy : Renders y more greater) :
    Renders (x >>= fun _ => y) (fun ls => ∃ a b, form a ∧ more b ∧ ls = a ++ b)
      (great ∨ greater) := by
  refine ⟨fun small => ?_, fun exceeds replies => ?_⟩
  · obtain ⟨a, ha, runs⟩ := hx.prints (small ∘ .inl)
    obtain ⟨b, hb, later⟩ := hy.prints (small ∘ .inr)
    refine ⟨a ++ b, ⟨a, b, ha, hb, rfl⟩, fun replies => ?_⟩
    rw [run_bind_of_ok (runs replies), later, List.map_append]
  · by_cases first : great
    · rw [run_bind_of_result_error (hx.fails first replies)]
    · obtain ⟨a, -, runs⟩ := hx.prints first
      rw [run_bind_of_ok (runs replies)]
      exact hy.fails (exceeds.resolve_left first) replies

/-- Lines that are there are printed as they are. -/
theorem renders_printAll (lines : List String) : Renders (printAll lines) (· = lines) False :=
  ⟨fun _ => ⟨lines, rfl, run_printAll lines⟩, False.elim⟩

/-- A list is printed item by item. -/
theorem renders_forM {α : Type} {f : α → Exchange Unit} {item : α → List String → Prop}
    {exceeds : α → Prop} (hf : ∀ a, Renders (f a) (item a) (exceeds a)) (xs : List α) :
    Renders (xs.forM f) (fun ls => ∃ parts, List.Forall₂ item xs parts ∧ ls = parts.flatten)
      (∃ a ∈ xs, exceeds a) := by
  induction xs with
  | nil =>
    refine ⟨fun _ => ⟨[], ⟨[], .nil, rfl⟩, fun _ => rfl⟩, ?_⟩
    rintro ⟨a, ha, -⟩
    cases ha
  | cons a xs ih =>
    refine ((hf a).bind ih).congr ?_ (by simp)
    rintro _ ⟨first, _, ha, ⟨parts, hparts, rfl⟩, rfl⟩
    exact ⟨first :: parts, .cons ha hparts, rfl⟩

/-- A line with a size in it. -/
theorem renders_printLine {n : ℕ} {line : String → String} {shown : Except Failure String}
    (hshown : shown = (Size.text (some (.whole n))).map line) :
    Renders (printLine shown)
      (fun ls => ∃ size, Size.text (some (.whole n)) = .ok size ∧ ls = [line size])
      (Binary64.firstOverflow ≤ n) := by
  refine ⟨fun small => ?_, fun great replies => ?_⟩
  · obtain ⟨size, hsize⟩ := Size.exists_text_of_lt (Nat.lt_of_not_le small)
    refine ⟨[line size], ⟨size, hsize, rfl⟩, fun replies => ?_⟩
    rw [hshown, hsize]
    rfl
  · rw [hshown, Size.text_of_le great]
    rfl

/-- Items of one line each. -/
theorem forall₂_flatten {α : Type} {shows : α → String → Prop} {xs : List α}
    {parts : List (List String)}
    (h : List.Forall₂ (fun x ls => ∃ line, shows x line ∧ ls = [line]) xs parts) :
    List.Forall₂ shows xs parts.flatten := by
  induction h with
  | nil => exact .nil
  | cons first _ ih =>
    obtain ⟨line, hline, rfl⟩ := first
    exact .cons hline ih

/-- A partition is one line, with its size in it. -/
theorem renders_partition (p : Partition) :
    Renders (printLine (partitionLine p)) (fun ls => ∃ line, partitionLine p = .ok line ∧
      ls = [line]) (Binary64.firstOverflow ≤ p.size) := by
  have line : partitionLine p = (Size.text (some (.whole p.size))).map fun size =>
      let mount := (p.filesystem.map (·.mountPoint)).getD ""
      s!"    - {p.path}: {size} {mount}" := by
    unfold partitionLine
    cases Size.text (some (.whole p.size)) <;> rfl
  refine (renders_printLine line).congr ?_ .rfl
  rintro _ ⟨size, hsize, rfl⟩
  exact ⟨_, by rw [line, hsize]; rfl, rfl⟩

/-- A block device is its own line and one for each of its partitions. -/
theorem renders_printDisk (d : BlockDevice) :
    Renders (printDisk d) (DiskEntry d) (TooGreatDisk d) := by
  have line : diskLine d = (Size.text (some (.whole d.size))).map fun size =>
      s!"  Disk {d.name}: {size}, {d.usedFor}" := by
    unfold diskLine
    cases Size.text (some (.whole d.size)) <;> rfl
  have partitions := renders_forM renders_partition d.partitions
  refine ((renders_printLine line).bind partitions).congr ?_ .rfl
  rintro _ ⟨_, _, ⟨size, hsize, rfl⟩, ⟨parts, hparts, rfl⟩, rfl⟩
  exact .intro hsize (forall₂_flatten hparts)

/-- A machine is a block: what it is, its block devices and an empty line. -/
theorem renders_printMachine (m : Machine) :
    Renders (printMachine m) (Block m) (TooGreat m) := by
  have disks := renders_forM renders_printDisk m.blockDevices
  have all := (renders_printAll (headLines m)).bind (disks.bind (renders_printAll [""]))
  refine all.congr ?_ (by simp [TooGreat])
  rintro _ ⟨_, _, rfl, ⟨_, _, ⟨parts, hparts, rfl⟩, rfl, rfl⟩, rfl⟩
  rw [← List.append_assoc]
  exact .intro hparts

/-- A list with one machine, whose block device has a size and a partition. -/
def oneMachine (size : List String) : Reply :=
  let before := ["[\x7b\"resource_uri\": \"/m/\", \"system_id\": \"4y3ha3\", ",
    "\"hostname\": \"a\", \"fqdn\": \"a\", \"osystem\": \"ubuntu\", ",
    "\"distro_series\": \"noble\", \"memory\": 1024, \"cpu_count\": 2, ",
    "\"power_state\": \"on\", \"status_name\": \"Ready\", \"tag_names\": [], ",
    "\"ip_addresses\": [], \"interface_set\": [], ",
    "\"zone\": \x7b\"resource_uri\": \"/z/\", \"name\": \"default\", ",
    "\"description\": \"\"\x7d, \"physicalblockdevice_set\": [], ",
    "\"blockdevice_set\": [\x7b\"resource_uri\": \"/d/\", \"id\": 1, ",
    "\"uuid\": null, \"name\": \"sda\", \"model\": null, \"id_path\": null, ",
    "\"path\": \"/dev/sda\", \"used_for\": \"boot\", \"tags\": [], ",
    "\"block_size\": 512, \"used_size\": 0, \"partitions\": [",
    "\x7b\"resource_uri\": \"/p/\", \"id\": 1, \"path\": \"/dev/sda1\", ",
    "\"uuid\": null, \"used_for\": \"\", \"size\": 1024\x7d], \"size\": "]
  .response { body := (before ++ size ++ ["\x7d]\x7d]"]).flatMap (·.toUTF8.toList) }

end Report
end BareMetal
