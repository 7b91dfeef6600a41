/-
# A run of the report

The report is a chain of parts. Loading the settings and all that is printed and recorded
is silent; each of the other parts stands for requests to the controller. The run prints
the title, then comes all that happens in the chain, and a handled failure adds one record
(`run_run`, `run_run_of_handled`).
-/

import BareMetal.Proofs.Controller.Permission
import BareMetal.Report

namespace BareMetal
namespace Report

open Exchange

/-- Recording what the report does is silent. -/
theorem silent_info (message : String) : (info message).Silent := silent_log .info logger message

/-- Printing a line is silent. -/
theorem silent_print (line : String) : (print line).Silent := fun _ => ⟨rfl, rfl⟩

/-- Lines are printed one by one, and that is all. -/
theorem run_printAll (lines : List String) (replies : List Reply) :
    (printAll lines).run replies = ⟨.ok (), lines.map .print, replies⟩ := by
  induction lines with
  | nil => rfl
  | cons line lines ih =>
    have first : (print line).run replies = ⟨.ok (), [.print line], replies⟩ := rfl
    have rest := run_bind_of_ok (f := fun _ => printAll lines) first
    rw [ih] at rest
    exact rest

/-- Among printed lines there is no request. -/
theorem requests_map_print (lines : List String) : requests (lines.map .print) = [] := by
  induction lines with
  | nil => rfl
  | cons line lines ih => rw [List.map_cons, requests_cons, ih]; rfl

/-- Printing lines is silent. -/
theorem silent_printAll (lines : List String) : (printAll lines).Silent := by
  intro replies
  rw [run_printAll]
  exact ⟨requests_map_print lines, rfl⟩

/-- Printing a line that may fail is silent. -/
theorem silent_printLine (line : Except Failure String) : (printLine line).Silent :=
  silent_bind (silent_ofExcept line) silent_print

/-- Printing a block device with its partitions is silent. -/
theorem silent_printDisk (d : BlockDevice) : (printDisk d).Silent :=
  silent_bind (silent_printLine _) fun _ => silent_forM (fun _ => silent_printLine _) d.partitions

/-- Printing a machine with its block devices is silent. -/
theorem silent_printMachine (m : Machine) : (printMachine m).Silent :=
  silent_bind (silent_printAll _) fun _ =>
    silent_bind (silent_forM silent_printDisk m.blockDevices) fun _ => silent_print ""

/-- Loading the settings is silent. -/
theorem silent_load (env : Environment) : (load env).Silent :=
  silent_bind (silent_info _) fun _ =>
    silent_bind (silent_ofExcept _) fun _ =>
      silent_bind (silent_info _) fun _ =>
        silent_bind (silent_info _) fun _ =>
          silent_bind (silent_info _) fun _ =>
            silent_bind (silent_print "") fun _ => silent_pure _

/-- The title of the report. -/
def title : List Event := (banner "MAAS Inventory Example" ++ [""]).map .print

/-- The run prints the title, and ends as the chain of its parts does. -/
theorem run_run {env : Environment} {replies : List Reply} {body : Outcome Unit}
    (hbody : (report env).run replies = body) {last : Outcome Nat}
    (hlast : (exitCode body.result).run body.left = last) :
    (run env).run replies = ⟨last.result, title ++ (body.events ++ last.events), last.left⟩ := by
  have hattempt : (report env).attempt.run replies = ⟨.ok body.result, body.events, body.left⟩ := by
    rw [run_attempt, hbody]
  have hprint : (print "").run replies = ⟨.ok (), [.print ""], replies⟩ := rfl
  rw [run, run_bind_of_ok (run_printAll _ _), run_bind_of_ok hprint, run_bind_of_ok hattempt, hlast]
  simp [title]

/-- Ending with a code is silent. -/
theorem silent_exitCode (result : Except Failure Unit) : (exitCode result).Silent := by
  cases result with
  | ok _ => exact silent_pure 0
  | error e =>
    unfold exitCode
    dsimp only
    split
    · exact silent_bind (silent_log .error logger _) fun _ => silent_pure 1
    · exact silent_ofExcept _

/-- The requests of a run are those of the chain of its parts. -/
theorem requests_run (env : Environment) (replies : List Reply) :
    requests ((run env).run replies).events = requests ((report env).run replies).events := by
  rw [run_run rfl rfl, requests_append, requests_append, (silent_exitCode _ _).1, title,
    requests_map_print, List.nil_append, List.append_nil]

/-- A handled failure ends the run with the code 1 after one more record. -/
theorem run_run_of_handled {env : Environment} {replies : List Reply} {e : Failure}
    {heading : String} (fails : ((report env).run replies).result = .error e)
    (handled : heading? e = some heading) :
    ((run env).run replies).result = .ok 1 ∧
      ((run env).run replies).events.getLast? =
        some (.log .error logger s!"{heading}: {e.message}") := by
  have hexit : (exitCode ((report env).run replies).result).run ((report env).run replies).left =
      ⟨.ok 1, [.log .error logger s!"{heading}: {e.message}"], ((report env).run replies).left⟩ := by
    rw [fails, exitCode, handled]
    rfl
  rw [run_run rfl hexit]
  simp

end Report
end BareMetal
