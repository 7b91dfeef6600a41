/-
# How a run ends

A run ends with code 0 after a success, and with code 1 after a failure that is handled. A
failure is handled unless it is an overflow or something missing (`handled_iff`), and no part
of the report fails so before the summary: the settings are invalid, or the attempt to connect
fails, or a reply does not list what was asked for (`Handled`, one lemma for each part).

What is left is the summary. A size from `2 ^ 1024 - 2 ^ 970` on has no floating-point number
next to it, so it cannot be shown, and that failure is an overflow. So a run ends with a code
exactly if it does not come to show such a size (`ends_with_code_iff`).
-/

import BareMetal.Proofs.Report.Order
import BareMetal.Proofs.Wire.Location

namespace BareMetal

namespace Report

open Exchange

/-- The report puts the failure into the log, and ends with code 1. -/
def Handled (e : Failure) : Prop := (heading? e).isSome

/-- Only what is missing and what overflows is left alone. -/
theorem handled_iff {e : Failure} : Handled e ↔ e.kind ≠ .missing ∧ e.kind ≠ .overflow := by
  unfold Handled heading?
  generalize e.kind = kind
  cases kind with
  | transport t =>
    cases bad : t.isBadValue <;>
      simp [FaultKind.isBadValue, FaultKind.isReported, FaultKind.isTransport, bad]
  | _ => simp [FaultKind.isBadValue, FaultKind.isReported, FaultKind.isTransport]

/-- A failure of any other kind than those two is handled. -/
theorem handled_of_kind_eq {e : Failure} {kind : FaultKind} (h : e.kind = kind)
    (found : kind ≠ .missing) (bounded : kind ≠ .overflow) : Handled e :=
  handled_iff.2 ⟨h ▸ found, h ▸ bounded⟩

/-- Invalid settings are handled. -/
theorem handled_invalid (message : String) : Handled (.invalid message) := rfl

/-- A refusal is handled, whatever it is reported as. -/
theorem handled_reports {e : Failure} {kind : FaultKind} {r : Response}
    (h : e.Reports kind r) (usual : kind.isAnswer ∨ kind = .unexpected) : Handled e := by
  refine handled_of_kind_eq h.kind_eq ?_ ?_ <;> rintro rfl <;> simp [FaultKind.isAnswer] at usual

/-- A reply without a value did not come, is a refusal or is not JSON, and each of these is
handled. -/
theorem handled_of_answer {path : String} {reply : Reply} {e : Failure}
    (h : (Client.answer path reply).mapError (·.translate []) = .error e) : Handled e := by
  obtain ⟨untranslated, fails, rfl⟩ := mapError_eq_error_iff.1 h
  cases reply with
  | fault t message =>
    cases fails
    exact handled_of_kind_eq rfl nofun nofun
  | response r =>
    by_cases refuses : r.isRefusal
    · rw [Client.answer_of_isRefusal path refuses] at fails
      cases fails
      have usual : ∀ p ∈ ([] : StatusTable), p.2.isAnswer := by simp
      refine handled_reports (Failure.reports_translate usual r) ?_
      cases found : StatusTable.kind? [] r.status with
      | none => exact .inr rfl
      | some kind => exact .inl (StatusTable.isAnswer_of_kind? usual found)
    · rw [Client.answer_of_not_isRefusal path refuses] at fails
      have kind := Client.kind_of_readBody_eq_error fails
      rw [Failure.translate_of_ne_server (by rw [kind]; nofun)]
      exact handled_of_kind_eq kind nofun nofun

/-- What is not read as a list of entities fails as a value of the wrong form. -/
theorem handled_of_listing (k : Kind) {path : String} {reply : Reply} {e : Failure}
    (h : Client.listing path k.reader { release := [2, 0] } reply = .error e) : Handled e := by
  rcases bind_eq_error_iff.1 h with h | ⟨d, -, h⟩
  · exact handled_of_answer h
  · have recent : ({ release := [2, 0] } : Version) ≤ { release := [2, 0] } := le_refl _
    cases Kind.showsPlaceInList_of_readListAt_eq_error recent k h with
    | outerForm _ unwinds => exact handled_of_kind_eq unwinds.kind_eq nofun nofun
    | inside _ fault =>
      obtain ⟨-, -, -, unwinds⟩ := fault
      exact handled_of_kind_eq unwinds.kind_eq nofun nofun

/-- The attempt to connect fails in one way, whatever the cause. -/
theorem handled_of_connected {settings : Settings} {reply : Reply} {e : Failure}
    (h : connected settings reply = .error e) : Handled e := by
  unfold connected at h
  split at h
  · cases h
  · cases h
    exact handled_of_kind_eq rfl nofun nofun

section Sound

variable {env : Environment} {settings : Settings}
  (sound : Settings.ofEnvironment env = .ok settings)
include sound

/-- Without a URL for the version a client cannot be made use of, and the attempt to connect ends
before it sends anything. -/
theorem run_controller_connect_of_unresolved {e : Failure}
    (unresolved : (client settings).urlFor "version/" = .error e) (replies : List Reply) :
    (Controller.connect settings.url settings.apiVersions (some (.float settings.timeout))
      settings.verify).run replies = ⟨.error e, [.create (client settings)], replies⟩ := by
  rw [Controller.connect, Settings.candidates_apiVersions sound]
  exact Controller.run_tryVersions_unresolved unresolved

/-- Without a URL for the version the machines are not fetched, for the same reason. -/
theorem result_fetch_of_unresolved {e : Failure}
    (unresolved : (client settings).urlFor "version/" = .error e) (replies : List Reply) :
    ((fetch settings).run replies).result = .error e := by
  have connects := (run_connect settings replies
    (run_controller_connect_of_unresolved sound unresolved replies)).1
  rw [fetch, run_bind_of_result_error connects]

/-- If the machines are fetched, the version has a URL. -/
theorem exists_url_of_fetch {replies : List Reply} {machines : List Machine}
    (fetched : ((fetch settings).run replies).result = .ok machines) :
    ∃ url, (client settings).urlFor "version/" = .ok url := by
  cases version : (client settings).urlFor "version/" with
  | ok url => exact ⟨url, rfl⟩
  | error e =>
    rw [result_fetch_of_unresolved sound version] at fetched
    cases fetched

/-- All that keeps the report from the summary is handled. -/
theorem handled_of_fetch {replies : List Reply} {e : Failure}
    (h : ((fetch settings).run replies).result = .error e) : Handled e := by
  have tried := Settings.candidates_apiVersions sound
  cases version : (client settings).urlFor "version/" with
  | error fault =>
    obtain ⟨message, rfl⟩ := Client.eq_of_urlFor_eq_error version
    rw [result_fetch_of_unresolved sound version] at h
    cases h
    exact handled_invalid message
  | ok found =>
    obtain ⟨url, resolves⟩ := exists_url_of_version ⟨found, version⟩
    rw [result_fetch resolves tried] at h
    rcases bind_eq_error_iff.1 h with h | ⟨_, -, h⟩
    · exact handled_of_connected h
    rcases bind_eq_error_iff.1 h with h | ⟨_, -, h⟩
    · exact handled_of_listing .zone h
    rcases bind_eq_error_iff.1 h with h | ⟨_, -, h⟩
    · exact handled_of_listing .fabric h
    · exact handled_of_listing .machine h

end Sound

/-- The report comes to show a size that is too great: the settings are sound and their base has
a URL, the first three replies answer, and the last one lists such a machine. -/
def ComesToTooGreat (env : Environment) (replies : List Reply) : Prop :=
  ∃ settings machines, Settings.ofEnvironment env = .ok settings ∧
    (∃ url, (client settings).urlFor "version/" = .ok url) ∧
    Subject.version.Answered (replyAt replies 0) ∧ Subject.zones.Answered (replyAt replies 1) ∧
    Subject.fabrics.Answered (replyAt replies 2) ∧
    (replyAt replies 3).Contains Machine.reader { release := [2, 0] } machines ∧
    ∃ m ∈ machines, TooGreat m

variable {env : Environment} {replies : List Reply}

/-- A report that comes to a size that cannot be shown fails with the overflow. -/
theorem result_report_of_tooGreat (h : ComesToTooGreat env replies) :
    ((report env).run replies).result = .error Size.tooGreat := by
  obtain ⟨settings, machines, sound, version, h0, h1, h2, h3, great⟩ := h
  obtain ⟨url, resolves⟩ := exists_url_of_version version
  have tried := Settings.candidates_apiVersions sound
  have fetched := (result_fetch_eq_ok_iff resolves tried).2 ⟨h0, h1, h2, h3⟩
  rw [run_report_of_sound sound, run_bind_of_result_ok fetched]
  exact (renders_summary machines).fails great _

/-- Any other failure of the report is handled. -/
theorem handled_of_report {e : Failure} (h : ((report env).run replies).result = .error e)
    (small : ¬ ComesToTooGreat env replies) : Handled e := by
  cases sound : Settings.ofEnvironment env with
  | error fault =>
    obtain ⟨message, rfl⟩ := Settings.eq_of_ofEnvironment_eq_error sound
    rw [report_eq, run_bind_of_result_error ((result_load env replies).trans sound)] at h
    cases h
    exact handled_invalid message
  | ok settings =>
    rw [run_report_of_sound sound] at h
    cases fetched : ((fetch settings).run replies).result with
    | error fault =>
      rw [run_bind_of_result_error fetched] at h
      cases h
      exact handled_of_fetch sound fetched
    | ok machines =>
      have version := exists_url_of_fetch sound fetched
      obtain ⟨url, resolves⟩ := exists_url_of_version version
      have tried := Settings.candidates_apiVersions sound
      obtain ⟨h0, h1, h2, h3⟩ := (result_fetch_eq_ok_iff resolves tried).1 fetched
      have fits : ¬ ∃ m ∈ machines, TooGreat m := fun great =>
        small ⟨settings, machines, sound, version, h0, h1, h2, h3, great⟩
      obtain ⟨lines, -, prints⟩ := (renders_summary machines).prints fits
      rw [run_bind_of_result_ok fetched, prints] at h
      cases h

/-- **Every run ends with a code, unless it comes to a size that is too great.** The settings,
the URL, the replies and whatever is read from them never end a run in another way. If the
report comes to show a size that is too great for a floating-point number, the failure to
convert it is not handled. -/
theorem ends_with_code_iff (env : Environment) (replies : List Reply) :
    ((∃ code ≤ 1, ((run env).run replies).result = .ok code) ↔ ¬ ComesToTooGreat env replies) ∧
    (((run env).run replies).result = .error Size.tooGreat ↔ ComesToTooGreat env replies) := by
  by_cases great : ComesToTooGreat env replies
  · have fails : ((run env).run replies).result = .error Size.tooGreat := by
      rw [result_run, result_report_of_tooGreat great]
      rfl
    simp [fails, great]
  · obtain ⟨code, bound, ends⟩ :
        ∃ code ≤ 1, ((run env).run replies).result = .ok code := by
      rw [result_run]
      cases h : ((report env).run replies).result with
      | ok _ => exact ⟨0, Nat.zero_le 1, rfl⟩
      | error e => exact ⟨1, le_rfl, if_pos (handled_of_report h great)⟩
    simp [ends, bound, great]

/-- A block device of `10 ^ 309` bytes: the run has no code. -/
theorem no_code_of_great_size :
    let env : Environment := { url := some "http://maas:5240/MAAS" }
    let replies := [.ofText 200 "\x7b\"capabilities\": []\x7d", .ofText 200 "[]", .ofText 200 "[]",
      oneMachine ("1" :: List.replicate 309 "0")]
    ((run env).run replies).result.toOption = none ∧
      ¬ ∀ (env : Environment) (replies : List Reply),
        ∃ code ≤ 1, ((run env).run replies).result = .ok code := by
  intro env replies
  have fails : ((run env).run replies).result.toOption = none := by decide +kernel
  refine ⟨fails, fun all => ?_⟩
  obtain ⟨code, -, ends⟩ := all env replies
  rw [ends] at fails
  cases fails

end Report
end BareMetal
