/-
# What settings come from

Settings are read by checks in a row, each of which fails as invalid
(`Settings.eq_of_ofEnvironment_eq_error`). They succeed exactly if what they demand holds of the
settings (`Settings.ofEnvironment_eq_ok_iff`). So settings have the URL of the environment and try
the supported version (`Settings.ofEnvironment_eq_ok`, `Settings.candidates_apiVersions`).

The check of the timeout rejects what is zero at most, and a timeout that is not a number is no
such value: it passes (`Settings.timeout_may_be_nan`).
-/

import BareMetal.Proofs.Except
import BareMetal.Proofs.Number.Nan
import BareMetal.Settings

namespace BareMetal

/-- A check succeeds exactly if its condition holds. -/
theorem require_eq_ok_iff {condition : Bool} {message : String} {u : Unit} :
    require condition message = .ok u ↔ condition := by
  cases condition <;> simp [require]

/-- A condition that does not hold, and only that, is invalid. -/
theorem require_eq_error_iff {condition : Bool} {message : String} {e : Failure} :
    require condition message = .error e ↔ ¬ condition ∧ e = .invalid message := by
  cases condition <;> simp [require, eq_comm]

namespace Settings

variable {env : Environment}

/-- A timeout that is no numeral is invalid, and the message quotes it. -/
theorem readTimeout_eq_error_iff {numeral : String} {e : Failure} :
    readTimeout numeral = .error e ↔ Numeral.float? numeral = none ∧
      e = .invalid s!"MAAS_TIMEOUT must be a number, got {Text.quoted numeral}" := by
  unfold readTimeout
  cases Numeral.float? numeral <;> simp [eq_comm]

/-- A timeout is read exactly if it is a numeral. -/
theorem readTimeout_eq_ok_iff {numeral : String} {x : Binary64} :
    readTimeout numeral = .ok x ↔ Numeral.float? numeral = some x := by
  unfold readTimeout
  cases Numeral.float? numeral <;> simp

/-- What cannot be read as settings is invalid. -/
theorem eq_of_ofEnvironment_eq_error {e : Failure} (h : ofEnvironment env = .error e) :
    ∃ message, e = .invalid message := by
  unfold ofEnvironment at h
  rcases bind_eq_error_iff.1 h with h | ⟨_, -, h⟩
  · exact ⟨_, (readTimeout_eq_error_iff.1 h).2⟩
  rcases bind_eq_error_iff.1 h with h | ⟨_, -, h⟩
  · exact ⟨_, (require_eq_error_iff.1 h).2⟩
  rcases bind_eq_error_iff.1 h with h | ⟨_, -, h⟩
  · exact ⟨_, (require_eq_error_iff.1 h).2⟩
  cases hversion : env.apiVersion.filter (!·.isEmpty) with
  | none =>
    rw [hversion] at h
    cases h
  | some version =>
    rw [hversion] at h
    rcases bind_eq_error_iff.1 h with h | ⟨_, -, h⟩
    · exact ⟨_, (require_eq_error_iff.1 h).2⟩
    · cases h

/-- What settings take from an environment, and what the checks demand of it. -/
structure ReadFrom (env : Environment) (s : Settings) : Prop where
  url_eq : s.url = env.url.getD ""
  url_ne : s.url ≠ ""
  apiVersion_eq : s.apiVersion = env.apiVersion.filter (!·.isEmpty)
  supported : ∀ version ∈ s.apiVersion, version ∈ supportedVersions
  verify_eq : s.verify = Text.spells "true" (env.verify.getD "true")
  timeout_eq : Numeral.float? (env.timeout.getD "30") = some s.timeout
  lasting : ¬ s.timeout.isAtMost 0

/-- The checks succeed exactly if what they demand holds. -/
theorem ofEnvironment_eq_ok_iff {s : Settings} : ofEnvironment env = .ok s ↔ ReadFrom env s := by
  simp only [ofEnvironment, bind_eq_ok_iff, readTimeout_eq_ok_iff, require_eq_ok_iff,
    Bool.not_eq_true', String.isEmpty_eq_false_iff]
  constructor
  · rintro ⟨timeout, read, -, given, -, lasting, rest⟩
    cases chosen : env.apiVersion.filter (!·.isEmpty) with
    | none =>
      rw [chosen] at rest
      cases rest
      exact ⟨rfl, given, chosen.symm, nofun, rfl, read, Bool.eq_false_iff.1 lasting⟩
    | some version =>
      rw [chosen] at rest
      obtain ⟨_, supported, rest⟩ := bind_eq_ok_iff.1 rest
      cases rest
      refine ⟨rfl, given, chosen.symm, ?_, rfl, read, Bool.eq_false_iff.1 lasting⟩
      rintro _ ⟨⟩
      exact List.contains_iff_mem.1 (require_eq_ok_iff.1 supported)
  · obtain ⟨url, apiVersion, verify, timeout⟩ := s
    rintro ⟨rfl, url_ne, apiVersion_eq, supported, rfl, timeout_eq, lasting⟩
    refine ⟨timeout, timeout_eq, (), url_ne, (), Bool.eq_false_iff.2 lasting, ?_⟩
    rw [← apiVersion_eq]
    cases apiVersion with
    | none => rfl
    | some version =>
      have passes := List.contains_iff_mem.2 (supported version rfl)
      exact bind_eq_ok_iff.2 ⟨(), require_eq_ok_iff.2 passes, rfl⟩

/-- Settings have the URL of the environment, and name no other version than the supported
one. -/
theorem ofEnvironment_eq_ok {settings : Settings} (h : ofEnvironment env = .ok settings) :
    env.url = some settings.url ∧ ∀ version ∈ settings.apiVersion, version = "2.0" := by
  have read := ofEnvironment_eq_ok_iff.1 h
  refine ⟨?_, fun version chosen => by
    simpa [supportedVersions] using read.supported version chosen⟩
  cases given : env.url with
  | none => exact absurd (read.url_eq.trans (by rw [given]; rfl)) read.url_ne
  | some url => rw [read.url_eq, given, Option.getD_some]

/-- Sound settings try one version, the supported one. -/
theorem candidates_apiVersions {settings : Settings} (h : ofEnvironment env = .ok settings) :
    Controller.candidates settings.apiVersions = ["2.0"] := by
  have supported := (ofEnvironment_eq_ok h).2
  unfold apiVersions
  cases hversion : settings.apiVersion with
  | none => rfl
  | some version =>
    obtain rfl := supported version hversion
    rfl

/-- Settings always have a version to try. -/
theorem apiVersions_ne_nil (s : Settings) : s.apiVersions ≠ [] := by
  unfold apiVersions
  split <;> exact List.cons_ne_nil _ _

/-- All versions that settings try are supported, the usual ones as well. -/
theorem ReadFrom.supported_apiVersions {s : Settings} (read : ReadFrom env s) :
    ∀ version ∈ s.apiVersions, version ∈ supportedVersions := by
  unfold apiVersions
  cases chosen : s.apiVersion with
  | none => exact fun _ tried => tried
  | some version => exact List.forall_mem_singleton.2 (read.supported version chosen)

/-- A timeout that passes its check is more than none, if it is a number. -/
theorem ReadFrom.isAbove_iff {s : Settings} (read : ReadFrom env s) :
    s.timeout.IsAbove 0 ↔ ¬ Numeral.SpellsNan (env.timeout.getD "30") := by
  rw [Binary64.isAbove_iff, and_iff_right read.lasting, ← Numeral.float?_eq_nan_iff,
    read.timeout_eq, Option.some_inj]

/-- **What settings are good for.** An environment is invalid, or it gives settings with a URL
and with versions to try, all of them supported ones. Their timeout is more than none, unless the
environment spells `nan` for it: that is not at most zero, and so it is not rejected. -/
theorem invalid_or_usable (env : Environment) :
    (∃ message, ofEnvironment env = .error (.invalid message)) ∨
      ∃ s, ofEnvironment env = .ok s ∧ s.url ≠ "" ∧
        (s.timeout.IsAbove 0 ↔ ¬ Numeral.SpellsNan (env.timeout.getD "30")) ∧
        s.apiVersions ≠ [] ∧ ∀ version ∈ s.apiVersions, version ∈ supportedVersions := by
  cases loaded : ofEnvironment env with
  | error e =>
    obtain ⟨message, rfl⟩ := eq_of_ofEnvironment_eq_error loaded
    exact .inl ⟨message, rfl⟩
  | ok s =>
    have read := ofEnvironment_eq_ok_iff.1 loaded
    exact .inr ⟨s, rfl, read.url_ne, read.isAbove_iff, s.apiVersions_ne_nil,
      read.supported_apiVersions⟩

/-- Settings whose timeout is not a number, and so not more than none. -/
theorem timeout_may_be_nan :
    ofEnvironment { url := some "http://maas:5240/MAAS", timeout := some "nan" } =
        .ok { url := "http://maas:5240/MAAS", apiVersion := none, verify := true,
              timeout := .nan } ∧
      ¬ Binary64.nan.IsAbove 0 := by
  refine ⟨?_, not_false⟩
  cbv

end Settings
end BareMetal
