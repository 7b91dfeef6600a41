/-
# The version that an unsupported one is named by

Where every declared version is newer than the one that is asked for, the message names the
latter by its release (`Version.released`). If that leaves out nothing preliminary, the version
that is named is not newer, so it has no decoder either. Otherwise it is newer, and it may be one
that a decoder was declared at: then the message denies what is there
(`release_of_candidate_is_supported`).
-/

import BareMetal.Proofs.Registry.Resolution
import BareMetal.Proofs.Version.Release

namespace BareMetal

variable {δ : Type}

namespace Registry

/-- **What the version in the message resolves to.** A version is unsupported because every
declared one is newer, and the message names it by a text that spells its release. That one fails
to resolve as well, and with the same message, exactly if the version has an epoch, or is not
preliminary, or no decoder is declared between the two. -/
theorem resolve_named_iff (kind : String) (xs : List (Declaration δ)) {text : String}
    {target : Version} {e : Failure} (parses : Version.ofText text = .ok target)
    (fails : (Version.ofText text >>= (ofDeclarations kind xs).resolve) = .error e) :
    e = .plain .unsupportedVersion s!"no {kind} read func for version {target.releaseText}" ∧
    Version.ofText target.releaseText = .ok target.released ∧
    ∀ e', (Version.ofText target.releaseText >>= (ofDeclarations kind xs).resolve) = .error e' ↔
      e' = e ∧ (target.epoch ≠ 0 ∨ ¬ target.IsPreliminary ∨
        ∀ x ∈ xs, ∀ v, x.Declares v → target.released < v) := by
  have named := Version.ofText_releaseText parses
  rw [parses] at fails
  obtain ⟨newer, rfl⟩ := resolve_ofDeclarations_eq_error_iff.1 fails
  refine ⟨rfl, named, fun e' => ?_⟩
  have resolve : (Version.ofText target.releaseText >>= (ofDeclarations kind xs).resolve) =
      (ofDeclarations kind xs).resolve target.released := by
    rw [named]
    rfl
  simp only [Version.not_le] at newer
  rw [resolve, resolve_ofDeclarations_eq_error_iff, Version.releaseText_released, and_comm]
  simp only [Version.not_le]
  refine and_congr_right fun _ => ⟨fun h => .inr (.inr h), ?_⟩
  rw [← or_assoc, ← Version.released_le_iff]
  rintro (older | h)
  · exact fun x hx v hv => lt_of_le_of_lt older (newer x hx v hv)
  · exact h

/-- The release of a development version before a post-release is older than the version, so it
is unsupported too, and named alike. -/
theorem resolve_named_post :
    Version.ofText "1.9.post2.dev3" = .ok { release := [1, 9], post := some 2, dev := some 3 } ∧
      (Version.ofText "1.9.post2.dev3" >>=
          (ofDeclarations "widget" [⟨"2.0", 1⟩, ⟨"2.2", 2⟩]).resolve) =
        .error (.plain .unsupportedVersion "no widget read func for version 1.9.0") ∧
      (Version.ofText "1.9.0" >>=
          (ofDeclarations "widget" [⟨"2.0", 1⟩, ⟨"2.2", 2⟩]).resolve) =
        .error (.plain .unsupportedVersion "no widget read func for version 1.9.0") := by
  have parses : Version.ofText "1.9.post2.dev3" =
      .ok { release := [1, 9], post := some 2, dev := some 3 } := by cbv
  have fails : (Version.ofText "1.9.post2.dev3" >>=
      (ofDeclarations "widget" [⟨"2.0", 1⟩, ⟨"2.2", 2⟩]).resolve) =
        .error (.plain .unsupportedVersion "no widget read func for version 1.9.0") := by cbv
  have named : { release := [1, 9], post := some 2, dev := some 3 : Version }.releaseText =
      "1.9.0" := by cbv
  obtain ⟨-, -, iff⟩ := resolve_named_iff "widget" _ parses fails
  rw [named] at iff
  exact ⟨parses, fails, (iff _).2 ⟨rfl, .inr (.inl (by decide))⟩⟩

/-- The release of a candidate is newer than the candidate: here it is the version that the
decoder is declared at, while the message says that there is none for it. -/
theorem release_of_candidate_is_supported :
    (Version.ofText "2.0rc1" >>= (ofDeclarations "widget" [⟨"2.0", 1⟩]).resolve) =
        .error (.plain .unsupportedVersion "no widget read func for version 2.0.0") ∧
      (Version.ofText "2.0.0" >>= (ofDeclarations "widget" [⟨"2.0", 1⟩]).resolve) = .ok 1 := by
  constructor <;> cbv

end Registry
end BareMetal
