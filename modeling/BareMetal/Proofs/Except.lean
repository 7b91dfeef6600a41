/-
# When steps that may fail succeed

A chain of steps succeeds exactly if each step does, and fails as the first step that
fails; renaming a failure changes no success. A plan, a check and a reader are such
chains, and these equivalences take them apart.
-/

import BareMetal.Failure

namespace BareMetal

variable {ε δ α β : Type}

/-- Two steps succeed exactly if the first one does and the second one does on its value. -/
theorem bind_eq_ok_iff {x : Except ε α} {f : α → Except ε β} {y : β} :
    (x >>= f) = .ok y ↔ ∃ a, x = .ok a ∧ f a = .ok y := by
  cases x <;> simp [bind, Except.bind]

/-- Two steps fail exactly if the first one does, or if it succeeds and the second one
fails. -/
theorem bind_eq_error_iff {x : Except ε α} {f : α → Except ε β} {e : ε} :
    (x >>= f) = .error e ↔ x = .error e ∨ ∃ a, x = .ok a ∧ f a = .error e := by
  cases x <;> simp [bind, Except.bind]

/-- Whether two steps succeed, without the value that they end with. -/
theorem exists_bind_eq_ok_iff {x : Except ε α} {f : α → Except ε β} :
    (∃ y, (x >>= f) = .ok y) ↔ ∃ a, x = .ok a ∧ ∃ y, f a = .ok y := by
  cases x <;> simp [bind, Except.bind]

/-- What follows a step matters only for the value that the step has. -/
theorem bind_congr_of_ok {x : Except ε α} {f g : α → Except ε β}
    (h : ∀ a, x = .ok a → f a = g a) : x >>= f = x >>= g := by
  cases x with
  | error e => rfl
  | ok a => exact h a rfl

/-- A value by itself succeeds as this value only. -/
theorem pure_eq_ok_iff {x y : α} : (pure x : Except ε α) = .ok y ↔ x = y := by
  simp [pure, Except.pure]

/-- A value by itself never fails. -/
theorem pure_ne_error {x : α} {e : ε} : (pure x : Except ε α) ≠ .error e := nofun

/-- A step whose value is mapped succeeds exactly if the step does. -/
theorem map_eq_ok_iff {x : Except ε α} {f : α → β} {y : β} :
    x.map f = .ok y ↔ ∃ a, x = .ok a ∧ f a = y := by
  cases x <;> simp [Except.map]

/-- Mapping the value of a step changes none of its failures. -/
theorem map_eq_error_iff {x : Except ε α} {f : α → β} {e : ε} :
    x.map f = .error e ↔ x = .error e := by
  cases x <;> simp [Except.map]

/-- Renaming the failures of a step changes none of its values. -/
theorem mapError_eq_ok_iff {x : Except ε α} {f : ε → δ} {a : α} :
    x.mapError f = .ok a ↔ x = .ok a := by
  cases x with
  | error e => exact ⟨nofun, nofun⟩
  | ok b => exact ⟨fun h => congrArg Except.ok (Except.ok.inj h), fun h => by cases h; rfl⟩

/-- A step whose failures are renamed fails exactly if the step does. -/
theorem mapError_eq_error_iff {x : Except ε α} {f : ε → δ} {e : δ} :
    x.mapError f = .error e ↔ ∃ e', x = .error e' ∧ f e' = e := by
  cases x with
  | error e' => exact ⟨fun h => ⟨e', rfl, Except.error.inj h⟩, by rintro ⟨_, ⟨⟩, rfl⟩; rfl⟩
  | ok a => exact ⟨nofun, by rintro ⟨_, ⟨⟩, -⟩⟩

/-- Both fail in the same way, or both succeed with related results. -/
inductive Agree (S : α → α → Prop) : Except ε α → Except ε α → Prop
  | ok {a b : α} (related : S a b) : Agree S (.ok a) (.ok b)
  | error (e : ε) : Agree S (.error e) (.error e)

namespace Agree

variable {S : α → α → Prop} {x y : Except ε α}

/-- Equal outcomes agree, if every result is related to itself. -/
theorem of_eq (refl : ∀ a, S a a) (h : x = y) : Agree S x y := by
  subst h
  cases x with
  | error e => exact .error e
  | ok a => exact .ok (refl a)

/-- Outcomes that agree still do after functions that take related results to related
results. -/
theorem map {T : β → β → Prop} {f g : α → β} (h : Agree S x y)
    (hfg : ∀ a b, S a b → T (f a) (g b)) : Agree T (x.map f) (y.map g) := by
  cases h with
  | ok related => exact .ok (hfg _ _ related)
  | error e => exact .error e

/-- Outcomes that agree still do when the failures are renamed on both sides. -/
theorem mapError (h : Agree S x y) (f : ε → δ) : Agree S (x.mapError f) (y.mapError f) := by
  cases h with
  | ok related => exact .ok related
  | error e => exact .error (f e)

/-- What goes on alike from related results ends alike. -/
theorem bind_eq {f g : α → Except ε β} (h : Agree S x y) (hfg : ∀ a b, S a b → f a = g b) :
    (x >>= f) = (y >>= g) := by
  cases h with
  | ok related => exact hfg _ _ related
  | error e => rfl

end Agree

end BareMetal
