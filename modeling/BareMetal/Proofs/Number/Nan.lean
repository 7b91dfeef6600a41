/-
# Not-a-number

A comparison with not-a-number never holds: it is neither at most a whole number nor above it, and
it is the only such value (`Binary64.isAbove_iff`).

A text stands for it exactly if it spells `nan`, in any case and perhaps with a sign
(`Numeral.float?_eq_nan_iff`). A decimal never does, however great it is. What a reader does first,
taking digits of other scripts to ASCII and dropping underscores, makes no text the word that was
not the word before.
-/

import BareMetal.Proofs.Number.Spelling

namespace BareMetal

namespace Binary64

/-- The value is more than a whole number; not-a-number is more than none. -/
def IsAbove (x : Binary64) (n : ℤ) : Prop :=
  match x with
  | finite negative quanta => n * one < signedQuanta negative quanta
  | infinite negative => ¬ negative
  | nan => False

/-- What is not at most a whole number is above it, if it is a number. -/
theorem isAbove_iff {x : Binary64} {n : ℤ} : x.IsAbove n ↔ ¬ x.isAtMost n ∧ x ≠ .nan := by
  cases x with
  | finite negative quanta => simp only [IsAbove, isAtMost, decide_eq_true_eq, Int.not_le, ne_eq,
      reduceCtorEq, not_false_eq_true, and_true]
  | infinite negative => simp [IsAbove, isAtMost]
  | nan => simp [IsAbove]

/-- Rounding a magnitude does not give not-a-number, since what is too great becomes
infinite. -/
theorem ofQuanta_ne_nan (negative : Bool) (quanta : ℕ) : ofQuanta negative quanta ≠ .nan := by
  unfold ofQuanta
  split <;> nofun

/-- A decimal has a value, a finite one or an infinite one. -/
theorem ofDecimal_ne_nan (negative : Bool) (digits : ℕ) (exponent : ℤ) :
    ofDecimal negative digits exponent ≠ .nan := by
  unfold ofDecimal
  split
  · nofun
  dsimp only
  split
  · nofun
  split
  · nofun
  split <;> exact ofQuanta_ne_nan _ _

end Binary64

namespace Text

/-- Only itself is taken to a character that is no decimal digit of any script. -/
theorem asciiDigit_eq_iff {c d : Char} (other : digit? d = none) : asciiDigit c = d ↔ c = d := by
  cases digit : digit? c with
  | none => rw [asciiDigit, digit]
  | some k =>
    have ascii : ∀ k < 10, digit? (Char.ofNat (48 + k)) = some k := by decide
    rw [asciiDigit, digit]
    refine iff_of_false ?_ ?_
    · rintro rfl
      rw [ascii k (digit?_lt digit)] at other
      cases other
    · rintro rfl
      rw [digit] at other
      cases other

/-- Itself and the capital letter are taken to a small letter. -/
theorem lowerAscii_eq_iff {c d : Char} (small : 'a' ≤ d ∧ d ≤ 'z') :
    lowerAscii c = d ↔ c = d ∨ c = Char.ofNat (d.toNat - 32) := by
  have code {c d : Char} : c = d ↔ c.toNat = d.toNat := by
    rw [← Char.toNat_inj]
  have bound {c d : Char} : c ≤ d ↔ c.toNat ≤ d.toNat := by
    rw [Char.le_def, UInt32.le_iff_toNat_le]
    rfl
  have value {n : ℕ} (h : n < 128) : (Char.ofNat n).toNat = n := by
    rw [Char.toNat_ofNat, if_pos (.inl (by omega))]
  have first : 'a'.toNat = 97 := rfl
  have last : 'z'.toNat = 122 := rfl
  have first' : 'A'.toNat = 65 := rfl
  have last' : 'Z'.toNat = 90 := rfl
  rw [bound, bound] at small
  unfold lowerAscii
  split
  · next h =>
    rw [bound, bound] at h
    rw [code, code, code, value (by omega), value (by omega)]
    omega
  · next h =>
    rw [bound, bound] at h
    rw [code, code, value (by omega)]
    omega

end Text

namespace Numeral

/-- The word for not-a-number, in small letters. -/
def nanWord : List Char := ['n', 'a', 'n']

/-- The word for not-a-number has two letters. -/
theorem eq_of_mem_nanWord {d : Char} (h : d ∈ nanWord) : d = 'n' ∨ d = 'a' := by
  simp only [nanWord, List.mem_cons, List.not_mem_nil, or_false] at h
  rcases h with h | h | h
  exacts [.inl h, .inr h, .inl h]

/-- Without the blanks around it and a sign, the text is `nan` in any case. -/
def SpellsNan (s : String) : Prop :=
  (splitSign (Text.trim Text.isBlank s.toList)).2.map Text.lowerAscii = nanWord

instance (s : String) : Decidable (SpellsNan s) := inferInstanceAs (Decidable (_ = _))

/-- The sign may be split off before ASCII digits are put for those of other scripts. -/
theorem splitSign_map_asciiDigit (cs : List Char) :
    splitSign (cs.map Text.asciiDigit) =
      ((splitSign cs).1, (splitSign cs).2.map Text.asciiDigit) := by
  cases cs with
  | nil => rfl
  | cons c cs =>
    by_cases minus : c = '-'
    · subst minus
      rfl
    by_cases plus : c = '+'
    · subst plus
      rfl
    rw [splitSign_of_ne minus plus, List.map_cons, splitSign_of_ne]
    · exact fun h => minus ((Text.asciiDigit_eq_iff (by decide)).1 h)
    · exact fun h => plus ((Text.asciiDigit_eq_iff (by decide)).1 h)

/-- ASCII digits that are put for others neither make nor unmake the word. -/
theorem map_asciiDigit_eq_nanWord_iff {cs : List Char} :
    (cs.map Text.asciiDigit).map Text.lowerAscii = nanWord ↔ cs.map Text.lowerAscii = nanWord := by
  have letter : ∀ d ∈ nanWord, ∀ c,
      Text.lowerAscii (Text.asciiDigit c) = d ↔ Text.lowerAscii c = d := by
    intro d hd c
    rcases eq_of_mem_nanWord hd with rfl | rfl <;>
      rw [Text.lowerAscii_eq_iff (by decide), Text.lowerAscii_eq_iff (by decide),
        Text.asciiDigit_eq_iff (by decide), Text.asciiDigit_eq_iff (by decide)]
  generalize nanWord = word at letter
  induction word generalizing cs with
  | nil => simp
  | cons d word ih =>
    rw [List.forall_mem_cons] at letter
    cases cs with
    | nil => simp
    | cons c cs =>
      rw [List.map_cons, List.map_cons, List.map_cons, List.cons_eq_cons, List.cons_eq_cons]
      exact and_congr (letter.1 c) (ih letter.2)

/-- No underscore is dropped from a text in which there are no digits. -/
theorem eq_of_dropUnderscores? {cs ds : List Char} (h : dropUnderscores? false cs = some ds)
    (other : ∀ d ∈ ds, ¬ d.isDigit) : cs = ds := by
  induction cs generalizing ds with
  | nil => exact Option.some.inj h
  | cons c cs ih =>
    rw [dropUnderscores?.eq_def] at h
    split at h
    · next empty => cases empty
    · next d cs split => simp at h
    · next d ds split =>
      obtain ⟨rfl, rfl⟩ := List.cons.inj split
      split at h
      · cases h
      · obtain ⟨rest, behind, rfl⟩ := Option.map_eq_some_iff.1 h
        rw [List.forall_mem_cons] at other
        rw [Bool.eq_false_iff.2 other.1] at behind
        rw [ih behind other.2]

/-- The word is left by dropping underscores exactly if it was there before. -/
theorem dropUnderscores?_eq_nanWord_iff {cs : List Char} :
    (∃ ds, dropUnderscores? false cs = some ds ∧ ds.map Text.lowerAscii = nanWord) ↔
      cs.map Text.lowerAscii = nanWord := by
  constructor
  · rintro ⟨ds, dropped, word⟩
    rwa [eq_of_dropUnderscores? dropped]
    intro d hd digit
    have inside : d ∈ nanWord := by
      rw [← word, ← lowerAscii_of_isDigit digit]
      exact List.mem_map_of_mem hd
    rcases eq_of_mem_nanWord inside with rfl | rfl <;> cases digit
  · intro word
    refine ⟨cs, dropUnderscores?_eq_self (fun inside => ?_) false, word⟩
    have mark : Text.lowerAscii '_' ∈ nanWord := word ▸ List.mem_map_of_mem inside
    exact absurd mark (by decide)

/-- **A text stands for not-a-number** exactly if it spells the word. -/
theorem float?_eq_nan_iff {s : String} : float? s = some .nan ↔ SpellsNan s := by
  rw [SpellsNan, ← map_asciiDigit_eq_nanWord_iff, ← dropUnderscores?_eq_nanWord_iff, float?,
    plain, splitSign_map_asciiDigit]
  dsimp only
  cases dropped : dropUnderscores? false
      ((splitSign (Text.trim Text.isBlank s.toList)).2.map Text.asciiDigit) with
  | none => simp
  | some ds =>
    simp only [Option.some.injEq, exists_eq_left']
    have text {word : String} :
        String.ofList (ds.map Text.lowerAscii) = word ↔ ds.map Text.lowerAscii = word.toList := by
      rw [← String.toList_inj, String.toList_ofList]
    have nan : nanWord = "nan".toList := rfl
    rw [nan, ← text]
    split
    · next infinite =>
      refine iff_of_false (by simp) fun word => ?_
      rw [word] at infinite
      exact absurd infinite (by decide)
    · split
      · next word => exact iff_of_true rfl word
      · next word =>
        refine iff_of_false (fun value => ?_) word
        split at value
        · cases value
        · obtain ⟨exponent, -, decimal⟩ := Option.map_eq_some_iff.1 value
          exact Binary64.ofDecimal_ne_nan _ _ _ decimal

/-- An underscore may stand between digits, but not inside the word. -/
example : SpellsNan "\t-NaN " ∧ ¬ SpellsNan "n_an" := by decide

end Numeral
end BareMetal
