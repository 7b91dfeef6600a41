/-
# Trimming

Trimming takes the characters of a class from both ends of a text. A text that neither begins nor
ends with one stays as it is (`Text.trim_eq_self`), and what is put around a text out of the class
does not count (`Text.trim_surrounded`). What is left neither begins nor ends with one
(`Text.head?_trim`, `Text.getLast?_trim`), and what is not left is out of the class
(`Text.isPadded_trim`).
-/

import BareMetal.Text.Blank
import Mathlib.Data.List.DropRight
import Mathlib.Data.List.TakeWhile

namespace BareMetal
namespace Text

variable {p : Char → Bool} {cs : List Char}

/-- Nothing is trimmed if neither end is of the class. -/
theorem trim_eq_self (first : ¬ cs.head?.any p) (last : ¬ cs.getLast?.any p) :
    trim p cs = cs := by
  have drop {cs : List Char} (h : ¬ cs.head?.any p) : cs.dropWhile p = cs := by
    cases cs with
    | nil => rfl
    | cons c cs => exact List.dropWhile_cons_of_neg h
  rw [trim, drop first, drop (by rwa [List.head?_reverse]), List.reverse_reverse]

/-- Nothing is trimmed from a text without characters of the class. -/
theorem trim_eq_self_of_forall (h : ∀ c ∈ cs, ¬ p c) : trim p cs = cs :=
  trim_eq_self
    (by simpa [Option.any_eq_true] using fun c hc => h c (List.mem_of_head? hc))
    (by simpa [Option.any_eq_true] using fun c hc => h c (List.mem_of_getLast? hc))

/-- What stands in front of a text out of the class does not count. -/
theorem trim_append_left {before : List Char} (outside : ∀ c ∈ before, p c) :
    trim p (before ++ cs) = trim p cs := by
  rw [trim, List.dropWhile_append_of_pos outside]
  rfl

/-- Of a text out of the class nothing is left. -/
theorem trim_of_forall (h : ∀ c ∈ cs, p c) : trim p cs = [] := by
  rw [← List.append_nil cs, trim_append_left h, trim_nil]

/-- What follows a text is dropped first, since the second end is trimmed from behind; if nothing
else is left in front, it is dropped from there. -/
theorem trim_append_right {after : List Char} (outside : ∀ c ∈ after, p c) :
    trim p (cs ++ after) = trim p cs := by
  rw [trim, trim, List.dropWhile_append]
  by_cases blank : (cs.dropWhile p).isEmpty
  · have all : after.dropWhile p = [] := List.dropWhile_eq_nil_iff.2 outside
    rw [if_pos blank, all, List.isEmpty_iff.1 blank]
  · rw [if_neg blank, List.reverse_append,
      List.dropWhile_append_of_pos fun c hc => outside c (List.mem_reverse.1 hc)]

/-- What stands around a text out of the class does not count. -/
theorem trim_surrounded {before after : List Char} (front : ∀ c ∈ before, p c)
    (back : ∀ c ∈ after, p c) : trim p (before ++ cs ++ after) = trim p cs := by
  rw [trim_append_right back, trim_append_left front]

/-- What stands behind a text out of the class does not count on the right. -/
theorem trimRight_append {after : List Char} (outside : ∀ c ∈ after, p c) :
    trimRight p (cs ++ after) = trimRight p cs := by
  rw [trimRight, List.reverse_append,
    List.dropWhile_append_of_pos fun c hc => outside c (List.mem_reverse.1 hc), ← trimRight]

/-- Nothing is trimmed on the right if that end is not of the class. -/
theorem trimRight_eq_self (last : ¬ cs.getLast?.any p) : trimRight p cs = cs := by
  refine List.rdropWhile_eq_self_iff.2 fun some inside => last ?_
  rwa [List.getLast?_eq_some_getLast some]

/-- What is left does not end with a character of the class. -/
theorem getLast?_trimRight (p : Char → Bool) (cs : List Char) :
    ¬ (trimRight p cs).getLast?.any p := by
  intro last
  obtain ⟨c, hc, inside⟩ := (Option.any_eq_true _ _).1 last
  obtain ⟨some, rfl⟩ := List.mem_getLast?_eq_getLast hc
  exact List.rdropWhile_last_not p cs some inside

/-- The first text is the second with characters of the class around it. -/
def IsPadded (p : Char → Bool) (padded cs : List Char) : Prop :=
  ∃ before after, padded = before ++ cs ++ after ∧ (∀ c ∈ before, p c) ∧ ∀ c ∈ after, p c

namespace IsPadded

variable {padded : List Char}

/-- A character of the text is one of the padded text. -/
theorem mem (h : IsPadded p padded cs) {c : Char} (inside : c ∈ cs) : c ∈ padded := by
  obtain ⟨before, after, rfl, -, -⟩ := h
  exact List.mem_append_left _ (List.mem_append_right _ inside)

/-- A character of the padded text is one of the text or of the class. -/
theorem mem_or (h : IsPadded p padded cs) {c : Char} (inside : c ∈ padded) : c ∈ cs ∨ p c := by
  obtain ⟨before, after, rfl, front, back⟩ := h
  rw [List.append_assoc, List.mem_append, List.mem_append] at inside
  rcases inside with inside | inside | inside
  · exact .inr (front c inside)
  · exact .inl inside
  · exact .inr (back c inside)

end IsPadded

section Ends

variable (p : Char → Bool) (cs : List Char)

/-- What is left of trimming does not end with a character of the class. -/
theorem getLast?_trim : ¬ (trim p cs).getLast?.any p :=
  getLast?_trimRight p _

/-- What is left begins as what is left after the first step, which does not begin with a
character of the class. -/
theorem head?_trim : ¬ (trim p cs).head?.any p := by
  intro first
  obtain ⟨c, hc, inside⟩ := (Option.any_eq_true _ _).1 first
  have begins : (cs.dropWhile p).head? = some c := by
    obtain ⟨rest, whole⟩ := List.rdropWhile_prefix p (l := cs.dropWhile p)
    rw [← whole, List.head?_append]
    exact congrArg (·.or rest.head?) hc
  have outside := List.head?_dropWhile_not p cs
  rw [begins] at outside
  exact absurd inside (by simpa using outside)

/-- What is not left is of the class, and stands around what is left. -/
theorem isPadded_trim : IsPadded p cs (trim p cs) := by
  have last : trim p cs ++ (cs.dropWhile p).rtakeWhile p = cs.dropWhile p :=
    List.rdropWhile_append_rtakeWhile
  refine ⟨cs.takeWhile p, (cs.dropWhile p).rtakeWhile p, ?_, fun c hc => List.mem_takeWhile_imp hc,
    fun c hc => List.mem_rtakeWhile_imp hc⟩
  rw [List.append_assoc, last, List.takeWhile_append_dropWhile]

end Ends

/-- What is left is the text in the padding. -/
theorem trim_eq_iff_isPadded {padded : List Char} (first : ¬ cs.head?.any p)
    (last : ¬ cs.getLast?.any p) : trim p padded = cs ↔ IsPadded p padded cs := by
  constructor
  · rintro rfl
    exact isPadded_trim p padded
  · rintro ⟨before, after, rfl, front, back⟩
    rw [trim_surrounded front back, trim_eq_self first last]

end Text
end BareMetal
