/-
# Values in JSON, there and back

The JSON text of a value is read as the value, with the entries of its maps in the same order
(`Json.parse_render`). The value is made of null, flags, whole numbers of limited length, texts,
lists and maps that repeat no name (`Datum.IsExact`).

The scanners read a value in front of what follows it. What follows a whole number must not go on
with it, and within a list or a map it is a comma or a closing mark (`Json.Ends`). Each part of a
value takes two steps of the fuel at most, and at least one character of the text, so that twice the
length of the text is fuel enough.
-/

import BareMetal.Proofs.Json.Names
import BareMetal.Proofs.Json.Texts
import BareMetal.Proofs.Number.Spelling

namespace BareMetal

/-- The value has a JSON text that says all about it: it has no floating-point number and no bytes,
no whole number beyond the limit, and no map that repeats a name. -/
inductive Datum.IsExact : Datum → Prop
  | null : IsExact .null
  | bool (b : Bool) : IsExact (.bool b)
  | int {n : ℤ} (short : Number.decimalLength n.natAbs ≤ Numeral.digitLimit) : IsExact (.int n)
  | text (s : String) : IsExact (.text s)
  | list {ds : List Datum} (items : ∀ d ∈ ds, IsExact d) : IsExact (.list ds)
  | map {es : Entries Datum} (names : es.names.Nodup) (values : ∀ e ∈ es, IsExact e.2) :
      IsExact (.map es)

namespace Json

/-- The character can go on with a whole number. -/
def continuesNumber (c : Char) : Bool := c.isDigit || c == '.' || c == 'e' || c == 'E'

/-- What follows a value does not go on with it. -/
def Ends (rest : List Char) : Prop := ¬ rest.head?.any continuesNumber

/-- A number below zero is written with a minus sign. -/
theorem renderInt_of_neg {n : ℤ} (neg : n < 0) : renderInt n = '-' :: Numeral.digits n.natAbs :=
  if_pos neg

/-- Every other number is written in its digits alone. -/
theorem renderInt_of_not_neg {n : ℤ} (pos : ¬ n < 0) : renderInt n = Numeral.digits n.natAbs :=
  if_neg pos

/-- The end of a text ends every value. -/
theorem ends_nil : Ends [] := nofun

/-- What follows ends a value if its first character does not go on with a number. -/
theorem ends_cons {c : Char} (stops : ¬ continuesNumber c) (rest : List Char) : Ends (c :: rest) :=
  stops

section Numbers

variable {rest : List Char} (ends : Ends rest)
include ends

/-- Behind the end of a value there are no further digits to take. -/
theorem Ends.takeWhile_isDigit : rest.takeWhile Char.isDigit = [] := by
  cases rest with
  | nil => rfl
  | cons c rest =>
    refine List.takeWhile_cons_of_neg fun digit => ends ?_
    simp [continuesNumber, digit]

/-- Behind the end of a value there are no further digits to drop. -/
theorem Ends.dropWhile_isDigit : rest.dropWhile Char.isDigit = rest := by
  have whole : rest.takeWhile Char.isDigit ++ rest.dropWhile Char.isDigit = rest :=
    List.takeWhile_append_dropWhile
  rwa [ends.takeWhile_isDigit] at whole

/-- The digits of a number are scanned to their end; the digit 0 stands alone, as it has to. -/
theorem scanWhole_digits (n : ℕ) :
    scanWhole (Numeral.digits n ++ rest) = some (Numeral.digits n, rest) := by
  obtain ⟨c, cs, row, -⟩ := Numeral.exists_digits_eq_cons n
  by_cases zero : c = '0'
  · subst zero
    obtain rfl := Numeral.eq_nil_of_digits_eq_cons row
    rw [row]
    rfl
  · have numeral := Numeral.isDigit_of_mem_digits n
    have taken : (Numeral.digits n ++ rest).takeWhile Char.isDigit = c :: cs := by
      rw [List.takeWhile_append_of_pos numeral, ends.takeWhile_isDigit, List.append_nil, row]
    have dropped : (Numeral.digits n ++ rest).dropWhile Char.isDigit = rest := by
      rw [List.dropWhile_append_of_pos numeral, ends.dropWhile_isDigit]
    rw [scanWhole, taken, dropped, row]
    rintro rest' h
    rw [row] at h
    exact zero (List.cons.inj h).1

/-- A value that has ended has no fraction. -/
theorem Ends.scanFraction : scanFraction rest = none := by
  rw [Json.scanFraction]
  rintro d rest' rfl
  exact ends rfl

/-- A value that has ended has no exponent. -/
theorem Ends.scanExponent : scanExponent rest = none := by
  cases rest with
  | nil => rfl
  | cons c rest =>
    refine if_neg fun letter => ends ?_
    simp only [Bool.or_eq_true, decide_eq_true_eq] at letter
    rcases letter with rfl | rfl <;> rfl

/-- A whole number is scanned up to where it ends. -/
theorem scanNumber_renderInt {n : ℤ}
    (short : Number.decimalLength n.natAbs ≤ Numeral.digitLimit) :
    scanNumber Numeral.digitLimit (renderInt n ++ rest) = .ok (.int n, rest) := by
  have fits : ¬ Numeral.digitLimit < (Numeral.digits n.natAbs).length := Nat.not_lt.2 short
  unfold scanNumber
  split
  next negative body sign =>
    have signed : negative = decide (n < 0) ∧ body = Numeral.digits n.natAbs ++ rest := by
      by_cases neg : n < 0
      · rw [renderInt_of_neg neg] at sign
        obtain ⟨rfl, rfl⟩ := Prod.mk.inj sign
        exact ⟨(decide_eq_true neg).symm, rfl⟩
      · rw [renderInt_of_not_neg neg] at sign
        split at sign
        · next rest' row' =>
          obtain ⟨c, cs, row, digit⟩ := Numeral.exists_digits_eq_cons n.natAbs
          rw [row] at row'
          obtain ⟨rfl, -⟩ := List.cons.inj row'
          exact absurd digit (by decide)
        · obtain ⟨rfl, rfl⟩ := Prod.mk.inj sign
          exact ⟨(decide_eq_false neg).symm, rfl⟩
    obtain ⟨rfl, rfl⟩ := signed
    rw [scanWhole_digits ends]
    dsimp only
    rw [ends.scanFraction, ends.scanExponent]
    dsimp only
    rw [if_neg fits, Numeral.ofDigits_digits]
    have value : (if decide (n < 0) then -(n.natAbs : ℤ) else n.natAbs) = n := by
      simp only [decide_eq_true_eq]
      split <;> omega
    rw [value]

/-- A whole number is read back as a value, if it has no more digits than are read. -/
theorem scanValue_renderInt {n : ℤ}
    (short : Number.decimalLength n.natAbs ≤ Numeral.digitLimit) (fuel : ℕ) :
    scanValue Numeral.digitLimit (fuel + 1) (renderInt n ++ rest) = .ok (.int n, rest) := by
  rw [← scanNumber_renderInt ends short]
  obtain ⟨c, cs, row, digit⟩ := Numeral.exists_digits_eq_cons n.natAbs
  -- the digit in front, or behind the sign, is of no other form of a value
  by_cases neg : n < 0
  · rw [renderInt_of_neg neg, row, List.cons_append, List.cons_append, scanValue]
    all_goals
      intro rest' same
      obtain ⟨front, behind⟩ := List.cons.inj same
      first
        | exact absurd front (by decide)
        | obtain ⟨rfl, -⟩ := List.cons.inj behind
          exact absurd digit (by decide)
  · rw [renderInt_of_not_neg neg, row, List.cons_append, scanValue]
    all_goals
      intro rest' same
      obtain ⟨rfl, -⟩ := List.cons.inj same
      exact absurd digit (by decide)

end Numbers

/-- The character begins a value: it is no white space, closes no list, and is no mark of the byte
order. -/
structure Opens (c : Char) : Prop where
  solid : ¬ isGap c
  unclosed : c ≠ ']'
  unmarked : c ≠ Char.ofNat 0xFEFF

instance (c : Char) : Decidable (Opens c) :=
  decidable_of_iff (¬ isGap c ∧ c ≠ ']' ∧ c ≠ Char.ofNat 0xFEFF)
    ⟨fun ⟨solid, unclosed, unmarked⟩ => ⟨solid, unclosed, unmarked⟩,
      fun opens => ⟨opens.solid, opens.unclosed, opens.unmarked⟩⟩

/-- A digit can be the first character of a value. -/
theorem opens_of_isDigit {c : Char} (digit : c.isDigit) : Opens c := by
  refine ⟨fun gap => ?_, ?_, ?_⟩
  · simp only [isGap, Bool.or_eq_true, beq_iff_eq] at gap
    rcases gap with ((rfl | rfl) | rfl) | rfl <;> exact absurd digit (by decide)
  all_goals
    rintro rfl
    exact absurd digit (by decide)

/-- A character that is not a gap is not skipped. -/
theorem skipGap_cons {c : Char} (solid : ¬ isGap c) (cs : List Char) :
    skipGap (c :: cs) = c :: cs :=
  List.dropWhile_cons_of_neg solid

/-- The text of a value begins with a character that begins a value. -/
theorem exists_render_eq_cons {d : Datum} (h : d.IsExact) :
    ∃ c cs, render d = c :: cs ∧ Opens c := by
  cases h with
  | null => exact ⟨'n', _, rfl, by decide⟩
  | bool b =>
    cases b with
    | false => exact ⟨'f', _, rfl, by decide⟩
    | true => exact ⟨'t', _, rfl, by decide⟩
  | @int n =>
    rw [render]
    by_cases neg : n < 0
    · exact ⟨'-', _, renderInt_of_neg neg, by decide⟩
    · obtain ⟨c, cs, row, digit⟩ := Numeral.exists_digits_eq_cons n.natAbs
      exact ⟨c, cs, (renderInt_of_not_neg neg).trans row, opens_of_isDigit digit⟩
  | text s => exact ⟨'"', _, by rw [render, renderText]; rfl, by decide⟩
  | list items => exact ⟨'[', _, by rw [render]; rfl, by decide⟩
  | map names values => exact ⟨'\x7b', _, by rw [render]; rfl, by decide⟩

/-- What is written for the value is read as the value, in front of anything that does not go on
with it. -/
def IsReadBack (d : Datum) : Prop :=
  ∀ fuel rest, 2 * (render d).length ≤ fuel → Ends rest →
    scanValue Numeral.digitLimit fuel (render d ++ rest) = .ok (d, rest)

/-- Nothing of a value is skipped as a gap before it. -/
theorem skipGap_render {d : Datum} (h : d.IsExact) (rest : List Char) :
    skipGap (render d ++ rest) = render d ++ rest := by
  obtain ⟨c, cs, text, opens⟩ := exists_render_eq_cons h
  rw [text, List.cons_append, skipGap_cons opens.solid]

/-- Two items stand with a comma and a space between them. -/
theorem renderItems_cons_cons (d e : Datum) (ds : List Datum) :
    renderItems (d :: e :: ds) = render d ++ ',' :: ' ' :: renderItems (e :: ds) := by
  rw [renderItems]
  exact nofun

/-- Two entries stand with a comma and a space between them, each with a colon behind its
name. -/
theorem renderEntries_cons_cons (k : String) (d : Datum) (e : String × Datum)
    (es : Entries Datum) : renderEntries ((k, d) :: e :: es) =
      renderText k ++ ':' :: ' ' :: (render d ++ ',' :: ' ' :: renderEntries (e :: es)) := by
  rw [renderEntries]
  exact nofun

/-- The items begin with the first one. -/
theorem exists_renderItems_eq_append (d : Datum) (ds : List Datum) :
    ∃ more, renderItems (d :: ds) = render d ++ more := by
  cases ds with
  | nil => exact ⟨[], by rw [renderItems, List.append_nil]⟩
  | cons e ds => exact ⟨_, renderItems_cons_cons d e ds⟩

/-- The entries begin with the mark in front of the first name. -/
theorem exists_renderEntries_eq_cons (e : String × Datum) (es : Entries Datum) :
    ∃ more, renderEntries (e :: es) = '"' :: more := by
  obtain ⟨k, d⟩ := e
  cases es with
  | nil => exact ⟨_, by rw [renderEntries, renderText]; rfl⟩
  | cons e es => exact ⟨_, by rw [renderEntries_cons_cons, renderText]; rfl⟩

/-- Nothing of a list is skipped as a gap before its first item. -/
theorem skipGap_renderItems {d : Datum} (h : d.IsExact) (ds : List Datum) (rest : List Char) :
    skipGap (renderItems (d :: ds) ++ rest) = renderItems (d :: ds) ++ rest := by
  obtain ⟨more, items⟩ := exists_renderItems_eq_append d ds
  rw [items, List.append_assoc, skipGap_render h]

/-- Nothing of a map is skipped as a gap before its first name. -/
theorem skipGap_renderEntries (e : String × Datum) (es : Entries Datum) (rest : List Char) :
    skipGap (renderEntries (e :: es) ++ rest) = renderEntries (e :: es) ++ rest := by
  obtain ⟨more, entries⟩ := exists_renderEntries_eq_cons e es
  rw [entries]
  rfl

/-- The items of a list are read back one by one. -/
theorem scanItems_renderItems {ds : List Datum} (some : ds ≠ [])
    (each : ∀ d ∈ ds, d.IsExact ∧ IsReadBack d) (fuel : ℕ) (rest : List Char)
    (enough : 2 * (renderItems ds).length + 1 ≤ fuel) :
    scanItems Numeral.digitLimit fuel (renderItems ds ++ ']' :: rest) = .ok (ds, rest) := by
  induction ds generalizing fuel with
  | nil => exact absurd rfl some
  | cons d ds ih =>
    obtain ⟨⟨-, read⟩, others⟩ := List.forall_mem_cons.1 each
    obtain ⟨fuel, rfl⟩ := Nat.exists_eq_succ_of_ne_zero (Nat.ne_zero_of_lt enough)
    cases ds with
    | nil =>
      rw [renderItems] at enough ⊢
      rw [scanItems, read fuel (']' :: rest) (by omega) (ends_cons (by decide) rest)]
      rfl
    | cons e ds =>
      rw [renderItems_cons_cons] at enough ⊢
      simp only [List.length_append, List.length_cons] at enough
      have next : skipGap (' ' :: (renderItems (e :: ds) ++ ']' :: rest)) =
          renderItems (e :: ds) ++ ']' :: rest :=
        skipGap_renderItems (others e (List.mem_cons_self ..)).1 ds _
      rw [List.append_assoc, List.cons_append, List.cons_append, scanItems,
        read fuel _ (by omega) (ends_cons (by decide) _)]
      dsimp only
      have comma (cs : List Char) : skipGap (',' :: cs) = ',' :: cs := rfl
      rw [comma]
      simp only [next, ih nofun others fuel (by omega)]

/-- The name and the value of an entry are read back. The entry is the last one if a closing mark
follows, and if a comma does the others are read behind it. -/
theorem scanEntries_entry (k : String) {d : Datum} (exact : d.IsExact) (read : IsReadBack d)
    {fuel : ℕ} {tail : List Char} (enough : 2 * (render d).length ≤ fuel) (ends : Ends tail) :
    let scanned := scanEntries Numeral.digitLimit (fuel + 1)
      (renderText k ++ ':' :: ' ' :: (render d ++ tail))
    (∀ rest, tail = '\x7d' :: rest → scanned = .ok ([(k, d)], rest)) ∧
      ∀ cs es rest, tail = ',' :: cs →
        scanEntries Numeral.digitLimit fuel (skipGap cs) = .ok (es, rest) →
          scanned = .ok ((k, d) :: es, rest) := by
  intro scanned
  have colon (cs : List Char) : skipGap (':' :: cs) = ':' :: cs := rfl
  have comma (cs : List Char) : skipGap (',' :: cs) = ',' :: cs := rfl
  have value : scanValue Numeral.digitLimit fuel (skipGap (' ' :: (render d ++ tail))) =
      .ok (d, tail) :=
    (congrArg _ (skipGap_render exact tail)).trans (read fuel tail enough ends)
  have opened : renderText k ++ ':' :: ' ' :: (render d ++ tail) =
      '"' :: (k.toList.flatMap renderChar ++ '"' :: ':' :: ' ' :: (render d ++ tail)) := by
    simp [renderText]
  constructor
  · rintro rest rfl
    simp only [scanned, opened, scanEntries, scanText_flatMap, colon, value, String.ofList_toList]
    rfl
  · rintro cs es rest rfl more
    simp only [scanned, opened, scanEntries, scanText_flatMap, colon, value, String.ofList_toList,
      comma, more]

/-- The entries of a map are read back one by one. -/
theorem scanEntries_renderEntries {es : Entries Datum} (some : es ≠ [])
    (each : ∀ e ∈ es, e.2.IsExact ∧ IsReadBack e.2) (fuel : ℕ) (rest : List Char)
    (enough : 2 * (renderEntries es).length + 1 ≤ fuel) :
    scanEntries Numeral.digitLimit fuel (renderEntries es ++ '\x7d' :: rest) = .ok (es, rest) := by
  induction es generalizing fuel with
  | nil => exact absurd rfl some
  | cons e es ih =>
    obtain ⟨k, d⟩ := e
    obtain ⟨exact, read⟩ : d.IsExact ∧ IsReadBack d := each _ (List.mem_cons_self ..)
    have others := (List.forall_mem_cons.1 each).2
    obtain ⟨fuel, rfl⟩ := Nat.exists_eq_succ_of_ne_zero (Nat.ne_zero_of_lt enough)
    cases es with
    | nil =>
      rw [renderEntries] at enough ⊢
      simp only [List.length_append, List.length_cons] at enough
      rw [List.append_assoc, List.cons_append, List.cons_append]
      exact (scanEntries_entry k exact read (by omega) (ends_cons (by decide) rest)).1 rest rfl
    | cons e es =>
      rw [renderEntries_cons_cons] at enough ⊢
      simp only [List.length_append, List.length_cons] at enough
      have next : skipGap (' ' :: (renderEntries (e :: es) ++ '\x7d' :: rest)) =
          renderEntries (e :: es) ++ '\x7d' :: rest :=
        skipGap_renderEntries e es _
      rw [List.append_assoc, List.cons_append, List.cons_append, List.append_assoc,
        List.cons_append, List.cons_append]
      refine (scanEntries_entry k exact read (by omega) (ends_cons (by decide) _)).2 _ _ _ rfl ?_
      rw [next]
      exact ih nofun others fuel (by omega)

/-- Some fuel is left to look at the first character. -/
theorem isReadBack_of_succ {d : Datum} (h : d.IsExact)
    (read : ∀ fuel rest, 2 * (render d).length ≤ fuel + 1 → Ends rest →
      scanValue Numeral.digitLimit (fuel + 1) (render d ++ rest) = .ok (d, rest)) :
    IsReadBack d := by
  intro fuel rest enough ends
  obtain ⟨c, cs, text, -⟩ := exists_render_eq_cons h
  have positive : fuel ≠ 0 := by
    rw [text, List.length_cons] at enough
    omega
  obtain ⟨fuel, rfl⟩ := Nat.exists_eq_succ_of_ne_zero positive
  exact read fuel rest enough ends

/-- A list is read back if its items are. The first item does not look like the end of the list. -/
theorem isReadBack_list {ds : List Datum} (each : ∀ d ∈ ds, d.IsExact ∧ IsReadBack d) :
    IsReadBack (.list ds) := by
  refine isReadBack_of_succ (.list fun d hd => (each d hd).1) fun fuel rest enough _ => ?_
  rw [render] at enough ⊢
  simp only [List.length_append, List.length_cons] at enough
  rw [List.cons_append, List.cons_append, List.append_assoc, List.singleton_append, scanValue]
  cases ds with
  | nil =>
    rw [renderItems]
    rfl
  | cons d ds =>
    have exact := (each d (List.mem_cons_self ..)).1
    rw [skipGap_renderItems exact]
    split
    · next rest' same =>
      obtain ⟨more, text⟩ := exists_renderItems_eq_append d ds
      obtain ⟨c, cs, first, opens⟩ := exists_render_eq_cons exact
      rw [text, first] at same
      exact absurd (List.cons.inj same).1 opens.unclosed
    · rw [scanItems_renderItems (List.cons_ne_nil d ds) each fuel rest (by omega)]

/-- A map that repeats no name is read back if its values are. -/
theorem isReadBack_map {es : Entries Datum} (names : es.names.Nodup)
    (each : ∀ e ∈ es, e.2.IsExact ∧ IsReadBack e.2) : IsReadBack (.map es) := by
  refine isReadBack_of_succ (.map names fun e he => (each e he).1) fun fuel rest enough _ => ?_
  rw [render] at enough ⊢
  simp only [List.length_append, List.length_cons] at enough
  rw [List.cons_append, List.cons_append, List.append_assoc, List.singleton_append, scanValue]
  cases es with
  | nil =>
    rw [renderEntries]
    rfl
  | cons e es =>
    rw [skipGap_renderEntries]
    split
    · next rest' same =>
      obtain ⟨more, text⟩ := exists_renderEntries_eq_cons e es
      rw [text] at same
      exact absurd (List.cons.inj same).1 (by decide)
    · rw [scanEntries_renderEntries (List.cons_ne_nil e es) each fuel rest (by omega)]
      dsimp only
      rw [Entries.ofList_eq_self names]

/-- The value is read back. The induction is on the value, whose parts are read back with less
fuel. -/
theorem isReadBack_of_isExact {d : Datum} (h : d.IsExact) : IsReadBack d := by
  induction h with
  | null =>
    refine isReadBack_of_succ .null fun fuel rest _ _ => ?_
    rw [render]
    rfl
  | bool b =>
    refine isReadBack_of_succ (.bool b) fun fuel rest _ _ => ?_
    rw [render]
    cases b <;> rfl
  | int short =>
    refine isReadBack_of_succ (.int short) fun fuel rest _ ends => ?_
    rw [render]
    exact scanValue_renderInt ends short fuel
  | text s =>
    refine isReadBack_of_succ (.text s) fun fuel rest _ _ => ?_
    rw [render, renderText, List.cons_append, List.cons_append, List.append_assoc,
      List.singleton_append, scanValue, scanText_flatMap]
    simp only [String.ofList_toList]
  | list items ih => exact isReadBack_list fun d hd => ⟨items d hd, ih d hd⟩
  | map names values ih => exact isReadBack_map names fun e he => ⟨values e he, ih e he⟩

/-- **What is written of a value is read as the value.** -/
theorem parse_render {d : Datum} (h : d.IsExact) : parse (render d) = .ok d := by
  obtain ⟨c, cs, text, opens⟩ := exists_render_eq_cons h
  have unmarked : ¬ (render d).head? = some (Char.ofNat 0xFEFF) := by
    rw [text]
    exact fun same => opens.unmarked (Option.some.inj same)
  have solid := skipGap_render h []
  have read := isReadBack_of_isExact h (2 * (render d).length + 2) [] (by omega) ends_nil
  rw [List.append_nil] at solid read
  rw [parse, scan, if_neg unmarked, solid, read]
  rfl

end Json
end BareMetal
