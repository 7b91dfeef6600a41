/-
# What a message says about a value

A message shows a value as the name of its form and its JSON text. So long as the text says all
about the value (`Datum.IsExact`), the value is read back from it, with the entries of its maps in
the same order, and no other value is shown alike (`Datum.description_reads_back`).

| value | shown as |
| --- | --- |
| null, and nothing else | `nothing` |
| any other | the name of its form, which has no parenthesis, and the text in parentheses |
-/

import BareMetal.Datum.Describe
import BareMetal.Proofs.Json.RoundTrip
import BareMetal.Proofs.Text.Names

namespace BareMetal
namespace Datum

/-- A list can be written as JSON if each of its items can. -/
theorem isJsonList_of_forall {ds : List Datum} (h : ∀ d ∈ ds, d.isJson) : isJsonList ds := by
  induction ds with
  | nil => rw [isJsonList]
  | cons d ds ih =>
    rw [List.forall_mem_cons] at h
    rw [isJsonList, h.1, ih h.2]
    rfl

/-- A map can be written as JSON if each of its values can. -/
theorem isJsonEntries_of_forall {es : Entries Datum} (h : ∀ e ∈ es, e.2.isJson) :
    isJsonEntries es := by
  induction es with
  | nil => rw [isJsonEntries]
  | cons e es ih =>
    rw [List.forall_mem_cons] at h
    rw [isJsonEntries, h.1, ih h.2]
    rfl

/-- A value that is written exactly can be written as JSON. -/
theorem IsExact.isJson {d : Datum} (h : d.IsExact) : d.isJson := by
  induction h with
  | list items ih =>
    rw [Datum.isJson]
    exact isJsonList_of_forall ih
  | map names values ih =>
    rw [Datum.isJson]
    exact isJsonEntries_of_forall ih
  | _ => rw [Datum.isJson] <;> nofun

/-- The name of the form of a value that is not null. -/
inductive HasForm : Datum → String → Prop
  | bool (b : Bool) : HasForm (.bool b) "bool"
  | int (n : ℤ) : HasForm (.int n) "int"
  | float (x : Binary64) : HasForm (.float x) "float"
  | text (s : String) : HasForm (.text s) "string"
  | bytes (bs : List UInt8) : HasForm (.bytes bs) "bytes"
  | list (ds : List Datum) : HasForm (.list ds) "list"
  | map (es : Entries Datum) : HasForm (.map es) "map"

/-- A value other than null is described with the name of its form. -/
theorem hasForm_formName {d : Datum} (some : d ≠ .null) : d.HasForm d.formName := by
  cases d with
  | null => exact absurd rfl some
  | _ => constructor

/-- The name of a form has no parenthesis in it, so the first one opens the text of the
value. -/
theorem HasForm.parenthesis_not_mem {d : Datum} {form : String} (h : d.HasForm form) :
    '(' ∉ form.toList := by
  cases h <;> decide

/-- The text between the parentheses. -/
theorem describe_eq {d : Datum} (some : d ≠ .null) :
    ∃ form shown, d.HasForm form ∧ d.describe = form ++ "(" ++ shown ++ ")" ∧
      (d.isJson → shown.toList = Json.render d) := by
  refine ⟨_, String.ofList (if d.isJson then Json.render d else d.literal),
    hasForm_formName some, ?_, fun json => ?_⟩
  · cases d with
    | null => exact absurd rfl some
    | _ => rfl
  · rw [if_pos json, String.toList_ofList]

/-- A description with parentheses tells the form and the text. -/
theorem HasForm.shown_eq {d e : Datum} {form form' shown shown' : String} (h : d.HasForm form)
    (h' : e.HasForm form') (same : form ++ "(" ++ shown ++ ")" = form' ++ "(" ++ shown' ++ ")") :
    shown = shown' := by
  have lists : form.toList ++ '(' :: (shown.toList ++ [')']) =
      form'.toList ++ '(' :: (shown'.toList ++ [')']) := by
    simpa using congrArg String.toList same
  have pieces := congrArg (Text.split '(') lists
  rw [Text.split_append h.parenthesis_not_mem, Text.split_append h'.parenthesis_not_mem] at pieces
  rw [(List.cons.inj pieces).1] at lists
  have inside := (List.cons.inj (List.append_cancel_left lists)).2
  exact String.toList_injective (List.append_cancel_right inside)

/-- Null, and only null, is described as nothing. -/
theorem describe_eq_nothing_iff {d : Datum} : d.describe = "nothing" ↔ d = .null := by
  refine ⟨fun nothing => ?_, fun null => null ▸ rfl⟩
  by_contra some
  obtain ⟨form, shown, -, text, -⟩ := describe_eq some
  have mem : '(' ∈ "nothing".toList := by
    rw [← nothing, text]
    simp
  exact absurd mem (by decide)

/-- **A value is read back from its description**, unless it is null. Null is shown as `nothing`,
and two different values are shown differently. -/
theorem description_reads_back {d : Datum} (exact : d.IsExact) :
    (d ≠ .null → ∃ form shown, d.HasForm form ∧ d.describe = form ++ "(" ++ shown ++ ")" ∧
      Json.parse shown.toList = .ok d) ∧
      (∀ e : Datum, e.describe = "nothing" ↔ e = .null) ∧
      ∀ e : Datum, e.IsExact → e.describe = d.describe → e = d := by
  refine ⟨fun some => ?_, fun _ => describe_eq_nothing_iff, fun e exact' same => ?_⟩
  · obtain ⟨form, shown, named, text, json⟩ := describe_eq some
    refine ⟨form, shown, named, text, ?_⟩
    rw [json exact.isJson]
    exact Json.parse_render exact
  · by_cases null : d = .null
    · subst null
      exact describe_eq_nothing_iff.1 same
    · have null' : e ≠ .null := fun h =>
        null (describe_eq_nothing_iff.1 (same.symm.trans (describe_eq_nothing_iff.2 h)))
      obtain ⟨form, shown, named, text, json⟩ := describe_eq null
      obtain ⟨form', shown', named', text', json'⟩ := describe_eq null'
      rw [text, text'] at same
      obtain rfl := named'.shown_eq named same
      have parsed := Json.parse_render exact'
      rw [← json' exact'.isJson, json exact.isJson, Json.parse_render exact] at parsed
      exact (Except.ok.inj parsed).symm

/-- A map with a name of marks and escapes, a character beyond U+FFFF, a control character, a
negative number and empty containers; the same entries in the other order are shown differently. -/
theorem description_reads_back_nested :
    let inner : String × Datum := ("a\"\\\n\x7f", .list [.int (-40), .null, .map [], .list []])
    let outer : String × Datum := ("", .text "é\x00😀(")
    let d : Datum := .map [inner, outer]
    let e : Datum := .map [outer, inner]
    d.IsExact ∧ d ≠ .null ∧
      (∃ form shown, d.HasForm form ∧ d.describe = form ++ "(" ++ shown ++ ")" ∧
        Json.parse shown.toList = .ok d) ∧
      e.IsExact ∧ e.describe ≠ d.describe := by
  intro inner outer d e
  have innerExact : inner.2.IsExact := by
    refine .list ?_
    simp only [List.forall_mem_cons]
    exact ⟨.int (by decide), .null, .map List.nodup_nil nofun, .list nofun, nofun⟩
  have outerExact : outer.2.IsExact := .text _
  have dExact : d.IsExact :=
    .map (by decide) (List.forall_mem_cons.2 ⟨innerExact, List.forall_mem_singleton.2 outerExact⟩)
  have eExact : e.IsExact :=
    .map (by decide) (List.forall_mem_cons.2 ⟨outerExact, List.forall_mem_singleton.2 innerExact⟩)
  have other : e ≠ d := by
    intro same
    have first := (List.cons.inj (Datum.map.inj same)).1
    exact absurd (congrArg Prod.fst first) (by decide)
  obtain ⟨read, -, unique⟩ := description_reads_back dExact
  exact ⟨dExact, nofun, read nofun, eExact, fun same => other (unique e eExact same)⟩

end Datum
end BareMetal
