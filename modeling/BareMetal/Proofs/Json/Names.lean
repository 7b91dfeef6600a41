/-
# Names in JSON values

No map of a value that is read from a JSON text repeats a name, at any depth
(`Json.hasDistinctNames_of_parse`): the entries of a map are written one after the other, and a
repeated one goes where the first stands. Two names that differ in half of a surrogate pair only
are one name here, since such a half is no character (`Json.ofCode`).
-/

import BareMetal.Proofs.Collections
import BareMetal.Proofs.Json.Values
import Mathlib.Data.List.Induction
import Mathlib.Data.List.Nodup

namespace BareMetal

/-- No map in the value repeats a name. -/
inductive Datum.HasDistinctNames : Datum → Prop
  | null : HasDistinctNames .null
  | bool (b : Bool) : HasDistinctNames (.bool b)
  | int (n : Int) : HasDistinctNames (.int n)
  | float (x : Binary64) : HasDistinctNames (.float x)
  | text (s : String) : HasDistinctNames (.text s)
  | bytes (bs : List UInt8) : HasDistinctNames (.bytes bs)
  | list {ds : List Datum} (items : ∀ d ∈ ds, HasDistinctNames d) : HasDistinctNames (.list ds)
  | map {es : Entries Datum} (names : es.names.Nodup) (values : ∀ e ∈ es, HasDistinctNames e.2) :
      HasDistinctNames (.map es)

namespace Datum.HasDistinctNames

/-- A value in a map with distinct names has distinct names all the way down. -/
theorem of_get? {es : Entries Datum} {name : String} {d : Datum}
    (h : (Datum.map es).HasDistinctNames) (found : es.get? name = some d) :
    d.HasDistinctNames := by
  cases h with
  | map names values => exact values _ (Entries.mem_of_get? found)

/-- An item of a list with distinct names has distinct names all the way down. -/
theorem of_getElem? {ds : List Datum} {i : ℕ} {d : Datum}
    (h : (Datum.list ds).HasDistinctNames) (place : ds[i]? = some d) : d.HasDistinctNames := by
  cases h with
  | list items => exact items _ (List.mem_of_getElem? place)

end Datum.HasDistinctNames

namespace Entries

variable {α : Type}

/-- A write adds a name only if it is not there. -/
theorem names_put (es : Entries α) (name : String) (value : α) :
    names (es.put name value) =
      if name ∈ es.names then es.names else es.names ++ [name] := by
  induction es with
  | nil => rfl
  | cons e es ih =>
    rw [put]
    by_cases here : e.1 = name
    · rw [if_pos here, if_pos (here ▸ List.mem_cons_self ..)]
      rfl
    · have elsewhere : name ∈ names (e :: es) ↔ name ∈ names es := by
        simp [names, Ne.symm here]
      rw [if_neg here]
      simp only [elsewhere]
      change e.1 :: names (put name value es) = _
      rw [ih]
      split <;> rfl

/-- Writing a value puts no name there twice. -/
theorem nodup_put {es : Entries α} (distinct : es.names.Nodup) (name : String) (value : α) :
    (names (es.put name value)).Nodup := by
  rw [names_put]
  split
  · exact distinct
  · next absent => exact List.concat_eq_append ▸ distinct.concat absent

/-- After writing a value every entry was there before or has this value. -/
theorem mem_put {es : Entries α} {name : String} {value : α} {e : String × α}
    (h : e ∈ es.put name value) : e ∈ es ∨ e.2 = value := by
  induction es with
  | nil => exact .inr (List.mem_singleton.1 h ▸ rfl)
  | cons x es ih =>
    rw [put] at h
    split at h
    · rcases List.mem_cons.1 h with rfl | h
      · exact .inr rfl
      · exact .inl (List.mem_cons_of_mem _ h)
    · rcases List.mem_cons.1 h with rfl | h
      · exact .inl (List.mem_cons_self ..)
      · exact (ih h).imp_left (List.mem_cons_of_mem _)

/-- Entries that are written one after the other have distinct names, since a name that
comes again is written in place. -/
theorem nodup_ofList (pairs : List (String × α)) : (names (ofList pairs)).Nodup := by
  induction pairs using List.reverseRecOn with
  | nil => exact List.nodup_nil
  | append_singleton pairs p ih =>
    rw [ofList, List.foldl_concat]
    exact nodup_put ih _ _

/-- Every value that is left after writing entries is the value of one of them. -/
theorem mem_ofList {pairs : List (String × α)} {e : String × α} (h : e ∈ ofList pairs) :
    ∃ p ∈ pairs, e.2 = p.2 := by
  induction pairs using List.reverseRecOn with
  | nil => cases h
  | append_singleton pairs p ih =>
    rw [ofList, List.foldl_concat] at h
    rcases mem_put h with h | h
    · obtain ⟨q, hq, same⟩ := ih h
      exact ⟨q, List.mem_append_left _ hq, same⟩
    · exact ⟨p, by simp, h⟩

/-- Entries with different names are what is written of them, one after the other. -/
theorem ofList_eq_self {es : Entries α} (distinct : es.names.Nodup) : ofList es = es := by
  induction es using List.reverseRecOn with
  | nil => rfl
  | append_singleton es e ih =>
    rw [names, List.map_append, List.nodup_append] at distinct
    obtain ⟨front, -, apart⟩ := distinct
    have new : e.1 ∉ names es := fun mem => apart e.1 mem e.1 (List.mem_singleton_self _) rfl
    rw [ofList, List.foldl_concat, ← ofList, ih front, put_of_not_mem new]

end Entries

/-- A map that is written entry by entry has distinct names all the way down, if its values
do. -/
theorem Datum.hasDistinctNames_ofList {pairs : List (String × Datum)}
    (values : ∀ p ∈ pairs, p.2.HasDistinctNames) :
    (Datum.map (Entries.ofList pairs)).HasDistinctNames := by
  refine .map (Entries.nodup_ofList pairs) fun e he => ?_
  obtain ⟨p, hp, same⟩ := Entries.mem_ofList he
  exact same ▸ values p hp

namespace Json

/-- Distinct names are kept, since a map is written entry by entry. -/
theorem isKept_hasDistinctNames (limit : ℕ) : IsKept limit Datum.HasDistinctNames where
  null := .null
  bool := .bool
  nan := .float _
  infinite _ := .float _
  number numeric := by
    cases numeric with
    | int => exact .int _
    | float => exact .float _
  text := .text
  list := .list
  map := Datum.hasDistinctNames_ofList

/-- What is read from a JSON text repeats no name. -/
theorem hasDistinctNames_of_parse {limit : ℕ} {text : List Char} {d : Datum}
    (h : parse text limit = .ok d) : d.HasDistinctNames :=
  (isKept_hasDistinctNames limit).of_parse h

end Json
end BareMetal
