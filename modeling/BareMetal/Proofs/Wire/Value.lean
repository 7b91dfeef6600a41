/-
# Reading a value of a type

Every shape that a schema uses stands for a type of the grammar (`Fits`). Apart from
the entities inside, it takes exactly the values of that type; with them, a value
belongs to the type exactly if the shape takes it and every map that was read for an
entity is one (`Fits.exists_read_iff`).
-/

import BareMetal.Proofs.Reader.Success
import BareMetal.Proofs.Wire.Grammar

namespace BareMetal

namespace Shape

/-- A floating-point number is read as its whole part, and as nothing else. -/
theorem truncated_eq_ok_iff {source : Datum} {x : Binary64} {n : Int} :
    truncated source x = .ok n ↔ x.truncate? = some n := by
  unfold truncated
  cases x.truncate? <;> simp

/-- A whole number is read exactly from the values that stand for it. -/
theorem readNumber_eq_ok_iff {d : Datum} {n : Int} : readNumber d = .ok n ↔ Denotes d n := by
  constructor
  · intro h
    cases d with
    | int m =>
      obtain rfl := Except.ok.inj h
      exact .int m
    | float x => exact .float (truncated_eq_ok_iff.1 h)
    | text s =>
      rw [readNumber] at h
      split at h
      · next m hm =>
        obtain rfl := Except.ok.inj h
        exact .numeral hm
      · next hm =>
        split at h
        · next x hx => exact .decimal hm hx (truncated_eq_ok_iff.1 h)
        · cases h
    | _ => cases h
  · intro h
    cases h with
    | int => rfl
    | float whole => exact truncated_eq_ok_iff.2 whole
    | numeral reads => simp [readNumber, reads]
    | decimal other reads whole => simp [readNumber, other, reads, truncated_eq_ok_iff, whole]

/-- A size is read exactly from the values that stand for it. -/
theorem readSize_eq_ok_iff {d : Datum} {n : Nat} : readSize d = .ok n ↔ Denotes d n := by
  rw [← readNumber_eq_ok_iff, readSize]
  cases readNumber d with
  | error m => simp
  | ok m =>
    cases m with
    | ofNat m =>
      simp only [Except.ok.injEq]
      exact Int.ofNat_inj.symm
    | negSucc m => simp

variable {d : Datum}

/-- The values that are read as a text are those of the type. -/
theorem exists_read_text_iff : (∃ s, text.read d = .ok s) ↔ Conforms .text d := by
  constructor
  · rintro ⟨s, hs⟩
    cases d <;> first | exact .text _ | cases hs
  · intro h
    cases h with
    | text s => exact ⟨s, rfl⟩

/-- The values that are read as a flag are those of the type. -/
theorem exists_read_flag_iff : (∃ b, flag.read d = .ok b) ↔ Conforms .flag d := by
  constructor
  · rintro ⟨b, hb⟩
    cases d <;> first | exact .flag _ | cases hb
  · intro h
    cases h with
    | flag b => exact ⟨b, rfl⟩

/-- The values that are read as a whole number are those of the type. -/
theorem exists_read_number_iff : (∃ n, number.read d = .ok n) ↔ Conforms .number d := by
  constructor
  · rintro ⟨n, hn⟩
    exact .number n (readNumber_eq_ok_iff.1 hn)
  · intro h
    cases h with
    | number n denotes => exact ⟨n, readNumber_eq_ok_iff.2 denotes⟩

/-- The values that are read as a size are those of the type. -/
theorem exists_read_size_iff : (∃ n, size.read d = .ok n) ↔ Conforms .size d := by
  constructor
  · rintro ⟨n, hn⟩
    exact .size n (readSize_eq_ok_iff.1 hn)
  · intro h
    cases h with
    | size n denotes => exact ⟨n, readSize_eq_ok_iff.2 denotes⟩

/-- Of the texts, exactly the two words are read as flags. -/
theorem exists_read_word_iff {s : String} :
    (∃ b, (prepared .wordAsFlag flag).read (.text s) = .ok b) ↔
      Text.spells "true" s ∨ Text.spells "false" s := by
  rw [Shape.read, Preparation.apply]
  by_cases ht : Text.spells "true" s
  · simp [ht, Shape.read]
  · by_cases hf : Text.spells "false" s <;> simp [ht, hf, Shape.read]

/-- The values that are read as a flag, with the words prepared, are those of the type. -/
theorem exists_read_flagOrWord_iff :
    (∃ b, (prepared .wordAsFlag flag).read d = .ok b) ↔ Conforms .flagOrWord d := by
  constructor
  · rintro ⟨b, hb⟩
    cases d with
    | bool b => exact .flagItself b
    | text s => exact .word (exists_read_word_iff.1 ⟨b, hb⟩)
    | _ => cases hb
  · intro h
    cases h with
    | flagItself b => exact ⟨b, rfl⟩
    | word spelled => exact exists_read_word_iff.2 spelled

/-- The values that are read as a text, with settings prepared, are those of the type. -/
theorem exists_read_settings_iff :
    (∃ s, (prepared .settingsAsEmpty text).read d = .ok s) ↔ Conforms .settings d := by
  constructor
  · rintro ⟨s, hs⟩
    cases d with
    | null => exact .noSettings
    | text s => exact .plainSettings s
    | map es => exact .mappedSettings es
    | _ => cases hs
  · intro h
    cases h <;> exact ⟨_, rfl⟩

/-- Apart from null, a value that may be null is read as it would be without. -/
theorem read_nullable {s : Shape} (given : d ≠ .null) :
    (nullable s).read d = (s.read d).map some := by
  cases d with
  | null => exact absurd rfl given
  | _ => rfl

/-- Apart from null, a stand-in for null changes nothing. -/
theorem read_nullAs {s : Shape} {stand d : Datum} (given : d ≠ .null) :
    (prepared (.nullAs stand) s).read d = s.read d := by
  cases d with
  | null => exact absurd rfl given
  | _ => rfl

end Shape

/-- Every map that was read for an entity, from a value of a type, satisfies `P`. -/
def Inner (P : Kind → Entries Datum → Prop) : WireType → (s : Shape) → s.Carrier → Prop
  | .entity k, .map .any, es => P k es
  | .listOf t, .list s, cs => ∀ c ∈ cs, Inner P t s c
  | .mapOf t, .map s, cs => ∀ c ∈ cs, Inner P t s c.2
  | .orNull t, .nullable s, o => ∀ c ∈ o, Inner P t s c
  | .orNull t, .prepared _ s, c => Inner P t s c
  | _, _, _ => True

/-- The shape takes the values of the type. What it takes null for has no entity inside. -/
inductive Fits : WireType → Shape → Prop
  | text : Fits .text .text
  | flag : Fits .flag .flag
  | number : Fits .number .number
  | size : Fits .size .size
  | listOf {t : WireType} {s : Shape} (item : Fits t s) : Fits (.listOf t) (.list s)
  | mapOf {t : WireType} {s : Shape} (value : Fits t s) : Fits (.mapOf t) (.map s)
  | nullable {t : WireType} {s : Shape} (value : Fits t s) : Fits (.orNull t) (.nullable s)
  | nullAs {t : WireType} {s : Shape} {stand : Datum} {c : s.Carrier} (value : Fits t s)
      (reads : s.read stand = .ok c) (plain : ∀ P, Inner P t s c) :
      Fits (.orNull t) (.prepared (.nullAs stand) s)
  | flagOrWord : Fits .flagOrWord (.prepared .wordAsFlag .flag)
  | settings : Fits .settings (.prepared .settingsAsEmpty .text)
  | entity (k : Kind) : Fits (.entity k) .object

/-- The kind of the entities in the values of a type. -/
def WireType.kind? : WireType → Option Kind
  | entity k => some k
  | listOf t | mapOf t | orNull t => t.kind?
  | _ => none

namespace Fits

variable {P : Kind → Entries Datum → Prop} {t : WireType} {s : Shape}

/-- The lists that are read are those of the type, if this is so of the items; what holds of
the maps read for entities is carried along. -/
theorem exists_read_list_iff
    (item : ∀ {d : Datum}, (∃ c, s.read d = .ok c ∧ Inner P t s c) ↔ Conforms t d) {d : Datum} :
    (∃ cs, (Shape.list s).read d = .ok cs ∧ Inner P (.listOf t) (.list s) cs) ↔
      Conforms (.listOf t) d := by
  have items (ds : List Datum) :
      (∃ cs, Shape.readItems s.read 0 ds = .ok cs ∧ ∀ c ∈ cs, Inner P t s c) ↔
        ∀ d ∈ ds, Conforms t d := by
    simp only [Shape.readItems_eq_ok_iff, exists_forall₂_iff, item]
  constructor
  · rintro ⟨cs, hcs, hin⟩
    cases d with
    | list ds => exact .listOf ((items ds).1 ⟨cs, hcs, hin⟩)
    | _ => cases hcs
  · intro h
    cases h with
    | listOf h => exact (items _).2 h

/-- The maps that are read are those of the type, if this is so of the values; what holds of
the maps read for entities is carried along. -/
theorem exists_read_map_iff
    (value : ∀ {d : Datum}, (∃ c, s.read d = .ok c ∧ Inner P t s c) ↔ Conforms t d) {d : Datum} :
    (∃ cs, (Shape.map s).read d = .ok cs ∧ Inner P (.mapOf t) (.map s) cs) ↔
      Conforms (.mapOf t) d := by
  have values (es : Entries Datum) :
      (∃ cs, Shape.readEntries s.read es = .ok cs ∧ ∀ c ∈ cs, Inner P t s c.2) ↔
        ∀ e ∈ es, Conforms t e.2 := by
    simp only [Shape.readEntries_eq_ok_iff, exists_forall₂_iff, ← value]
    simp
  constructor
  · rintro ⟨cs, hcs, hin⟩
    cases d with
    | map es => exact .mapOf ((values es).1 ⟨cs, hcs, hin⟩)
    | _ => cases hcs
  · intro h
    cases h with
    | mapOf h => exact (values _).2 h

/-- If `P` says which maps are entities, then a value belongs to a type exactly if the
shape takes it and what was read for entities satisfies `P`. -/
theorem exists_read_iff (fits : Fits t s)
    (inner : ∀ k ∈ t.kind?, ∀ es, P k es ↔ Conforms (.entity k) (.map es)) {d : Datum} :
    (∃ c, s.read d = .ok c ∧ Inner P t s c) ↔ Conforms t d := by
  induction fits generalizing d with
  | text => simpa [Inner] using Shape.exists_read_text_iff
  | flag => simpa [Inner] using Shape.exists_read_flag_iff
  | number => simpa [Inner] using Shape.exists_read_number_iff
  | size => simpa [Inner] using Shape.exists_read_size_iff
  | flagOrWord => simpa [Inner] using Shape.exists_read_flagOrWord_iff
  | settings => simpa [Inner] using Shape.exists_read_settings_iff
  | listOf item ih => exact exists_read_list_iff (ih inner)
  | mapOf value ih => exact exists_read_map_iff (ih inner)
  | @nullable t s value ih =>
    by_cases hd : d = .null
    · subst hd
      exact ⟨fun _ => .null t, fun _ => ⟨none, rfl, nofun⟩⟩
    · rw [Shape.read_nullable hd, Conforms.orNull_iff hd, ← ih inner]
      simp [map_eq_ok_iff, Inner]
  | @nullAs t s stand c value reads plain ih =>
    by_cases hd : d = .null
    · subst hd
      exact ⟨fun _ => .null t, fun _ => ⟨c, reads, plain P⟩⟩
    · rw [Shape.read_nullAs hd, Conforms.orNull_iff hd]
      exact ih inner
  | entity k =>
    constructor
    · rintro ⟨es, hes, hP⟩
      rw [Shape.read_object_eq_ok_iff.1 hes]
      exact (inner k rfl es).1 hP
    · intro h
      cases h with
      | entity present missing =>
        exact ⟨_, Shape.read_object_eq_ok_iff.2 rfl,
          (inner k rfl _).2 (.entity present missing)⟩

end Fits
end BareMetal
