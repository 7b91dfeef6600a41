/-
# What a failure answers after any history

A failure is made by acts, one after the other. Each of them makes the next failure of the
one that is there.

| act | creates a fault of the kind |
| --- | --- |
| a fresh failure, which forgets what was there | its own |
| a failure that encloses the current one | its own |
| an unexpected failure | `unexpected` |
| context | none |
| a failure to read a reply | `deserialization` |
| the translation of a refusal | that of the status, its own or else the usual one |

One act adds to the answers of a failure exactly the kind that it creates
(`answer_act_iff`). So after any acts a failure answers to the kinds that were created since
the last fresh failure, and to no other (`answers_follow_history`).
-/

import BareMetal.Proofs.Controller.Refusal
import Mathlib.Data.List.Induction

namespace BareMetal

/-- A kind that callers ask a failure for. -/
inductive Question where
  | deserialization
  | unsupportedVersion
  | noMatch
  | badRequest
  | permissionDenied
  | cannotComplete
  | unexpected
deriving DecidableEq, Repr

namespace Question

/-- The kind that is asked for. -/
def kind : Question → FaultKind
  | deserialization => .deserialization
  | unsupportedVersion => .unsupportedVersion
  | noMatch => .noMatch
  | badRequest => .badRequest
  | permissionDenied => .permissionDenied
  | cannotComplete => .cannotComplete
  | unexpected => .unexpected

/-- The answer of a failure. -/
def answer : Question → Failure → Bool
  | deserialization => Failure.isDeserialization
  | unsupportedVersion => Failure.isUnsupportedVersion
  | noMatch => Failure.isNoMatch
  | badRequest => Failure.isBadRequest
  | permissionDenied => Failure.isPermissionDenied
  | cannotComplete => Failure.isCannotComplete
  | unexpected => Failure.isUnexpected

/-- Different questions ask for different kinds. -/
theorem kind_injective : Function.Injective kind := by
  intro p q h
  cases p <;> cases q <;> first | rfl | cases h

/-- A kind of a refusal is asked for by a question, as is the kind of an unlisted status. -/
theorem exists_kind_eq {kind : FaultKind} (h : kind.isAnswer ∨ kind = .unexpected) :
    ∃ q : Question, q.kind = kind := by
  rcases h with h | rfl
  · cases kind
    case noMatch => exact ⟨noMatch, rfl⟩
    case badRequest => exact ⟨badRequest, rfl⟩
    case permissionDenied => exact ⟨permissionDenied, rfl⟩
    case cannotComplete => exact ⟨cannotComplete, rfl⟩
    all_goals cases h
  · exact ⟨unexpected, rfl⟩

variable (q : Question)

/-- A question looks for faults of its kind in the whole chain. -/
theorem answer_iff (e : Failure) : q.answer e ↔ ∃ f ∈ e.chain, f.kind = q.kind := by
  cases q
  all_goals
    refine List.any_eq_true.trans (exists_congr fun f => and_congr_right fun _ => ?_)
    cases f.kind <;> simp [kind]

/-- A failure without a cause answers to its own kind only. -/
theorem answer_plain (kind : FaultKind) (message : String) :
    q.answer (.plain kind message) ↔ kind = q.kind := by
  simp [answer_iff, Failure.chain, Failure.plain]

/-- A failure with a cause answers to its own kind and to whatever the cause answers to. -/
theorem answer_caused (kind : FaultKind) (message : String) (e : Failure) :
    q.answer (.caused kind message e) ↔ kind = q.kind ∨ q.answer e := by
  simp [answer_iff, Failure.chain, Failure.caused]

/-- Context changes no answer, since the enclosing fault has the kind of the failure inside. -/
theorem answer_annotate (context : String) (e : Failure) :
    q.answer (e.annotate context) ↔ q.answer e := by
  rw [Failure.annotate, answer_caused, or_iff_right_iff_imp, answer_iff]
  exact fun h => ⟨e.fault, List.mem_cons_self, h⟩

end Question

/-- What the status of a refusal is translated to: the kind of its own, or else the usual
one. -/
def translation (own : StatusTable) (status : Int) : FaultKind :=
  (own.lookup status).getD (usualRefusal status)

/-- The kind that is added to a failure of a kind by translating it: none, unless it is a
refusal. -/
def translation? (own : StatusTable) : FaultKind → Option FaultKind
  | .server status _ _ => some (translation own status)
  | _ => none

/-- The two tables, one after the other, are the translation of a status. -/
theorem StatusTable.kind?_eq_translation (own : StatusTable) (status : Int) :
    (own.kind? status).getD .unexpected = translation own status := by
  induction own with
  | nil => exact StatusTable.kind?_nil status
  | cons entry own ih =>
    obtain ⟨s, kind⟩ := entry
    rw [StatusTable.kind?_cons, ih, translation, translation, List.lookup_cons]
    by_cases h : status = s
    · simp [h]
    · simp [h, beq_false_of_ne h]

/-- A table of kinds of a refusal translates to such a kind, or to an unexpected failure. -/
theorem StatusTable.isAnswer_translation {own : StatusTable} (h : ∀ p ∈ own, p.2.isAnswer)
    (status : Int) :
    (translation own status).isAnswer ∨ translation own status = .unexpected := by
  rw [← StatusTable.kind?_eq_translation]
  cases hk : own.kind? status with
  | none => exact .inr rfl
  | some kind => exact .inl (StatusTable.isAnswer_of_kind? h hk)

namespace Failure

/-- A step in the making of a failure. -/
inductive Act where
  | fresh (kind : FaultKind) (message : String)
  | enclose (kind : FaultKind) (message : String)
  | unexpected
  | annotate (context : String)
  | wrap (template : String) (args : List Text.Argument)
  /-- A refusal is translated; every other failure stays. -/
  | translate (own : StatusTable)

/-- The act begins anew. -/
def Act.IsFresh : Act → Prop
  | fresh .. => True
  | _ => False

/-- The failure that an act makes of the current one. -/
def act (e : Failure) : Act → Failure
  | .fresh kind message => .plain kind message
  | .enclose kind message => .caused kind message e
  | .unexpected => .unexpected e
  | .annotate context => e.annotate context
  | .wrap template args => .deserialization (Text.fill template args) e
  | .translate own => e.translate own

/-- The kind of the fault that an act creates, if it creates one of a new kind. -/
def creates (e : Failure) : Act → Option FaultKind
  | .fresh kind _ => some kind
  | .enclose kind _ => some kind
  | .unexpected => some .unexpected
  | .annotate _ => none
  | .wrap .. => some .deserialization
  | .translate own => translation? own e.kind

/-- The failure that acts make of a first fault. -/
def made (first : Fault) (acts : List Act) : Failure := acts.foldl act { fault := first }

/-- A fault of the kind was created since the last fresh failure, that one included. -/
def CreatedSinceFresh (first : Fault) (acts : List Act) (kind : FaultKind) : Prop :=
  (first.kind = kind ∧ ∀ a ∈ acts, ¬ a.IsFresh) ∨
    ∃ before a after, acts = before ++ a :: after ∧ (∀ b ∈ after, ¬ b.IsFresh) ∧
      (made first before).creates a = some kind

/-- The kinds created since the last fresh failure, after one more act: what this act
creates, and what was created before unless the act is fresh. -/
theorem createdSinceFresh_concat {first : Fault} {acts : List Act} {a : Act} {kind : FaultKind} :
    CreatedSinceFresh first (acts ++ [a]) kind ↔
      (made first acts).creates a = some kind ∨
        ¬ a.IsFresh ∧ CreatedSinceFresh first acts kind := by
  constructor
  · rintro (⟨hkind, stays⟩ | ⟨before, b, after, heq, stays, hb⟩)
    · exact .inr ⟨stays a (by simp), .inl ⟨hkind, fun b hb => stays b (by simp [hb])⟩⟩
    · rcases List.eq_nil_or_concat after with rfl | ⟨init, last, rfl⟩
      · obtain ⟨rfl, rfl⟩ := List.append_singleton_inj.1 heq
        exact .inl hb
      · rw [List.concat_eq_append, ← List.cons_append, ← List.append_assoc] at heq
        obtain ⟨rfl, rfl⟩ := List.append_singleton_inj.1 heq
        exact .inr ⟨stays a (by simp),
          .inr ⟨before, b, init, rfl, fun c hc => stays c (by simp [hc]), hb⟩⟩
  · rintro (ha | ⟨goesOn, ⟨hkind, stays⟩ | ⟨before, b, after, rfl, stays, hb⟩⟩)
    · exact .inr ⟨acts, a, [], rfl, nofun, ha⟩
    · exact .inl ⟨hkind, List.forall_mem_append.2 ⟨stays, List.forall_mem_singleton.2 goesOn⟩⟩
    · refine .inr ⟨before, b, after ++ [a], by simp, ?_, hb⟩
      exact List.forall_mem_append.2 ⟨stays, List.forall_mem_singleton.2 goesOn⟩

/-- Translating adds one fault to a refusal, of the kind of its status, and none to any other
failure. -/
theorem answer_translate (own : StatusTable) (e : Failure) (q : Question) :
    q.answer (e.translate own) ↔ translation? own e.kind = some q.kind ∨ q.answer e := by
  cases hkind : e.kind with
  | server status reason body =>
    rw [translate, hkind, translation?, Option.some_inj, ← StatusTable.kind?_eq_translation]
    cases hk : own.kind? status with
    | some kind => simpa [hk] using q.answer_caused kind body e
    | none => simpa [hk, unexpected] using q.answer_caused .unexpected _ e
  | _ => simp [translate_of_ne_server, hkind, translation?]

/-- What one act does to the answers of a failure. -/
theorem answer_act_iff (e : Failure) (a : Act) (q : Question) :
    q.answer (e.act a) ↔ e.creates a = some q.kind ∨ ¬ a.IsFresh ∧ q.answer e := by
  cases a with
  | fresh kind message => simp [act, creates, Act.IsFresh, q.answer_plain]
  | enclose kind message => simp [act, creates, Act.IsFresh, q.answer_caused]
  | unexpected => simp [act, creates, Act.IsFresh, Failure.unexpected, q.answer_caused]
  | annotate context => simp [act, creates, Act.IsFresh, q.answer_annotate]
  | wrap template args => simp [act, creates, Act.IsFresh, deserialization, q.answer_caused]
  | translate own => simp [act, creates, Act.IsFresh, answer_translate]

/-- After any acts a failure answers to what was created since the last fresh failure. -/
theorem answer_made_iff (first : Fault) (acts : List Act) (q : Question) :
    q.answer (made first acts) ↔ CreatedSinceFresh first acts q.kind := by
  induction acts using List.reverseRecOn with
  | nil => exact (q.answer_plain first.kind first.message).trans (by simp [CreatedSinceFresh])
  | append_singleton acts a ih =>
    have step : made first (acts ++ [a]) = (made first acts).act a := by simp [made]
    rw [step, answer_act_iff, createdSinceFresh_concat, ih]

/-- **What a failure answers to.** After any acts a failure answers to a question exactly if a
fault of that kind was created since the last fresh failure. Of any failure whatever: context
changes neither its answers nor its kind, in which a refusal has its status, reason and body; a
failure to read a reply and an unexpected failure add their own kind alone; the translation of
a refusal adds exactly one kind, that of its status; and no act but a fresh failure takes an
answer back. -/
theorem answers_follow_history :
    (∀ first acts (q : Question),
      q.answer (made first acts) ↔ CreatedSinceFresh first acts q.kind) ∧
    (∀ (e : Failure) context, (e.annotate context).kind = e.kind ∧
      ∀ q : Question, q.answer (e.annotate context) ↔ q.answer e) ∧
    (∀ (e : Failure) template args (q : Question),
      q.answer (deserialization (Text.fill template args) e) ↔
        q = .deserialization ∨ q.answer e) ∧
    (∀ (e : Failure) (q : Question), q.answer (unexpected e) ↔ q = .unexpected ∨ q.answer e) ∧
    (∀ (e : Failure) status reason body own, e.kind = .server status reason body →
      (∀ p ∈ own, p.2.isAnswer) →
        ∃ added : Question, added.kind = translation own status ∧
          ∀ q : Question, q.answer (e.translate own) ↔ q = added ∨ q.answer e) ∧
    (∀ (e : Failure) (a : Act), ¬ a.IsFresh → ∀ q : Question, q.answer e → q.answer (e.act a)) := by
  have asked {p q : Question} : p.kind = q.kind ↔ q = p :=
    Question.kind_injective.eq_iff.trans eq_comm
  refine ⟨answer_made_iff, fun e context => ⟨rfl, fun q => q.answer_annotate context e⟩,
    fun e template args q => ?_, fun e q => ?_, fun e status reason body own refusal answers => ?_,
    fun e a goesOn q yes => (answer_act_iff e a q).2 (.inr ⟨goesOn, yes⟩)⟩
  · rw [deserialization, q.answer_caused, ← asked (p := .deserialization)]
    rfl
  · rw [unexpected, q.answer_caused, ← asked (p := .unexpected)]
    rfl
  · obtain ⟨added, hadded⟩ :=
      Question.exists_kind_eq (StatusTable.isAnswer_translation answers status)
    refine ⟨added, hadded, fun q => ?_⟩
    rw [answer_translate, refusal, translation?, Option.some_inj, ← hadded, asked]

/-- A conflict that has been put into context and is then translated by a table of its own. -/
theorem answers_follow_history_conflict :
    let first : Fault := ⟨.server 409 (some "Conflict") "busy", "ServerError: 409 Conflict (busy)"⟩
    let e := made first [.annotate "machine 2"]
    e.kind = .server 409 (some "Conflict") "busy" ∧
      (∀ p ∈ [((409 : Int), FaultKind.cannotComplete)], p.2.isAnswer) ∧
      ∃ added : Question, added.kind = .cannotComplete ∧
        ∀ q : Question, q.answer (e.translate [(409, .cannotComplete)]) ↔
          q = added ∨ q.answer e := by
  intro first e
  have refusal : e.kind = .server 409 (some "Conflict") "busy" := rfl
  have answers : ∀ p ∈ [((409 : Int), FaultKind.cannotComplete)], p.2.isAnswer := by decide
  obtain ⟨-, -, -, -, translated, -⟩ := answers_follow_history
  exact ⟨refusal, answers, translated e 409 (some "Conflict") "busy" _ refusal answers⟩

end Failure
end BareMetal
