/-
# Refusals as failures that callers branch on

A refusal comes over the wire as a status, a reason and a body. The failure that a
caller gets (`Failure.Reports`) has the kind of the status, the text of the body as
its message, and the refusal itself as its only cause; and of the seven questions
that can be asked of a failure exactly one is answered with yes. This holds for every
table whose kinds are those of a refusal (`reports_translate`).
-/

import BareMetal.Failure
import BareMetal.Http.Exchange
import BareMetal.Text.Utf8

namespace BareMetal

/-- The text of a response's body. -/
def Response.text (r : Response) : String := String.ofList (Text.readUtf8 r.body)

/-- The text of a refusal. -/
def Response.refusalText (r : Response) : String :=
  let shown := r.reason.getD "None"
  s!"ServerError: {r.status} {shown} ({r.text})"

/-- A kind that tables give to the status of a refusal. -/
def FaultKind.isAnswer : FaultKind → Bool
  | noMatch | badRequest | permissionDenied | cannotComplete => true
  | _ => false

namespace Failure

/-- The questions that can be asked of a failure. -/
def questions : List (Failure → Bool) :=
  [isDeserialization, isUnsupportedVersion, isNoMatch, isBadRequest, isPermissionDenied,
    isCannotComplete, isUnexpected]

/-- The failure `e` reports the refusal `r` as one of the given kind. -/
structure Reports (e : Failure) (kind : FaultKind) (r : Response) : Prop where
  kind_eq : e.kind = kind
  message_eq : e.message =
    match kind with
    | .unexpected => s!"unexpected: {r.refusalText}"
    | _ => r.text
  causes_eq : e.causes = [⟨.server r.status r.reason r.text, r.refusalText⟩]
  one_question : questions.countP (· e) = 1

/-- The refusal of a request as it comes over the wire. -/
def ofRefusal (r : Response) : Failure := .server r.status r.reason r.text

/-- A refusal that stands in a table is reported under its kind, with its body as the
message. -/
theorem reports_caused {kind : FaultKind} (h : kind.isAnswer) (r : Response) :
    Reports (caused kind r.text (ofRefusal r)) kind r := by
  cases kind <;> first | exact ⟨rfl, rfl, rfl, rfl⟩ | cases h

/-- A refusal that stands in no table is reported as unexpected, with all of it in the
message. -/
theorem reports_unexpected (r : Response) :
    Reports (unexpected (ofRefusal r)) .unexpected r :=
  ⟨rfl, rfl, rfl, rfl⟩

end Failure

/-- The kind of failure that the status of a refusal stands for. -/
def usualRefusal : Int → FaultKind
  | 400 => .badRequest
  | 403 => .permissionDenied
  | 404 => .noMatch
  | 409 => .badRequest
  | 503 => .cannotComplete
  | _ => .unexpected

/-- Without a table of its own an operation treats every status in the usual way. -/
theorem StatusTable.kind?_nil (status : Int) :
    (kind? [] status).getD .unexpected = usualRefusal status := by
  unfold usualRefusal
  split
  · rfl
  · rfl
  · rfl
  · rfl
  · rfl
  · next h400 h403 h404 h409 h503 =>
    have unlisted : ∀ p ∈ defaultStatuses, ¬ (p.1 == status) := by
      simp only [defaultStatuses, List.forall_mem_cons, beq_iff_eq]
      exact ⟨fun h => h400 h.symm, fun h => h403 h.symm, fun h => h404 h.symm,
        fun h => h409 h.symm, fun h => h503 h.symm, by simp⟩
    simp [kind?, List.find?_eq_none.2 unlisted]

/-- A status at the head of the own table counts before all others. -/
theorem StatusTable.kind?_cons (s status : Int) (kind : FaultKind) (own : StatusTable) :
    (kind? ((s, kind) :: own) status).getD .unexpected =
      if status = s then kind else (kind? own status).getD .unexpected := by
  by_cases h : s = status
  · simp [kind?, h]
  · simp [kind?, h, Ne.symm h]

/-- A table of kinds of a refusal gives only such kinds, as do the default statuses. -/
theorem StatusTable.isAnswer_of_kind? {own : StatusTable} (h : ∀ p ∈ own, p.2.isAnswer)
    {status : Int} {kind : FaultKind} (hk : own.kind? status = some kind) : kind.isAnswer := by
  obtain ⟨p, hp, rfl⟩ := Option.map_eq_some_iff.1 hk
  rcases Option.or_eq_some_iff.1 hp with hp | ⟨-, hp⟩
  · exact h p (List.mem_of_find?_eq_some hp)
  · have default_isAnswer : ∀ p ∈ defaultStatuses, p.2.isAnswer := by decide
    exact default_isAnswer p (List.mem_of_find?_eq_some hp)

namespace Failure

/-- A refusal is reported as the kind of its status, or as unexpected. -/
theorem reports_translate {own : StatusTable} (h : ∀ p ∈ own, p.2.isAnswer) (r : Response) :
    Reports ((ofRefusal r).translate own) ((own.kind? r.status).getD .unexpected) r := by
  cases hk : own.kind? r.status with
  | some kind =>
    have ht : (ofRefusal r).translate own = caused kind r.text (ofRefusal r) := by
      simp [translate, ofRefusal, server, plain, Failure.kind, hk]
    rw [ht]
    exact reports_caused (StatusTable.isAnswer_of_kind? h hk) r
  | none =>
    have ht : (ofRefusal r).translate own = unexpected (ofRefusal r) := by
      simp [translate, ofRefusal, server, plain, Failure.kind, hk]
    rw [ht]
    exact reports_unexpected r

/-- A failure that is no refusal of a server is left as it is. -/
theorem translate_of_ne_server {own : StatusTable} {e : Failure}
    (h : ∀ status reason body, e.kind ≠ .server status reason body) : e.translate own = e := by
  unfold translate
  split
  · next status reason body hk => exact absurd hk (h status reason body)
  · rfl

end Failure
end BareMetal
