/-
# Exchanges that go step by step

A step is a request, together with the replies that let the exchange go on. An exchange that
takes steps in order (`Takes`) sends a prefix of their requests, and sends the next one exactly
if all replies so far let it go on (`Course.isPrefix`, `Course.lt_length_iff`).

Such an exchange is put together of parts that send one request each, whose reply alone decides
how the part ends (`Reads`), and of parts that only record and print (`Idle`).
-/

import BareMetal.Proofs.Http.Trace
import BareMetal.Proofs.Except

namespace BareMetal
namespace Exchange

variable {α β : Type}

/-- An exchange sends one request and takes one reply, which decides its result. -/
structure Reads (x : Exchange α) (r : Request) (answer : Reply → Except Failure α) : Prop where
  result_eq : ∀ replies, (x.run replies).result = answer (replyAt replies 0)
  requests_eq : ∀ replies, requests (x.run replies).events = [r]
  left_eq : ∀ replies, (x.run replies).left = replies.tail

/-- An exchange sends nothing, takes no reply and does not fail. -/
structure Idle (x : Exchange α) : Prop where
  silent : x.Silent
  succeeds : ∀ replies, ∃ a, (x.run replies).result = .ok a

/-- A value by itself is idle. -/
theorem idle_pure (a : α) : (pure a : Exchange α).Idle := ⟨silent_pure a, fun _ => ⟨a, rfl⟩⟩

/-- Two idle parts are idle together. -/
theorem idle_bind {x : Exchange α} {f : α → Exchange β} (hx : x.Idle) (hf : ∀ a, (f a).Idle) :
    (x >>= f).Idle := by
  refine ⟨silent_bind hx.silent fun a => (hf a).silent, fun replies => ?_⟩
  obtain ⟨a, ha⟩ := hx.succeeds replies
  obtain ⟨b, hb⟩ := (hf a).succeeds (x.run replies).left
  rw [run_bind_of_result_ok ha]
  exact ⟨b, hb⟩

/-- Doing something idle for each member of a list is idle. -/
theorem idle_forM {f : α → Exchange Unit} (hf : ∀ a, (f a).Idle) (xs : List α) :
    (xs.forM f).Idle := by
  induction xs with
  | nil => exact idle_pure ()
  | cons a xs ih => exact idle_bind (hf a) fun _ => ih

/-- Parts may be put together in any order. -/
theorem bind_assoc {γ : Type} (x : Exchange α) (f : α → Exchange β) (g : β → Exchange γ) :
    x >>= f >>= g = x >>= fun a => f a >>= g := by
  funext replies
  change ((x >>= f >>= g).run replies) = (x >>= fun a => f a >>= g).run replies
  rw [run_bind, run_bind, run_bind]
  rcases x.run replies with ⟨e | a, events, left⟩
  · rfl
  · dsimp only
    rw [run_bind]
    rcases (f a).run left with ⟨e | b, later, last⟩
    · rfl
    · simp

/-- What is idle changes nothing about the result of what follows it. -/
theorem Idle.result_bind {x : Exchange Unit} (hx : x.Idle) (f : Unit → Exchange β)
    (replies : List Reply) : ((x >>= f).run replies).result = ((f ()).run replies).result := by
  obtain ⟨_, ha⟩ := hx.succeeds replies
  rw [run_bind_of_result_ok ha, (hx.silent replies).2]

/-- What follows a part that reads one reply runs on the replies behind it. -/
theorem Reads.result_bind {x : Exchange α} {r : Request} {answer : Reply → Except Failure α}
    (hx : x.Reads r answer) (f : α → Exchange β) (replies : List Reply) :
    ((x >>= f).run replies).result =
      answer (replyAt replies 0) >>= fun a => ((f a).run replies.tail).result := by
  have result := hx.result_eq replies
  cases h : answer (replyAt replies 0) with
  | error e =>
    rw [run_bind_of_result_error (result.trans h)]
    rfl
  | ok a =>
    rw [run_bind_of_result_ok (result.trans h), hx.left_eq]
    rfl

/-- A request, and the replies to it that let an exchange go on. -/
structure Step where
  request : Request
  passes : Reply → Prop

/-- The requests that are sent when steps are taken in order, up to the first one whose reply
does not let the exchange go on. -/
inductive Course : List Step → List Reply → List Request → Prop
  | done (replies : List Reply) : Course [] replies []
  | stops {step : Step} {replies : List Reply} (fails : ¬ step.passes (replyAt replies 0))
      (steps : List Step) : Course (step :: steps) replies [step.request]
  | goesOn {step : Step} {steps : List Step} {replies : List Reply} {sent : List Request}
      (passes : step.passes (replyAt replies 0)) (rest : Course steps replies.tail sent) :
      Course (step :: steps) replies (step.request :: sent)

namespace Course

variable {steps : List Step} {replies : List Reply} {sent : List Request}

/-- The requests that were sent are the first ones of the steps. -/
theorem isPrefix (h : Course steps replies sent) : sent <+: steps.map Step.request := by
  induction h with
  | done => exact List.prefix_rfl
  | stops => exact (List.cons_prefix_cons).2 ⟨rfl, List.nil_prefix⟩
  | goesOn _ _ ih => exact (List.cons_prefix_cons).2 ⟨rfl, ih⟩

/-- A step is taken exactly if every reply before it lets the exchange go on. -/
theorem lt_length_iff (h : Course steps replies sent) {i : Nat} (hi : i < steps.length) :
    i < sent.length ↔ ∀ j (hj : j < i), (steps[j]).passes (replyAt replies j) := by
  induction h generalizing i with
  | done => cases hi
  | @stops step replies fails steps =>
    cases i with
    | zero => exact iff_of_true (Nat.zero_lt_one) nofun
    | succ i =>
      refine iff_of_false (by simp) fun passes => fails ?_
      exact passes 0 (Nat.succ_pos i)
  | @goesOn step steps replies sent passes rest ih =>
    cases i with
    | zero => exact iff_of_true (Nat.succ_pos _) nofun
    | succ i =>
      have later := ih (Nat.lt_of_succ_lt_succ hi)
      rw [List.length_cons, Nat.succ_lt_succ_iff, later]
      constructor
      · intro all j hj
        cases j with
        | zero => exact passes
        | succ j =>
          rw [← replyAt_tail]
          exact all j (Nat.lt_of_succ_lt_succ hj)
      · intro all j hj
        rw [replyAt_tail]
        exact all (j + 1) (Nat.succ_lt_succ hj)

end Course

/-- An exchange takes the steps in order. -/
def Takes (x : Exchange α) (steps : List Step) : Prop :=
  ∀ replies, Course steps replies (requests (x.run replies).events)

/-- What sends nothing takes no step. -/
theorem Silent.takes {x : Exchange α} (h : x.Silent) : x.Takes [] := by
  intro replies
  rw [(h replies).1]
  exact .done replies

/-- What is idle comes before no other step. -/
theorem Idle.takes_bind {x : Exchange α} {f : α → Exchange β} {steps : List Step} (hx : x.Idle)
    (hf : ∀ a, (f a).Takes steps) : (x >>= f).Takes steps := by
  intro replies
  obtain ⟨a, ha⟩ := hx.succeeds replies
  have rest := hf a replies
  rw [run_bind_of_result_ok ha, (hx.silent replies).2, requests_append, (hx.silent replies).1]
  exact rest

/-- A part that sends one request is the first step, and lets go on the replies on which it
succeeds. -/
theorem Reads.takes_bind {x : Exchange α} {f : α → Exchange β} {r : Request}
    {answer : Reply → Except Failure α} {steps : List Step} (hx : x.Reads r answer)
    {passes : Reply → Prop} (succeeds : ∀ reply, (∃ a, answer reply = .ok a) ↔ passes reply)
    (hf : ∀ a reply, answer reply = .ok a → (f a).Takes steps) :
    (x >>= f).Takes (⟨r, passes⟩ :: steps) := by
  intro replies
  have result := hx.result_eq replies
  cases h : answer (replyAt replies 0) with
  | error e =>
    have fails : ¬ passes (replyAt replies 0) := by
      rw [← succeeds, h]
      nofun
    rw [run_bind_of_result_error (result.trans h), hx.requests_eq]
    exact .stops fails steps
  | ok a =>
    have rest := hf a _ h replies.tail
    rw [run_bind_of_result_ok (result.trans h), hx.left_eq, requests_append, hx.requests_eq]
    exact .goesOn ((succeeds _).1 ⟨a, h⟩) rest

end Exchange
end BareMetal
