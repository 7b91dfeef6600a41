/-
# The request of an operation

An operation whose arguments pass its checks and whose path has a URL sends one request,
whatever the reply is, and any other one sends none (`requests_perform`). In either case
it takes one reply for each request (`paired_perform`).
-/

import BareMetal.Controller.Basic
import BareMetal.Proofs.Http.Trace

namespace BareMetal

/-- The request that a plan stands for: the parameters are the form of a change, and
belong to the query of any other request. -/
def Plan.request {α : Type} (p : Plan α) (c : Client) (url : String) : Request :=
  match p.verb with
  | .get =>
    { verb := .get, url, query := Client.withOperation p.op (p.params.getD []), form := none,
      timeout := c.timeout, verify := c.verify }
  | .post =>
    { verb := .post, url, query := Client.withOperation p.op [], form := p.params,
      timeout := c.timeout, verify := c.verify }
  | .delete =>
    { verb := .delete, url, query := [], form := none, timeout := c.timeout, verify := c.verify }

namespace Controller

open Exchange

variable {α : Type} (c : Controller)

/-- The request of a plan is sent exactly if its path has a URL. -/
theorem requests_send (p : Plan α) (replies : List Reply) :
    requests ((c.send p).run replies).events = c.client.sent p.path (p.request c.client) := by
  unfold send Plan.request
  cases p.verb with
  | get => exact Client.requests_request c.client .get p.path p.op (p.params.getD []) none replies
  | post => exact Client.requests_request c.client .post p.path p.op [] p.params replies
  | delete =>
    dsimp only
    rw [(run_bind_of_silent (fun _ => silent_pure _) _ replies).1, Client.delete,
      (run_bind_of_silent (fun _ => silent_pure _) _ replies).1, Client.requests_request,
      Client.withOperation_empty]

/-- Carrying out a plan takes one reply for each request that it sends. -/
theorem paired_send (p : Plan α) : (c.send p).Paired := by
  have silent {β : Type} (b : β) : (pure b : Exchange β).Paired := (silent_pure b).paired
  unfold send
  split
  · exact Client.paired_request c.client .get p.path p.op (p.params.getD []) none
  · exact Client.paired_request c.client .post p.path p.op [] p.params
  · exact paired_bind (paired_bind (Client.paired_request c.client .delete p.path "" [] none)
      fun _ => silent _) fun _ => silent _

/-- What a plan does after its request is silent. -/
theorem silent_finish (p : Plan α) (source : Datum) :
    (do
      let result ← ofExcept (p.decode c.version source)
      match p.record result with
      | some message => log .info logger message
      | none => pure ()
      return result : Exchange α).Silent := by
  refine silent_bind (silent_ofExcept _) fun result => ?_
  dsimp only
  split
  · exact silent_bind (silent_log .info logger _) fun _ => silent_pure result
  · exact silent_pure result

/-- An operation sends one request if its arguments pass its checks and its path has a
URL, and else none. -/
theorem requests_perform (op : Operation α) (replies : List Reply) :
    requests ((c.perform op).run replies).events =
      match op.plan with
      | .error _ => []
      | .ok p => c.client.sent p.path (p.request c.client) := by
  unfold perform
  split
  · next e h => rw [h, run_bind]; rfl
  · next p h =>
    rw [h, run_ofExcept_ok_bind, ← c.requests_send p replies]
    exact (run_bind_of_silent (c.silent_finish p) _ replies).1

/-- What happens in an operation is that a request is sent, and that something is recorded. -/
theorem emits_perform {p : Event → Prop} (sends : ∀ r, p (.request r))
    (records : ∀ level logger message, p (.log level logger message)) (op : Operation α) :
    (c.perform op).Emits p := by
  have request := Client.emits_request sends records c.client
  have send (plan : Plan α) : (c.send plan).Emits p := by
    unfold send
    split
    · exact request .get plan.path plan.op (plan.params.getD []) none
    · exact request .post plan.path plan.op [] plan.params
    · exact emits_bind (emits_bind (request .delete plan.path "" [] none)
        fun _ => emits_pure _) fun _ => emits_pure _
  refine emits_bind (emits_ofExcept _) fun plan => emits_bind (emits_mapFailure (send plan) _)
    fun _ => emits_bind (emits_ofExcept _) fun result => ?_
  dsimp only
  split
  · exact emits_bind (emits_emit (records _ _ _)) fun _ => emits_pure _
  · exact emits_pure _

/-- An operation takes one reply for each request. -/
theorem paired_perform (op : Operation α) : (c.perform op).Paired :=
  paired_bind (silent_ofExcept _).paired fun p =>
    paired_bind (paired_mapFailure (c.paired_send p) _) fun source =>
      (c.silent_finish p source).paired

end Controller
end BareMetal
