import Pype.Client.Payload
import Pype.System.Correlation

/-!
# What is read is what was meant

A worker reads of a request what the client meant by it, and a client of a response what
the worker meant by it, in whichever ways and however often they read.
-/

namespace Pype
namespace System

open Foundation Server

variable {caller worker : Type} [DecidableEq caller] [DecidableEq worker]

/-- A message is read as its sender meant it. -/
def ReadAs (python : Client.Python) (payload : Bytes) (meant : Client.Payload) : Prop :=
  forall accesses,
    (Client.PayloadAccessors.of payload).readings python accesses =
      accesses.map (meant.means python)

theorem readAs_of_eq (python : Client.Python) {payload : Bytes} {meant : Client.Payload}
    (h : payload = meant.body) : ReadAs python payload meant := by
  subst h
  exact Client.PayloadAccessors.readings_body python meant

/-- In every run of every deployment, each response that a client returns to its caller
reads as the worker meant it that answered the request, and each request that a worker
has pulled reads as the client meant it that sent it. -/
theorem messages_read_as_meant (d : Deployment caller worker)
    (moves : List (Move caller worker)) (python : Client.Python) :
    (forall k key r,
      (key, r) ∈ ((d.reached moves).callers k).connection.returnedResponses ->
        exists (answer : TaskId) (w : worker) (q : Client.ClientRequest)
          (meant : Client.Payload) (contentType : String) (timeout : Option Int)
          (call : Client.HttpCall),
          (d.reached moves).exchanges[answer]? =
              some (.worker w (.sendResponse q meant contentType timeout) call) ∧
            q.clientId = (d.client k).clientId ∧ q.requestId = key ∧
              ReadAs python r.payload meant) ∧
    (forall w q, q ∈ ((d.reached moves).desks w).pulled ->
      exists (sent : TaskId) (k : caller) (call : Client.HttpCall),
        (d.reached moves).exchanges[sent]? = some (.client k call) ∧
          SendsRequest call q.requestId ∧ q.clientId = (d.client k).clientId ∧
            forall meant : Client.Payload, call.body = meant.body ->
              ReadAs python q.payload meant) := by
  have h := provenance_reached d moves
  rcases h.server.ran with ⟨es, hes⟩
  have hservices : ServiceAccount (d.reached moves).server.store := by
    rw [hes]
    exact (serviceAccount_storeInvariant d.cfg d.jwt).reached serviceAccount_initial es
  have hclients : ClientAccount (d.reached moves).server.store := by
    rw [hes]
    exact App.clientAccount_reached d.cfg d.jwt es
  constructor
  · intro k key r hr
    rcases (h.callers k).books.received_of_returned hr with ⟨hreceived, rfl⟩
    rcases correlates_of_received h hservices hclients
      ((h.callers k).received r hreceived) with ⟨sent, w, q, answer, hcorrelates⟩
    rcases hcorrelates.response with ⟨meant, contentType, timeout, call, hanswer, hbody⟩
    exact ⟨answer, w, q, meant, contentType, timeout, call, hanswer,
      hcorrelates.addressed.left, hcorrelates.addressed.right,
      readAs_of_eq python hbody⟩
  · intro w q hq
    rcases h.pulled ((h.desks w).pulled q hq) with
      ⟨serviceName, queue, sent, message, htaken, hpayload, hclient, hrequest⟩
    rcases h.sender hservices htaken with
      ⟨k, call, hcall, hsends, hbody, howner, hfaithful⟩
    have hplain : HeaderText.Faithful message.clientId := by
      rw [howner]
      exact (d.client k).plain.faithful
    refine ⟨sent, k, call, hcall, ?_, ?_, ?_⟩
    · rw [hrequest hfaithful]
      exact hsends
    · rw [hclient hplain, howner]
    · intro meant hmeant
      exact readAs_of_eq python (hpayload.trans (hbody.trans hmeant))

end System
end Pype
