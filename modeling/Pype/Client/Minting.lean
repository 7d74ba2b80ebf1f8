import Pype.Client.Accounting
import Pype.Client.Invocation
import Pype.Client.ServiceConnection

/-!
# The calls that connections make

A client's connection sends requests only when an operation starts, each under a
fresh id; what it does afterwards is to poll.  A worker's connection makes one call
for each operation.
-/

namespace Pype
namespace Client

open Foundation Server

namespace ClientConnection

/-- A turn whose call, if it has one, is a poll, the logoff, or the POST of a request
under a fresh id. -/
def Mints (conn : ClientConnection) (result : ClientConnection × Progress) : Prop :=
  conn.nextRequestId ≤ result.1.nextRequestId ∧
    forall call frame, result.2 = .blocked call frame ->
      (call.method = .post ->
        conn.nextRequestId < result.1.nextRequestId ∧
          call.requestId = some (toString result.1.nextRequestId)) ∧
      (call.method = .delete -> frame = .close)

/-!
## Turns
-/

theorem mints_of_polls {conn : ClientConnection} {result : ClientConnection × Progress}
    (hsame : result.1.nextRequestId = conn.nextRequestId)
    (hpolls : forall call frame, result.2 = .blocked call frame ->
      call.IsPoll conn.clientId) : Mints conn result := by
  constructor
  · exact le_of_eq hsame.symm
  · intro call frame hblocked
    have hget := (hpolls call frame hblocked).method
    constructor
    · intro hpost
      rw [hget] at hpost
      cases hpost
    · intro hdelete
      rw [hget] at hdelete
      cases hdelete

section

variable {settings : Settings} {conn : ClientConnection}

theorem mints_resume (frame : Frame) (outcome : Outcome) (source : TaskId)
    (clock : Clock) : Mints conn (conn.resume settings frame outcome source clock) := by
  have hcases := @resume_cases settings conn frame outcome source clock
  apply mints_of_polls
  · exact hcases.keeps ClientConnection.nextRequestId (fun _ _ => rfl) (fun _ _ => rfl)
      (fun _ _ => rfl)
  · exact fun call frame hblocked => (hcases.blocked hblocked).left

theorem mints_start (operation : Operation) (clock : Clock) :
    Mints conn (conn.start settings operation clock) := by
  have hcases := @start_cases settings conn operation clock
  generalize conn.start settings operation clock = result at hcases ⊢
  cases hcases with
  | refuses error => exact mints_of_polls rfl (fun _ _ hblocked => nomatch hblocked)
  | searches hsearch =>
      apply mints_of_polls
      · exact hsearch.keeps ClientConnection.nextRequestId fun _ _ => rfl
      · exact fun call frame hblocked => (hsearch.blocked hblocked).left
  | posts hopen hcall hframe hid =>
      constructor
      · exact Nat.le_succ _
      · intro call frame hblocked
        cases hblocked
        constructor
        · intro _
          exact ⟨Nat.lt_succ_self _, hid⟩
        · intro hdelete
          rw [hcall.method] at hdelete
          cases hdelete
  | leaves hopen hcall hframe =>
      constructor
      · exact le_refl _
      · intro call frame hblocked
        cases hblocked
        constructor
        · intro hpost
          rw [hcall.method] at hpost
          cases hpost
        · intro _
          rfl
  | left => exact mints_of_polls rfl (fun _ _ hblocked => nomatch hblocked)

end

/-!
## What comes in
-/

theorem Books.received_of_returned {conn : ClientConnection} (h : Books conn [])
    {key : String} {r : ServiceResponse} (hr : (key, r) ∈ conn.returnedResponses) :
    r ∈ conn.receivedResponses ∧ r.requestId = key := by
  constructor
  · have hcount := h.situations r
    rw [List.append_nil] at hcount
    have hreturned : 0 < (conn.returnedResponses.map Prod.snd).count r :=
      List.count_pos_iff.mpr (List.mem_map.mpr ⟨_, hr, rfl⟩)
    exact List.count_pos_iff.mp (by omega)
  · exact h.returnedKeys key r (List.mem_append_left _ hr)

/-- No response is returned twice, so there is no id under which two are returned if
an id determines its response. -/
theorem Books.nodup_returnedKeys {conn : ClientConnection} (h : Books conn [])
    (hsame : forall key r r', (key, r) ∈ conn.returnedResponses ->
      (key, r') ∈ conn.returnedResponses -> r.source = r'.source) :
    (conn.returnedResponses.map Prod.fst).Nodup := by
  have honce : (conn.returnedResponses.map Prod.snd).Nodup := by
    rw [List.nodup_iff_count_le_one]
    intro r
    by_cases hr : r ∈ conn.receivedResponses
    · exact (h.accounted r hr).right
    · have hnot : r ∉ conn.returnedResponses.map Prod.snd := by
        intro hmem
        rcases List.mem_map.mp hmem with ⟨⟨key, r'⟩, hr', rfl⟩
        exact hr (h.received_of_returned hr').left
      rw [List.count_eq_zero.mpr hnot]
      exact Nat.zero_le 1
  refine List.Nodup.map_on ?_ honce.of_map
  rintro ⟨key, r⟩ hr ⟨key', r'⟩ hr' hkey
  dsimp only at hkey
  subst hkey
  have hsource := hsame key r r' hr hr'
  have heq : r = r' := List.inj_on_of_nodup_map h.distinct
    (h.received_of_returned hr).left (h.received_of_returned hr').left hsource
  rw [heq]

end ClientConnection

/-!
## The calls of a worker
-/

namespace ServiceConnection

/-- The call that an operation makes: a GET of the next request, or the POST of a
response to the client that sent the request. -/
def Makes (operation : Operation) (call : HttpCall) : Prop :=
  match operation with
  | .getRequest _ => call.method = .get
  | .sendResponse forRequest response _ _ =>
      call.method = .post ∧ call.path = ["clients", forRequest.clientId] ∧
        call.requestId = some forRequest.requestId ∧ call.body = response.body
  | .close => False

theorem makes_of_start {settings : Settings} {operation : Operation}
    {conn : ServiceConnection} {call : HttpCall} {frame : Frame}
    (h : (conn.start settings operation).2 = .blocked call frame) :
    Makes operation call := by
  cases operation with
  | getRequest timeout =>
      simp only [start, getRequest] at h
      split at h
      · cases h
      · cases h
        rfl
  | sendResponse forRequest response contentType timeout =>
      simp only [start, sendResponse] at h
      split at h
      · cases h
      · cases h
        exact ⟨rfl, rfl, rfl, rfl⟩
  | close => cases h

theorem start_keeps (settings : Settings) (operation : Operation)
    (conn : ServiceConnection) :
    (conn.start settings operation).1.serviceName = conn.serviceName := by
  cases operation <;> rfl

theorem resume_keeps (frame : Frame) (outcome : Outcome) (source : TaskId)
    (conn : ServiceConnection) :
    (conn.resume frame outcome source).1.serviceName = conn.serviceName := by
  cases frame <;> rfl

theorem reply_of_request {frame : Frame} {outcome : Outcome} {source : TaskId}
    {conn : ServiceConnection} {request : ClientRequest}
    (h : (conn.resume frame outcome source).2 = .returned (.request request)) :
    exists reply, outcome = .reply reply ∧ reply.status = 200 ∧
      readRequest reply conn.serviceName source = some request := by
  cases frame with
  | getRequest =>
      simp only [resume, getRequestPolled] at h
      split at h
      · cases h
      · rename_i reply hreply
        rcases expectReply_ok hreply with ⟨rfl, hstatus⟩
        split at h
        · cases h
        · rename_i hnot
          split at h
          · cases h
          · rename_i hread
            cases h
            refine ⟨reply, rfl, ?_, hread⟩
            simpa [hnot] using hstatus
  | sendResponse =>
      simp only [resume, sendResponseSent] at h
      split at h <;> cases h

end ServiceConnection

end Client
end Pype
