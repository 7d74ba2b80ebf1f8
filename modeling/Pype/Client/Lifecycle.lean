import Pype.Client.Minting

/-!
# The life of a connection

From its login to its logoff a client's connection polls for its own client id, posts
to services and, at the end, logs off once.  Afterwards it makes no calls.
-/

namespace Pype
namespace Client

open Foundation Server

/-- How the operation ends on a connection that is closed. -/
def Operation.afterClose : Operation -> Progress
  | .close => .returned .nothing
  | _ => .raised (.runtimeError "ClientConnection is closed")

namespace ClientConnection

/-- A turn that leaves the connection open or closed as it is and at most polls for its
client. -/
structure Minds (conn : ClientConnection) (result : ClientConnection × Progress) :
    Prop where
  clientId : result.1.clientId = conn.clientId
  closed : result.1.closed = conn.closed
  polls : forall call frame, result.2 = .blocked call frame ->
    call.IsPoll conn.clientId

section

variable {settings : Settings} {conn : ClientConnection}

theorem Searches.minds {result : ClientConnection × Progress} (h : Searches conn result) :
    Minds conn result where
  clientId := h.keeps ClientConnection.clientId fun _ _ => rfl
  closed := h.keeps ClientConnection.closed fun _ _ => rfl
  polls := fun _ _ hblocked => (h.blocked hblocked).left

theorem minds_resume (frame : Frame) (outcome : Outcome) (source : TaskId)
    (clock : Clock) : Minds conn (conn.resume settings frame outcome source clock) := by
  have hcases := @resume_cases settings conn frame outcome source clock
  constructor
  · exact hcases.keeps ClientConnection.clientId (fun _ _ => rfl) (fun _ _ => rfl)
      (fun _ _ => rfl)
  · exact hcases.keeps ClientConnection.closed (fun _ _ => rfl) (fun _ _ => rfl)
      (fun _ _ => rfl)
  · exact fun _ _ hblocked => (hcases.blocked hblocked).left

theorem resume_close (outcome : Outcome) (source : TaskId) (clock : Clock) :
    conn.resume settings .close outcome source clock = (conn, .returned .nothing) := rfl

/-!
## How an operation starts
-/

theorem ensureOpen_of_closed (h : conn.closed = true) :
    conn.ensureOpen = .error (.runtimeError "ClientConnection is closed") := by
  rw [ensureOpen, h]
  rfl

theorem start_of_closed (h : conn.closed = true) (operation : Operation) (clock : Clock) :
    conn.start settings operation clock = (conn, operation.afterClose) := by
  have herror := ensureOpen_of_closed h
  cases operation with
  | sendRequest serviceName request contentType timeout =>
      unfold start sendRequest
      rw [herror]
      rfl
  | call serviceName request contentType timeout =>
      unfold start ClientConnection.call
      rw [herror]
      rfl
  | getResponse requestId timeout =>
      unfold start getResponse
      rw [herror]
      rfl
  | collect collector requestIds timeout =>
      unfold start collect
      rw [herror]
      rfl
  | close =>
      unfold start close
      rw [if_pos h]
      rfl

end

end ClientConnection

end Client
end Pype
