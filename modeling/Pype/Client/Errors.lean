import Pype.Client.Authentication
import Pype.Client.Lifecycle

/-!
# What the library raises

A status that a call does not expect becomes an exception, with a text made of the
reply.  Besides, an operation raises a timeout when it has waited in vain, and a protocol
error for a message without its headers.
-/

namespace Pype
namespace Client

open Foundation Server

/-- `_describe`, where `text` is `resp.text`. -/
def describe (python : Python) (text : HttpReply -> String) (reply : HttpReply) :
    String :=
  match replyJson python reply with
  | some (.object fields) =>
      let body := JsonValue.object fields
      let detail := python.str ((body.item? "detail").getD body)
      s!"{reply.status} {detail}"
  | some body => s!"{reply.status} {python.str body}"
  | none =>
      let text := text reply
      let head := String.ofList (text.toList.take 200)
      if text = "" then s!"HTTP {reply.status}" else s!"{reply.status} {head}"

theorem describe_reply (python : Python) (text : HttpReply -> String)
    (error : Server.PypeError) :
    describe python text error.reply = s!"{error.statusCode} {error.detail}" := by
  simp [describe, replyJson, Server.PypeError.reply, jsonReply, JsonValue.item?,
    python.str_string]

theorem expectReply_error {reply : HttpReply} {expectedCodes : List Nat}
    {error : PypeError} (h : expectReply (.reply reply) expectedCodes = .error error) :
    raiseForStatus reply expectedCodes = .error error := by
  unfold expectReply at h
  dsimp only at h
  split at h
  · rename_i hraise
    cases h
    exact hraise
  · cases h

def HttpCall.AsksForRequest (call : HttpCall) : Prop :=
  call.method = .get ∧ call.path.head? = some "services"

inductive Raises (call : HttpCall) (expectedCodes : List Nat) (reply : HttpReply) :
    PypeError -> Prop where
  | status {error : PypeError} (h : raiseForStatus reply expectedCodes = .error error) :
      Raises call expectedCodes reply error
  | header {detail : String} (hstatus : reply.status = 200)
      (hheader : reply.xPypeRequestId = none ∨
        call.AsksForRequest ∧ reply.xPypeClientId = none) :
      Raises call expectedCodes reply (.protocolError detail)
  | timeout {detail : String} (hwaits : call.Waits)
      (hstatus : reply.status ∈ expectedCodes) :
      Raises call expectedCodes reply (.timeoutError detail)

namespace ClientConnection

section

variable {settings : Settings} {conn : ClientConnection}

/-!
## What a resumed operation raises
-/

theorem raises_of_refuses {frame : Frame} {call : HttpCall} {reply : HttpReply}
    {error : PypeError} (h : frame.Refuses (.reply reply) error) :
    Raises call frame.expectedCodes reply error := by
  cases h with
  | status herror => exact Raises.status (expectReply_error herror)
  | header houtcome hstatus hheader =>
      cases houtcome
      exact Raises.header hstatus (Or.inl hheader)

theorem raises_resume {frame : Frame} {call : HttpCall} {reply : HttpReply}
    {source : TaskId} {clock : Clock} {error : PypeError} (hfits : frame.Fits call)
    (hopen : conn.closed = true -> frame = .close)
    (h : (conn.resume settings frame (.reply reply) source clock).2 = .raised error) :
    Raises call frame.expectedCodes reply error := by
  have hcases := @resume_cases settings conn frame (.reply reply) source clock
  generalize conn.resume settings frame (.reply reply) source clock = result at hcases h
  cases hcases with
  | refuses hrefuses =>
      cases h
      exact raises_of_refuses hrefuses
  | returns hframe hvalue => cases h
  | answers hresponse => cases h
  | searches hframe hreply hsearch =>
      rcases expectReply_ok hreply with ⟨heq, hstatus⟩
      cases heq
      cases hsearch with
      | polls hcall hpolls => cases h
      | popped hget => cases h
      | collected wanted => cases h
      | late detail =>
          cases h
          exact Raises.timeout (hfits.waits hframe) hstatus
      | closed hclosed =>
          -- only a connection that is logging off is closed while it waits
          have hsame : (conn.takeIn (frame.response? (.reply reply) source)).closed =
              conn.closed :=
            takeIn_keeps conn _ ClientConnection.closed fun _ _ => rfl
          rw [hsame] at hclosed
          rw [hopen hclosed] at hframe
          cases hframe

end

end ClientConnection

/-!
## The same for a worker
-/

namespace ServiceConnection

/-- The call that an operation waits for in a frame. -/
def Frame.Fits (call : HttpCall) : Frame -> Prop
  | .getRequest => call.AsksForRequest
  | .sendResponse => call.method = .post ∧ call.block = false

def Frame.expectedCodes : Frame -> List Nat
  | .getRequest => [200, 204]
  | .sendResponse => [202]

section

variable {settings : Settings} {conn : ServiceConnection}

theorem fits_start {operation : Operation} {call : HttpCall} {frame : Frame}
    (h : (conn.start settings operation).2 = .blocked call frame) : frame.Fits call := by
  cases operation with
  | getRequest timeout =>
      unfold start getRequest at h
      dsimp only at h
      split at h <;> cases h
      exact ⟨rfl, rfl⟩
  | sendResponse forRequest response contentType timeout =>
      unfold start sendResponse at h
      dsimp only at h
      split at h <;> cases h
      exact ⟨rfl, rfl⟩
  | close => cases h

theorem raises_resume {frame : Frame} {call : HttpCall} {reply : HttpReply}
    {source : TaskId} {error : PypeError} (hfits : frame.Fits call)
    (h : (conn.resume frame (.reply reply) source).2 = .raised error) :
    Raises call frame.expectedCodes reply error := by
  cases frame with
  | getRequest =>
      unfold resume getRequestPolled at h
      dsimp only at h
      split at h
      · rename_i hexpect
        cases h
        exact .status (expectReply_error hexpect)
      · rename_i hexpect
        rcases expectReply_ok hexpect with ⟨heq, hcodes⟩
        cases heq
        split at h
        · cases h
          exact .timeout (Or.inl hfits.left) hcodes
        · rename_i hstatus
          split at h
          · rename_i hread
            cases h
            apply Raises.header
            · simpa [hstatus] using hcodes
            · unfold readRequest at hread
              split at hread
              · cases hread
              · rename_i hnone
                cases hid : reply.xPypeRequestId with
                | none => exact Or.inl rfl
                | some requestId =>
                    cases hclient : reply.xPypeClientId with
                    | none => exact Or.inr ⟨hfits, rfl⟩
                    | some clientId => exact absurd hid (hnone clientId requestId hclient)
          · cases h
  | sendResponse =>
      unfold resume sendResponseSent at h
      dsimp only at h
      split at h
      · rename_i hexpect
        cases h
        exact .status (expectReply_error hexpect)
      · cases h

end

end ServiceConnection

end Client
end Pype
