import Mathlib.Data.Stream.Init
import Pype.Client.Turns

/-!
# Invocations

An operation of a connection, followed from its start through the answers to its
HTTP calls.  The answers are whatever the network and the server make of the
calls; an operation that needs more answers than there are is left waiting.
-/

namespace Pype
namespace Client

open Foundation Server

/-- What ends one HTTP call: its outcome, the number of the exchange, and the clock
of the stretch that follows. -/
structure Answer where
  outcome : Outcome
  source : TaskId
  clock : Clock

/-- A 200 that brings an empty response with the given header text. -/
def Answer.bringing (requestId : Bytes) (source : TaskId) : Answer where
  outcome := .reply { emptyReply 200 with xPypeRequestId := some requestId }
  source := source
  clock := Clock.constant 0

def Answer.nothing (source : TaskId) : Answer where
  outcome := .reply (emptyReply 204)
  source := source
  clock := Clock.constant 0

/-- How far an operation gets: the calls that it makes, the connection and the
progress afterwards, and the answers that it leaves. -/
structure Invocation where
  calls : List HttpCall
  connection : ClientConnection
  progress : Progress
  unused : List Answer

def Invocation.ending (i : Invocation) : Option (Except PypeError Returned) :=
  match i.progress with
  | .blocked _ _ => none
  | .returned value => some (.ok value)
  | .raised error => some (.error error)

/-- What `[request_id]` makes of a returned value; a single response is what the
caller asked for. -/
def Returned.item (requestId : String) : Returned -> Option ServiceResponse
  | .response _ value => some value
  | .responses values => values.get? requestId
  | .requestId _ => none
  | .nothing => none

def Invocation.after (calls : List HttpCall) (i : Invocation) : Invocation :=
  { i with calls := calls ++ i.calls }

theorem Invocation.after_nil (i : Invocation) : i.after [] = i := rfl

theorem Invocation.after_after (calls calls' : List HttpCall) (i : Invocation) :
    (i.after calls').after calls = i.after (calls ++ calls') := by
  simp [after]

namespace ClientConnection

def follow (settings : Settings) :
    List Answer -> ClientConnection × Progress -> Invocation
  | answers, (conn, .returned value) => ⟨[], conn, .returned value, answers⟩
  | answers, (conn, .raised error) => ⟨[], conn, .raised error, answers⟩
  | [], (conn, .blocked call frame) => ⟨[call], conn, .blocked call frame, []⟩
  | answer :: rest, (conn, .blocked call frame) =>
      (follow settings rest
        (conn.resume settings frame answer.outcome answer.source
          answer.clock)).after [call]

/-- Run an operation on a list of answers. -/
def invoke (settings : Settings) (operation : Operation) (clock : Clock)
    (answers : List Answer) (conn : ClientConnection) : Invocation :=
  follow settings answers (conn.start settings operation clock)

section

variable {settings : Settings} {conn : ClientConnection}

@[simp] theorem follow_returned (answers : List Answer) (value : Returned) :
    follow settings answers (conn, .returned value) =
      ⟨[], conn, .returned value, answers⟩ := by
  cases answers <;> rfl

@[simp] theorem follow_raised (answers : List Answer) (error : PypeError) :
    follow settings answers (conn, .raised error) =
      ⟨[], conn, .raised error, answers⟩ := by
  cases answers <;> rfl

@[simp] theorem follow_nil (call : HttpCall) (frame : Frame) :
    follow settings [] (conn, .blocked call frame) =
      ⟨[call], conn, .blocked call frame, []⟩ := rfl

theorem follow_cons (answer : Answer) (rest : List Answer) (call : HttpCall)
    (frame : Frame) :
    follow settings (answer :: rest) (conn, .blocked call frame) =
      (follow settings rest
        (conn.resume settings frame answer.outcome answer.source
          answer.clock)).after [call] := rfl

/-!
## Polls
-/

theorem pollOne_of_nonneg {remaining : Option Int}
    (h : forall ms, ms ∈ remaining -> 0 ≤ ms) (frame : Frame) :
    conn.pollOne settings remaining frame =
      .blocked (conn.pollCall settings remaining) frame := by
  rcases pollOne_cases settings remaining frame conn with
    ⟨_, heq⟩ | ⟨ms, hms, hneg, _⟩
  · exact heq
  · exact absurd (h ms hms) (not_le.mpr hneg)

end

end ClientConnection

end Client
end Pype
