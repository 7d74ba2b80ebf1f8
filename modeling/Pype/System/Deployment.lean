import Mathlib.Logic.Function.Basic
import Pype.Server.App
import Pype.Client.Accounting
import Pype.System.Network

/-!
# The composed system

One server, any number of clients and any number of workers.  Every call of a party
gets a number, and the server a coroutine for it; the call may reach the server late
or never, and its reply may be lost.  What happens next is up to the parties, the
network, the scheduler and the clocks.
-/

namespace Pype
namespace System

open Foundation Server

/-- The parties, their logins and the settings of both sides.  No two clients were
issued one client id. -/
structure Deployment (caller worker : Type) where
  cfg : Server.Settings
  jwt : Jwt
  settings : Client.Settings
  header : HeaderTransport
  client : caller -> ClientLogin jwt
  service : worker -> ServiceLogin jwt
  distinct : forall k k', (client k).clientId = (client k').clientId -> k = k'

/-- One HTTP exchange, by the party that makes the call.  Visitors are not clients
or workers: they log in, or ask for the loads. -/
inductive Exchange (caller worker : Type) where
  | client (k : caller) (call : Client.HttpCall)
  | worker (w : worker) (operation : Client.ServiceConnection.Operation)
      (call : Client.HttpCall)
  | visitor (request : HttpRequest)

/-- A client: its connection, and the exchange it waits for. -/
structure Caller where
  connection : Client.ClientConnection
  waiting : Option (TaskId × Client.Frame)

/-- A worker: its connection, the exchange it waits for, the requests it has pulled
and those it has begun to answer. -/
structure Desk where
  connection : Client.ServiceConnection
  waiting : Option (TaskId × Client.ServiceConnection.Frame)
  pulled : List Client.ClientRequest
  answered : List Client.ClientRequest

/-- The state of the whole system; an exchange is numbered by its position. -/
structure State (caller worker : Type) where
  server : App
  callers : caller -> Caller
  desks : worker -> Desk
  exchanges : List (Exchange caller worker)

inductive Move (caller worker : Type) where
  /-- A client asks something of its connection. -/
  | ask (k : caller) (operation : Client.Operation) (clock : Clock)
  /-- The reply to the call of a client arrives. -/
  | reply (k : caller) (clock : Clock)
  /-- The call of a client times out, or fails. -/
  | fail (k : caller) (timedOut : Bool) (clock : Clock)
  /-- A worker asks something of its connection. -/
  | work (w : worker) (operation : Client.ServiceConnection.Operation)
  | replyToWork (w : worker)
  | failWork (w : worker) (timedOut : Bool)
  | visit (request : HttpRequest)
  /-- The server runs one stretch of a handler. -/
  | serve (task : TaskId) (action : Action) (clock : Clock)
  | tick (now : Time)

def AsksPlain : Client.Operation -> Prop
  | .sendRequest serviceName _ _ _ => PlainSegment serviceName
  | .call serviceName _ _ _ => PlainSegment serviceName
  | _ => True

instance (operation : Client.Operation) : Decidable (AsksPlain operation) :=
  match operation with
  | .sendRequest serviceName _ _ _ => inferInstanceAs (Decidable (PlainSegment serviceName))
  | .call serviceName _ _ _ => inferInstanceAs (Decidable (PlainSegment serviceName))
  | .getResponse .. | .collect .. | .close => isTrue trivial

def MayWork (desk : Desk) : Client.ServiceConnection.Operation -> Prop
  | .sendResponse forRequest _ _ _ =>
      forRequest ∈ desk.pulled ∧ forRequest ∉ desk.answered
  | _ => True

instance (desk : Desk) (operation : Client.ServiceConnection.Operation) :
    Decidable (MayWork desk operation) :=
  match operation with
  | .sendResponse .. => instDecidableAnd
  | .getRequest _ | .close => isTrue trivial

def Administers : Endpoint -> Prop
  | .serviceAuth _ => True
  | .clientAuth _ => True
  | .servicesLoad => True
  | _ => False

instance (endpoint : Endpoint) : Decidable (Administers endpoint) :=
  match endpoint with
  | .serviceAuth _ | .clientAuth _ | .servicesLoad => isTrue trivial
  | .postRequest _ | .getRequest .. | .postResponse _ | .getResponse .. | .clientLogoff =>
      isFalse id

def failure (timedOut : Bool) : Client.Outcome :=
  if timedOut then .socketTimeout else .requestException

def replyTo? (server : App) (task : TaskId) : Option HttpReply :=
  match server.tasks.get? task with
  | none => none
  | some t =>
      match t.phase with
      | .done reply => some reply
      | _ => none

section

variable {caller worker : Type} [DecidableEq caller] [DecidableEq worker]

def State.setCaller (k : caller) (c : Caller) (s : State caller worker) :
    State caller worker :=
  { s with callers := Function.update s.callers k c }

def State.setDesk (w : worker) (desk : Desk) (s : State caller worker) :
    State caller worker :=
  { s with desks := Function.update s.desks w desk }

end

namespace Deployment

variable {caller worker : Type} [DecidableEq caller] [DecidableEq worker]

/-- The request that reaches the server in an exchange. -/
def requestFor (d : Deployment caller worker) :
    Exchange caller worker -> Option HttpRequest
  | .client k call => requestOf d.header (d.client k).accessToken call
  | .worker w _ call => requestOf d.header (d.service w).accessToken call
  | .visitor request => some request

def accept (d : Deployment caller worker) (task : TaskId)
    (exchange : Exchange caller worker) (server : App) : App :=
  match d.requestFor exchange with
  | some request => App.step d.cfg d.jwt server (.connect task request)
  | none => server

def issue (d : Deployment caller worker) (exchange : Exchange caller worker)
    (s : State caller worker) : State caller worker :=
  { s with
    server := d.accept s.exchanges.length exchange s.server
    exchanges := s.exchanges ++ [exchange] }

def handle (d : Deployment caller worker) (e : Server.Event)
    (s : State caller worker) : State caller worker :=
  { s with server := App.step d.cfg d.jwt s.server e }

/-- A client's turn is over: it waits for a new call, or returns to its caller. -/
def settle (d : Deployment caller worker) (k : caller)
    (result : Client.ClientConnection × Client.Progress) (s : State caller worker) :
    State caller worker :=
  let connection := result.1.noteReturned result.2.pending
  match result.2 with
  | .blocked call frame =>
      d.issue (.client k call)
        (s.setCaller k ⟨connection, some (s.exchanges.length, frame)⟩)
  | _ => s.setCaller k ⟨connection, none⟩

def begin (d : Deployment caller worker) (w : worker)
    (operation : Client.ServiceConnection.Operation) (s : State caller worker) :
    State caller worker :=
  let desk := s.desks w
  let result := desk.connection.start d.settings operation
  let answered :=
    match operation with
    | .sendResponse forRequest _ _ _ => desk.answered ++ [forRequest]
    | _ => desk.answered
  match result.2 with
  | .blocked call frame =>
      d.issue (.worker w operation call)
        (s.setDesk w
          ⟨result.1, some (s.exchanges.length, frame), desk.pulled, answered⟩)
  | _ => s.setDesk w ⟨result.1, none, desk.pulled, answered⟩

def finish (w : worker)
    (result : Client.ServiceConnection × Client.ServiceConnection.Progress)
    (s : State caller worker) : State caller worker :=
  let desk := s.desks w
  let pulled :=
    match result.2 with
    | .returned (.request request) => desk.pulled ++ [request]
    | _ => desk.pulled
  s.setDesk w ⟨result.1, none, pulled, desk.answered⟩

/-- One move of the system; a move that cannot happen changes nothing. -/
def step (d : Deployment caller worker) (s : State caller worker) :
    Move caller worker -> State caller worker
  | .ask k operation clock =>
      match (s.callers k).waiting with
      | some _ => s
      | none =>
          if AsksPlain operation then
            d.settle k ((s.callers k).connection.start d.settings operation clock) s
          else s
  | .reply k clock =>
      match (s.callers k).waiting with
      | none => s
      | some (task, frame) =>
          match replyTo? s.server task with
          | none => s
          | some reply =>
              d.settle k
                ((s.callers k).connection.resume d.settings frame (.reply reply) task
                  clock)
                (d.handle (.run task .close (Clock.constant s.server.now)) s)
  | .fail k timedOut clock =>
      match (s.callers k).waiting with
      | none => s
      | some (task, frame) =>
          d.settle k
            ((s.callers k).connection.resume d.settings frame (failure timedOut) task
              clock) s
  | .work w operation =>
      match (s.desks w).waiting with
      | some _ => s
      | none => if MayWork (s.desks w) operation then d.begin w operation s else s
  | .replyToWork w =>
      match (s.desks w).waiting with
      | none => s
      | some (task, frame) =>
          match replyTo? s.server task with
          | none => s
          | some reply =>
              finish w ((s.desks w).connection.resume frame (.reply reply) task)
                (d.handle (.run task .close (Clock.constant s.server.now)) s)
  | .failWork w timedOut =>
      match (s.desks w).waiting with
      | none => s
      | some (task, frame) =>
          finish w ((s.desks w).connection.resume frame (failure timedOut) task) s
  | .visit request =>
      if Administers request.endpoint then d.issue (.visitor request) s else s
  | .serve task action clock => d.handle (.run task action clock) s
  | .tick now => d.handle (.tick now) s

section

variable (d : Deployment caller worker) (s : State caller worker)

/-- How the call of a party ends: the reply leaves the server, or the call fails. -/
inductive Ends (task : TaskId) : Client.Outcome -> State caller worker -> Prop where
  | replied {reply : HttpReply} (hready : replyTo? s.server task = some reply) :
      Ends task (.reply reply)
        (d.handle (.run task .close (Clock.constant s.server.now)) s)
  | failed (timedOut : Bool) : Ends task (failure timedOut) s

/-- What one move can do. -/
inductive Moves : State caller worker -> Prop where
  | idles : Moves s
  | asks {k : caller} {operation : Client.Operation} {clock : Clock}
      (hasks : AsksPlain operation) :
      Moves (d.settle k ((s.callers k).connection.start d.settings operation clock) s)
  | resumes {k : caller} {task : TaskId} {frame : Client.Frame}
      {outcome : Client.Outcome} {clock : Clock} {t : State caller worker}
      (hwaits : (s.callers k).waiting = some (task, frame))
      (hends : Ends d s task outcome t) :
      Moves (d.settle k
        ((s.callers k).connection.resume d.settings frame outcome task clock) t)
  | works {w : worker} {operation : Client.ServiceConnection.Operation}
      (hmay : MayWork (s.desks w) operation) : Moves (d.begin w operation s)
  | finishes {w : worker} {task : TaskId} {frame : Client.ServiceConnection.Frame}
      {outcome : Client.Outcome} {t : State caller worker}
      (hwaits : (s.desks w).waiting = some (task, frame))
      (hends : Ends d s task outcome t) :
      Moves (finish w ((s.desks w).connection.resume frame outcome task) t)
  | visits {request : HttpRequest} (hvisit : Administers request.endpoint) :
      Moves (d.issue (.visitor request) s)
  | handles {e : Server.Event}
      (hconnect : forall task request, e ≠ .connect task request) :
      Moves (d.handle e s)

theorem step_cases (move : Move caller worker) : Moves d s (d.step s move) := by
  cases move with
  | ask k operation clock =>
      unfold step
      dsimp only
      split
      · exact Moves.idles
      · split
        · rename_i hasks
          exact Moves.asks hasks
        · exact Moves.idles
  | reply k clock =>
      unfold step
      dsimp only
      split
      · exact Moves.idles
      · rename_i task frame hwaits
        split
        · exact Moves.idles
        · rename_i reply hready
          exact Moves.resumes hwaits (Ends.replied hready)
  | fail k timedOut clock =>
      unfold step
      dsimp only
      split
      · exact Moves.idles
      · rename_i task frame hwaits
        exact Moves.resumes hwaits (Ends.failed timedOut)
  | work w operation =>
      unfold step
      dsimp only
      split
      · exact Moves.idles
      · split
        · rename_i hmay
          exact Moves.works hmay
        · exact Moves.idles
  | replyToWork w =>
      unfold step
      dsimp only
      split
      · exact Moves.idles
      · rename_i task frame hwaits
        split
        · exact Moves.idles
        · rename_i reply hready
          exact Moves.finishes hwaits (Ends.replied hready)
  | failWork w timedOut =>
      unfold step
      dsimp only
      split
      · exact Moves.idles
      · rename_i task frame hwaits
        exact Moves.finishes hwaits (Ends.failed timedOut)
  | visit request =>
      unfold step
      dsimp only
      split
      · rename_i hvisit
        exact Moves.visits hvisit
      · exact Moves.idles
  | serve task action clock => exact Moves.handles fun _ _ he => nomatch he
  | tick now => exact Moves.handles fun _ _ he => nomatch he

end

def initial (d : Deployment caller worker) : State caller worker where
  server := App.initial
  callers := fun k =>
    ⟨Client.ClientConnection.open (d.client k).clientId (d.client k).accessToken,
      none⟩
  desks := fun w =>
    ⟨Client.ServiceConnection.open (d.service w).name (d.service w).accessToken,
      none, [], []⟩
  exchanges := []

abbrev reached (d : Deployment caller worker) (moves : List (Move caller worker)) :
    State caller worker :=
  run d.step d.initial moves

end Deployment

end System
end Pype
