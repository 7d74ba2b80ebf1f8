import Pype.Foundation.Runs
import Pype.Server.Routers
import Pype.Server.Reaper

/-!
# The application

The server is its store, its reaper and one coroutine for every exchange that
has reached it.  The event loop runs one stretch at a time; which one is up to
the scheduler, the network and the clock, so a run is an arbitrary list of
events.
-/

namespace Pype
namespace Server

open Foundation

structure Task where
  request : HttpRequest
  phase : Phase

/-- `app.state`, with the coroutines and the latest clock reading. -/
structure App where
  store : Store
  tasks : Dict TaskId Task
  reaper : ClientQueueReaper
  now : Time

/-- What the event loop does next. -/
inductive Event where
  /-- A request reaches the server, under a fresh exchange number. -/
  | connect (task : TaskId) (request : HttpRequest)
  /-- A handler runs one stretch. -/
  | run (task : TaskId) (action : Action) (clock : Clock)
  /-- The reaper ticks. -/
  | tick (now : Time)

namespace App

def initial : App where
  store := Store.initial
  tasks := Dict.empty
  reaper := ClientQueueReaper.initial
  now := 0

def connect (task : TaskId) (request : HttpRequest) (s : App) : App :=
  match s.tasks.get? task with
  | some _ => s
  | none => { s with tasks := s.tasks.set task ⟨request, .received⟩ }

/-- Run one stretch of a handler at clock readings that do not precede earlier
ones. -/
def runTask (cfg : Settings) (jwt : Jwt) (task : TaskId) (action : Action)
    (clock : Clock) (s : App) : App :=
  match s.tasks.get? task with
  | none => s
  | some t =>
      if s.now ≤ clock.reading 0 then
        match advance cfg jwt task t.request t.phase action clock s.store with
        | none => s
        | some (store, phase) =>
            { s with
              store := store
              tasks := s.tasks.set task { t with phase := phase }
              now := clock.reading 3 }
      else s

def tick (cfg : Settings) (now : Time) (s : App) : App :=
  if s.now ≤ now then
    let (reaper, store, _) := s.reaper.tick cfg now s.store
    { s with reaper := reaper, store := store, now := now }
  else s

/-- One event of the loop; an event that cannot happen changes nothing. -/
def step (cfg : Settings) (jwt : Jwt) (s : App) : Event -> App
  | .connect task request => s.connect task request
  | .run task action clock => s.runTask cfg jwt task action clock
  | .tick now => s.tick cfg now

abbrev runFrom (cfg : Settings) (jwt : Jwt) (s : App) (es : List Event) : App :=
  Foundation.run (step cfg jwt) s es

/-- The state that a fresh server reaches. -/
abbrev reached (cfg : Settings) (jwt : Jwt) (es : List Event) : App :=
  runFrom cfg jwt initial es

end App

end Server
end Pype
