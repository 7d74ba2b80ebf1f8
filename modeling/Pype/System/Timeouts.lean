import Pype.Server.Waiting
import Pype.Client.Budgets
import Pype.System.Network

/-!
# Timeouts from the caller to the queue

What the caller allows bounds what the library asks of the server, and that bounds
what the handler waits for.
-/

namespace Pype
namespace System

open Foundation Server

/-- The handler that receives the call gets the parameter, and waits for no longer in
its queue operations, if each of its waits ends within its budget. -/
def HandlerKeeps (call : Client.HttpCall) (ms : Int) : Prop :=
  forall header accessToken request,
    requestOf header accessToken call = some request ->
      request.endpoint.timeout? = some ms ∧
        forall cfg jwt task es,
          Along (Watched.step cfg jwt task) (Watched.EndsInBudget task)
            Watched.initial es ->
          forall t, (App.reached cfg jwt es).tasks.get? task = some t ->
            t.request = request ->
              (Watched.reached cfg jwt task es).watch.waited ≤ seconds ms

theorem timeout?_of_endpointOf {header : HeaderTransport} {call : Client.HttpCall}
    {endpoint : Endpoint} {ms : Int} (hcarries : call.Carries ms)
    (h : endpointOf header call = some endpoint) : endpoint.timeout? = some ms := by
  rcases hcarries with ⟨hmethod, htimeout⟩
  unfold endpointOf at h
  split at h
  · rcases Option.map_eq_some_iff.mp h with ⟨contentType, _, rfl⟩
    exact htimeout
  · cases h
    exact htimeout
  · rcases Option.map_eq_some_iff.mp h with ⟨contentType, _, rfl⟩
    exact htimeout
  · cases h
    exact htimeout
  · rename_i hdelete _ _ _
    exact absurd hdelete hmethod
  · cases h

theorem handlerKeeps {call : Client.HttpCall} {ms : Int} (hcarries : call.Carries ms)
    (hms : 0 ≤ ms) : HandlerKeeps call ms := by
  intro header accessToken request hrequest
  rcases Option.map_eq_some_iff.mp hrequest with ⟨endpoint, hendpoint, rfl⟩
  have htimeout := timeout?_of_endpointOf hcarries hendpoint
  constructor
  · exact htimeout
  · intro cfg jwt task es hends t ht heq
    have htimeout' : t.request.endpoint.timeout? = some ms := by
      rw [heq]
      exact htimeout
    exact (Watched.waits_within cfg jwt task es hms hends ht htimeout').left

/-- Timeout budgets nest, exactly if the POST of a `call` is made before its timeout
has been over for a millisecond: the parameters are within the caller's timeout and
never increase, the socket timeouts add the buffer to them, and the handlers keep to
them. -/
theorem budgets_nest_iff (settings : Client.Settings) (operation : Client.Operation)
    (ms : Int) (clock : Clock) (answers : List Client.Answer)
    (conn : Client.ClientConnection) (hbudget : operation.budget? = some ms)
    (hclock : Client.Chronological (clock.reading 1) answers) :
    (Client.Nested settings ms (conn.invoke settings operation clock answers).calls ∧
      forall call, call ∈ (conn.invoke settings operation clock answers).calls ->
        forall p, call.timeout = some p -> HandlerKeeps call p) <->
      conn.PostsInTime operation clock := by
  have hnested := Client.ClientConnection.nested_iff settings operation ms clock answers
    conn hbudget hclock
  constructor
  · exact fun h => hnested.mp h.left
  · intro hintime
    have h := hnested.mpr hintime
    constructor
    · exact h
    · intro call hcall p hp
      rcases h.nonneg call hcall with ⟨p', hcarries, hnonneg⟩
      have hsame : p' = p := Option.some.inj (hcarries.right.symm.trans hp)
      subst hsame
      exact handlerKeeps hcarries hnonneg

def tickingClock (start : Nat) : Clock where
  reading := fun i => start + i / 1000
  mono := by
    intro i j hij
    have hcast : (i : Rat) ≤ j := Nat.cast_le.mpr hij
    dsimp only
    linarith

/-- Stale responses to the POST of a `call` and to its first poll, and then the response,
a second apart. -/
def slowAnswers : List Client.Answer :=
  [{ Client.Answer.bringing [57] 0 with clock := tickingClock 1 },
    { Client.Answer.bringing [56] 1 with clock := tickingClock 2 },
    { Client.Answer.bringing [49] 2 with clock := tickingClock 3 }]

theorem budgets_nest_slowAnswers :
    ((Client.ClientConnection.open "c" "t").invoke Client.Settings.default
        (.call "s" (.raw []) "text/plain" (some 5000)) (tickingClock 0)
        slowAnswers).calls.map Client.HttpCall.timeout =
      [some 4999, some 3999, some 3001] ∧
    Client.Nested Client.Settings.default 5000
        ((Client.ClientConnection.open "c" "t").invoke Client.Settings.default
          (.call "s" (.raw []) "text/plain" (some 5000)) (tickingClock 0)
          slowAnswers).calls ∧
      forall call, call ∈ ((Client.ClientConnection.open "c" "t").invoke
          Client.Settings.default (.call "s" (.raw []) "text/plain" (some 5000))
          (tickingClock 0) slowAnswers).calls ->
        forall p, call.timeout = some p -> HandlerKeeps call p := by
  constructor
  · decide +kernel
  · apply (budgets_nest_iff Client.Settings.default
      (.call "s" (.raw []) "text/plain" (some 5000)) 5000 (tickingClock 0) slowAnswers
      (Client.ClientConnection.open "c" "t") rfl ?_).mpr
    · intro _
      norm_num [tickingClock]
    · exact ⟨by decide +kernel, by decide +kernel, by decide +kernel, trivial⟩

def lateClock : Clock where
  reading := fun i => if i = 0 then 0 else 1 / 500
  mono := by
    intro i j hij
    dsimp only
    split
    · split
      · exact le_refl _
      · norm_num
    · rw [if_neg (by omega)]

/-- A `call` with a zero timeout that the clock overtakes posts with the parameter
zero and a socket timeout below the buffer. -/
theorem late_post_cuts_buffer :
    Client.Operation.budget? (.call "s" (.raw []) "text/plain" (some 0)) = some 0 ∧
      Client.Chronological (lateClock.reading 1) [] ∧
      ((Client.ClientConnection.open "c" "t").invoke Client.Settings.default
        (.call "s" (.raw []) "text/plain" (some 0)) lateClock []).calls.map
          (fun call => (call.timeout, call.timeoutSeconds)) =
        [(some 0, some (998 / 1000))] ∧
      ¬ Client.Nested Client.Settings.default 0
        ((Client.ClientConnection.open "c" "t").invoke Client.Settings.default
          (.call "s" (.raw []) "text/plain" (some 0)) lateClock []).calls := by
  refine ⟨rfl, trivial, by decide +kernel, ?_⟩
  intro hnested
  have hintime := (Client.ClientConnection.nested_iff Client.Settings.default
    (.call "s" (.raw []) "text/plain" (some 0)) 0 lateClock [] _ rfl trivial).mp
    hnested
  have hlate := hintime rfl
  norm_num [lateClock] at hlate

end System
end Pype
