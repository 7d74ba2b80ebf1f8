import Pype.Server.Agreement
import Pype.Server.Transcripts

/-!
# `block=1` as a POST and a GET

A POST with `block=1` does what a plain POST and then a GET by the same client
do.  The GET is sent as soon as the plain POST is answered with 202, with what is
left of the deadline as its timeout; it takes over the clock where the POST left
it.  Everything else happens alike on the two servers.
-/

namespace Pype
namespace Server

open Foundation Store

/-!
## The two ways to call
-/

/-- A call by a client: the exchanges and the parameters of its POST with
`block=1`, and the exchange of the GET that can stand in for the second phase. -/
structure Call (jwt : Jwt) where
  post : TaskId
  get : TaskId
  distinct : post ≠ get
  authorization : Option String
  params : PostRequest
  blocks : params.block = true
  claims : ClientClaims
  authorized : clientClaims jwt authorization = .ok claims

def PostRequest.plain (params : PostRequest) : PostRequest :=
  { params with block := false }

namespace Call

variable {jwt : Jwt}

def blocking (call : Call jwt) : HttpRequest :=
  ⟨call.authorization, .postRequest call.params⟩

def plain (call : Call jwt) : HttpRequest :=
  ⟨call.authorization, .postRequest call.params.plain⟩

def poll (call : Call jwt) (timeoutMs : Int) : HttpRequest :=
  ⟨call.authorization, .getResponse call.claims.clientId (some timeoutMs)⟩

end Call

def Clock.upTo (clock : Clock) (i : Nat) : Clock where
  reading := fun j => clock.reading (min j i)
  mono := by
    intro j k hjk
    exact clock.mono (min_le_min_right i hjk)

/-- The clock from a reading on: a handler that takes over looks up, bumps and
waits at that reading. -/
def Clock.since (clock : Clock) (i : Nat) : Clock where
  reading := fun j => clock.reading (if j ≤ 1 then i else max i 3)
  mono := by
    intro j k hjk
    apply clock.mono
    split <;> split <;> omega

/-- The deadline of the first phase, if the stretch that comes next may end it, and
which of its clock readings the bump takes. -/
def Phase.deadline? (clock : Clock) : Phase -> Option (Time × Nat)
  | .postRequestBody _ _ _ totalTimeoutMs =>
      some (clock.reading 0 + seconds totalTimeoutMs, 2)
  | .postRequestPutDone _ _ _ deadline _ => some (deadline, 0)
  | _ => none

def Phase.answered (status : Nat) : Phase -> Bool
  | .done reply => reply.status == status
  | _ => false

def Phase.inFlight : Phase -> Bool
  | .done _ => false
  | .closed _ => false
  | _ => true

namespace Call

variable {jwt : Jwt}

/-- What happens with the POST and the GET when this happens with the blocking
POST: once the POST is answered everything happens to the GET, and the GET is sent
together with the stretch that answers the POST with 202. -/
def sequel (cfg : Settings) (call : Call jwt) (t : App) : Event -> List Event
  | .run task action clock =>
      if task = call.post then
        match (t.tasks.get? call.post).map Task.phase with
        | none => [.run task action clock]
        | some (.done _) => [.run call.get action clock]
        | some phase =>
            match phase.deadline? clock with
            | none => [.run task action clock]
            | some (deadline, i) =>
                if ((App.step cfg jwt t (.run task action clock)).tasks.get?
                    call.post).any (fun u => u.phase.answered 202) then
                  [.run task action (clock.upTo i),
                    .connect call.get
                      (call.poll (remainingMs deadline (clock.reading (i + 1)))),
                    .run call.get (.start "") (clock.since (i + 1))]
                else [.run task action clock]
      else [.run task action clock]
  | e => [e]

end Call

def Event.Names (task : TaskId) : Event -> Prop
  | .connect task' _ => task' = task
  | .run task' _ _ => task' = task
  | .tick _ => False

/-!
## Equal queues
-/

structure SameQueues (s t : Store) : Prop where
  serviceRegistry : t.serviceRegistry = s.serviceRegistry
  serviceQueues : t.serviceQueues = s.serviceQueues
  clientRegistry : t.clientRegistry = s.clientRegistry
  clientQueues : forall entry : Ref,
    t.clientEntries[entry]?.map ClientEntry.queue =
      s.clientEntries[entry]?.map ClientEntry.queue

theorem Agree.sameQueues {clientId : String} {s t : Store}
    (h : Agree clientId s t) : SameQueues s t where
  serviceRegistry := h.serviceRegistry
  serviceQueues := h.serviceQueues
  clientRegistry := h.clientRegistry
  clientQueues := by
    intro entry
    cases he : s.clientEntries[entry]? with
    | none => rw [h.no_entry he]
    | some e =>
        rcases h.entry he with ⟨e', he', hsame⟩
        rw [he', Option.map_some, Option.map_some, hsame.queue]

theorem SameQueues.bump_right {s t : Store} (h : SameQueues s t)
    (clientId : String) (now : Time) :
    SameQueues s (ClientRegistry.bumpLastSeen clientId now t) := by
  unfold ClientRegistry.bumpLastSeen
  split
  · refine ⟨h.serviceRegistry, h.serviceQueues, h.clientRegistry, ?_⟩
    intro entry
    rw [← h.clientQueues entry]
    dsimp only
    rw [List.getElem?_modify]
    cases t.clientEntries[entry]? with
    | none => rfl
    | some e =>
        simp only [Option.map_eq_map, Option.map_some]
        split <;> rfl
  · exact h

theorem SameQueues.record {s t : Store} (h : SameQueues s t) (r r' : Record) :
    SameQueues (s.record r) (t.record r') :=
  ⟨h.serviceRegistry, h.serviceQueues, h.clientRegistry, h.clientQueues⟩

/-!
## Stages of a call
-/

/-- The reply of a `block=1` POST after its second phase, and the reply of a GET. -/
def respondedReply : Option PypeResponse -> HttpReply
  | none => emptyReply 202
  | some response => responseReply response

def polledReply : Option PypeResponse -> HttpReply
  | none => emptyReply 204
  | some response => responseReply response

/-- Where the blocking POST stands, where the plain POST stands, and where the GET
stands if it has been sent. -/
inductive Stage {jwt : Jwt} (call : Call jwt) :
    Phase -> Phase -> Option Phase -> Prop where
  | received : Stage call .received .received none
  | body (entry : Ref) (totalTimeoutMs : Int) :
      Stage call
        (.postRequestBody call.params call.claims entry totalTimeoutMs)
        (.postRequestBody call.params.plain call.claims entry totalTimeoutMs) none
  | put (entry : Ref) (deadline : Time) (queue : Ref) (pypeReq : PypeRequest)
      (expires : Time) :
      Stage call
        (.postRequestPut call.params call.claims entry deadline queue pypeReq expires)
        (.postRequestPut call.params.plain call.claims entry deadline queue pypeReq
          expires) none
  | putDone (entry : Ref) (deadline : Time) (enqueued : Bool) :
      Stage call
        (.postRequestPutDone call.params call.claims entry deadline enqueued)
        (.postRequestPutDone call.params.plain call.claims entry deadline enqueued)
        none
  | refused (reply : HttpReply)
      (hstatus : reply.status ≠ 200 ∧ reply.status ≠ 202) :
      Stage call (.done reply) (.done reply) none
  | closed : Stage call (.closed none) (.closed none) none
  | waiting (entry : Ref) (expires : Time) :
      Stage call (.postRequestGet call.params call.claims entry expires)
        (.done (emptyReply 202))
        (some (.getResponseGet call.claims.clientId entry expires))
  | taken (response : Option PypeResponse) :
      Stage call (.postRequestGetDone response) (.done (emptyReply 202))
        (some (.getResponseGetDone call.claims.clientId response))
  | answered (response : Option PypeResponse) :
      Stage call (.done (respondedReply response)) (.done (emptyReply 202))
        (some (.done (polledReply response)))

theorem Stage.unanswered {jwt : Jwt} {call : Call jwt} {p q : Phase}
    (h : Stage call p q none) : q.answered 202 = false := by
  cases h with
  | refused reply hstatus => simp [Phase.answered, hstatus.right]
  | received | body | put | putDone | closed => rfl

theorem Stage.answered_of_get {jwt : Jwt} {call : Call jwt} {p q o : Phase}
    (h : Stage call p q (some o)) : q = .done (emptyReply 202) := by
  cases h <;> rfl

/-- What the handler of the blocking POST relies on: its entry is registered, and
its deadline is not too far off. -/
def Ready {jwt : Jwt} (cfg : Settings) (call : Call jwt) (now : Time) (s : Store) :
    Phase -> Prop
  | .postRequestBody _ _ entry totalTimeoutMs =>
      totalTimeoutMs ≤ cfg.maxTimeoutMs ∧
        s.clientRegistry.get? call.claims.clientId = some entry
  | .postRequestPut _ _ entry deadline _ _ _ =>
      deadline ≤ now + seconds cfg.maxTimeoutMs ∧
        s.clientRegistry.get? call.claims.clientId = some entry
  | .postRequestPutDone _ _ entry deadline _ =>
      deadline ≤ now + seconds cfg.maxTimeoutMs ∧
        s.clientRegistry.get? call.claims.clientId = some entry
  | _ => True

/-- The results of a stretch of the blocking POST and of its counterpart. -/
structure Matches {jwt : Jwt} (cfg : Settings) (call : Call jwt) (now : Time)
    (get : Option Phase) (r r' : Store × Phase) : Prop where
  queues : SameQueues r.1 r'.1
  stage : Stage call r.2 r'.2 get
  flying : r.2.inFlight = true ->
    Agree call.claims.clientId r.1 r'.1 ∧ Ready cfg call now r.1 r.2

section

variable {cfg : Settings} {jwt : Jwt} {call : Call jwt} {now : Time} {s t : Store}
  {entry : Ref}

theorem Ready.of_registered {s' : Store} {now' : Time} {phase : Phase}
    (hregistered : forall entry,
      s.clientRegistry.get? call.claims.clientId = some entry ->
        s'.clientRegistry.get? call.claims.clientId = some entry)
    (hnow : now ≤ now') (h : Ready cfg call now s phase) :
    Ready cfg call now' s' phase := by
  cases phase with
  | postRequestBody params claims entry totalTimeoutMs =>
      exact ⟨h.left, hregistered entry h.right⟩
  | postRequestPut params claims entry deadline queue pypeReq expires =>
      exact ⟨by linarith [h.left], hregistered entry h.right⟩
  | postRequestPutDone params claims entry deadline enqueued =>
      exact ⟨by linarith [h.left], hregistered entry h.right⟩
  | received | postRequestGet | postRequestGetDone | getRequestGet
  | getRequestGetDone | postResponseBody | postResponsePut | postResponsePutDone
  | getResponseGet | getResponseGetDone | done | closed => trivial

theorem Matches.of_agree {get : Option Phase} {p q : Phase}
    (h : Agree call.claims.clientId s t) (hstage : Stage call p q get)
    (hready : Ready cfg call now s p) : Matches cfg call now get (s, p) (t, q) :=
  ⟨h.sameQueues, hstage, fun _ => ⟨h, hready⟩⟩

/-!
## The second phase and the GET
-/

def Holds (clientId : String) (s : Store) (entry : Ref) : Prop :=
  s.clientRegistry.get? clientId = some entry ∧ s.ownerOf entry = some clientId

theorem Holds.seen_bump {clientId : String} (h : Holds clientId s entry)
    (now : Time) :
    exists e, (ClientRegistry.bumpLastSeen clientId now s).clientEntries[entry]? =
      some e ∧ e.clientId = clientId ∧ e.lastSeen = now := by
  rcases h with ⟨hregistered, howner⟩
  rcases ownerOf_eq_some.mp howner with ⟨e, he, hid⟩
  unfold ClientRegistry.bumpLastSeen
  rw [hregistered]
  exact ⟨{ e with lastSeen := now }, by simp [he], hid, rfl⟩

theorem clientRegistry_bumpLastSeen (clientId : String) (now : Time) (s : Store) :
    (ClientRegistry.bumpLastSeen clientId now s).clientRegistry =
      s.clientRegistry := by
  unfold ClientRegistry.bumpLastSeen
  split <;> rfl

theorem matches_responded (h : Agree call.claims.clientId s t)
    (response : Option PypeResponse) (bumpedAt : Time) :
    Matches cfg call now
      (some (getResponseDequeued call.get call.claims.clientId bumpedAt response t).2)
      (postRequestResponded call.post response s)
      ((getResponseDequeued call.get call.claims.clientId bumpedAt response t).1,
        .done (emptyReply 202)) := by
  have hqueues := h.sameQueues.bump_right call.claims.clientId bumpedAt
  cases response with
  | none =>
      refine ⟨hqueues.record _ _, Stage.answered none, ?_⟩
      intro hflying
      cases hflying
  | some response =>
      refine ⟨hqueues.record _ _, Stage.answered (some response), ?_⟩
      intro hflying
      cases hflying

theorem matches_poll (h : Agree call.claims.clientId s t) {clock : Clock}
    {budget : Int} (hpos : 0 ≤ budget) (hmax : budget ≤ cfg.maxTimeoutMs)
    (hregistered : s.clientRegistry.get? call.claims.clientId = some entry)
    (hseen : exists e, s.clientEntries[entry]? = some e ∧
      e.clientId = call.claims.clientId ∧ e.lastSeen ≤ clock.reading 1) :
    Matches cfg call now
      (some (dispatch cfg jwt call.get (call.poll budget) "" clock t).2)
      (queueGet budget (Store.takeResponse call.post call.claims.clientId entry)
        (postRequestResponded call.post)
        (.postRequestGet call.params call.claims entry
          (clock.reading 1 + seconds budget)) s)
      ((dispatch cfg jwt call.get (call.poll budget) "" clock t).1,
        .done (emptyReply 202)) := by
  have hbumped : Agree call.claims.clientId s
      (ClientRegistry.bumpLastSeen call.claims.clientId (clock.reading 1) t) := by
    apply h.bump_right
    intro entry' hentry'
    rw [hregistered] at hentry'
    cases hentry'
    exact hseen
  have hopened : ClientRegistry.getOrCreate cfg call.claims.clientId
      (clock.reading 0) t = (entry, t) := by
    rw [ClientRegistry.getOrCreate, h.clientRegistry, hregistered]
  have hdispatch : dispatch cfg jwt call.get (call.poll budget) "" clock t =
      queueGet budget (Store.takeResponse call.get call.claims.clientId entry)
        (getResponseDequeued call.get call.claims.clientId (clock.reading 2))
        (.getResponseGet call.claims.clientId entry
          (clock.reading 1 + seconds budget))
        (ClientRegistry.bumpLastSeen call.claims.clientId (clock.reading 1) t) := by
    simp only [dispatch, Call.poll, call.authorized, orRefuse, requireText,
      if_neg call.claims.nonempty, getResponseForClient, ne_eq, not_true,
      if_false, hopened, normalizeTimeout_of_mem hpos hmax]
  rw [hdispatch]
  refine queueGet_relates
    (fun r d => Matches cfg call now (some d.2) r (d.1, .done (emptyReply 202)))
    (hbumped.takeResponse call.post call.get call.claims.clientId entry) ?_ ?_ ?_
  · exact matches_responded hbumped none _
  · intro response s' t' _ h'
    exact matches_responded h' (some response) _
  · exact Matches.of_agree hbumped (Stage.waiting entry _) trivial

/-!
## The first phase
-/

/-- The result of a stretch of the blocking POST that may end its first phase, and
the result of the same stretch of the plain POST. -/
inductive Enqueues (cfg : Settings) (call : Call jwt) (now deadline remainingAt : Time) :
    Store × Phase -> Store × Phase -> Prop where
  | unfinished {r r' : Store × Phase} (h : Matches cfg call now none r r') :
      Enqueues cfg call now deadline remainingAt r r'
  | accepted {s t : Store} {entry : Ref} (h : Agree call.claims.clientId s t)
      (hregistered : s.clientRegistry.get? call.claims.clientId = some entry)
      (hseen : exists e, s.clientEntries[entry]? = some e ∧
        e.clientId = call.claims.clientId ∧ e.lastSeen ≤ remainingAt) :
      Enqueues cfg call now deadline remainingAt
        (queueGet (remainingMs deadline remainingAt)
          (Store.takeResponse call.post call.claims.clientId entry)
          (postRequestResponded call.post)
          (.postRequestGet call.params call.claims entry
            (remainingAt + seconds (remainingMs deadline remainingAt))) s)
        (t, .done (emptyReply 202))

theorem enqueues_postRequestEnqueued (h : Agree call.claims.clientId s t)
    (hentry : Holds call.claims.clientId s entry)
    {deadline bumpedAt remainingAt : Time} (remainingAt' : Time)
    (hclock : bumpedAt ≤ remainingAt) (enqueued : Bool) :
    Enqueues cfg call now deadline remainingAt
      (postRequestEnqueued call.post call.params call.claims entry deadline bumpedAt
        remainingAt enqueued s)
      (postRequestEnqueued call.post call.params.plain call.claims entry deadline
        bumpedAt remainingAt' enqueued t) := by
  have hbumped := h.bump call.claims.clientId bumpedAt
  unfold postRequestEnqueued
  cases enqueued with
  | false =>
      apply Enqueues.unfinished
      exact ⟨hbumped.sameQueues.record _ _,
        Stage.refused (emptyReply 503) (by decide), fun hflying => by cases hflying⟩
  | true =>
      simp only [Bool.not_true, Bool.false_eq_true, if_false, call.blocks]
      refine Enqueues.accepted ?_ ?_ ?_
      · exact ⟨hbumped.serviceQueues, hbumped.serviceRegistry, hbumped.clientRegistry,
          hbumped.length, hbumped.entries⟩
      · rw [clientRegistry_bumpLastSeen]
        exact hentry.left
      · rcases hentry.seen_bump bumpedAt with ⟨e, he, hid, hseen⟩
        exact ⟨e, he, hid, by rw [hseen]; exact hclock⟩

theorem enqueues_postRequestBody {clock clock' : Clock} {totalTimeoutMs : Int}
    (h : Agree call.claims.clientId s t)
    (hentry : Holds call.claims.clientId s entry)
    (hmax : totalTimeoutMs ≤ cfg.maxTimeoutMs)
    (hreadings : forall j, j ≤ 2 -> clock'.reading j = clock.reading j) :
    Enqueues cfg call (clock.reading 3)
      (clock.reading 0 + seconds totalTimeoutMs) (clock.reading 3)
      (postRequestBody cfg call.post call.params call.claims entry totalTimeoutMs
        clock s)
      (postRequestBody cfg call.post call.params.plain call.claims entry
        totalTimeoutMs clock' t) := by
  rcases h.openService cfg call.params.serviceName with ⟨hqueue, hopened⟩
  have hholds : Holds call.claims.clientId
      (ServiceRegistry.getOrCreate cfg call.params.serviceName s).2 entry := by
    have hext := ServiceRegistry.extends_getOrCreate cfg call.params.serviceName s
    refine ⟨?_, hext.owner _ _ hentry.right⟩
    rcases ServiceRegistry.getOrCreate_cases cfg call.params.serviceName s with
      ⟨queue, _, heq⟩ | ⟨_, heq⟩
    · rw [heq]
      exact hentry.left
    · rw [heq]
      exact hentry.left
  have hlast : clock.reading 2 ≤ clock.reading 3 := clock.mono (by decide)
  have hfirst : clock.reading 0 ≤ clock.reading 3 := clock.mono (by decide)
  unfold postRequestBody
  rw [hreadings 0 (by decide), hreadings 1 (by decide), hreadings 2 (by decide)]
  dsimp only [PostRequest.plain]
  rw [hqueue]
  refine queuePut_relates (Enqueues cfg call _ _ _) (hopened.putRequest call.post _ _ _)
    ?_ ?_ ?_
  · intro s' t' hput h'
    have hext := extends_putRequest hput
    rcases putRequest_eq_some hput with ⟨q, q', _, _, rfl⟩
    have hholds' : Holds call.claims.clientId _ entry :=
      ⟨hholds.left, hext.owner _ _ hholds.right⟩
    exact enqueues_postRequestEnqueued h' hholds' _ hlast true
  · exact enqueues_postRequestEnqueued hopened hholds _ hlast false
  · apply Enqueues.unfinished
    refine Matches.of_agree hopened (Stage.put entry _ _ _ _) ⟨?_, hholds.left⟩
    have hle := seconds_le hmax
    linarith

theorem matches_start (h : Agree call.claims.clientId s t) (secret : String)
    (clock : Clock) :
    Matches cfg call (clock.reading 3) none
      (dispatch cfg jwt call.post call.blocking secret clock s)
      (dispatch cfg jwt call.post call.plain secret clock t) := by
  have refused : forall {s' t' : Store} (reply : HttpReply),
      Agree call.claims.clientId s' t' ->
      (reply.status ≠ 200 ∧ reply.status ≠ 202) ->
      Matches cfg call (clock.reading 3) none (answer call.post reply s')
        (answer call.post reply t') := by
    intro s' t' reply h' hstatus
    exact ⟨h'.sameQueues.record _ _, Stage.refused reply hstatus,
      fun hflying => by cases hflying⟩
  simp only [dispatch, Call.blocking, Call.plain, call.authorized, orRefuse,
    requireText, PostRequest.plain]
  split
  · exact refused _ h (by decide)
  · split
    · exact refused _ h (by decide)
    · rcases h.openClient cfg call.claims.clientId (clock.reading 0) with
        ⟨hentry, hopened⟩
      have hbumped := hopened.bump call.claims.clientId (clock.reading 1)
      have hregistered := ClientRegistry.get?_getOrCreate cfg call.claims.clientId
        (clock.reading 0) s
      unfold postRequestToService
      dsimp only
      rw [hentry]
      split
      · rename_i e he
        have hstatus : e.reply.status ≠ 200 ∧ e.reply.status ≠ 202 := by
          rw [PypeError.reply_status]
          rcases e.statusCode_mem with h | h | h <;> rw [h] <;> decide
        exact refused _ hbumped hstatus
      · rename_i totalTimeoutMs hok
        refine Matches.of_agree hbumped (Stage.body _ totalTimeoutMs) ⟨?_, ?_⟩
        · exact (normalizeTimeout_ok cfg.maxTimeoutMs_nonneg hok).right
        · rw [clientRegistry_bumpLastSeen]
          exact hregistered

theorem holds_of_registered (hwell : s.WellFormed cfg) {clientId : String}
    (hregistered : s.clientRegistry.get? clientId = some entry) :
    Holds clientId s entry :=
  ⟨hregistered, hwell.client _ _ hregistered⟩

theorem stretch_unfinished {p q : Phase} {clock : Clock} {action : Action}
    (hstage : Stage call p q none) (hflying : p.inFlight = true)
    (hdeadline : q.deadline? clock = none) (h : Agree call.claims.clientId s t)
    (hready : Ready cfg call now s p) (hnow : now ≤ clock.reading 0) :
    Option.Rel (Matches cfg call (clock.reading 3) none)
      (advance cfg jwt call.post call.blocking p action clock s)
      (advance cfg jwt call.post call.plain q action clock t) := by
  have hlast : clock.reading 0 ≤ clock.reading 3 := clock.mono (by decide)
  cases hstage with
  | received =>
      cases action with
      | start secret => exact Option.Rel.some (matches_start h secret clock)
      | close =>
          exact Option.Rel.some
            ⟨h.sameQueues, Stage.closed, fun hflying => by cases hflying⟩
      | body | serve | expire | resume => exact Option.Rel.none
  | put entry deadline queue pypeReq expires =>
      rcases hready with ⟨hdue, hregistered⟩
      have hlater : deadline ≤ clock.reading 3 + seconds cfg.maxTimeoutMs := by
        linarith
      cases action with
      | serve =>
          rcases rel_cases (h.putRequest call.post call.params.serviceName queue
            pypeReq) with ⟨hs, ht⟩ | ⟨s', t', hs, ht, h'⟩
          · simp only [advance, PostRequest.plain, hs, ht]
            exact Option.Rel.none
          · have hregistered' : s'.clientRegistry.get? call.claims.clientId =
                some entry := by
              rcases putRequest_eq_some hs with ⟨_, _, _, _, rfl⟩
              exact hregistered
            simp only [advance, PostRequest.plain, hs, ht]
            exact Option.Rel.some (Matches.of_agree h'
              (Stage.putDone entry deadline true) ⟨hlater, hregistered'⟩)
      | expire =>
          simp only [advance]
          split
          · exact Option.Rel.some (Matches.of_agree h
              (Stage.putDone entry deadline false) ⟨hlater, hregistered⟩)
          · exact Option.Rel.none
      | start | body | resume | close => exact Option.Rel.none
  | body => cases hdeadline
  | putDone => cases hdeadline
  | refused | closed => cases hflying

theorem stretch_enqueues {p q : Phase} {clock clock' : Clock} {action : Action}
    {deadline : Time} {i : Nat} (hstage : Stage call p q none)
    (hdeadline : q.deadline? clock = some (deadline, i))
    (hreadings : forall j, j ≤ i -> clock'.reading j = clock.reading j)
    (h : Agree call.claims.clientId s t) (hready : Ready cfg call now s p)
    (hwell : s.WellFormed cfg) :
    Option.Rel
      (Enqueues cfg call (clock.reading 3) deadline (clock.reading (i + 1)))
      (advance cfg jwt call.post call.blocking p action clock s)
      (advance cfg jwt call.post call.plain q action clock' t) := by
  cases hstage with
  | body entry totalTimeoutMs =>
      cases hdeadline
      rcases hready with ⟨hmax, hregistered⟩
      cases action with
      | body =>
          exact Option.Rel.some (enqueues_postRequestBody h
            (holds_of_registered hwell hregistered) hmax hreadings)
      | close =>
          exact Option.Rel.some (Enqueues.unfinished
            ⟨h.sameQueues, Stage.closed, fun hflying => by cases hflying⟩)
      | start | serve | expire | resume => exact Option.Rel.none
  | putDone entry deadline enqueued =>
      cases hdeadline
      cases action with
      | resume =>
          have hclock : clock.reading 0 ≤ clock.reading 1 := clock.mono (by decide)
          simp only [advance]
          rw [hreadings 0 (le_refl 0)]
          exact Option.Rel.some (enqueues_postRequestEnqueued h
            (holds_of_registered hwell hready.right) _ hclock enqueued)
      | start | body | serve | expire | close => exact Option.Rel.none
  | received | put | refused | closed => cases hdeadline

theorem stretch_second {p q o : Phase} {clock : Clock} {action : Action}
    (request : HttpRequest) (hstage : Stage call p q (some o))
    (hflying : p.inFlight = true) (h : Agree call.claims.clientId s t) :
    Option.Rel
      (fun r r' => Matches cfg call (clock.reading 3) (some r'.2) r (r'.1, q))
      (advance cfg jwt call.post call.blocking p action clock s)
      (advance cfg jwt call.get request o action clock t) := by
  cases hstage with
  | waiting entry expires =>
      cases action with
      | serve =>
          rcases (h.takeResponse call.post call.get call.claims.clientId
            entry).cases with ⟨hs, ht⟩ | ⟨response, s', t', hs, ht, h'⟩
          · simp only [advance, hs, ht]
            exact Option.Rel.none
          · simp only [advance, hs, ht]
            exact Option.Rel.some
              (Matches.of_agree h' (Stage.taken (some response)) trivial)
      | expire =>
          simp only [advance]
          split
          · exact Option.Rel.some (Matches.of_agree h (Stage.taken none) trivial)
          · exact Option.Rel.none
      | start | body | resume | close => exact Option.Rel.none
  | taken response =>
      cases action with
      | resume => exact Option.Rel.some (matches_responded h response _)
      | start | body | serve | expire | close => exact Option.Rel.none
  | answered => cases hflying

end

/-!
## Steps
-/

namespace App

theorem step_run {cfg : Settings} {jwt : Jwt} {s : App} {task : TaskId} {t : Task}
    {action : Action} {clock : Clock} {r : Store × Phase}
    (ht : s.tasks.get? task = some t) (hnow : s.now ≤ clock.reading 0)
    (hadvance : advance cfg jwt task t.request t.phase action clock s.store =
      some r) :
    step cfg jwt s (.run task action clock) =
      { s with
        store := r.1
        tasks := s.tasks.set task { t with phase := r.2 }
        now := clock.reading 3 } := by
  simp [step, runTask, ht, hnow, hadvance]

theorem step_connect {cfg : Settings} {jwt : Jwt} {s : App} {task : TaskId}
    (hnone : s.tasks.get? task = none) (request : HttpRequest) :
    step cfg jwt s (.connect task request) =
      { s with tasks := s.tasks.set task ⟨request, .received⟩ } := by
  simp [step, connect, hnone]

theorem step_run_of_not {cfg : Settings} {jwt : Jwt} {s : App} {task : TaskId}
    {t : Task} {action : Action} {clock : Clock}
    (ht : s.tasks.get? task = some t)
    (hnot : s.now ≤ clock.reading 0 ->
      advance cfg jwt task t.request t.phase action clock s.store = none) :
    step cfg jwt s (.run task action clock) = s := by
  by_cases hnow : s.now ≤ clock.reading 0
  · simp [step, runTask, ht, hnow, hnot hnow]
  · simp [step, runTask, ht, hnow]

end App

section

variable {cfg : Settings} {jwt : Jwt} {call : Call jwt} {s t : App}

/-- The two systems: they differ in the exchanges of the call only. -/
structure Simulates (cfg : Settings) (call : Call jwt) (s t : App) : Prop where
  reaper : t.reaper = s.reaper
  now : t.now = s.now
  others : forall task, task ≠ call.post -> task ≠ call.get ->
    t.tasks.get? task = s.tasks.get? task
  absent : s.tasks.get? call.get = none
  progress : exists p q get, s.tasks.get? call.post = some ⟨call.blocking, p⟩ ∧
    t.tasks.get? call.post = some ⟨call.plain, q⟩ ∧
    (t.tasks.get? call.get).map Task.phase = get ∧
    Matches cfg call s.now get (s.store, p) (t.store, q)

/-- While the call is in flight nothing else uses the exchange of the GET, and the
client's entry is not removed. -/
def Call.Undisturbed (cfg : Settings) (call : Call jwt) (s : App) (e : Event) :
    Prop :=
  (forall u, s.tasks.get? call.post = some u -> u.phase.inFlight = true) ∧
    ¬ e.Names call.get ∧
    forall entry, s.store.clientRegistry.get? call.claims.clientId = some entry ->
      (App.step cfg jwt s e).store.clientRegistry.get? call.claims.clientId =
        some entry

theorem sequel_run {q : Phase} {action : Action} {clock : Clock}
    (hq : t.tasks.get? call.post = some ⟨call.plain, q⟩)
    (hflying : q.inFlight = true) :
    call.sequel cfg t (.run call.post action clock) =
      match q.deadline? clock with
      | none => [.run call.post action clock]
      | some (deadline, i) =>
          if ((App.step cfg jwt t (.run call.post action clock)).tasks.get?
              call.post).any (fun u => u.phase.answered 202) then
            [.run call.post action (clock.upTo i),
              .connect call.get
                (call.poll (remainingMs deadline (clock.reading (i + 1)))),
              .run call.get (.start "") (clock.since (i + 1))]
          else [.run call.post action clock] := by
  simp only [Call.sequel, if_true, hq, Option.map_some]
  cases q with
  | done reply => cases hflying
  | received | postRequestBody | postRequestPut | postRequestPutDone
  | postRequestGet | postRequestGetDone | getRequestGet | getRequestGetDone
  | postResponseBody | postResponsePut | postResponsePutDone | getResponseGet
  | getResponseGetDone | closed => rfl

theorem sequel_of_unanswered {q : Phase} {action : Action} {clock : Clock}
    (hq : t.tasks.get? call.post = some ⟨call.plain, q⟩)
    (hflying : q.inFlight = true)
    (hnot : ((App.step cfg jwt t (.run call.post action clock)).tasks.get?
      call.post).any (fun u => u.phase.answered 202) = false) :
    call.sequel cfg t (.run call.post action clock) =
      [.run call.post action clock] := by
  rw [sequel_run hq hflying]
  split
  · rfl
  · rw [if_neg (by rw [hnot]; exact Bool.false_ne_true)]

theorem sequel_of_accepted {q : Phase} {action : Action} {clock : Clock}
    {deadline : Time} {i : Nat}
    (hq : t.tasks.get? call.post = some ⟨call.plain, q⟩)
    (hflying : q.inFlight = true)
    (hdeadline : q.deadline? clock = some (deadline, i))
    (haccepted : ((App.step cfg jwt t (.run call.post action clock)).tasks.get?
      call.post).any (fun u => u.phase.answered 202) = true) :
    call.sequel cfg t (.run call.post action clock) =
      [.run call.post action (clock.upTo i),
        .connect call.get
          (call.poll (remainingMs deadline (clock.reading (i + 1)))),
        .run call.get (.start "") (clock.since (i + 1))] := by
  rw [sequel_run hq hflying, hdeadline]
  dsimp only
  rw [if_pos haccepted]

theorem sequel_of_answered {reply : HttpReply} {action : Action} {clock : Clock}
    (hq : t.tasks.get? call.post = some ⟨call.plain, .done reply⟩) :
    call.sequel cfg t (.run call.post action clock) =
      [.run call.get action clock] := by
  simp [Call.sequel, hq]

theorem Simulates.frame (h : Simulates cfg call s t)
    (hflying : forall u, s.tasks.get? call.post = some u -> u.phase.inFlight = true)
    {s' t' : App} (hagree : Agree call.claims.clientId s'.store t'.store)
    (hregistered : forall entry,
      s.store.clientRegistry.get? call.claims.clientId = some entry ->
        s'.store.clientRegistry.get? call.claims.clientId = some entry)
    (hreaper : t'.reaper = s'.reaper) (hnow : t'.now = s'.now)
    (hlater : s.now ≤ s'.now)
    (hown : forall task, task = call.post ∨ task = call.get ->
      s'.tasks.get? task = s.tasks.get? task ∧ t'.tasks.get? task = t.tasks.get? task)
    (hothers : forall task, task ≠ call.post -> task ≠ call.get ->
      t'.tasks.get? task = s'.tasks.get? task) :
    Simulates cfg call s' t' := by
  rcases h.progress with ⟨p, q, get, hp, hq, hget, hmatches⟩
  refine ⟨hreaper, hnow, hothers, ?_, p, q, get, ?_, ?_, ?_, ?_⟩
  · rw [(hown call.get (Or.inr rfl)).left]
    exact h.absent
  · rw [(hown call.post (Or.inl rfl)).left]
    exact hp
  · rw [(hown call.post (Or.inl rfl)).right]
    exact hq
  · rw [(hown call.get (Or.inr rfl)).right]
    exact hget
  · have hready := (hmatches.flying (hflying _ hp)).right
    exact Matches.of_agree hagree hmatches.stage
      (hready.of_registered hregistered hlater)

theorem Simulates.agree (h : Simulates cfg call s t)
    (hflying : forall u, s.tasks.get? call.post = some u -> u.phase.inFlight = true) :
    Agree call.claims.clientId s.store t.store := by
  rcases h.progress with ⟨p, q, get, hp, _, _, hmatches⟩
  exact (hmatches.flying (hflying _ hp)).left

theorem simulates_connect (h : Simulates cfg call s t) {task : TaskId}
    {request : HttpRequest}
    (hundisturbed : call.Undisturbed cfg s (.connect task request)) :
    Simulates cfg call (App.step cfg jwt s (.connect task request))
      (App.step cfg jwt t (.connect task request)) := by
  rcases hundisturbed with ⟨hflying, hnames, _⟩
  have hget : task ≠ call.get := fun heq => hnames heq
  by_cases hpost : task = call.post
  · -- the exchange of the POST is taken
    subst hpost
    rcases h.progress with ⟨p, q, get, hp, hq, _, _⟩
    simpa [App.step, App.connect, hp, hq] using h
  · have hsame := h.others task hpost hget
    cases htask : s.tasks.get? task with
    | some u =>
        rw [htask] at hsame
        simpa [App.step, App.connect, htask, hsame] using h
    | none =>
        rw [htask] at hsame
        simp only [App.step, App.connect, htask, hsame]
        refine h.frame hflying (h.agree hflying) (fun _ hentry => hentry) h.reaper
          h.now (le_refl _) ?_ ?_
        · intro other hown
          have hne : task ≠ other := by
            rintro rfl
            exact hown.elim hpost hget
          exact ⟨Dict.get?_set_of_ne _ _ hne, Dict.get?_set_of_ne _ _ hne⟩
        · intro other hne hne'
          dsimp only
          rw [Dict.get?_set, Dict.get?_set, h.others other hne hne']

theorem simulates_tick (h : Simulates cfg call s t) (hwell : s.store.WellFormed cfg)
    {now : Time} (hundisturbed : call.Undisturbed cfg s (.tick now)) :
    Simulates cfg call (App.step cfg jwt s (.tick now))
      (App.step cfg jwt t (.tick now)) := by
  rcases hundisturbed with ⟨hflying, _, hregistered⟩
  by_cases hnow : s.now ≤ now
  · have hnow' : t.now ≤ now := by
      rw [h.now]
      exact hnow
    simp only [App.step, App.tick, if_pos hnow] at hregistered
    rcases (h.agree hflying).tick s.reaper hwell hregistered with ⟨hreaper, hagree⟩
    simp only [App.step, App.tick, if_pos hnow, if_pos hnow', h.reaper]
    refine h.frame hflying hagree hregistered hreaper rfl hnow ?_ h.others
    intro task _
    exact ⟨rfl, rfl⟩
  · have hnow' : ¬ t.now ≤ now := by
      rw [h.now]
      exact hnow
    simpa [App.step, App.tick, hnow, hnow'] using h

theorem simulates_other (h : Simulates cfg call s t) {task : TaskId}
    {action : Action} {clock : Clock} (hpost : task ≠ call.post)
    (hundisturbed : call.Undisturbed cfg s (.run task action clock)) :
    Simulates cfg call (App.step cfg jwt s (.run task action clock))
      (App.step cfg jwt t (.run task action clock)) := by
  rcases hundisturbed with ⟨hflying, hnames, hregistered⟩
  have hget : task ≠ call.get := fun heq => hnames heq
  have hsame := h.others task hpost hget
  have hclock : clock.reading 0 ≤ clock.reading 3 := clock.mono (by decide)
  cases htask : s.tasks.get? task with
  | none =>
      rw [htask] at hsame
      simpa [App.step, App.runTask, htask, hsame] using h
  | some u =>
      rw [htask] at hsame
      by_cases hnow : s.now ≤ clock.reading 0
      · have hnow' : t.now ≤ clock.reading 0 := by
          rw [h.now]
          exact hnow
        have hrel : Option.Rel (SameResult call.claims.clientId)
            (advance cfg jwt task u.request u.phase action clock s.store)
            (advance cfg jwt task u.request u.phase action clock t.store) :=
          (h.agree hflying).advance jwt u.request u.phase action
        rcases rel_cases hrel with ⟨hs, ht⟩ | ⟨r, r', hs, ht, hresult⟩
        · rw [App.step_run_of_not htask fun _ => hs,
            App.step_run_of_not hsame fun _ => ht]
          exact h
        · rw [App.step_run htask hnow hs] at hregistered ⊢
          rw [App.step_run hsame hnow' ht]
          refine h.frame hflying hresult.store hregistered h.reaper rfl
            (le_trans hnow hclock) ?_ ?_
          · intro other hown
            have hne : task ≠ other := by
              rintro rfl
              exact hown.elim hpost hget
            exact ⟨Dict.get?_set_of_ne _ _ hne, Dict.get?_set_of_ne _ _ hne⟩
          · intro other hne hne'
            dsimp only
            rw [Dict.get?_set, Dict.get?_set, h.others other hne hne', hresult.phase]
      · have hnow' : ¬ t.now ≤ clock.reading 0 := by
          rw [h.now]
          exact hnow
        rw [App.step_run_of_not htask fun hle => absurd hle hnow,
          App.step_run_of_not hsame fun hle => absurd hle hnow']
        exact h

theorem postRequestEnqueued_plain (task : TaskId) (params : PostRequest)
    (claims : ClientClaims) (entry : Ref)
    (deadline bumpedAt remainingAt remainingAt' : Time) :
    postRequestEnqueued task params.plain claims entry deadline bumpedAt remainingAt =
      postRequestEnqueued task params.plain claims entry deadline bumpedAt
        remainingAt' := by
  funext enqueued u
  cases enqueued <;> rfl

theorem advance_upTo {p q : Phase} {clock : Clock} {action : Action}
    {deadline : Time} {i : Nat} (hstage : Stage call p q none)
    (hdeadline : q.deadline? clock = some (deadline, i)) (u : Store) :
    advance cfg jwt call.post call.plain q action (clock.upTo i) u =
      advance cfg jwt call.post call.plain q action clock u := by
  cases hstage with
  | body entry totalTimeoutMs =>
      cases hdeadline
      cases action with
      | body =>
          simp only [advance, postRequestBody]
          rw [postRequestEnqueued_plain call.post call.params call.claims entry _
            ((clock.upTo 2).reading 2) ((clock.upTo 2).reading 3) (clock.reading 3)]
          rfl
      | start | serve | expire | resume | close => rfl
  | putDone entry deadline enqueued =>
      cases hdeadline
      cases action with
      | resume =>
          simp only [advance]
          rw [postRequestEnqueued_plain call.post call.params call.claims entry deadline
            ((clock.upTo 0).reading 0) ((clock.upTo 0).reading 1) (clock.reading 1)]
          rfl
      | start | body | serve | expire | close => rfl
  | received | put | refused | closed => cases hdeadline

theorem deadline_le {p q : Phase} {clock : Clock} {deadline : Time} {i : Nat}
    {now : Time} {u : Store} (hstage : Stage call p q none)
    (hdeadline : q.deadline? clock = some (deadline, i))
    (hready : Ready cfg call now u p) (hnow : now ≤ clock.reading 0) :
    i ≤ 2 ∧ deadline ≤ clock.reading (i + 1) + seconds cfg.maxTimeoutMs := by
  have hclock : clock.reading 0 ≤ clock.reading (i + 1) := clock.mono (Nat.zero_le _)
  cases hstage with
  | body entry totalTimeoutMs =>
      cases hdeadline
      have hle := seconds_le hready.left
      exact ⟨le_refl 2, by linarith⟩
  | putDone entry deadline enqueued =>
      cases hdeadline
      exact ⟨by decide, by linarith [hready.left]⟩
  | received | put | refused | closed => cases hdeadline

theorem Stage.inFlight {p q : Phase} (hstage : Stage call p q none)
    (hflying : p.inFlight = true) : q.inFlight = true := by
  cases hstage with
  | received | body | put | putDone => rfl
  | refused | closed => cases hflying

section

variable {p q : Phase} {action : Action} {clock : Clock}

theorem simulates_idle (h : Simulates cfg call s t)
    (hp : s.tasks.get? call.post = some ⟨call.blocking, p⟩)
    (hq : t.tasks.get? call.post = some ⟨call.plain, q⟩)
    (hstage : Stage call p q none) (hflying : p.inFlight = true)
    (hs : s.now ≤ clock.reading 0 ->
      advance cfg jwt call.post call.blocking p action clock s.store = none)
    (ht : t.now ≤ clock.reading 0 ->
      advance cfg jwt call.post call.plain q action clock t.store = none) :
    Simulates cfg call (App.step cfg jwt s (.run call.post action clock))
      (App.runFrom cfg jwt t (call.sequel cfg t (.run call.post action clock))) := by
  have hidle := App.step_run_of_not hq ht
  rw [sequel_of_unanswered hq (hstage.inFlight hflying)
    (by rw [hidle, hq]; exact hstage.unanswered)]
  rw [App.step_run_of_not hp hs, App.runFrom, run_cons, run_nil, hidle]
  exact h

theorem simulates_unfinished (h : Simulates cfg call s t)
    (hp : s.tasks.get? call.post = some ⟨call.blocking, p⟩)
    (hq : t.tasks.get? call.post = some ⟨call.plain, q⟩)
    (hget : t.tasks.get? call.get = none) (hflying : q.inFlight = true)
    (hnow : s.now ≤ clock.reading 0) {r r' : Store × Phase}
    (hs : advance cfg jwt call.post call.blocking p action clock s.store = some r)
    (ht : advance cfg jwt call.post call.plain q action clock t.store = some r')
    (hmatches : Matches cfg call (clock.reading 3) none r r') :
    Simulates cfg call (App.step cfg jwt s (.run call.post action clock))
      (App.runFrom cfg jwt t (call.sequel cfg t (.run call.post action clock))) := by
  have hnow' : t.now ≤ clock.reading 0 := by
    rw [h.now]
    exact hnow
  have hstep := App.step_run hq hnow' ht
  have hunanswered : ((App.step cfg jwt t (.run call.post action clock)).tasks.get?
      call.post).any (fun u => u.phase.answered 202) = false := by
    rw [hstep, Dict.get?_set_self]
    exact hmatches.stage.unanswered
  rw [sequel_of_unanswered hq hflying hunanswered, App.runFrom, run_cons, run_nil,
    hstep, App.step_run hp hnow hs]
  refine ⟨h.reaper, rfl, ?_, ?_, r.2, r'.2, none, ?_, ?_, ?_, hmatches⟩
  · intro task hne hne'
    dsimp only
    rw [Dict.get?_set_of_ne _ _ (Ne.symm hne), Dict.get?_set_of_ne _ _ (Ne.symm hne)]
    exact h.others task hne hne'
  · dsimp only
    rw [Dict.get?_set_of_ne _ _ call.distinct]
    exact h.absent
  · exact Dict.get?_set_self _ _ _
  · exact Dict.get?_set_self _ _ _
  · dsimp only
    rw [Dict.get?_set_of_ne _ _ call.distinct, hget]
    rfl

theorem simulates_accepted (h : Simulates cfg call s t)
    (hp : s.tasks.get? call.post = some ⟨call.blocking, p⟩)
    (hq : t.tasks.get? call.post = some ⟨call.plain, q⟩)
    (hget : t.tasks.get? call.get = none) (hflying : p.inFlight = true)
    (hnow : s.now ≤ clock.reading 0) (hstage : Stage call p q none)
    (hready : Ready cfg call s.now s.store p) {deadline : Time} {i : Nat}
    (hdeadline : q.deadline? clock = some (deadline, i)) {u v : Store} {entry : Ref}
    (hs : advance cfg jwt call.post call.blocking p action clock s.store =
      some (queueGet (remainingMs deadline (clock.reading (i + 1)))
        (Store.takeResponse call.post call.claims.clientId entry)
        (postRequestResponded call.post)
        (.postRequestGet call.params call.claims entry
          (clock.reading (i + 1) +
            seconds (remainingMs deadline (clock.reading (i + 1))))) u))
    (ht : advance cfg jwt call.post call.plain q action clock t.store =
      some (v, .done (emptyReply 202)))
    (hagree : Agree call.claims.clientId u v)
    (hregistered : u.clientRegistry.get? call.claims.clientId = some entry)
    (hseen : exists e, u.clientEntries[entry]? = some e ∧
      e.clientId = call.claims.clientId ∧ e.lastSeen ≤ clock.reading (i + 1)) :
    Simulates cfg call (App.step cfg jwt s (.run call.post action clock))
      (App.runFrom cfg jwt t (call.sequel cfg t (.run call.post action clock))) := by
  have hnow' : t.now ≤ clock.reading 0 := by
    rw [h.now]
    exact hnow
  rcases deadline_le hstage hdeadline hready hnow with ⟨hi, hdue⟩
  have haccepted : ((App.step cfg jwt t (.run call.post action clock)).tasks.get?
      call.post).any (fun u => u.phase.answered 202) = true := by
    rw [App.step_run hq hnow' ht, Dict.get?_set_self]
    rfl
  have hbudget : remainingMs deadline (clock.reading (i + 1)) ≤ cfg.maxTimeoutMs :=
    remainingMs_le cfg.maxTimeoutMs_nonneg hdue
  have hsince : (clock.since (i + 1)).reading 1 = clock.reading (i + 1) := rfl
  have hlast : (clock.since (i + 1)).reading 3 = clock.reading 3 := by
    have hmax : max (i + 1) 3 = 3 := by omega
    change clock.reading (max (i + 1) 3) = clock.reading 3
    rw [hmax]
  have hmatches : Matches cfg call (clock.reading 3)
      (some (dispatch cfg jwt call.get
        (call.poll (remainingMs deadline (clock.reading (i + 1)))) ""
        (clock.since (i + 1)) v).2) _ _ :=
    matches_poll hagree (remainingMs_nonneg _ _) hbudget hregistered hseen
  -- the POST is answered, the GET is sent, and it runs its first stretch
  have hfirst : App.step cfg jwt t (.run call.post action (clock.upTo i)) =
      { t with
        store := v
        tasks := t.tasks.set call.post ⟨call.plain, .done (emptyReply 202)⟩
        now := (clock.upTo i).reading 3 } := by
    have hupTo : t.now ≤ (clock.upTo i).reading 0 := by
      simpa [Clock.upTo] using hnow'
    have hrun : advance cfg jwt call.post call.plain q action (clock.upTo i) t.store =
        some (v, .done (emptyReply 202)) := by
      rw [advance_upTo hstage hdeadline]
      exact ht
    exact App.step_run hq hupTo hrun
  have hsecond : forall request, App.step cfg jwt { t with
      store := v
      tasks := t.tasks.set call.post ⟨call.plain, .done (emptyReply 202)⟩
      now := (clock.upTo i).reading 3 } (.connect call.get request) = { t with
        store := v
        tasks := (t.tasks.set call.post
          ⟨call.plain, .done (emptyReply 202)⟩).set call.get ⟨request, .received⟩
        now := (clock.upTo i).reading 3 } := by
    intro request
    refine App.step_connect ?_ request
    dsimp only
    rw [Dict.get?_set_of_ne _ _ call.distinct]
    exact hget
  rw [sequel_of_accepted hq (hstage.inFlight hflying) hdeadline haccepted, App.runFrom,
    run_cons, run_cons, run_cons, run_nil, hfirst, hsecond, App.step_run hp hnow hs,
    App.step_run (Dict.get?_set_self _ _ _) ?_ rfl]
  · refine ⟨h.reaper, hlast, ?_, ?_, _, _, _, ?_, ?_, ?_, hmatches⟩
    · intro task hne hne'
      dsimp only
      rw [Dict.get?_set_of_ne _ _ (Ne.symm hne'), Dict.get?_set_of_ne _ _ (Ne.symm hne'),
        Dict.get?_set_of_ne _ _ (Ne.symm hne), Dict.get?_set_of_ne _ _ (Ne.symm hne)]
      exact h.others task hne hne'
    · dsimp only
      rw [Dict.get?_set_of_ne _ _ call.distinct]
      exact h.absent
    · exact Dict.get?_set_self _ _ _
    · dsimp only
      rw [Dict.get?_set_of_ne _ _ (Ne.symm call.distinct),
        Dict.get?_set_of_ne _ _ (Ne.symm call.distinct)]
      exact Dict.get?_set_self _ _ _
    · dsimp only
      rw [Dict.get?_set_self]
      rfl
  · exact clock.mono (by simp)

theorem simulates_second (h : Simulates cfg call s t) {o : Phase}
    (hp : s.tasks.get? call.post = some ⟨call.blocking, p⟩)
    (hq : t.tasks.get? call.post = some ⟨call.plain, q⟩)
    (hget : (t.tasks.get? call.get).map Task.phase = some o)
    (hflying : p.inFlight = true)
    (hmatches : Matches cfg call s.now (some o) (s.store, p) (t.store, q)) :
    Simulates cfg call (App.step cfg jwt s (.run call.post action clock))
      (App.runFrom cfg jwt t (call.sequel cfg t (.run call.post action clock))) := by
  rcases Option.map_eq_some_iff.mp hget with ⟨u, hu, ho⟩
  rcases u with ⟨request, phase⟩
  dsimp only at ho
  subst ho
  have hagree := (hmatches.flying hflying).left
  have hrel : Option.Rel
      (fun r r' => Matches cfg call (clock.reading 3) (some r'.2) r (r'.1, q))
      (advance cfg jwt call.post call.blocking p action clock s.store)
      (advance cfg jwt call.get request phase action clock t.store) :=
    stretch_second request hmatches.stage hflying hagree
  have hanswered : q = .done (emptyReply 202) := hmatches.stage.answered_of_get
  subst hanswered
  rw [sequel_of_answered hq, App.runFrom, run_cons, run_nil]
  by_cases hnow : s.now ≤ clock.reading 0
  · have hnow' : t.now ≤ clock.reading 0 := by
      rw [h.now]
      exact hnow
    rcases rel_cases hrel with ⟨hs, ht⟩ | ⟨r, r', hs, ht, hresult⟩
    · rw [App.step_run_of_not hp fun _ => hs, App.step_run_of_not hu fun _ => ht]
      exact h
    · rw [App.step_run hp hnow hs, App.step_run hu hnow' ht]
      refine ⟨h.reaper, rfl, ?_, ?_, r.2, _, some r'.2, ?_, ?_, ?_, hresult⟩
      · intro task hne hne'
        dsimp only
        rw [Dict.get?_set_of_ne _ _ (Ne.symm hne'),
          Dict.get?_set_of_ne _ _ (Ne.symm hne)]
        exact h.others task hne hne'
      · dsimp only
        rw [Dict.get?_set_of_ne _ _ call.distinct]
        exact h.absent
      · exact Dict.get?_set_self _ _ _
      · dsimp only
        rw [Dict.get?_set_of_ne _ _ (Ne.symm call.distinct)]
        exact hq
      · dsimp only
        rw [Dict.get?_set_self]
        rfl
  · have hnow' : ¬ t.now ≤ clock.reading 0 := by
      rw [h.now]
      exact hnow
    rw [App.step_run_of_not hp fun hle => absurd hle hnow,
      App.step_run_of_not hu fun hle => absurd hle hnow']
    exact h

end

theorem simulates_post (h : Simulates cfg call s t) (hwell : s.store.WellFormed cfg)
    {action : Action} {clock : Clock}
    (hflies : forall u, s.tasks.get? call.post = some u -> u.phase.inFlight = true) :
    Simulates cfg call (App.step cfg jwt s (.run call.post action clock))
      (App.runFrom cfg jwt t (call.sequel cfg t (.run call.post action clock))) := by
  rcases h.progress with ⟨p, q, get, hp, hq, hget, hmatches⟩
  have hflying : p.inFlight = true := hflies _ hp
  rcases hmatches.flying hflying with ⟨hagree, hready⟩
  cases get with
  | some o => exact simulates_second h hp hq hget hflying hmatches
  | none =>
      have hstage : Stage call p q none := hmatches.stage
      have hnone := Option.map_eq_none_iff.mp hget
      by_cases hnow : s.now ≤ clock.reading 0
      · cases hdeadline : q.deadline? clock with
        | none =>
            have hrel : Option.Rel (Matches cfg call (clock.reading 3) none)
                (advance cfg jwt call.post call.blocking p action clock s.store) _ :=
              stretch_unfinished hstage hflying hdeadline hagree hready hnow
            rcases rel_cases hrel with ⟨hs, ht⟩ | ⟨r, r', hs, ht, hresult⟩
            · exact simulates_idle h hp hq hstage hflying (fun _ => hs) (fun _ => ht)
            · exact simulates_unfinished h hp hq hnone (hstage.inFlight hflying) hnow
                hs ht hresult
        | some handover =>
            rcases handover with ⟨deadline, i⟩
            have hrel : Option.Rel (Enqueues cfg call (clock.reading 3) deadline
                  (clock.reading (i + 1)))
                (advance cfg jwt call.post call.blocking p action clock s.store)
                (advance cfg jwt call.post call.plain q action clock t.store) :=
              stretch_enqueues hstage hdeadline (fun _ _ => rfl) hagree hready hwell
            rcases rel_cases hrel with ⟨hs, ht⟩ | ⟨r, r', hs, ht, hresult⟩
            · exact simulates_idle h hp hq hstage hflying (fun _ => hs) (fun _ => ht)
            · cases hresult with
              | unfinished hresult =>
                  exact simulates_unfinished h hp hq hnone (hstage.inFlight hflying)
                    hnow hs ht hresult
              | accepted hagree' hregistered hseen =>
                  exact simulates_accepted h hp hq hnone hflying hnow hstage hready
                    hdeadline hs ht hagree' hregistered hseen
      · have hnow' : ¬ t.now ≤ clock.reading 0 := by
          rw [h.now]
          exact hnow
        exact simulates_idle h hp hq hstage hflying (fun hle => absurd hle hnow)
          (fun hle => absurd hle hnow')

theorem Simulates.step (h : Simulates cfg call s t) (hwell : s.store.WellFormed cfg)
    {e : Event} (hundisturbed : call.Undisturbed cfg s e) :
    Simulates cfg call (App.step cfg jwt s e)
      (App.runFrom cfg jwt t (call.sequel cfg t e)) := by
  cases e with
  | connect task request => exact simulates_connect h hundisturbed
  | tick now => exact simulates_tick h hwell hundisturbed
  | run task action clock =>
      by_cases hpost : task = call.post
      · subst hpost
        exact simulates_post h hwell hundisturbed.left
      · have hsame : call.sequel cfg t (.run task action clock) =
            [.run task action clock] := by
          simp [Call.sequel, hpost]
        rw [hsame]
        exact simulates_other h hpost hundisturbed

end

/-!
## Outcomes
-/

section

variable {jwt : Jwt} {call : Call jwt} {p q : Phase} {get : Option Phase}

theorem answered_responseReply {response : PypeResponse} {status : Nat}
    (hstatus : status ≠ 200 ∧ status ≠ 500) :
    (Phase.done (responseReply response)).answered status = false := by
  have hreply : (responseReply response).status = 200 ∨
      (responseReply response).status = 500 := messageReply_status _ _ _ _
  have hne : (responseReply response).status ≠ status := by
    rcases hreply with h | h
    · rw [h]
      exact Ne.symm hstatus.left
    · rw [h]
      exact Ne.symm hstatus.right
  exact beq_eq_false_iff_ne.mpr hne

theorem Stage.unavailable (h : Stage call p q get) :
    p.answered 503 = q.answered 503 := by
  cases h with
  | received | body | put | putDone | refused | closed | waiting | taken => rfl
  | answered response =>
      cases response with
      | none => rfl
      | some response => exact answered_responseReply (by decide)

theorem Stage.unavailable_get (h : Stage call p q get)
    (hanswered : p.answered 503 = true) : get = none := by
  rw [h.unavailable] at hanswered
  cases h with
  | received | body | put | putDone | refused | closed => rfl
  | waiting | taken | answered => cases hanswered

theorem Stage.accepted (h : Stage call p q get) :
    p.answered 202 = (q.answered 202 && get.any fun o => o.answered 204) := by
  cases h with
  | received | body | put | putDone | closed | waiting | taken => rfl
  | refused reply hstatus => simp [Phase.answered, hstatus.right]
  | answered response =>
      cases response with
      | none => rfl
      | some response =>
          have hget : (Phase.done (polledReply (some response))).answered 204 =
              false := answered_responseReply (by decide)
          rw [Option.any_some, hget, Bool.and_false]
          exact answered_responseReply (by decide)

theorem Stage.delivered (h : Stage call p q get) {reply : HttpReply}
    (hstatus : reply.status = 200) :
    p = .done reply <-> get = some (.done reply) := by
  cases h with
  | received | body | put | putDone | closed | waiting | taken => simp
  | refused reply' hrefused =>
      constructor
      · intro heq
        cases heq
        exact absurd hstatus hrefused.left
      · intro heq
        cases heq
  | answered response =>
      cases response with
      | none =>
          constructor
          · intro heq
            cases heq
            cases hstatus
          · intro heq
            cases heq
            cases hstatus
      | some response => simp [respondedReply, polledReply]

end

namespace App

def AnsweredWith (s : App) (task : TaskId) (reply : HttpReply) : Prop :=
  exists u, s.tasks.get? task = some u ∧ u.phase = .done reply

def Answered (s : App) (task : TaskId) (status : Nat) : Prop :=
  exists u, s.tasks.get? task = some u ∧ u.phase.answered status = true

/-- The queues are the same and the blocking POST is answered as the plain POST and
the GET are. -/
structure SameOutcome {jwt : Jwt} (call : Call jwt) (s t : App) : Prop where
  queues : SameQueues s.store t.store
  /-- 503 exactly if the plain POST is answered with 503, and then no response was
  taken and no GET is sent. -/
  unavailable : s.Answered call.post 503 <-> t.Answered call.post 503
  untouched : s.Answered call.post 503 -> t.tasks.get? call.get = none ∧
    forall clientId entry posted,
      .responseDequeued call.post clientId entry posted ∉ s.store.history
  /-- 202 exactly if the plain POST is answered with 202 and the GET with 204. -/
  accepted : s.Answered call.post 202 <->
    t.Answered call.post 202 ∧ t.Answered call.get 204
  /-- 200 exactly if the GET is answered with 200, and then with the same reply. -/
  delivered : forall reply, reply.status = 200 ->
    (s.AnsweredWith call.post reply <-> t.AnsweredWith call.get reply)

theorem answered_iff {s : App} {task : TaskId} {get : Option Phase}
    (hget : (s.tasks.get? task).map Task.phase = get) (status : Nat) :
    s.Answered task status <-> (get.any fun o => o.answered status) = true := by
  subst hget
  cases htask : s.tasks.get? task with
  | none => simp [Answered, htask]
  | some u => simp [Answered, htask]

theorem answeredWith_iff {s : App} {task : TaskId} {get : Option Phase}
    (hget : (s.tasks.get? task).map Task.phase = get) (reply : HttpReply) :
    s.AnsweredWith task reply <-> get = some (.done reply) := by
  subst hget
  cases htask : s.tasks.get? task with
  | none => simp [AnsweredWith, htask]
  | some u => simp [AnsweredWith, htask]

section

variable {cfg : Settings} {jwt : Jwt} {call : Call jwt} {s t : App}

theorem SameOutcome.of_simulates (hinv : s.Invariant cfg jwt)
    (h : Simulates cfg call s t) : SameOutcome call s t := by
  rcases h.progress with ⟨p, q, get, hp, hq, hget, hmatches⟩
  have hstage : Stage call p q get := hmatches.stage
  have hpost : (s.tasks.get? call.post).map Task.phase = some p := by rw [hp]; rfl
  have hplain : (t.tasks.get? call.post).map Task.phase = some q := by rw [hq]; rfl
  refine ⟨hmatches.queues, ?_, ?_, ?_, ?_⟩
  · rw [answered_iff hpost, answered_iff hplain, Option.any_some, Option.any_some,
      hstage.unavailable]
  · intro hanswered
    rw [answered_iff hpost, Option.any_some] at hanswered
    have hnone := hstage.unavailable_get hanswered
    rw [← hget, Option.map_eq_none_iff] at hnone
    constructor
    · exact hnone
    · intro clientId entry posted hmem
      have hconduct := hinv.conduct call.post _ hp
      cases p with
      | done reply =>
          have hreply := Finished.reply_of_received hconduct
            (Store.mem_recordsOf.mpr ⟨hmem, rfl⟩)
          rw [hreply, answered_responseReply (by decide)] at hanswered
          cases hanswered
      | received | postRequestBody | postRequestPut | postRequestPutDone
      | postRequestGet | postRequestGetDone | getRequestGet | getRequestGetDone
      | postResponseBody | postResponsePut | postResponsePutDone | getResponseGet
      | getResponseGetDone | closed => cases hanswered
  · rw [answered_iff hpost, answered_iff hplain, answered_iff hget, Option.any_some,
      Option.any_some, hstage.accepted, Bool.and_eq_true]
  · intro reply hstatus
    rw [answeredWith_iff hpost, answeredWith_iff hget, Option.some.injEq]
    exact hstage.delivered hstatus

theorem simulates_connected (hpost : s.tasks.get? call.post = none)
    (hget : s.tasks.get? call.get = none) :
    Simulates cfg call (s.connect call.post call.blocking)
      (s.connect call.post call.plain) := by
  simp only [connect, hpost]
  refine ⟨rfl, rfl, ?_, ?_, .received, .received, none, ?_, ?_, ?_, ?_⟩
  · intro task hne _
    dsimp only
    rw [Dict.get?_set_of_ne _ _ (Ne.symm hne), Dict.get?_set_of_ne _ _ (Ne.symm hne)]
  · dsimp only
    rw [Dict.get?_set_of_ne _ _ call.distinct]
    exact hget
  · exact Dict.get?_set_self _ _ _
  · exact Dict.get?_set_self _ _ _
  · dsimp only
    rw [Dict.get?_set_of_ne _ _ call.distinct, hget]
    rfl
  · exact Matches.of_agree (Agree.refl _ _) Stage.received trivial

end

/-- From every reachable state on, as long as the call is undisturbed, a `block=1`
POST does the same to all queues and is answered alike as the plain POST and the GET
that stand in for it. -/
theorem block_refines (cfg : Settings) {jwt : Jwt} (call : Call jwt)
    (before es : List Event)
    (hpost : (reached cfg jwt before).tasks.get? call.post = none)
    (hget : (reached cfg jwt before).tasks.get? call.get = none)
    (hundisturbed : Along (step cfg jwt) (call.Undisturbed cfg)
      ((reached cfg jwt before).connect call.post call.blocking) es) :
    SameOutcome call
      (runFrom cfg jwt ((reached cfg jwt before).connect call.post call.blocking) es)
      (runFrom cfg jwt ((reached cfg jwt before).connect call.post call.plain)
        (expand (step cfg jwt) (call.sequel cfg)
          ((reached cfg jwt before).connect call.post call.plain) es)) := by
  have hinit : Invariant cfg jwt
        ((reached cfg jwt before).connect call.post call.blocking) ∧
      Simulates cfg call ((reached cfg jwt before).connect call.post call.blocking)
        ((reached cfg jwt before).connect call.post call.plain) :=
    ⟨(invariant_reached cfg jwt before).step (.connect call.post call.blocking),
      simulates_connected hpost hget⟩
  have hboth := run_simulates
    (fun s t => Invariant cfg jwt s ∧ Simulates cfg call s t)
    (fun _ _ e hguard h => ⟨h.left.step e, h.right.step h.left.wellFormed hguard⟩)
    hinit hundisturbed
  exact SameOutcome.of_simulates hboth.left hboth.right

instance (task : TaskId) : (e : Event) -> Decidable (e.Names task)
  | .connect task' _ => inferInstanceAs (Decidable (task' = task))
  | .run task' _ _ => inferInstanceAs (Decidable (task' = task))
  | .tick _ => isFalse id

instance (cfg : Settings) {jwt : Jwt} (call : Call jwt) (s : App) (e : Event) :
    Decidable (call.Undisturbed cfg s e) :=
  inferInstanceAs (Decidable (
    (forall u, u ∈ s.tasks.get? call.post -> u.phase.inFlight = true) ∧
      ¬ e.Names call.get ∧
      forall entry,
        entry ∈ s.store.clientRegistry.get? call.claims.clientId ->
          (App.step cfg jwt s e).store.clientRegistry.get? call.claims.clientId =
            some entry))

def longCall : Call (Jwt.ofPair "c" "s") where
  post := 0
  get := 1
  distinct := by decide
  authorization := some "Bearer client"
  params := ⟨"s", "1", none, true, none, []⟩
  blocks := rfl
  claims := ⟨"caller", "c", by decide⟩
  authorized := by decide +kernel

def responseInTime : List Event :=
  [.run 0 (.start "") (Clock.constant 0),
    .run 0 .body (Clock.constant 1),
    .run 0 .serve (Clock.constant 1),
    .run 0 .resume (Clock.constant 1),
    .connect 2 ⟨some "Bearer service", .postResponse ⟨"c", "1", some 0, none, []⟩⟩,
    .run 2 (.start "") (Clock.constant 2),
    .run 2 .body (Clock.constant 2),
    .run 0 .serve (Clock.constant 2),
    .run 0 .resume (Clock.constant 2)]

theorem block_refines_responseInTime :
    SameOutcome longCall
      (runFrom (Settings.default "10.0.0.1") (Jwt.ofPair "c" "s")
        (initial.connect longCall.post longCall.blocking) responseInTime)
      (runFrom (Settings.default "10.0.0.1") (Jwt.ofPair "c" "s")
        (initial.connect longCall.post longCall.plain)
        (expand (step (Settings.default "10.0.0.1") (Jwt.ofPair "c" "s"))
          (longCall.sequel (Settings.default "10.0.0.1"))
          (initial.connect longCall.post longCall.plain) responseInTime)) :=
  block_refines (Settings.default "10.0.0.1") longCall [] responseInTime rfl rfl
    (by decide +kernel)

end App

end Server
end Pype
