import Pype.Server.Invariant

/-!
# What the history says about one handler

A handler moves at most one message of each kind, and it moves it for a request
that is allowed to.  So every record of the history names the handler that made
it, and no handler appears twice among the movers of one kind of message.
-/

namespace Pype
namespace Server

open Foundation Store

/-!
## Reading records
-/

namespace Record

/-- The request that a record puts on the queue of a service. -/
def requestEnqueued? (serviceName : String) : Record -> Option (Posted PypeRequest)
  | .requestEnqueued task name _ request =>
      if name = serviceName then some ⟨task, request⟩ else none
  | _ => none

/-- The request that a record takes from the queue of a service, with the handler
that takes it. -/
def requestDequeued? (serviceName : String) :
    Record -> Option (TaskId × Posted PypeRequest)
  | .requestDequeued task name _ posted =>
      if name = serviceName then some (task, posted) else none
  | _ => none

def responseEnqueued? (entry : Ref) : Record -> Option (Posted PypeResponse)
  | .responseEnqueued task _ entry' response =>
      if entry' = entry then some ⟨task, response⟩ else none
  | _ => none

/-- The response that a record takes from the queue of an entry, with the handler
that takes it. -/
def responseDequeued? (entry : Ref) :
    Record -> Option (TaskId × Posted PypeResponse)
  | .responseDequeued task _ entry' posted =>
      if entry' = entry then some (task, posted) else none
  | _ => none

def answers (task : TaskId) (status : Nat) : Record -> Bool
  | .answered task' reply => decide (task' = task ∧ reply.status = status)
  | _ => false

theorem exists_of_any_answers {history : List Record} {task : TaskId} {status : Nat}
    (h : history.any (answers task status) = true) :
    exists reply, .answered task reply ∈ history ∧ reply.status = status := by
  rcases List.any_eq_true.mp h with ⟨r, hr, hanswers⟩
  cases r <;> simp only [answers, Bool.false_eq_true, decide_eq_true_eq] at hanswers
  rcases hanswers with ⟨rfl, hstatus⟩
  exact ⟨_, hr, hstatus⟩

def takesRequestOf (task poster : TaskId) : Record -> Bool
  | .requestDequeued task' _ _ posted =>
      decide (task' = task ∧ posted.poster = poster)
  | _ => false

theorem exists_of_any_takesRequestOf {history : List Record} {task poster : TaskId}
    (h : history.any (takesRequestOf task poster) = true) :
    exists serviceName queue item,
      .requestDequeued task serviceName queue ⟨poster, item⟩ ∈ history := by
  rcases List.any_eq_true.mp h with ⟨r, hr, htakes⟩
  cases r <;>
    simp only [takesRequestOf, Bool.false_eq_true, decide_eq_true_eq] at htakes
  rcases htakes with ⟨rfl, rfl⟩
  exact ⟨_, _, _, hr⟩

theorem task?_of_requestEnqueued? {serviceName : String} {r : Record}
    {x : Posted PypeRequest} (h : r.requestEnqueued? serviceName = some x) :
    r.task? = some x.poster := by
  cases r <;> simp only [requestEnqueued?, reduceCtorEq] at h
  split at h
  · cases h
    rfl
  · cases h

theorem task?_of_requestDequeued? {serviceName : String} {r : Record}
    {x : TaskId × Posted PypeRequest}
    (h : r.requestDequeued? serviceName = some x) : r.task? = some x.1 := by
  cases r <;> simp only [requestDequeued?, reduceCtorEq] at h
  split at h
  · cases h
    rfl
  · cases h

theorem task?_of_responseEnqueued? {entry : Ref} {r : Record}
    {x : Posted PypeResponse} (h : r.responseEnqueued? entry = some x) :
    r.task? = some x.poster := by
  cases r <;> simp only [responseEnqueued?, reduceCtorEq] at h
  split at h
  · cases h
    rfl
  · cases h

end Record

theorem filterMap_snoc {moved : Type} (f : Record -> Option moved)
    (history : List Record) (r : Record) :
    (history ++ [r]).filterMap f = history.filterMap f ++ (f r).toList := by
  rw [List.filterMap_append, List.filterMap_cons]
  cases f r <;> rfl

theorem filter_eq_of_added {kind : Record -> Bool} {s s' : Store}
    {added : List Record} (hhist : s'.history = s.history ++ added)
    (hnone : forall r, r ∈ added -> kind r = false) :
    s'.history.filter kind = s.history.filter kind := by
  have hfilter : added.filter kind = [] := by
    rw [List.filter_eq_nil_iff]
    intro r hr
    simp [hnone r hr]
  rw [hhist, List.filter_append, hfilter, List.append_nil]

theorem filterMap_eq_of_filter {moved : Type} {kind : Record -> Bool}
    {s s' : Store} (h : s'.history.filter kind = s.history.filter kind)
    {f : Record -> Option moved}
    (hf : forall r, kind r = false -> f r = none) :
    s'.history.filterMap f = s.history.filterMap f := by
  have hrestrict : forall records : List Record,
      records.filterMap f = (records.filter kind).filterMap f := by
    intro records
    rw [List.filterMap_filter]
    apply List.filterMap_congr
    intro r _
    split
    · rfl
    · rename_i hr
      exact hf r (by simpa using hr)
  rw [hrestrict, hrestrict s.history, h]

theorem Store.mem_recordsOf {s : Store} {task : TaskId} {r : Record} :
    r ∈ s.recordsOf task <-> r ∈ s.history ∧ r.task? = some task := by
  simp [Store.recordsOf]

/-!
## Transcripts
-/

section

variable (cfg : Settings) (jwt : Jwt) (task : TaskId) (request : HttpRequest)

/-- The messages that a handler has moved before it answers. -/
inductive Underway : List Record -> Prop where
  | silent : Underway []
  | requestEnqueued {params : PostRequest} {claims : ClientClaims} {queue : Ref}
      (hwho : Posts jwt request params claims) :
      Underway
        [.requestEnqueued task params.serviceName queue (params.pypeReq cfg claims)]
  | responseTaken {params : PostRequest} {claims : ClientClaims} {queue entry : Ref}
      {posted : Posted PypeResponse}
      (hwho : Posts jwt request params claims) (hblock : params.block = true) :
      Underway
        [.requestEnqueued task params.serviceName queue (params.pypeReq cfg claims),
          .responseDequeued task claims.clientId entry posted]
  | requestTaken {serviceName : String} {queue : Ref} {posted : Posted PypeRequest}
      (hwho : Pulls jwt request serviceName) :
      Underway [.requestDequeued task serviceName queue posted]
  | responseEnqueued {params : PostResponse} {entry : Ref}
      (hwho : Responds jwt request params) :
      Underway
        [.responseEnqueued task params.clientId entry (params.pypeResp cfg)]
  | responsePolled {clientId : String} {entry : Ref} {posted : Posted PypeResponse}
      (hwho : Polls jwt request clientId) :
      Underway [.responseDequeued task clientId entry posted]

/-- All that is recorded of a handler: the messages it has moved and, once it has
answered, its answer. -/
def Transcript (records : List Record) : Prop :=
  exists moved, Underway cfg jwt task request moved ∧
    (records = moved ∨ exists reply, records = moved ++ [.answered task reply])

end

section

variable {cfg : Settings} {jwt : Jwt} {task : TaskId} {request : HttpRequest}

theorem Underway.transcript {records : List Record}
    (h : Underway cfg jwt task request records) :
    Transcript cfg jwt task request records :=
  ⟨records, h, Or.inl rfl⟩

theorem Finished.transcript {records : List Record} {reply : HttpReply}
    (h : Finished cfg jwt task request records reply) :
    Transcript cfg jwt task request records := by
  cases h with
  | refused | requestNotTaken _ | noRequest _ | responseNotTaken _ | noResponse _
  | administered _ => exact ⟨[], Underway.silent, Or.inr ⟨_, rfl⟩⟩
  | requestAccepted hwho =>
      exact ⟨_, Underway.requestEnqueued hwho, Or.inr ⟨_, rfl⟩⟩
  | requestResponded hwho hblock =>
      exact ⟨_, Underway.responseTaken hwho hblock, Or.inr ⟨_, rfl⟩⟩
  | requestDelivered hwho =>
      exact ⟨_, Underway.requestTaken hwho, Or.inr ⟨_, rfl⟩⟩
  | responseAccepted hwho =>
      exact ⟨_, Underway.responseEnqueued hwho, Or.inr ⟨_, rfl⟩⟩
  | responseDelivered hwho =>
      exact ⟨_, Underway.responsePolled hwho, Or.inr ⟨_, rfl⟩⟩

theorem Finished.reply_of_taken {records : List Record} {reply : HttpReply}
    {serviceName : String} {queue : Ref} {posted : Posted PypeRequest}
    (h : Finished cfg jwt task request records reply)
    (hmem : .requestDequeued task serviceName queue posted ∈ records) :
    reply = requestReply posted.message := by
  cases h with
  | requestDelivered _ =>
      simp only [List.mem_cons, List.not_mem_nil, or_false, reduceCtorEq,
        Record.requestDequeued.injEq, true_and] at hmem
      rw [hmem.right.right]
  | refused | requestNotTaken _ | requestAccepted _ | requestResponded _ _
  | noRequest _ | responseNotTaken _ | responseAccepted _ | noResponse _
  | responseDelivered _ | administered _ => simp at hmem

theorem Finished.reply_of_received {records : List Record} {reply : HttpReply}
    {clientId : String} {entry : Ref} {posted : Posted PypeResponse}
    (h : Finished cfg jwt task request records reply)
    (hmem : .responseDequeued task clientId entry posted ∈ records) :
    reply = responseReply posted.message := by
  cases h with
  | requestResponded _ _ | responseDelivered _ =>
      simp only [List.mem_cons, List.not_mem_nil, or_false, false_or, reduceCtorEq,
        Record.responseDequeued.injEq, true_and] at hmem
      rw [hmem.right.right]
  | refused | requestNotTaken _ | requestAccepted _ | noRequest _
  | requestDelivered _ | responseNotTaken _ | responseAccepted _ | noResponse _
  | administered _ => simp at hmem

theorem PhaseOk.transcript {s : Store} {phase : Phase}
    (h : PhaseOk cfg jwt task request s phase) :
    Transcript cfg jwt task request (s.recordsOf task) := by
  have silent : s.recordsOf task = [] ->
      Transcript cfg jwt task request (s.recordsOf task) := by
    intro hempty
    rw [hempty]
    exact Underway.silent.transcript
  cases phase with
  | received => exact silent h
  | postRequestBody => exact silent h.right.right.right
  | postRequestPut => exact silent h.right.right.right.right
  | postRequestPutDone params claims entry deadline enqueued =>
      rcases h with ⟨hwho, _, queue, _, hrecords⟩
      cases enqueued with
      | false => exact silent hrecords
      | true =>
          rw [hrecords]
          exact (Underway.requestEnqueued hwho).transcript
  | postRequestGet params claims entry expires =>
      rcases h with ⟨hwho, _, _, queue, _, hrecords⟩
      rw [hrecords]
      exact (Underway.requestEnqueued hwho).transcript
  | postRequestGetDone response =>
      rcases h with ⟨params, claims, queue, hwho, hblock, hrecords⟩
      cases response with
      | none =>
          rw [hrecords]
          exact (Underway.requestEnqueued hwho).transcript
      | some response =>
          rcases hrecords with ⟨entry, poster, hrecords⟩
          rw [hrecords]
          exact (Underway.responseTaken hwho hblock).transcript
  | getRequestGet => exact silent h.right.right
  | getRequestGetDone item =>
      rcases h with ⟨serviceName, hwho, hrecords⟩
      cases item with
      | none => exact silent hrecords
      | some item =>
          rcases hrecords with ⟨queue, poster, hrecords⟩
          rw [hrecords]
          exact (Underway.requestTaken hwho).transcript
  | postResponseBody => exact silent h.right.right.right
  | postResponsePut => exact silent h.right.right.right
  | postResponsePutDone enqueued =>
      rcases h with ⟨params, hwho, hrecords⟩
      cases enqueued with
      | false => exact silent (by simpa using hrecords)
      | true =>
          rcases hrecords with ⟨entry, hrecords⟩
          rw [hrecords]
          exact (Underway.responseEnqueued hwho).transcript
  | getResponseGet => exact silent h.right.right
  | getResponseGetDone clientId item =>
      rcases h with ⟨hwho, hrecords⟩
      cases item with
      | none => exact silent hrecords
      | some item =>
          rcases hrecords with ⟨entry, poster, hrecords⟩
          rw [hrecords]
          exact (Underway.responsePolled hwho).transcript
  | done reply => exact Finished.transcript h
  | closed reply =>
      cases reply with
      | none => exact silent h
      | some reply => exact Finished.transcript h

theorem Finished.answered {records : List Record} {reply reply' : HttpReply}
    (h : Finished cfg jwt task request records reply)
    (hmem : .answered task reply' ∈ records) : reply' = reply := by
  cases h <;> simpa using hmem

theorem PhaseOk.of_answered {s : Store} {phase : Phase} {reply : HttpReply}
    (h : PhaseOk cfg jwt task request s phase)
    (hmem : .answered task reply ∈ s.recordsOf task) :
    Finished cfg jwt task request (s.recordsOf task) reply ∧
      (phase = .done reply ∨ phase = .closed (some reply)) := by
  have silent : s.recordsOf task ≠ [] := List.ne_nil_of_mem hmem
  cases phase with
  | received => exact absurd h silent
  | postRequestBody => exact absurd h.right.right.right silent
  | postRequestPut => exact absurd h.right.right.right.right silent
  | postRequestPutDone params claims entry deadline enqueued =>
      rcases h with ⟨_, _, queue, _, hrecords⟩
      rw [hrecords] at hmem
      cases enqueued <;> simp at hmem
  | postRequestGet params claims entry expires =>
      rcases h with ⟨_, _, _, queue, _, hrecords⟩
      rw [hrecords] at hmem
      simp at hmem
  | postRequestGetDone response =>
      rcases h with ⟨params, claims, queue, _, _, hrecords⟩
      cases response with
      | none =>
          rw [hrecords] at hmem
          simp at hmem
      | some response =>
          rcases hrecords with ⟨entry, poster, hrecords⟩
          rw [hrecords] at hmem
          simp at hmem
  | getRequestGet => exact absurd h.right.right silent
  | getRequestGetDone item =>
      rcases h with ⟨serviceName, _, hrecords⟩
      cases item with
      | none => exact absurd hrecords silent
      | some item =>
          rcases hrecords with ⟨queue, poster, hrecords⟩
          rw [hrecords] at hmem
          simp at hmem
  | postResponseBody => exact absurd h.right.right.right silent
  | postResponsePut => exact absurd h.right.right.right silent
  | postResponsePutDone enqueued =>
      rcases h with ⟨params, _, hrecords⟩
      cases enqueued with
      | false => exact absurd (by simpa using hrecords) silent
      | true =>
          rcases hrecords with ⟨entry, hrecords⟩
          rw [hrecords] at hmem
          simp at hmem
  | getResponseGet => exact absurd h.right.right silent
  | getResponseGetDone clientId item =>
      rcases h with ⟨_, hrecords⟩
      cases item with
      | none => exact absurd hrecords silent
      | some item =>
          rcases hrecords with ⟨entry, poster, hrecords⟩
          rw [hrecords] at hmem
          simp at hmem
  | done reply' =>
      have heq := Finished.answered h hmem
      subst heq
      exact ⟨h, Or.inl rfl⟩
  | closed closing =>
      cases closing with
      | none => exact absurd h silent
      | some reply' =>
          have heq := Finished.answered h hmem
          subst heq
          exact ⟨h, Or.inr rfl⟩

theorem Transcript.underway {records : List Record}
    (h : Transcript cfg jwt task request records) {r : Record} (hr : r ∈ records)
    (hanswer : forall reply, r ≠ .answered task reply) :
    exists moved, Underway cfg jwt task request moved ∧ r ∈ moved := by
  rcases h with ⟨moved, hmoved, rfl | ⟨reply, rfl⟩⟩
  · exact ⟨records, hmoved, hr⟩
  · rcases List.mem_append.mp hr with hr | hr
    · exact ⟨moved, hmoved, hr⟩
    · exact absurd (List.mem_singleton.mp hr) (hanswer reply)

/-- A handler moves at most one message of each kind. -/
theorem Transcript.length_filterMap_le_one {moved : Type} {records : List Record}
    (h : Transcript cfg jwt task request records) (f : Record -> Option moved)
    (hanswer : forall reply, f (.answered task reply) = none)
    (hpair : forall n q request c e posted,
      f (.requestEnqueued task n q request) = none ∨
        f (.responseDequeued task c e posted) = none) :
    (records.filterMap f).length ≤ 1 := by
  have hmoves : forall moves, Underway cfg jwt task request moves ->
      (moves.filterMap f).length ≤ 1 := by
    intro moves hmoves
    cases hmoves with
    | silent => exact Nat.zero_le 1
    | requestEnqueued _ | requestTaken _ | responseEnqueued _ | responsePolled _ =>
        exact List.length_filterMap_le f _
    | responseTaken _ _ =>
        rename_i params claims queue entry posted _ _
        rcases hpair params.serviceName queue (params.pypeReq cfg claims)
          claims.clientId entry posted with hnone | hnone
        · rw [List.filterMap_cons_none hnone]
          exact List.length_filterMap_le f _
        · rw [List.filterMap_cons, List.filterMap_cons_none hnone]
          split <;> simp
  rcases h with ⟨moves, hunderway, rfl | ⟨reply, rfl⟩⟩
  · exact hmoves _ hunderway
  · rw [List.filterMap_append, List.filterMap_cons_none (hanswer reply),
      List.filterMap_nil, List.append_nil]
    exact hmoves _ hunderway

end

/-!
## Movers
-/

theorem Store.nodup_movers {moved : Type} {f : Record -> Option moved}
    {mover : moved -> TaskId}
    (hmover : forall r x, f r = some x -> r.task? = some (mover x)) {s : Store}
    (hone : forall task, ((s.recordsOf task).filterMap f).length ≤ 1) :
    ((s.history.filterMap f).map mover).Nodup := by
  rw [List.nodup_iff_count_le_one]
  intro task
  have hsplit : forall records : List Record,
      ((records.filterMap f).map mover).count task =
        ((records.filter fun r => decide (r.task? = some task)).filterMap f).length := by
    intro records
    induction records with
    | nil => rfl
    | cons r rest ih =>
        cases hr : f r with
        | none =>
            rw [List.filterMap_cons_none hr, ih, List.filter_cons]
            split
            · rw [List.filterMap_cons_none hr]
            · rfl
        | some x =>
            have htask := hmover r x hr
            rw [List.filterMap_cons_some hr, List.map_cons, List.count_cons, ih,
              List.filter_cons, htask]
            by_cases heq : mover x = task
            · simp [heq, hr]
            · simp [heq]
  rw [hsplit]
  exact hone task

namespace App

variable {cfg : Settings} {jwt : Jwt}

/-- Every record about a handler belongs to the transcript of a task. -/
theorem Invariant.transcript {s : App} (h : Invariant cfg jwt s) {task : TaskId}
    {r : Record} (hr : r ∈ s.store.history) (htask : r.task? = some task) :
    exists t, s.tasks.get? task = some t ∧
      Transcript cfg jwt task t.request (s.store.recordsOf task) := by
  cases ht : s.tasks.get? task with
  | none =>
      have hmem := Store.mem_recordsOf.mpr ⟨hr, htask⟩
      rw [h.silent task ht] at hmem
      cases hmem
  | some t => exact ⟨t, rfl, (h.conduct task t ht).transcript⟩

theorem Invariant.length_filterMap_le_one {moved : Type} {s : App}
    (h : Invariant cfg jwt s) (f : Record -> Option moved)
    (hanswer : forall task reply, f (.answered task reply) = none)
    (hpair : forall task n q request c e posted,
      f (.requestEnqueued task n q request) = none ∨
        f (.responseDequeued task c e posted) = none) (task : TaskId) :
    ((s.store.recordsOf task).filterMap f).length ≤ 1 := by
  cases ht : s.tasks.get? task with
  | none =>
      rw [h.silent task ht]
      exact Nat.zero_le 1
  | some t =>
      exact (h.conduct task t ht).transcript.length_filterMap_le_one f
        (hanswer task) (hpair task)

theorem Invariant.underway {s : App} (h : Invariant cfg jwt s) {task : TaskId}
    {r : Record} (hr : r ∈ s.store.history) (htask : r.task? = some task)
    (hanswer : forall reply, r ≠ .answered task reply) :
    exists t moved, s.tasks.get? task = some t ∧
      Underway cfg jwt task t.request moved ∧ r ∈ moved := by
  rcases h.transcript hr htask with ⟨t, ht, htranscript⟩
  rcases htranscript.underway (Store.mem_recordsOf.mpr ⟨hr, htask⟩) hanswer with
    ⟨moved, hmoved, hmem⟩
  exact ⟨t, moved, ht, hmoved, hmem⟩

theorem Invariant.of_answered {s : App} (h : Invariant cfg jwt s)
    {task : TaskId} {reply : HttpReply}
    (hr : .answered task reply ∈ s.store.history) :
    exists t, s.tasks.get? task = some t ∧
      Finished cfg jwt task t.request (s.store.recordsOf task) reply ∧
      (t.phase = .done reply ∨ t.phase = .closed (some reply)) := by
  rcases h.transcript hr rfl with ⟨t, ht, _⟩
  exact ⟨t, ht, (h.conduct task t ht).of_answered
    (Store.mem_recordsOf.mpr ⟨hr, rfl⟩)⟩

/-!
## Who moved a message
-/

theorem Invariant.of_requestEnqueued {s : App} (h : Invariant cfg jwt s)
    {task : TaskId} {serviceName : String} {queue : Ref} {request : PypeRequest}
    (hr : .requestEnqueued task serviceName queue request ∈ s.store.history) :
    exists t params claims, s.tasks.get? task = some t ∧
      Posts jwt t.request params claims ∧ params.serviceName = serviceName ∧
      request = params.pypeReq cfg claims := by
  rcases h.underway hr rfl (by intro reply; simp) with ⟨t, moved, ht, hmoved, hmem⟩
  cases hmoved with
  | requestEnqueued hwho | responseTaken hwho _ =>
      simp only [List.mem_cons, List.not_mem_nil, or_false, reduceCtorEq,
        Record.requestEnqueued.injEq, true_and] at hmem
      rcases hmem with ⟨rfl, _, rfl⟩
      exact ⟨t, _, _, ht, hwho, rfl, rfl⟩
  | silent | requestTaken _ | responseEnqueued _ | responsePolled _ => simp at hmem

theorem Invariant.of_requestDequeued {s : App} (h : Invariant cfg jwt s)
    {task : TaskId} {serviceName : String} {queue : Ref}
    {posted : Posted PypeRequest}
    (hr : .requestDequeued task serviceName queue posted ∈ s.store.history) :
    exists t, s.tasks.get? task = some t ∧ Pulls jwt t.request serviceName := by
  rcases h.underway hr rfl (by intro reply; simp) with ⟨t, moved, ht, hmoved, hmem⟩
  cases hmoved with
  | requestTaken hwho =>
      simp only [List.mem_cons, List.not_mem_nil, or_false,
        Record.requestDequeued.injEq, true_and] at hmem
      rcases hmem with ⟨rfl, _, _⟩
      exact ⟨t, ht, hwho⟩
  | silent | requestEnqueued _ | responseTaken _ _ | responseEnqueued _
  | responsePolled _ => simp at hmem

theorem Invariant.of_responseEnqueued {s : App} (h : Invariant cfg jwt s)
    {task : TaskId} {clientId : String} {entry : Ref} {response : PypeResponse}
    (hr : .responseEnqueued task clientId entry response ∈ s.store.history) :
    exists t params, s.tasks.get? task = some t ∧
      Responds jwt t.request params ∧ params.clientId = clientId ∧
      response = params.pypeResp cfg := by
  rcases h.underway hr rfl (by intro reply; simp) with ⟨t, moved, ht, hmoved, hmem⟩
  cases hmoved with
  | responseEnqueued hwho =>
      simp only [List.mem_cons, List.not_mem_nil, or_false,
        Record.responseEnqueued.injEq, true_and] at hmem
      rcases hmem with ⟨rfl, _, rfl⟩
      exact ⟨t, _, ht, hwho, rfl, rfl⟩
  | silent | requestEnqueued _ | responseTaken _ _ | requestTaken _
  | responsePolled _ => simp at hmem

theorem Invariant.of_responseDequeued {s : App} (h : Invariant cfg jwt s)
    {task : TaskId} {clientId : String} {entry : Ref}
    {posted : Posted PypeResponse}
    (hr : .responseDequeued task clientId entry posted ∈ s.store.history) :
    exists t, s.tasks.get? task = some t ∧ Receives jwt t.request clientId := by
  rcases h.underway hr rfl (by intro reply; simp) with ⟨t, moved, ht, hmoved, hmem⟩
  cases hmoved with
  | responsePolled hwho =>
      simp only [List.mem_cons, List.not_mem_nil, or_false,
        Record.responseDequeued.injEq, true_and] at hmem
      rcases hmem with ⟨rfl, _, _⟩
      exact ⟨t, ht, Or.inl hwho⟩
  | responseTaken hwho hblock =>
      simp only [List.mem_cons, List.not_mem_nil, or_false, reduceCtorEq,
        Record.responseDequeued.injEq, true_and, false_or] at hmem
      rcases hmem with ⟨rfl, _, _⟩
      exact ⟨t, ht, Or.inr ⟨_, _, hwho, hblock, rfl⟩⟩
  | silent | requestEnqueued _ | requestTaken _ | responseEnqueued _ => simp at hmem

end App

end Server
end Pype
