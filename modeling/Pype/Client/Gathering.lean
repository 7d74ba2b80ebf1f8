import Pype.Client.Invocation

/-!
# Gathering

What a collector does on a stream of polls that are answered with responses and
204s: it waits until the cache, with what has come in, satisfies its condition,
and not a poll longer.
-/

namespace Pype
namespace Client

open Foundation Server

/-!
## What the answers bring
-/

/-- The response that a poll's answer brings. -/
def Answer.response? (answer : Answer) : Option ServiceResponse :=
  match ClientConnection.polled answer.outcome answer.source with
  | .ok response => response
  | .error _ => none

def Answer.IsPoll (answer : Answer) : Prop :=
  ClientConnection.polled answer.outcome answer.source = .ok answer.response?

def responsesIn (answers : List Answer) : List ServiceResponse :=
  answers.filterMap Answer.response?

def extended (cache : Dict String ServiceResponse) (responses : List ServiceResponse) :
    Dict String ServiceResponse :=
  responses.foldl (fun cache r => cache.set r.requestId r) cache

theorem extended_append (cache : Dict String ServiceResponse)
    (before after : List ServiceResponse) :
    extended cache (before ++ after) = extended (extended cache before) after :=
  List.foldl_append

theorem responsesIn_append (before after : List Answer) :
    responsesIn (before ++ after) = responsesIn before ++ responsesIn after :=
  List.filterMap_append

theorem responsesIn_cons_of_none {answer : Answer} (h : answer.response? = none)
    (rest : List Answer) : responsesIn (answer :: rest) = responsesIn rest :=
  List.filterMap_cons_none h

theorem responsesIn_cons_of_some {answer : Answer} {r : ServiceResponse}
    (h : answer.response? = some r) (rest : List Answer) :
    responsesIn (answer :: rest) = r :: responsesIn rest :=
  List.filterMap_cons_some h

theorem isSome_get?_extended {requestId : String}
    (responses : List ServiceResponse) :
    forall {cache : Dict String ServiceResponse},
      (cache.get? requestId).isSome = true ->
        ((extended cache responses).get? requestId).isSome = true := by
  induction responses with
  | nil =>
      intro cache h
      exact h
  | cons r rest ih =>
      intro cache h
      apply ih
      rw [Dict.get?_set]
      split
      · rfl
      · exact h

theorem isSome_get?_of_mem {r : ServiceResponse} {responses : List ServiceResponse}
    (h : r ∈ responses) (cache : Dict String ServiceResponse) :
    ((extended cache responses).get? r.requestId).isSome = true := by
  rcases List.append_of_mem h with ⟨before, after, rfl⟩
  rw [extended_append]
  apply isSome_get?_extended after
  rw [Dict.get?_set_self]
  rfl

namespace ClientConnection

def cacheAll (responses : List ServiceResponse) (conn : ClientConnection) :
    ClientConnection :=
  responses.foldl (fun conn r => (conn.note (.received r)).cacheResponse r) conn

theorem cache_cacheAll (responses : List ServiceResponse) :
    forall conn : ClientConnection,
      (conn.cacheAll responses).cache = extended conn.cache responses := by
  induction responses with
  | nil =>
      intro conn
      rfl
  | cons r rest ih =>
      intro conn
      exact ih _

theorem cacheAll_keeps {value : Type} (see : ClientConnection -> value)
    (hcache : forall r conn,
      see ((note (.received r) conn).cacheResponse r) = see conn)
    (responses : List ServiceResponse) (conn : ClientConnection) :
    see (conn.cacheAll responses) = see conn := by
  induction responses generalizing conn with
  | nil => rfl
  | cons r rest ih => exact (ih _).trans (hcache r conn)

theorem cacheAll_append (before after : List ServiceResponse)
    (conn : ClientConnection) :
    conn.cacheAll (before ++ after) = (conn.cacheAll before).cacheAll after :=
  List.foldl_append

/-!
## Popping
-/

section

variable {ids : List String}

theorem get?_popMatching :
    forall {conn : ClientConnection} {out : Dict String ServiceResponse},
      ids.Nodup -> forall requestId,
        (conn.popMatching ids out).2.get? requestId =
          ((if requestId ∈ ids then conn.cache.get? requestId else none).or
            (out.get? requestId)) := by
  induction ids with
  | nil =>
      intro conn out _ requestId
      rfl
  | cons key rest ih =>
      intro conn out hnodup requestId
      rcases List.nodup_cons.mp hnodup with ⟨hkey, hrest⟩
      unfold popMatching
      split
      · rename_i r hget
        rw [ih hrest]
        by_cases heq : requestId = key
        · subst heq
          simp [hkey, hget]
        · have hne : key ≠ requestId := fun h => heq h.symm
          simp [popResponse, heq, Dict.get?_set_of_ne _ _ hne,
            Dict.get?_erase_of_ne _ hne]
      · rename_i hget
        rw [ih hrest]
        by_cases heq : requestId = key
        · subst heq
          simp [hkey, hget]
        · simp [heq]

theorem cache_popMatching :
    forall {conn : ClientConnection} {out : Dict String ServiceResponse} requestId,
      (conn.popMatching ids out).1.cache.get? requestId =
        if requestId ∈ ids then none else conn.cache.get? requestId := by
  induction ids with
  | nil =>
      intro conn out requestId
      rfl
  | cons key rest ih =>
      intro conn out requestId
      unfold popMatching
      split
      · rw [ih]
        by_cases heq : requestId = key
        · subst heq
          simp [popResponse]
        · have hne : key ≠ requestId := fun h => heq h.symm
          simp [popResponse, heq, Dict.get?_erase_of_ne _ hne]
      · rename_i hget
        rw [ih]
        by_cases heq : requestId = key
        · subst heq
          simp [hget]
        · simp [heq]

theorem size_popMatching :
    forall {conn : ClientConnection} {out : Dict String ServiceResponse},
      ids.Nodup -> (forall requestId, requestId ∈ ids -> out.get? requestId = none) ->
        (conn.popMatching ids out).2.size =
          out.size + ids.countP fun requestId =>
            (conn.cache.get? requestId).isSome := by
  induction ids with
  | nil =>
      intro conn out _ _
      rfl
  | cons key rest ih =>
      intro conn out hnodup hout
      rcases List.nodup_cons.mp hnodup with ⟨hkey, hrest⟩
      have hne : forall requestId, requestId ∈ rest -> key ≠ requestId := by
        rintro requestId hmem rfl
        exact hkey hmem
      unfold popMatching
      split
      · rename_i r hget
        have hsize : (out.set key r).size = out.size + 1 := by
          have hnone := hout key List.mem_cons_self
          rw [Dict.size, Dict.entries_set_of_get?_eq_none r hnone]
          simp [Dict.size]
        have hcount : (rest.countP fun requestId =>
            ((conn.popResponse key).cache.get? requestId).isSome) =
            rest.countP fun requestId => (conn.cache.get? requestId).isSome := by
          apply List.countP_congr
          intro requestId hmem
          rw [popResponse, Dict.get?_erase_of_ne _ (hne requestId hmem)]
        rw [ih hrest, hsize, hcount, List.countP_cons, hget, Option.isSome_some]
        · simp only [if_true]
          omega
        · intro requestId hmem
          rw [Dict.get?_set_of_ne _ _ (hne requestId hmem)]
          exact hout requestId (List.mem_cons_of_mem _ hmem)
      · rename_i hget
        rw [ih hrest fun requestId hmem =>
          hout requestId (List.mem_cons_of_mem _ hmem)]
        simp [hget]

end

/-!
## The loop
-/

def Within (deadline : Option Time) (now : Time) : Prop :=
  forall time, time ∈ deadline -> now ≤ time

theorem nonneg_remainingMs {deadline : Option Time} {now : Time}
    (h : Within deadline now) : forall ms, ms ∈ remainingMs deadline now -> 0 ≤ ms := by
  intro ms hms
  rcases Option.map_eq_some_iff.mp hms with ⟨time, htime, rfl⟩
  have hnow := h time htime
  have hnonneg : 0 ≤ (time - now) * 1000 := by linarith
  exact truncate_nonneg hnonneg

def Polls (clientId : String) (calls : List HttpCall) : Prop :=
  forall call, call ∈ calls -> call.method = .get ∧ call.path = ["clients", clientId]

theorem polls_nil (clientId : String) : Polls clientId [] := by
  intro call hcall
  cases hcall

theorem Polls.append {clientId : String} {calls calls' : List HttpCall}
    (h : Polls clientId calls) (h' : Polls clientId calls') :
    Polls clientId (calls ++ calls') := by
  intro call hcall
  rcases List.mem_append.mp hcall with hcall | hcall
  · exact h call hcall
  · exact h' call hcall

theorem polls_pollCall (settings : Settings) (remaining : Option Int)
    (conn : ClientConnection) :
    Polls conn.clientId [conn.pollCall settings remaining] := by
  intro call hcall
  rw [List.mem_singleton.mp hcall]
  exact ⟨rfl, rfl⟩

section

variable {settings : Settings} {collector : Collector} {wanted : Wanted}
  {infinite : Bool} {deadline : Option Time} {conn : ClientConnection} {now : Time}

theorem collectLoop_of_within (hnow : Within deadline now) :
    conn.collectLoop settings collector wanted infinite deadline now =
      (conn, .blocked (conn.pollCall settings (remainingMs deadline now))
        (.collect collector wanted infinite deadline)) := by
  unfold collectLoop
  rw [pollOne_of_nonneg (nonneg_remainingMs hnow)]

theorem follow_collectLoop_nothing (hnow : Within deadline now) {answer : Answer}
    (hpoll : answer.IsPoll) (hnone : answer.response? = none) (rest : List Answer) :
    follow settings (answer :: rest)
        (conn.collectLoop settings collector wanted infinite deadline now) =
      (follow settings rest
        (if infinite then
          conn.collectLoop settings collector wanted infinite deadline
            (answer.clock.reading 0)
        else (conn, .raised (.timeoutError "server queue empty within timeout")))).after
        [conn.pollCall settings (remainingMs deadline now)] := by
  rw [collectLoop_of_within hnow, follow_cons]
  unfold Answer.IsPoll at hpoll
  rw [hnone] at hpoll
  simp only [resume, collectPolled, hpoll]
  cases infinite <;> rfl

theorem follow_collectLoop_response (hnow : Within deadline now) {answer : Answer}
    {r : ServiceResponse} (hpoll : answer.IsPoll) (hsome : answer.response? = some r)
    (rest : List Answer) :
    follow settings (answer :: rest)
        (conn.collectLoop settings collector wanted infinite deadline now) =
      (follow settings rest
        (if collector.isDone wanted (conn.cacheAll [r]).cache then
          collected wanted (conn.cacheAll [r])
        else (conn.cacheAll [r]).collectLoop settings collector wanted infinite
          deadline (answer.clock.reading 0))).after
        [conn.pollCall settings (remainingMs deadline now)] := by
  rw [collectLoop_of_within hnow, follow_cons]
  unfold Answer.IsPoll at hpoll
  rw [hsome] at hpoll
  simp only [resume, collectPolled, hpoll]
  rfl

end

/-- Through answers that do not end it the loop polls once for each and caches what
they bring. -/
theorem follow_quiet {settings : Settings} {collector : Collector} {wanted : Wanted}
    {infinite : Bool} {deadline : Option Time} (rest before : List Answer) :
    forall (conn : ClientConnection) (now : Time),
      (forall answer, answer ∈ before -> answer.IsPoll) ->
      (infinite = true ∨
        forall answer, answer ∈ before -> answer.response? ≠ none) ->
      Within deadline now ->
      (forall answer, answer ∈ before -> Within deadline (answer.clock.reading 0)) ->
      (forall i, i < before.length ->
        collector.isDone wanted
          (extended conn.cache (responsesIn (before.take (i + 1)))) = false) ->
      exists calls now', calls.length = before.length ∧ Polls conn.clientId calls ∧
        Within deadline now' ∧
        follow settings (before ++ rest)
            (conn.collectLoop settings collector wanted infinite deadline now) =
          (follow settings rest
            ((conn.cacheAll (responsesIn before)).collectLoop settings collector
              wanted infinite deadline now')).after calls := by
  induction before with
  | nil =>
      intro conn now _ _ hnow _ _
      exact ⟨[], now, rfl, polls_nil _, hnow, rfl⟩
  | cons answer before ih =>
      intro conn now hpolls hpatient hnow htimes hquiet
      have hpoll := hpolls answer List.mem_cons_self
      have hpolls' : forall a, a ∈ before -> a.IsPoll := by
        intro a ha
        exact hpolls a (List.mem_cons_of_mem _ ha)
      have hpatient' : infinite = true ∨
          forall a, a ∈ before -> a.response? ≠ none := by
        apply hpatient.imp id
        intro h a ha
        exact h a (List.mem_cons_of_mem _ ha)
      have hnow' := htimes answer List.mem_cons_self
      have htimes' : forall a, a ∈ before -> Within deadline (a.clock.reading 0) := by
        intro a ha
        exact htimes a (List.mem_cons_of_mem _ ha)
      have hcall := polls_pollCall settings (remainingMs deadline now) conn
      cases hresponse : answer.response? with
      | none =>
          have hinfinite : infinite = true := by
            rcases hpatient with h | h
            · exact h
            · exact absurd hresponse (h answer List.mem_cons_self)
          have hrest := ih conn _ hpolls' hpatient' hnow' htimes' (by
            intro i hi
            have hnot := hquiet (i + 1) (Nat.succ_lt_succ hi)
            rw [List.take_succ_cons, responsesIn_cons_of_none hresponse] at hnot
            exact hnot)
          rcases hrest with ⟨calls, now', hlength, hcalls, hwithin, heq⟩
          refine ⟨_ :: calls, now', congrArg Nat.succ hlength, hcall.append hcalls,
            hwithin, ?_⟩
          rw [List.cons_append, follow_collectLoop_nothing hnow hpoll hresponse,
            if_pos hinfinite, heq, Invocation.after_after,
            responsesIn_cons_of_none hresponse]
          rfl
      | some r =>
          have hnot := hquiet 0 (Nat.succ_pos _)
          rw [List.take_succ_cons, List.take_zero,
            responsesIn_cons_of_some hresponse] at hnot
          have hrest := ih (conn.cacheAll [r]) _ hpolls' hpatient' hnow' htimes'
            (by
              intro i hi
              have hnot := hquiet (i + 1) (Nat.succ_lt_succ hi)
              rw [List.take_succ_cons, responsesIn_cons_of_some hresponse] at hnot
              exact hnot)
          rcases hrest with ⟨calls, now', hlength, hcalls, hwithin, heq⟩
          refine ⟨_ :: calls, now', congrArg Nat.succ hlength, hcall.append hcalls,
            hwithin, ?_⟩
          have hnot' : ¬ (collector.isDone wanted (conn.cacheAll [r]).cache = true) := by
            rw [cache_cacheAll, Bool.not_eq_true]
            exact hnot
          rw [List.cons_append, follow_collectLoop_response hnow hpoll hresponse,
            if_neg hnot', heq, Invocation.after_after,
            responsesIn_cons_of_some hresponse]
          rfl

/-!
## Collectors
-/

def pollTimes (clock : Clock) (answers : List Answer) : List Time :=
  clock.reading 1 :: answers.map fun answer => answer.clock.reading 0

theorem pollTimes_take (clock : Clock) (answers : List Answer) (n : Nat) :
    pollTimes clock (answers.take n) = (pollTimes clock answers).take (n + 1) := by
  simp [pollTimes, List.map_take]

def InTime (timeout : Option Int) (clock : Clock) (answers : List Answer)
    (polls : Nat) : Prop :=
  forall time, time ∈ (pollTimes clock answers).take polls ->
    Within (deadline timeout (clock.reading 0)) time

/-- A poll that is answered with a 204 is followed by another one. -/
def Patient (timeout : Option Int) (answers : List Answer) : Prop :=
  timeout = none ∨ forall answer, answer ∈ answers -> answer.response? ≠ none

/-- The number of answers after which the collector is done for the first time. -/
structure DoneAfter (collector : Collector) (wanted : Wanted)
    (cache : Dict String ServiceResponse) (answers : List Answer) (polls : Nat) :
    Prop where
  le : polls ≤ answers.length
  isDone : collector.isDone wanted
    (extended cache (responsesIn (answers.take polls))) = true
  quiet : forall j, j < polls ->
    collector.isDone wanted (extended cache (responsesIn (answers.take j))) = false

theorem exists_doneAfter {collector : Collector} {wanted : Wanted}
    {cache : Dict String ServiceResponse} {answers : List Answer}
    (h : collector.isDone wanted (extended cache (responsesIn answers)) = true) :
    exists polls, DoneAfter collector wanted cache answers polls := by
  have hexists : exists polls, collector.isDone wanted
      (extended cache (responsesIn (answers.take polls))) = true :=
    ⟨answers.length, by rw [List.take_length]; exact h⟩
  refine ⟨Nat.find hexists, ?_, Nat.find_spec hexists, ?_⟩
  · apply Nat.find_le
    rw [List.take_length]
    exact h
  · intro j hj
    rw [← Bool.not_eq_true]
    exact Nat.find_min hexists hj

section

variable (settings : Settings) (timeout : Option Int) (clock : Clock)
  {collector : Collector} {requestIds : List String} {conn : ClientConnection}

theorem invoke_quiet (hopen : conn.closed = false)
    (hcheck : collector.check requestIds = .ok ()) (before rest : List Answer)
    (hpolls : forall answer, answer ∈ before -> answer.IsPoll)
    (hpatient : Patient timeout before)
    (htime : InTime timeout clock before (before.length + 1))
    (hquiet : forall i, i ≤ before.length ->
      collector.isDone (Wanted.ofList requestIds)
        (extended conn.cache (responsesIn (before.take i))) = false) :
    exists calls now', calls.length = before.length ∧ Polls conn.clientId calls ∧
      Within (deadline timeout (clock.reading 0)) now' ∧
      conn.invoke settings (.collect collector requestIds timeout) clock
          (before ++ rest) =
        (follow settings rest
          ((conn.cacheAll (responsesIn before)).collectLoop settings collector
            (Wanted.ofList requestIds) timeout.isNone
            (deadline timeout (clock.reading 0)) now')).after calls := by
  have htimes : forall time, time ∈ pollTimes clock before ->
      Within (deadline timeout (clock.reading 0)) time := by
    intro time hmem
    apply htime
    rw [List.take_of_length_le (by simp [pollTimes])]
    exact hmem
  have hstart : conn.start settings (.collect collector requestIds timeout) clock =
      conn.collectLoop settings collector (Wanted.ofList requestIds) timeout.isNone
        (deadline timeout (clock.reading 0)) (clock.reading 1) := by
    have hnot := hquiet 0 (Nat.zero_le _)
    simp only [start, collect, ensureOpen, hopen, hcheck]
    exact if_neg (Bool.not_eq_true _ ▸ hnot)
  rw [invoke, hstart]
  apply follow_quiet
  · exact hpolls
  · exact hpatient.imp (fun h => by rw [h]; rfl) id
  · exact htimes _ List.mem_cons_self
  · intro answer hanswer
    exact htimes _ (List.mem_cons_of_mem _ (List.mem_map_of_mem hanswer))
  · intro i hi
    exact hquiet (i + 1) hi

theorem invoke_of_doneAfter (hopen : conn.closed = false)
    (hcheck : collector.check requestIds = .ok ()) {answers : List Answer}
    {polls : Nat}
    (hdone : DoneAfter collector (Wanted.ofList requestIds) conn.cache answers polls)
    (hpolls : forall answer, answer ∈ answers.take polls -> answer.IsPoll)
    (hpatient : Patient timeout (answers.take polls))
    (htime : InTime timeout clock answers polls) :
    exists calls, calls.length = polls ∧ Polls conn.clientId calls ∧
      conn.invoke settings (.collect collector requestIds timeout) clock answers =
        (follow settings (answers.drop polls)
          (collected (Wanted.ofList requestIds)
            (conn.cacheAll (responsesIn (answers.take polls))))).after calls := by
  cases polls with
  | zero =>
      refine ⟨[], rfl, polls_nil _, ?_⟩
      have hnow := hdone.isDone
      rw [invoke, Invocation.after_nil]
      simp only [start, collect, ensureOpen, hopen, hcheck]
      exact congrArg (follow settings answers) (if_pos hnow)
  | succ polls =>
      have hlt : polls < answers.length := hdone.le
      have htake : answers.take (polls + 1) = answers.take polls ++ [answers[polls]] :=
        List.take_succ_eq_append_getElem hlt
      have hbefore : (answers.take polls).length = polls :=
        List.length_take_of_le (le_of_lt hlt)
      have hquiet : forall i, i ≤ (answers.take polls).length ->
          collector.isDone (Wanted.ofList requestIds)
            (extended conn.cache (responsesIn ((answers.take polls).take i))) =
              false := by
        intro i hi
        rw [hbefore] at hi
        rw [List.take_take, min_eq_left hi]
        exact hdone.quiet i (Nat.lt_succ_of_le hi)
      have hmem : forall answer, answer ∈ answers.take polls ->
          answer ∈ answers.take (polls + 1) := by
        intro answer hanswer
        rw [htake]
        exact List.mem_append_left _ hanswer
      have hinvoke : exists calls now', calls.length = (answers.take polls).length ∧
          Polls conn.clientId calls ∧
          Within (deadline timeout (clock.reading 0)) now' ∧
          conn.invoke settings (.collect collector requestIds timeout) clock
              (answers.take polls ++ answers.drop polls) =
            (follow settings (answers.drop polls)
              ((conn.cacheAll (responsesIn (answers.take polls))).collectLoop settings
                collector (Wanted.ofList requestIds) timeout.isNone
                (deadline timeout (clock.reading 0)) now')).after calls := by
        apply invoke_quiet settings timeout clock hopen hcheck
        · exact fun answer hanswer => hpolls answer (hmem answer hanswer)
        · exact hpatient.imp id fun h answer hanswer => h answer (hmem answer hanswer)
        · intro time htime'
          rw [hbefore, pollTimes_take, List.take_take, min_self] at htime'
          exact htime time htime'
        · exact hquiet
      rcases hinvoke with ⟨calls, now', hlength, hcalls, hnow', heq⟩
      have hlast : answers[polls] ∈ answers.take (polls + 1) := by
        rw [htake]
        exact List.mem_append_right _ (List.mem_singleton_self _)
      -- the last answer brings a response, or the collector was done before
      have hsome : exists r, answers[polls].response? = some r := by
        rw [← Option.isSome_iff_exists, ← Option.ne_none_iff_isSome]
        intro hnone
        have hnot := hdone.quiet polls (Nat.lt_succ_self polls)
        have hnow := hdone.isDone
        rw [htake, responsesIn_append, responsesIn_cons_of_none hnone] at hnow
        simp only [responsesIn, List.filterMap_nil, List.append_nil] at hnow hnot
        rw [hnot] at hnow
        cases hnow
      rcases hsome with ⟨r, hr⟩
      have hresponses : responsesIn (answers.take (polls + 1)) =
          responsesIn (answers.take polls) ++ [r] := by
        rw [htake, responsesIn_append, responsesIn_cons_of_some hr]
        rfl
      have hnow : collector.isDone (Wanted.ofList requestIds)
          ((conn.cacheAll (responsesIn (answers.take polls))).cacheAll [r]).cache =
            true := by
        rw [← cacheAll_append, ← hresponses, cache_cacheAll]
        exact hdone.isDone
      rw [List.take_append_drop, List.drop_eq_getElem_cons hlt,
        follow_collectLoop_response hnow' (hpolls _ hlast) hr, if_pos hnow,
        Invocation.after_after, ← cacheAll_append, ← hresponses] at heq
      refine ⟨_, ?_, ?_, heq⟩
      · rw [List.length_append, hlength, hbefore]
        rfl
      · apply hcalls.append
        rw [← cacheAll_keeps ClientConnection.clientId (fun _ _ => rfl)
          (responsesIn (answers.take polls)) conn]
        exact polls_pollCall settings _ _

theorem invoke_of_quiet (hopen : conn.closed = false)
    (hcheck : collector.check requestIds = .ok ()) {answers : List Answer}
    (hpolls : forall answer, answer ∈ answers -> answer.IsPoll)
    (hpatient : Patient timeout answers)
    (htime : InTime timeout clock answers (answers.length + 1))
    (hquiet : forall i, i ≤ answers.length ->
      collector.isDone (Wanted.ofList requestIds)
        (extended conn.cache (responsesIn (answers.take i))) = false) :
    (conn.invoke settings (.collect collector requestIds timeout) clock
        answers).ending = none ∧
      (conn.invoke settings (.collect collector requestIds timeout) clock
        answers).connection = conn.cacheAll (responsesIn answers) := by
  rcases invoke_quiet settings timeout clock hopen hcheck answers [] hpolls hpatient
    htime hquiet with ⟨calls, now', _, _, hnow', heq⟩
  rw [List.append_nil, collectLoop_of_within hnow', follow_nil] at heq
  rw [heq]
  exact ⟨rfl, rfl⟩

theorem invoke_of_nothing (hopen : conn.closed = false)
    (hcheck : collector.check requestIds = .ok ()) (hfinite : timeout ≠ none)
    (before : List Answer) {answer : Answer} (rest : List Answer)
    (hpolls : forall a, a ∈ before -> a.IsPoll) (hpoll : answer.IsPoll)
    (hresponses : forall a, a ∈ before -> a.response? ≠ none)
    (hnone : answer.response? = none)
    (htime : InTime timeout clock before (before.length + 1))
    (hquiet : forall i, i ≤ before.length ->
      collector.isDone (Wanted.ofList requestIds)
        (extended conn.cache (responsesIn (before.take i))) = false) :
    exists calls, calls.length = before.length + 1 ∧ Polls conn.clientId calls ∧
      conn.invoke settings (.collect collector requestIds timeout) clock
          (before ++ answer :: rest) =
        { calls := calls
          connection := conn.cacheAll (responsesIn before)
          progress := .raised (.timeoutError "server queue empty within timeout")
          unused := rest } := by
  rcases invoke_quiet settings timeout clock hopen hcheck before (answer :: rest) hpolls
    (Or.inr hresponses) htime hquiet with ⟨calls, now', hlength, hcalls, hnow', heq⟩
  have hinfinite : timeout.isNone = false := by
    cases timeout with
    | none => exact absurd rfl hfinite
    | some ms => rfl
  rw [hinfinite, follow_collectLoop_nothing hnow' hpoll hnone] at heq
  simp only [Bool.false_eq_true, if_false, follow_raised] at heq
  rw [Invocation.after_after] at heq
  refine ⟨_, ?_, ?_, heq⟩
  · simp [hlength]
  · dsimp only
    rw [List.append_nil]
    apply hcalls.append
    rw [← cacheAll_keeps ClientConnection.clientId (fun _ _ => rfl)
      (responsesIn before) conn]
    exact polls_pollCall settings _ _

end

/-!
## The earliest moment
-/

end ClientConnection

/-- The condition of a collector on a cache. -/
def Collector.Satisfied (collector : Collector) (requestIds : List String)
    (cache : Dict String ServiceResponse) : Prop :=
  match collector with
  | .any => exists requestId, requestId ∈ requestIds ∧
      (cache.get? requestId).isSome = true
  | .all => forall requestId, requestId ∈ requestIds ->
      (cache.get? requestId).isSome = true
  | .quorum needed =>
      needed ≤ ((requestIds.filter fun requestId =>
        (cache.get? requestId).isSome).length : Int)

theorem Collector.isDone_iff {collector : Collector} {requestIds : List String}
    (hdistinct : requestIds.Nodup) (cache : Dict String ServiceResponse) :
    collector.isDone (Wanted.ofList requestIds) cache = true <->
      collector.Satisfied requestIds cache := by
  have hids : (Wanted.ofList requestIds).ids = requestIds :=
    List.Nodup.dedup hdistinct
  cases collector with
  | any => simp only [isDone, Satisfied, hids, List.any_eq_true]
  | all => simp only [isDone, Satisfied, hids, List.all_eq_true]
  | quorum needed =>
      simp only [isDone, Satisfied, hids, decide_eq_true_iff,
        List.countP_eq_length_filter]

def cacheAfter (cache : Dict String ServiceResponse) (replies : Stream' Answer)
    (k : Nat) : Dict String ServiceResponse :=
  extended cache (responsesIn (replies.take k))

/-- The least number of replies with which the cache satisfies the collector. -/
structure Earliest (collector : Collector) (requestIds : List String)
    (cache : Dict String ServiceResponse) (replies : Stream' Answer) (k : Nat) :
    Prop where
  satisfied : collector.Satisfied requestIds (cacheAfter cache replies k)
  least : forall j, j < k ->
    ¬ collector.Satisfied requestIds (cacheAfter cache replies j)

/-- The operation returned the requested responses of a cache, and left the rest
of it cached. -/
def Invocation.Collects (requestIds : List String)
    (cache : Dict String ServiceResponse) (i : Invocation) : Prop :=
  exists out, i.progress = .returned (.responses out) ∧
    forall requestId,
      out.get? requestId =
        (if requestId ∈ requestIds then cache.get? requestId else none) ∧
      i.connection.cache.get? requestId =
        (if requestId ∈ requestIds then none else cache.get? requestId)

/-- Two streams bring the same responses: they differ in their 204s. -/
def SameResponses (replies replies' : Stream' Answer) : Prop :=
  (forall n, exists n',
    responsesIn (replies'.take n') = responsesIn (replies.take n)) ∧
  (forall n', exists n,
    responsesIn (replies.take n) = responsesIn (replies'.take n'))

namespace ClientConnection

theorem collects_collected {requestIds : List String} (hdistinct : requestIds.Nodup)
    {settings : Settings} {conn : ClientConnection} (rest : List Answer)
    (calls : List HttpCall) :
    ((follow settings rest
      (collected (Wanted.ofList requestIds) conn)).after calls).Collects requestIds
        conn.cache := by
  have hids : (Wanted.ofList requestIds).ids = requestIds :=
    List.Nodup.dedup hdistinct
  unfold collected
  dsimp only
  rw [follow_returned, hids]
  refine ⟨_, rfl, ?_⟩
  intro requestId
  constructor
  · rw [get?_popMatching hdistinct, Dict.get?_empty, Option.or_none]
  · exact cache_popMatching requestId

theorem calls_collected {settings : Settings} {wanted : Wanted}
    {conn : ClientConnection} (rest : List Answer) (calls : List HttpCall) :
    ((follow settings rest (collected wanted conn)).after calls).calls = calls := by
  unfold collected
  dsimp only
  rw [follow_returned]
  exact List.append_nil calls

section

variable {collector : Collector} {requestIds : List String}
  {cache : Dict String ServiceResponse} {replies : Stream' Answer}

theorem take_take_of_le {k n : Nat} (h : k ≤ n) :
    (replies.take n).take k = replies.take k := by
  rw [Stream'.take_take, min_eq_right h]

theorem doneAfter_of_earliest {k n : Nat} (hdistinct : requestIds.Nodup)
    (h : Earliest collector requestIds cache replies k) (hle : k ≤ n) :
    DoneAfter collector (Wanted.ofList requestIds) cache (replies.take n) k where
  le := by
    rw [Stream'.length_take]
    exact hle
  isDone := by
    rw [take_take_of_le hle]
    exact (Collector.isDone_iff hdistinct _).mpr h.satisfied
  quiet := by
    intro j hj
    rw [take_take_of_le (le_trans (le_of_lt hj) hle), ← Bool.not_eq_true,
      Collector.isDone_iff hdistinct]
    exact h.least j hj

theorem exists_earliest {n : Nat}
    (h : collector.Satisfied requestIds (cacheAfter cache replies n)) :
    exists k, k ≤ n ∧ Earliest collector requestIds cache replies k := by
  classical
  have hexists : exists k,
      collector.Satisfied requestIds (cacheAfter cache replies k) := ⟨n, h⟩
  refine ⟨Nat.find hexists, Nat.find_le h, ?_⟩
  constructor
  · exact Nat.find_spec hexists
  · intro j hj
    exact Nat.find_min hexists hj

theorem quiet_of_not_satisfied {n : Nat} (hdistinct : requestIds.Nodup)
    (h : forall i, i ≤ n ->
      ¬ collector.Satisfied requestIds (cacheAfter cache replies i)) :
    forall i, i ≤ (replies.take n).length ->
      collector.isDone (Wanted.ofList requestIds)
        (extended cache (responsesIn ((replies.take n).take i))) = false := by
  intro i hi
  rw [Stream'.length_take] at hi
  rw [take_take_of_le hi, ← Bool.not_eq_true, Collector.isDone_iff hdistinct]
  exact h i hi

theorem mem_take {n : Nat} {answer : Answer} (h : answer ∈ replies.take n) :
    exists i, i < n ∧ answer = replies.get i := by
  rcases List.mem_iff_getElem.mp h with ⟨i, hi, rfl⟩
  have hlt : i < n := by
    rw [Stream'.length_take] at hi
    exact hi
  refine ⟨i, hlt, ?_⟩
  apply Option.some.inj
  rw [← List.getElem?_eq_getElem hi, Stream'.getElem?_take hlt]

theorem responsesIn_prefix (replies : Stream' Answer) {m n : Nat} (h : m ≤ n) :
    responsesIn (replies.take m) <+: responsesIn (replies.take n) := by
  rw [← take_take_of_le h]
  exact (List.take_prefix m _).filterMap _

end

def gather (settings : Settings) (collector : Collector) (requestIds : List String)
    (timeout : Option Int) (clock : Clock) (replies : Stream' Answer) (n : Nat)
    (conn : ClientConnection) : Invocation :=
  conn.invoke settings (.collect collector requestIds timeout) clock (replies.take n)

section

variable (settings : Settings) {collector : Collector} {requestIds : List String}
  (hdistinct : requestIds.Nodup) {conn : ClientConnection}
  (hopen : conn.closed = false) (hcheck : collector.check requestIds = .ok ())
  {timeout : Option Int} (clock : Clock) {replies : Stream' Answer}
  (hpolls : forall n, (replies.get n).IsPoll)

include hdistinct hopen hcheck hpolls

theorem gather_of_earliest {k : Nat}
    (hearliest : Earliest collector requestIds conn.cache replies k)
    (hpatient : Patient timeout (replies.take k))
    (htime : InTime timeout clock (replies.take k) k) {n : Nat} (hle : k ≤ n) :
    exists calls, calls.length = k ∧ Polls conn.clientId calls ∧
      conn.gather settings collector requestIds timeout clock replies n =
        (follow settings ((replies.take n).drop k)
          (collected (Wanted.ofList requestIds)
            (conn.cacheAll (responsesIn (replies.take k))))).after calls := by
  have htake : (replies.take n).take k = replies.take k := take_take_of_le hle
  have hdone := doneAfter_of_earliest hdistinct hearliest hle
  rw [← htake] at hpatient htime ⊢
  apply invoke_of_doneAfter settings timeout clock hopen hcheck hdone
  · intro answer hanswer
    rcases mem_take (List.mem_of_mem_take hanswer) with ⟨i, _, rfl⟩
    exact hpolls i
  · exact hpatient
  · intro time hmem
    apply htime
    rw [pollTimes_take, List.take_take, min_eq_left (Nat.le_succ k)]
    exact hmem

theorem gather_of_not_satisfied {n : Nat}
    (hnot : forall i, i ≤ n ->
      ¬ collector.Satisfied requestIds (cacheAfter conn.cache replies i))
    (hpatient : Patient timeout (replies.take n))
    (htime : InTime timeout clock (replies.take n) (n + 1)) :
    (conn.gather settings collector requestIds timeout clock replies n).ending =
        none ∧
      (conn.gather settings collector requestIds timeout clock replies n).connection =
        conn.cacheAll (responsesIn (replies.take n)) := by
  apply invoke_of_quiet settings timeout clock hopen hcheck
  · intro answer hanswer
    rcases mem_take hanswer with ⟨i, _, rfl⟩
    exact hpolls i
  · exact hpatient
  · rw [Stream'.length_take]
    exact htime
  · exact quiet_of_not_satisfied hdistinct hnot

theorem gather_of_nothing (hfinite : timeout ≠ none) {j : Nat}
    (hnot : forall i, i ≤ j ->
      ¬ collector.Satisfied requestIds (cacheAfter conn.cache replies i))
    (hnone : (replies.get j).response? = none)
    (hresponses : forall i, i < j -> (replies.get i).response? ≠ none)
    (htime : InTime timeout clock (replies.take j) (j + 1)) {n : Nat} (hlt : j < n) :
    exists calls, calls.length = j + 1 ∧ Polls conn.clientId calls ∧
      conn.gather settings collector requestIds timeout clock replies n =
        { calls := calls
          connection := conn.cacheAll (responsesIn (replies.take j))
          progress := .raised (.timeoutError "server queue empty within timeout")
          unused := (replies.take n).drop (j + 1) } := by
  have hlength : (replies.take j).length = j := Stream'.length_take j replies
  have hsplit : replies.take n =
      replies.take j ++ replies.get j :: (replies.take n).drop (j + 1) := by
    have htake : (replies.take n).take (j + 1) = replies.take (j + 1) :=
      take_take_of_le hlt
    calc replies.take n
        = (replies.take n).take (j + 1) ++ (replies.take n).drop (j + 1) :=
          (List.take_append_drop _ _).symm
      _ = (replies.take j ++ [replies.get j]) ++ (replies.take n).drop (j + 1) := by
          rw [htake, Stream'.take_succ']
      _ = replies.take j ++ replies.get j :: (replies.take n).drop (j + 1) := by
          rw [List.append_assoc, List.singleton_append]
  unfold gather
  rw [hsplit]
  have hinvoke : exists calls, calls.length = (replies.take j).length + 1 ∧
      Polls conn.clientId calls ∧
      conn.invoke settings (.collect collector requestIds timeout) clock
          (replies.take j ++ replies.get j :: (replies.take n).drop (j + 1)) =
        { calls := calls
          connection := conn.cacheAll (responsesIn (replies.take j))
          progress := .raised (.timeoutError "server queue empty within timeout")
          unused := (replies.take n).drop (j + 1) } := by
    apply invoke_of_nothing settings timeout clock hopen hcheck hfinite
    · intro answer hanswer
      rcases mem_take hanswer with ⟨i, _, rfl⟩
      exact hpolls i
    · exact hpolls j
    · intro answer hanswer
      rcases mem_take hanswer with ⟨i, hi, rfl⟩
      exact hresponses i hi
    · exact hnone
    · rw [hlength]
      exact htime
    · exact quiet_of_not_satisfied hdistinct hnot
  rw [hlength] at hinvoke
  rw [← hsplit] at hinvoke ⊢
  exact hinvoke

end

theorem patient_none (answers : List Answer) : Patient none answers := Or.inl rfl

theorem inTime_none (clock : Clock) (answers : List Answer) (polls : Nat) :
    InTime none clock answers polls := by
  intro time _ end' h
  cases h

theorem gather_of_sameResponses (settings : Settings) {collector : Collector}
    {requestIds : List String} (hdistinct : requestIds.Nodup)
    {conn : ClientConnection} (hopen : conn.closed = false)
    (hcheck : collector.check requestIds = .ok ()) (clock clock' : Clock)
    {replies replies' : Stream' Answer} (hpolls : forall n, (replies.get n).IsPoll)
    (hpolls' : forall n, (replies'.get n).IsPoll)
    (hsame : SameResponses replies replies') (n : Nat) :
    exists n',
      (conn.gather settings collector requestIds none clock' replies' n').ending =
          (conn.gather settings collector requestIds none clock replies n).ending ∧
        (conn.gather settings collector requestIds none clock' replies' n').connection =
          (conn.gather settings collector requestIds none clock replies n).connection := by
  by_cases hnow : exists i, i ≤ n ∧
      collector.Satisfied requestIds (cacheAfter conn.cache replies i)
  · rcases hnow with ⟨i, hi, hsatisfied⟩
    rcases exists_earliest hsatisfied with ⟨k, hk, hearliest⟩
    rcases hsame.left k with ⟨m, hm⟩
    have hsatisfied' : collector.Satisfied requestIds
        (cacheAfter conn.cache replies' m) := by
      rw [cacheAfter, hm]
      exact hearliest.satisfied
    rcases exists_earliest hsatisfied' with ⟨k', hk', hearliest'⟩
    -- the earliest moments of both streams bring the same responses
    have hresponses : responsesIn (replies'.take k') = responsesIn (replies.take k) := by
      rcases hsame.right k' with ⟨l, hl⟩
      have hle : k ≤ l := by
        by_contra hlt
        apply hearliest.least l (not_le.mp hlt)
        rw [cacheAfter, hl]
        exact hearliest'.satisfied
      have hto : responsesIn (replies'.take k') <+: responsesIn (replies.take k) := by
        rw [← hm]
        exact responsesIn_prefix replies' hk'
      have hfrom : responsesIn (replies.take k) <+: responsesIn (replies'.take k') := by
        rw [← hl]
        exact responsesIn_prefix replies hle
      exact hto.eq_of_length (le_antisymm hto.length_le hfrom.length_le)
    rcases gather_of_earliest settings hdistinct hopen hcheck clock hpolls hearliest
      (patient_none _) (inTime_none _ _ _) (le_trans hk hi) with ⟨calls, _, _, heq⟩
    rcases gather_of_earliest settings hdistinct hopen hcheck clock' hpolls' hearliest'
      (patient_none _) (inTime_none _ _ _) (le_refl k') with ⟨calls', _, _, heq'⟩
    refine ⟨k', ?_⟩
    rw [heq, heq', hresponses]
    unfold collected
    dsimp only
    rw [follow_returned, follow_returned]
    exact ⟨rfl, rfl⟩
  · have hnot : forall i, i ≤ n ->
        ¬ collector.Satisfied requestIds (cacheAfter conn.cache replies i) := by
      intro i hi hsatisfied
      exact hnow ⟨i, hi, hsatisfied⟩
    rcases hsame.left n with ⟨n', hn'⟩
    have hnot' : forall i, i ≤ n' ->
        ¬ collector.Satisfied requestIds (cacheAfter conn.cache replies' i) := by
      intro i hi hsatisfied
      rcases hsame.right i with ⟨l, hl⟩
      have hsatisfied' : collector.Satisfied requestIds
          (cacheAfter conn.cache replies l) := by
        rw [cacheAfter, hl]
        exact hsatisfied
      rcases Nat.le_total l n with hle | hge
      · exact hnot l hle hsatisfied'
      · -- the responses are all there after `n` replies already
        have hto : responsesIn (replies.take l) <+: responsesIn (replies.take n) := by
          rw [hl, ← hn']
          exact responsesIn_prefix replies' hi
        have hfrom := responsesIn_prefix replies hge
        have heq : responsesIn (replies.take l) = responsesIn (replies.take n) :=
          hto.eq_of_length (le_antisymm hto.length_le hfrom.length_le)
        apply hnot n (le_refl n)
        rw [cacheAfter, ← heq]
        exact hsatisfied'
    rcases gather_of_not_satisfied settings hdistinct hopen hcheck clock hpolls hnot
      (patient_none _) (inTime_none _ _ _) with ⟨hending, hconn⟩
    rcases gather_of_not_satisfied settings hdistinct hopen hcheck clock' hpolls' hnot'
      (patient_none _) (inTime_none _ _ _) with ⟨hending', hconn'⟩
    refine ⟨n', ?_, ?_⟩
    · rw [hending, hending']
    · rw [hconn, hconn', hn']

/-- The collectors meet their specification and stop at the earliest moment: on
every open connection, for every list of distinct ids that the check accepts, and
every stream of 200s and 204s. -/
theorem collects_earliest (settings : Settings) (collector : Collector)
    (requestIds : List String) (conn : ClientConnection) (timeout : Option Int)
    (clock : Clock) (replies : Stream' Answer) (hdistinct : requestIds.Nodup)
    (hopen : conn.closed = false) (hcheck : collector.check requestIds = .ok ())
    (hpolls : forall n, (replies.get n).IsPoll) :
    -- at the earliest moment it returns what was asked for
    (forall k, Earliest collector requestIds conn.cache replies k ->
      Patient timeout (replies.take k) -> InTime timeout clock (replies.take k) k ->
        forall n, k ≤ n ->
          (conn.gather settings collector requestIds timeout clock replies
            n).calls.length = k ∧
          Polls conn.clientId
            (conn.gather settings collector requestIds timeout clock replies n).calls ∧
          (conn.gather settings collector requestIds timeout clock replies n).Collects
            requestIds (cacheAfter conn.cache replies k)) ∧
    -- without such a moment it never returns
    ((forall k, ¬ Earliest collector requestIds conn.cache replies k) ->
      (forall n, Patient timeout (replies.take n)) ->
      (forall n, InTime timeout clock (replies.take n) (n + 1)) ->
        forall n,
          (conn.gather settings collector requestIds timeout clock replies n).ending =
            none) ∧
    -- with a finite timeout an earlier 204 ends it, and nothing is removed
    (timeout ≠ none ->
      forall j, (forall k, Earliest collector requestIds conn.cache replies k -> j < k) ->
        (replies.get j).response? = none ->
        (forall i, i < j -> (replies.get i).response? ≠ none) ->
        InTime timeout clock (replies.take j) (j + 1) ->
          forall n, j < n ->
            (conn.gather settings collector requestIds timeout clock replies
              n).calls.length = j + 1 ∧
            Polls conn.clientId
              (conn.gather settings collector requestIds timeout clock replies
                n).calls ∧
            (conn.gather settings collector requestIds timeout clock replies
              n).ending = some (.error (.timeoutError
                "server queue empty within timeout")) ∧
            (conn.gather settings collector requestIds timeout clock replies
              n).connection.cache = cacheAfter conn.cache replies j) ∧
    -- without a timeout the 204s make no difference
    (timeout = none ->
      forall replies', (forall n, (replies'.get n).IsPoll) ->
        SameResponses replies replies' -> forall n, exists n',
          (conn.gather settings collector requestIds timeout clock replies'
              n').ending =
            (conn.gather settings collector requestIds timeout clock replies
              n).ending ∧
          (conn.gather settings collector requestIds timeout clock replies'
              n').connection =
            (conn.gather settings collector requestIds timeout clock replies
              n).connection) := by
  refine ⟨?_, ?_, ?_, ?_⟩
  · intro k hearliest hpatient htime n hle
    rcases gather_of_earliest settings hdistinct hopen hcheck clock hpolls hearliest
      hpatient htime hle with ⟨calls, hlength, hcalls, heq⟩
    rw [heq, calls_collected]
    refine ⟨hlength, hcalls, ?_⟩
    rw [cacheAfter, ← cache_cacheAll]
    exact collects_collected hdistinct _ calls
  · intro hnever hpatient htime n
    refine (gather_of_not_satisfied settings hdistinct hopen hcheck clock hpolls ?_
      (hpatient n) (htime n)).left
    intro i _ hsatisfied
    rcases exists_earliest hsatisfied with ⟨k, _, hearliest⟩
    exact hnever k hearliest
  · intro hfinite j hbefore hnone hresponses htime n hlt
    have hnot : forall i, i ≤ j ->
        ¬ collector.Satisfied requestIds (cacheAfter conn.cache replies i) := by
      intro i hi hsatisfied
      rcases exists_earliest hsatisfied with ⟨k, hk, hearliest⟩
      have hjk := hbefore k hearliest
      omega
    rcases gather_of_nothing settings hdistinct hopen hcheck clock hpolls hfinite hnot
      hnone hresponses htime hlt with ⟨calls, hlength, hcalls, heq⟩
    rw [heq]
    exact ⟨hlength, hcalls, rfl, cache_cacheAll _ _⟩
  · rintro rfl replies' hpolls' hsame n
    exact gather_of_sameResponses settings hdistinct hopen hcheck clock clock hpolls
      hpolls' hsame n

/-- A 200 with an id is a poll's answer, whatever the id is. -/
theorem isPoll_bringing (requestId : Bytes) (source : TaskId) :
    (Answer.bringing requestId source).IsPoll := rfl

theorem isPoll_nothing (source : TaskId) : (Answer.nothing source).IsPoll := rfl

def cachedOne : ClientConnection :=
  (ClientConnection.open "c" "t").cacheResponse ⟨"1", "text/plain", [], 9⟩

def mixedReplies : Stream' Answer
  | 0 => .bringing [55] 0
  | 1 => .nothing 1
  | 2 => .bringing [51] 2
  | 3 => .bringing [50] 3
  | n + 4 => .nothing (n + 4)

theorem isPoll_mixedReplies (n : Nat) : (mixedReplies.get n).IsPoll := by
  match n with
  | 0 => exact isPoll_bringing _ _
  | 1 => exact isPoll_nothing _
  | 2 => exact isPoll_bringing _ _
  | 3 => exact isPoll_bringing _ _
  | n + 4 => exact isPoll_nothing _

theorem earliest_mixedReplies :
    Earliest .all ["1", "2", "3"] cachedOne.cache mixedReplies 4 where
  satisfied := (Collector.isDone_iff (by decide) _).mp (by decide +kernel)
  least := by
    have hquiet : forall j, j < 4 -> Collector.all.isDone (Wanted.ofList ["1", "2", "3"])
        (cacheAfter cachedOne.cache mixedReplies j) = false := by
      decide +kernel
    intro j hj hsatisfied
    have hdone := (Collector.isDone_iff (by decide) _).mpr hsatisfied
    rw [hquiet j hj] at hdone
    cases hdone

/-- Three responses are asked for, one of which is cached: without a timeout they are
there after four polls, with one the 204 ends the operation after two. -/
theorem collects_earliest_mixed :
    ((cachedOne.gather Settings.default .all ["1", "2", "3"] none (Clock.constant 0)
        mixedReplies 6).calls.length = 4 ∧
      Polls "c" (cachedOne.gather Settings.default .all ["1", "2", "3"] none
        (Clock.constant 0) mixedReplies 6).calls ∧
      (cachedOne.gather Settings.default .all ["1", "2", "3"] none (Clock.constant 0)
        mixedReplies 6).Collects ["1", "2", "3"]
          (cacheAfter cachedOne.cache mixedReplies 4)) ∧
    (cachedOne.gather Settings.default .all ["1", "2", "3"] (some 5) (Clock.constant 0)
        mixedReplies 6).calls.length = 2 ∧
      (cachedOne.gather Settings.default .all ["1", "2", "3"] (some 5) (Clock.constant 0)
        mixedReplies 6).connection.cache = cacheAfter cachedOne.cache mixedReplies 1 := by
  have hends := fun timeout => collects_earliest Settings.default .all ["1", "2", "3"]
    cachedOne timeout (Clock.constant 0) mixedReplies (by decide) rfl rfl
    isPoll_mixedReplies
  constructor
  · exact (hends none).left 4 earliest_mixedReplies (patient_none _) (inTime_none _ _ _) 6
      (by decide)
  · have hlate := (hends (some 5)).right.right.left
    have hends' := hlate (by simp) 1 ?_ rfl ?_ ?_ 6 (by decide)
    · exact ⟨hends'.left, hends'.right.right.right⟩
    · intro k hk
      by_contra hle
      have hlt : k < 4 := by omega
      exact earliest_mixedReplies.least k hlt hk.satisfied
    · intro i hi hnone
      have hzero : i = 0 := by omega
      subst hzero
      cases hnone
    · intro time htime deadline hdeadline
      have hnow : time = 0 := by
        rcases List.mem_cons.mp htime with h | h
        · exact h
        · exact List.mem_singleton.mp h
      cases hdeadline
      rw [hnow]
      decide +kernel

/-- The condition of `get_all_responses()` is met from the start, but the call is
refused. -/
theorem collects_nothing_refused :
    ([] : List String).Nodup ∧ (ClientConnection.open "c" "t").closed = false ∧
      (forall n, ((Stream'.const (.nothing 0)).get n : Answer).IsPoll) ∧
      Earliest .all [] (ClientConnection.open "c" "t").cache
        (Stream'.const (.nothing 0)) 0 ∧
      ¬ ((ClientConnection.open "c" "t").gather Settings.default .all [] none
        (Clock.constant 0) (Stream'.const (.nothing 0)) 0).Collects []
          (cacheAfter Dict.empty (Stream'.const (.nothing 0)) 0) := by
  refine ⟨List.nodup_nil, rfl, fun _ => isPoll_nothing 0, ⟨?_, ?_⟩, ?_⟩
  · intro requestId h
    cases h
  · intro j hj
    exact absurd hj (Nat.not_lt_zero j)
  · rintro ⟨out, hprogress, _⟩
    cases hprogress

end ClientConnection

end Client
end Pype
