import Pype.Client.Invocation

/-!
# The two polling loops

`get_response` has a loop of its own: it returns a match without caching it.  The
collectors share another: it caches every response, tests a predicate and pops.
On one id both make the same calls, end in the same way and leave the same
connection behind, whatever the answers are.
-/

namespace Pype
namespace Client

open Foundation Server

/-- Two invocations make the same calls, leave the same connection and the same
answers, and end with the same exception or with values that look the same. -/
structure Invocation.SameOn {view : Type} (see : Returned -> view)
    (i j : Invocation) : Prop where
  calls : i.calls = j.calls
  connection : i.connection = j.connection
  unused : i.unused = j.unused
  ending : i.ending.map (fun e => e.map see) = j.ending.map (fun e => e.map see)

variable {settings : Settings} {conn : ClientConnection} {view : Type}
  {see : Returned -> view}

theorem Invocation.SameOn.after {i j : Invocation} (h : i.SameOn see j)
    (calls : List HttpCall) : (i.after calls).SameOn see (j.after calls) where
  calls := congrArg (calls ++ ·) h.calls
  connection := h.connection
  unused := h.unused
  ending := h.ending

namespace ClientConnection

theorem sameOn_raised (answers : List Answer) (error : PypeError) :
    (follow settings answers (conn, .raised error)).SameOn see
      (follow settings answers (conn, .raised error)) where
  calls := rfl
  connection := rfl
  unused := rfl
  ending := rfl

theorem sameOn_returned (answers : List Answer) {value value' : Returned}
    (h : see value = see value') :
    (follow settings answers (conn, .returned value)).SameOn see
      (follow settings answers (conn, .returned value')) where
  calls := by simp
  connection := by simp
  unused := by simp
  ending := by simp [Invocation.ending, Except.map, h]

theorem sameOn_poll {remaining : Option Int} {frame frame' : Frame}
    (answers : List Answer)
    (hresume : forall answer rest, answers = answer :: rest ->
      (follow settings rest
        (conn.resume settings frame answer.outcome answer.source
          answer.clock)).SameOn see
        (follow settings rest
          (conn.resume settings frame' answer.outcome answer.source answer.clock))) :
    (follow settings answers
      (conn, conn.pollOne settings remaining frame)).SameOn see
        (follow settings answers
          (conn, conn.pollOne settings remaining frame')) := by
  rcases pollOne_cases settings remaining frame conn with
    ⟨hnonneg, hpoll⟩ | ⟨ms, hms, hneg, hpoll⟩
  · rw [hpoll, pollOne_of_nonneg hnonneg]
    cases answers with
    | nil => exact ⟨rfl, rfl, rfl, rfl⟩
    | cons answer rest =>
        rw [follow_cons, follow_cons]
        exact (hresume answer rest rfl).after _
  · rcases pollOne_cases settings remaining frame' conn with
      ⟨hnonneg, _⟩ | ⟨_, _, _, hpoll'⟩
    · exact absurd (hnonneg ms hms) (not_le.mpr hneg)
    · rw [hpoll, hpoll']
      exact sameOn_raised answers _

/-!
## `get_response` and a collector of one id
-/

/-- On one id, the collector asks whether it is cached. -/
def Single (collector : Collector) (requestId : String) : Prop :=
  forall cache : Dict String ServiceResponse,
    collector.isDone (Wanted.ofList [requestId]) cache =
      (cache.get? requestId).isSome

theorem single_any (requestId : String) : Single .any requestId := by
  intro cache
  simp [Collector.isDone, Wanted.ofList]

theorem single_all (requestId : String) : Single .all requestId := by
  intro cache
  simp [Collector.isDone, Wanted.ofList]

theorem single_quorum (requestId : String) : Single (.quorum 1) requestId := by
  intro cache
  cases h : (cache.get? requestId).isSome with
  | true => simp [Collector.isDone, Wanted.ofList, h]
  | false => simp [Collector.isDone, Wanted.ofList, h]

theorem collected_single {requestId : String} {r : ServiceResponse}
    (hget : conn.cache.get? requestId = some r) :
    collected (Wanted.ofList [requestId]) conn =
      (conn.popResponse requestId,
        .returned (.responses (Dict.empty.set requestId r))) := by
  have hids : (Wanted.ofList [requestId]).ids = [requestId] := by
    simp [Wanted.ofList]
  simp only [collected, hids, popMatching, hget]

/-- Caching a new response and popping it leaves no trace. -/
theorem popResponse_cacheResponse {r : ServiceResponse}
    (hnone : conn.cache.get? r.requestId = none) :
    (conn.cacheResponse r).popResponse r.requestId = conn := by
  unfold cacheResponse popResponse
  dsimp only
  rw [hnone, Dict.erase_set_of_get?_eq_none r hnone, List.append_nil]

theorem sameOn_loops {collector : Collector} {requestId : String}
    (hsingle : Single collector requestId) (infinite : Bool)
    (deadline : Option Time) (answers : List Answer) :
    forall (conn : ClientConnection) (now : Time),
      conn.cache.get? requestId = none ->
        (follow settings answers
          (conn.getResponseLoop settings requestId infinite deadline now)).SameOn
            (Returned.item requestId)
          (follow settings answers
            (conn.collectLoop settings collector (Wanted.ofList [requestId])
              infinite deadline now)) := by
  induction answers with
  | nil =>
      intro conn now _
      apply sameOn_poll
      intro answer rest h
      cases h
  | cons answer rest ih =>
      intro conn now hnone
      apply sameOn_poll
      intro answer' rest' h
      cases h
      simp only [resume, getResponsePolled, collectPolled]
      cases hpolled : polled answer.outcome answer.source with
      | error e => exact sameOn_raised rest e
      | ok response =>
          cases response with
          | none =>
              cases infinite with
              | true => exact ih conn _ hnone
              | false => exact sameOn_raised rest _
          | some r =>
              dsimp only
              by_cases hid : r.requestId = requestId
              · -- `get_response` returns the match; the collector caches and pops it
                subst hid
                have hnone' : (conn.note (.received r)).cache.get? r.requestId = none :=
                  hnone
                have hcached : ((conn.note (.received r)).cacheResponse r).cache.get?
                    r.requestId = some r := Dict.get?_set_self _ _ _
                rw [if_pos rfl, hsingle, hcached, Option.isSome_some, if_pos rfl,
                  collected_single hcached, popResponse_cacheResponse hnone']
                apply sameOn_returned
                simp [Returned.item]
              · have hnone' : ((conn.note (.received r)).cacheResponse r).cache.get?
                    requestId = none := by
                  change (conn.cache.set r.requestId r).get? requestId = none
                  rw [Dict.get?_set_of_ne _ _ hid]
                  exact hnone
                rw [if_neg hid, hsingle, hnone', Option.isSome_none]
                exact ih _ _ hnone'

theorem sameOn_getResponse {collector : Collector} {requestId : String}
    (hsingle : Single collector requestId)
    (hcheck : collector.check [requestId] = .ok ()) (settings : Settings)
    (timeout : Option Int) (clock : Clock) (answers : List Answer)
    (conn : ClientConnection) :
    (conn.invoke settings (.getResponse requestId timeout) clock answers).SameOn
      (Returned.item requestId)
      (conn.invoke settings (.collect collector [requestId] timeout) clock
        answers) := by
  simp only [invoke, start, getResponse, collect, hcheck]
  cases conn.ensureOpen with
  | error e => exact sameOn_raised answers e
  | ok _ =>
      dsimp only
      rw [hsingle]
      cases hget : conn.cache.get? requestId with
      | none => exact sameOn_loops hsingle _ _ answers conn _ hget
      | some r =>
          dsimp only
          rw [Option.isSome_some, if_pos rfl, collected_single hget]
          apply sameOn_returned
          simp [Returned.item]

/-!
## Collectors that ask the same
-/

/-- Two collectors that ask the same of every cache. -/
def Equivalent (collector collector' : Collector) (wanted : Wanted) : Prop :=
  forall cache : Dict String ServiceResponse,
    collector.isDone wanted cache = collector'.isDone wanted cache

theorem equivalent_any (wanted : Wanted) :
    Equivalent .any (.quorum 1) wanted := by
  intro cache
  simp only [Collector.isDone]
  rw [Bool.eq_iff_iff, List.any_eq_true, decide_eq_true_iff]
  norm_cast
  rw [Nat.one_le_iff_ne_zero, ← Nat.pos_iff_ne_zero, List.countP_pos_iff]

theorem equivalent_all (wanted : Wanted) :
    Equivalent .all (.quorum wanted.ids.length) wanted := by
  intro cache
  simp only [Collector.isDone]
  rw [Bool.eq_iff_iff, List.all_eq_true, decide_eq_true_iff, Nat.cast_le]
  rw [← List.countP_eq_length]
  constructor
  · intro h
    exact h.ge
  · intro h
    exact le_antisymm List.countP_le_length h

theorem sameOn_collectLoop {collector collector' : Collector} {wanted : Wanted}
    (hequivalent : Equivalent collector collector' wanted) (infinite : Bool)
    (deadline : Option Time) (answers : List Answer) :
    forall (conn : ClientConnection) (now : Time),
      (follow settings answers
        (conn.collectLoop settings collector wanted infinite deadline now)).SameOn see
        (follow settings answers
          (conn.collectLoop settings collector' wanted infinite deadline now)) := by
  induction answers with
  | nil =>
      intro conn now
      apply sameOn_poll
      intro answer rest h
      cases h
  | cons answer rest ih =>
      intro conn now
      apply sameOn_poll
      intro answer' rest' h
      cases h
      simp only [resume, collectPolled]
      cases hpolled : polled answer.outcome answer.source with
      | error e => exact sameOn_raised rest e
      | ok response =>
          cases response with
          | none =>
              cases infinite with
              | true => exact ih conn _
              | false => exact sameOn_raised rest _
          | some r =>
              dsimp only
              rw [hequivalent]
              split
              · exact sameOn_returned rest rfl
              · exact ih _ _

theorem sameOn_collect {collector collector' : Collector} {requestIds : List String}
    (hequivalent : Equivalent collector collector' (Wanted.ofList requestIds))
    (hcheck : collector.check requestIds = collector'.check requestIds)
    (settings : Settings) (timeout : Option Int) (clock : Clock)
    (answers : List Answer) (conn : ClientConnection) :
    (conn.invoke settings (.collect collector requestIds timeout) clock
      answers).SameOn see
      (conn.invoke settings (.collect collector' requestIds timeout) clock
        answers) := by
  simp only [invoke, start, collect, hcheck]
  cases conn.ensureOpen with
  | error e => exact sameOn_raised answers e
  | ok _ =>
      dsimp only
      cases collector'.check requestIds with
      | error e => exact sameOn_raised answers e
      | ok _ =>
          dsimp only
          rw [hequivalent]
          split
          · exact sameOn_returned answers rfl
          · exact sameOn_collectLoop hequivalent _ _ answers conn _

theorem check_any (requestIds : List String) :
    Collector.check .any requestIds = Collector.check (.quorum 1) requestIds := by
  unfold Collector.check
  split
  · rfl
  · rename_i hne
    have hlength : 0 < requestIds.length := List.length_pos_iff.mpr hne
    dsimp only
    rw [if_neg (by omega)]

theorem check_all (requestIds : List String) :
    Collector.check .all requestIds =
      Collector.check (.quorum requestIds.length) requestIds := by
  unfold Collector.check
  split
  · rfl
  · rename_i hne
    have hlength : 0 < requestIds.length := List.length_pos_iff.mpr hne
    dsimp only
    rw [if_neg (by omega)]

/-- The separate loop of `get_response` agrees with the shared one, and the
collectors with the quorums that they stand for, on every list of answers: in the
calls they make, in how they end, in the connection they leave and in the answers
they leave. -/
theorem loops_agree (settings : Settings) (timeout : Option Int) (clock : Clock)
    (answers : List Answer) (conn : ClientConnection) (requestId : String)
    (requestIds : List String) (hdistinct : requestIds.Nodup) :
    ((conn.invoke settings (.getResponse requestId timeout) clock answers).SameOn
        (Returned.item requestId)
        (conn.invoke settings (.collect .any [requestId] timeout) clock answers) ∧
      (conn.invoke settings (.getResponse requestId timeout) clock answers).SameOn
        (Returned.item requestId)
        (conn.invoke settings (.collect .all [requestId] timeout) clock answers) ∧
      (conn.invoke settings (.getResponse requestId timeout) clock answers).SameOn
        (Returned.item requestId)
        (conn.invoke settings (.collect (.quorum 1) [requestId] timeout) clock
          answers)) ∧
    (conn.invoke settings (.collect .any requestIds timeout) clock answers).SameOn id
      (conn.invoke settings (.collect (.quorum 1) requestIds timeout) clock
        answers) ∧
    (conn.invoke settings (.collect .all requestIds timeout) clock answers).SameOn id
      (conn.invoke settings (.collect (.quorum requestIds.length) requestIds timeout)
        clock answers) := by
  refine ⟨⟨?_, ?_, ?_⟩, ?_, ?_⟩
  · exact sameOn_getResponse (single_any requestId) rfl _ _ _ _ _
  · exact sameOn_getResponse (single_all requestId) rfl _ _ _ _ _
  · exact sameOn_getResponse (single_quorum requestId) rfl _ _ _ _ _
  · exact sameOn_collect (equivalent_any _) (check_any requestIds) _ _ _ _ _
  · have hlength : (Wanted.ofList requestIds).ids.length = requestIds.length :=
      congrArg List.length (List.Nodup.dedup hdistinct)
    refine sameOn_collect ?_ (check_all requestIds) _ _ _ _ _
    rw [← hlength]
    exact equivalent_all _

/-- The loops on a response to another request, a 204 and the awaited response. -/
theorem loops_agree_scattered :
    ((ClientConnection.open "c" "t").invoke Settings.default
        (.collect .all ["1", "2"] none) (Clock.constant 0)
        [.bringing [50] 0, .nothing 1, .bringing [49] 2]).SameOn id
      ((ClientConnection.open "c" "t").invoke Settings.default
        (.collect (.quorum 2) ["1", "2"] none) (Clock.constant 0)
        [.bringing [50] 0, .nothing 1, .bringing [49] 2]) :=
  (loops_agree Settings.default none (Clock.constant 0)
    [.bringing [50] 0, .nothing 1, .bringing [49] 2] (ClientConnection.open "c" "t")
    "1" ["1", "2"] (by decide)).right.right

end ClientConnection

end Client
end Pype
