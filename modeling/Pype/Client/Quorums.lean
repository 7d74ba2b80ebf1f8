import Pype.Client.Gathering

/-!
# Quorums

`get_response_quorum` checks its bound against the list of ids and counts on the
set made from it, so a list with repeated ids can ask for more than can ever be
counted.
-/

namespace Pype
namespace Client

open Foundation Server

namespace ClientConnection

/-- A response for the id is cached, or it comes in before any poll fails. -/
def Arrives (cache : Dict String ServiceResponse) (replies : Stream' Answer)
    (requestId : String) : Prop :=
  (cache.get? requestId).isSome = true ∨
    exists i r, (replies.get i).response? = some r ∧ r.requestId = requestId ∧
      forall j, j < i -> (replies.get j).IsPoll

theorem isPoll_of_response {answer : Answer} {r : ServiceResponse}
    (h : answer.response? = some r) : answer.IsPoll := by
  unfold Answer.response? at h
  unfold Answer.IsPoll
  split at h
  · rename_i response hpolled
    rw [hpolled, Answer.response?, hpolled]
  · cases h

theorem exists_cached_of_arrives {cache : Dict String ServiceResponse}
    {replies : Stream' Answer} (requestIds : List String)
    (harrives : forall requestId, requestId ∈ requestIds ->
      Arrives cache replies requestId) :
    exists n, (forall i, i < n -> (replies.get i).IsPoll) ∧
      forall requestId, requestId ∈ requestIds ->
        ((cacheAfter cache replies n).get? requestId).isSome = true := by
  induction requestIds with
  | nil =>
      refine ⟨0, ?_, ?_⟩
      · intro i hi
        exact absurd hi (Nat.not_lt_zero i)
      · intro requestId h
        cases h
  | cons requestId rest ih =>
      have hrest := ih fun key hkey => harrives key (List.mem_cons_of_mem _ hkey)
      rcases hrest with ⟨n, hpolls, hcached⟩
      have hlater : forall m key, n ≤ m -> key ∈ rest ->
          ((cacheAfter cache replies m).get? key).isSome = true := by
        intro m key hle hkey
        rcases responsesIn_prefix replies hle with ⟨more, hmore⟩
        rw [cacheAfter, ← hmore, extended_append]
        exact isSome_get?_extended more (hcached key hkey)
      rcases harrives requestId List.mem_cons_self with hnow | ⟨i, r, hr, hid, hbefore⟩
      · refine ⟨n, hpolls, ?_⟩
        intro key hkey
        rcases List.mem_cons.mp hkey with rfl | hkey
        · exact isSome_get?_extended _ hnow
        · exact hcached key hkey
      · refine ⟨max n (i + 1), ?_, ?_⟩
        · intro j hj
          rcases Nat.lt_or_ge j n with hlt | hge
          · exact hpolls j hlt
          · rcases Nat.lt_or_eq_of_le (show j ≤ i by omega) with hlt | rfl
            · exact hbefore j hlt
            · exact isPoll_of_response hr
        · intro key hkey
          rcases List.mem_cons.mp hkey with rfl | hkey
          · have hmem : r ∈ responsesIn (replies.take (i + 1)) := by
              rw [Stream'.take_succ', responsesIn_append,
                responsesIn_cons_of_some hr]
              exact List.mem_append_right _ List.mem_cons_self
            rcases responsesIn_prefix replies (le_max_right n (i + 1)) with
              ⟨more, hmore⟩
            rw [← hid, cacheAfter, ← hmore, extended_append]
            exact isSome_get?_extended more (isSome_get?_of_mem hmem cache)
          · exact hlater _ key (le_max_left _ _) hkey

theorem follow_never_done {settings : Settings} {collector : Collector}
    {wanted : Wanted} {infinite : Bool} {deadline : Option Time}
    (hnever : forall cache, collector.isDone wanted cache = false)
    (answers : List Answer) :
    forall (conn : ClientConnection) (now : Time) (value : Returned),
      (follow settings answers
        (conn.collectLoop settings collector wanted infinite deadline
          now)).progress ≠ .returned value := by
  induction answers with
  | nil =>
      intro conn now value h
      unfold collectLoop at h
      rcases pollOne_cases settings (remainingMs deadline now)
        (.collect collector wanted infinite deadline) conn with
        ⟨_, heq⟩ | ⟨_, _, _, heq⟩
      · rw [heq] at h
        cases h
      · rw [heq] at h
        cases h
  | cons answer rest ih =>
      intro conn now value h
      unfold collectLoop at h
      rcases pollOne_cases settings (remainingMs deadline now)
        (.collect collector wanted infinite deadline) conn with
        ⟨_, heq⟩ | ⟨_, _, _, heq⟩
      · rw [heq, follow_cons] at h
        simp only [resume, collectPolled, Invocation.after] at h
        cases hpolled : polled answer.outcome answer.source with
        | error e =>
            simp only [hpolled, follow_raised] at h
            cases h
        | ok response =>
            rw [hpolled] at h
            cases response with
            | none =>
                cases infinite with
                | true => exact ih conn _ value h
                | false =>
                    simp only [Bool.not_false, if_true, follow_raised] at h
                    cases h
            | some r =>
                dsimp only at h
                rw [hnever, if_neg Bool.false_ne_true] at h
                exact ih _ _ value h
      · rw [heq, follow_raised] at h
        cases h

theorem countP_wanted_le {requestIds : List String} (p : String -> Bool) :
    (Wanted.ofList requestIds).ids.countP p ≤ requestIds.length :=
  le_trans List.countP_le_length (List.dedup_sublist requestIds).length_le

theorem size_popMatching_empty (wanted : Wanted) (conn : ClientConnection) :
    (conn.popMatching wanted.ids Dict.empty).2.size =
      wanted.ids.countP fun requestId => (conn.cache.get? requestId).isSome := by
  rw [size_popMatching wanted.nodup fun _ _ => Dict.get?_empty _]
  exact Nat.zero_add _

/-- A quorum that the check accepts is reached exactly if there are that many
different ids: it is counted on the set of the ids. -/
theorem quorum_reached_iff (settings : Settings) (quorum : Int)
    (requestIds : List String) (conn : ClientConnection) (clock : Clock)
    (replies : Stream' Answer) (hopen : conn.closed = false)
    (hcheck : Collector.check (.quorum quorum) requestIds = .ok ())
    (harrives : forall requestId, requestId ∈ requestIds ->
      Arrives conn.cache replies requestId) :
    (exists n out,
      (conn.gather settings (.quorum quorum) requestIds none clock replies
        n).progress = .returned (.responses out) ∧
      quorum ≤ (out.size : Int) ∧ out.size ≤ requestIds.length) <->
    quorum ≤ (requestIds.dedup.length : Int) := by
  constructor
  · rintro ⟨n, out, hprogress, _, _⟩
    by_contra hmany
    have hnever : forall cache,
        Collector.isDone (.quorum quorum) (Wanted.ofList requestIds) cache = false := by
      intro cache
      simp only [Collector.isDone, decide_eq_false_iff_not]
      intro hle
      apply hmany
      apply le_trans hle
      exact_mod_cast List.countP_le_length
    have hstart : conn.start settings (.collect (.quorum quorum) requestIds none)
        clock = conn.collectLoop settings (.quorum quorum) (Wanted.ofList requestIds)
          true none (clock.reading 1) := by
      simp only [start, collect, ensureOpen, hopen, hcheck, hnever]
      rfl
    rw [gather, invoke, hstart] at hprogress
    exact follow_never_done hnever _ _ _ _ hprogress
  · intro hfew
    rcases exists_cached_of_arrives requestIds harrives with ⟨n, hpolls, hcached⟩
    have hall : Collector.isDone (.quorum quorum) (Wanted.ofList requestIds)
        (cacheAfter conn.cache replies n) = true := by
      have hcount : (Wanted.ofList requestIds).ids.countP (fun requestId =>
          ((cacheAfter conn.cache replies n).get? requestId).isSome) =
            requestIds.dedup.length := by
        apply List.countP_eq_length.mpr
        intro requestId hmem
        exact hcached requestId (List.mem_dedup.mp hmem)
      simp only [Collector.isDone, hcount, decide_eq_true_iff]
      exact hfew
    rcases exists_doneAfter hall with ⟨k, hdone⟩
    have hinvoke : exists calls, calls.length = k ∧ Polls conn.clientId calls ∧
        conn.gather settings (.quorum quorum) requestIds none clock replies n =
          (follow settings ((replies.take n).drop k)
            (collected (Wanted.ofList requestIds)
              (conn.cacheAll (responsesIn ((replies.take n).take k))))).after
            calls := by
      apply invoke_of_doneAfter settings none clock hopen hcheck hdone
      · intro answer hanswer
        rcases mem_take (List.mem_of_mem_take hanswer) with ⟨i, hi, rfl⟩
        exact hpolls i hi
      · exact patient_none _
      · exact inTime_none _ _ _
    rcases hinvoke with ⟨calls, _, _, heq⟩
    unfold collected at heq
    dsimp only at heq
    rw [follow_returned] at heq
    have hreached := hdone.isDone
    rw [← cache_cacheAll] at hreached
    simp only [Collector.isDone, decide_eq_true_iff] at hreached
    refine ⟨n, _, congrArg Invocation.progress heq, ?_, ?_⟩
    · rw [size_popMatching_empty]
      exact hreached
    · rw [size_popMatching_empty]
      exact countP_wanted_le _

/-- One response is enough for a quorum of one. -/
theorem quorum_reached_two :
    (exists n out,
      ((ClientConnection.open "c" "t").gather Settings.default (.quorum 1) ["1", "1"]
        none (Clock.constant 0) (Stream'.const (.bringing [49] 0)) n).progress =
          .returned (.responses out) ∧
      1 ≤ (out.size : Int) ∧ out.size ≤ ["1", "1"].length) :=
  (quorum_reached_iff Settings.default 1 ["1", "1"] (ClientConnection.open "c" "t")
    (Clock.constant 0) (Stream'.const (.bringing [49] 0)) rfl rfl
    (by
      intro requestId hmem
      refine Or.inr ⟨0, _, rfl, ?_, ?_⟩
      · have hone : requestId = "1" := by simpa using hmem
        rw [hone]
        decide +kernel
      · intro j hj
        exact absurd hj (Nat.not_lt_zero j))).mpr (by decide)

/-- A quorum of two for one id that is listed twice is accepted, and never reached,
although the response arrives. -/
theorem quorum_of_repeated_never_reached :
    Collector.check (.quorum 2) ["1", "1"] = .ok () ∧
      (forall requestId, requestId ∈ ["1", "1"] ->
        Arrives (ClientConnection.open "c" "t").cache
          (Stream'.const (.bringing [49] 0)) requestId) ∧
      ¬ exists n out,
        ((ClientConnection.open "c" "t").gather Settings.default (.quorum 2) ["1", "1"]
          none (Clock.constant 0) (Stream'.const (.bringing [49] 0)) n).progress =
            .returned (.responses out) ∧
        2 ≤ (out.size : Int) ∧ out.size ≤ ["1", "1"].length := by
  refine ⟨rfl, ?_, ?_⟩
  · intro requestId hmem
    refine Or.inr ⟨0, _, rfl, ?_, ?_⟩
    · have hone : requestId = "1" := by simpa using hmem
      rw [hone]
      decide +kernel
    · intro j hj
      exact absurd hj (Nat.not_lt_zero j)
  · rintro ⟨n, out, hprogress, _, _⟩
    have hnever : forall cache : Dict String ServiceResponse,
        Collector.isDone (.quorum 2) (Wanted.ofList ["1", "1"]) cache = false := by
      intro cache
      have hids : (Wanted.ofList ["1", "1"]).ids = ["1"] := by decide
      simp only [Collector.isDone, hids, decide_eq_false_iff_not]
      have hle : ["1"].countP (fun requestId => (cache.get? requestId).isSome) ≤ 1 :=
        List.countP_le_length
      omega
    have hstart : (ClientConnection.open "c" "t").start Settings.default
        (.collect (.quorum 2) ["1", "1"] none) (Clock.constant 0) =
          (ClientConnection.open "c" "t").collectLoop Settings.default (.quorum 2)
            (Wanted.ofList ["1", "1"]) true none 0 := rfl
    rw [gather, invoke, hstart] at hprogress
    exact follow_never_done hnever _ _ _ _ hprogress

end ClientConnection

end Client
end Pype
