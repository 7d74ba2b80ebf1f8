import Pype.Client.Loops
import Pype.Client.Gathering

/-!
# Splitting a gathering

The responses to some requests can be gathered with one `get_all_responses`, with
a `get_response` for each of them in any order, or with `get_any_responses` on what
is still missing, again and again.  When no id occurs twice, the result, the
replies consumed and what stays cached are the same each time, and the order in
which the replies come in does not matter to the result.
-/

namespace Pype
namespace Client

open Foundation Server

structure Gathered where
  out : Dict String ServiceResponse
  connection : ClientConnection
  unused : List Answer

/-- The same responses, the same cache and the same replies left. -/
structure Gathered.Same (g g' : Gathered) : Prop where
  out : forall requestId, g.out.get? requestId = g'.out.get? requestId
  cache : forall requestId,
    g.connection.cache.get? requestId = g'.connection.cache.get? requestId
  unused : g.unused = g'.unused

def Invocation.responses? (i : Invocation) : Option (Dict String ServiceResponse) :=
  match i.progress with
  | .returned (.responses out) => some out
  | _ => none

def Invocation.item? (requestId : String) (i : Invocation) :
    Option ServiceResponse :=
  match i.progress with
  | .returned value => value.item requestId
  | _ => none

namespace ClientConnection

/-- One `get_all_responses`. -/
def gatherAll (settings : Settings) (clock : Clock) (ids : List String)
    (conn : ClientConnection) (answers : List Answer) : Option Gathered :=
  let i := conn.invoke settings (.collect .all ids none) clock answers
  i.responses?.map fun out => ⟨out, i.connection, i.unused⟩

/-- A `get_response` for each id in turn. -/
def gatherEach (settings : Settings) :
    List (String × Clock) -> Gathered -> Option Gathered
  | [], g => some g
  | (requestId, clock) :: rest, g =>
      let i := g.connection.invoke settings (.getResponse requestId none) clock g.unused
      match i.item? requestId with
      | none => none
      | some r => gatherEach settings rest
          ⟨g.out.set requestId r, i.connection, i.unused⟩

/-- `get_any_responses` on the ids not yet returned until none remain, with what
each call returned; one clock is needed for each call. -/
def gatherAny (settings : Settings) :
    List Clock -> List String -> Gathered ->
      Option (List (Dict String ServiceResponse) × Gathered)
  | _, [], g => some ([], g)
  | [], _ :: _, _ => none
  | clock :: clocks, requestId :: rest, g =>
      let ids := requestId :: rest
      let i := g.connection.invoke settings (.collect .any ids none) clock g.unused
      match i.responses? with
      | none => none
      | some found =>
          (gatherAny settings clocks
            (ids.filter fun requestId => (found.get? requestId).isNone)
            ⟨g.out.update found, i.connection, i.unused⟩).map fun result =>
              (found :: result.1, result.2)

end ClientConnection

/-!
## Caches without repetitions
-/

theorem get?_extended_congr {requestId : String} (responses : List ServiceResponse) :
    forall {cache cache' : Dict String ServiceResponse},
      cache.get? requestId = cache'.get? requestId ->
        (extended cache responses).get? requestId =
          (extended cache' responses).get? requestId := by
  induction responses with
  | nil =>
      intro cache cache' h
      exact h
  | cons r rest ih =>
      intro cache cache' h
      apply ih
      rw [Dict.get?_set, Dict.get?_set, h]

theorem get?_extended_of_not_mem {requestId : String}
    (responses : List ServiceResponse) :
    forall cache : Dict String ServiceResponse,
      requestId ∉ responses.map ServiceResponse.requestId ->
        (extended cache responses).get? requestId = cache.get? requestId := by
  induction responses with
  | nil =>
      intro cache _
      rfl
  | cons r rest ih =>
      intro cache h
      rw [List.map_cons, List.mem_cons, not_or] at h
      have hcache := ih (cache.set r.requestId r) h.right
      rw [Dict.get?_set_of_ne _ _ (Ne.symm h.left)] at hcache
      exact hcache

theorem get?_extended_of_mem {r : ServiceResponse} {responses : List ServiceResponse}
    (h : r ∈ responses)
    (hdistinct : (responses.map ServiceResponse.requestId).Nodup)
    (cache : Dict String ServiceResponse) :
    (extended cache responses).get? r.requestId = some r := by
  rcases List.append_of_mem h with ⟨before, after, rfl⟩
  have hafter : r.requestId ∉ after.map ServiceResponse.requestId := by
    rw [List.map_append, List.map_cons] at hdistinct
    exact (List.nodup_cons.mp (List.nodup_append.mp hdistinct).right.left).left
  rw [extended_append]
  change (extended ((extended cache before).set r.requestId r) after).get? _ = _
  rw [get?_extended_of_not_mem after _ hafter, Dict.get?_set_self]

/-- The order in which distinct responses come in does not matter. -/
theorem get?_extended_perm {responses responses' : List ServiceResponse}
    (hperm : responses.Perm responses')
    (hdistinct : (responses.map ServiceResponse.requestId).Nodup)
    (cache : Dict String ServiceResponse) (requestId : String) :
    (extended cache responses).get? requestId =
      (extended cache responses').get? requestId := by
  have hids := hperm.map ServiceResponse.requestId
  by_cases hmem : requestId ∈ responses.map ServiceResponse.requestId
  · rcases List.mem_map.mp hmem with ⟨r, hr, rfl⟩
    rw [get?_extended_of_mem hr hdistinct,
      get?_extended_of_mem (hperm.mem_iff.mp hr) (hids.nodup_iff.mp hdistinct)]
  · rw [get?_extended_of_not_mem _ _ hmem,
      get?_extended_of_not_mem _ _ (fun h => hmem (hids.mem_iff.mpr h))]

theorem isSome_get?_extended_iff {requestId : String}
    (responses : List ServiceResponse) (cache : Dict String ServiceResponse) :
    ((extended cache responses).get? requestId).isSome = true <->
      requestId ∈ cache.keys ++ responses.map ServiceResponse.requestId := by
  rw [List.mem_append]
  constructor
  · intro h
    by_cases hmem : requestId ∈ responses.map ServiceResponse.requestId
    · exact Or.inr hmem
    · rw [get?_extended_of_not_mem _ _ hmem] at h
      rcases Option.isSome_iff_exists.mp h with ⟨r, hr⟩
      exact Or.inl (Dict.mem_keys_of_get? hr)
  · rintro (h | h)
    · rcases Dict.exists_get?_of_mem_keys h with ⟨r, hr⟩
      apply isSome_get?_extended
      rw [hr]
      rfl
    · rcases List.mem_map.mp h with ⟨r, hr, rfl⟩
      exact isSome_get?_of_mem hr cache

/-!
## How far a gathering got
-/

def cachedBy (cache : Dict String ServiceResponse) (answers : List Answer) (n : Nat) :
    Dict String ServiceResponse :=
  extended cache (responsesIn (answers.take n))

theorem cachedBy_add (cache : Dict String ServiceResponse) (answers : List Answer)
    (m n : Nat) :
    cachedBy cache answers (m + n) =
      extended (cachedBy cache answers m) (responsesIn ((answers.drop m).take n)) := by
  rw [cachedBy, List.take_add, responsesIn_append, extended_append]
  rfl

def NoRepeats (cache : Dict String ServiceResponse) (answers : List Answer) : Prop :=
  (cache.keys ++ (responsesIn answers).map ServiceResponse.requestId).Nodup

theorem isSome_cachedBy_mono {cache : Dict String ServiceResponse}
    {answers : List Answer} {requestId : String} {m n : Nat} (h : m ≤ n)
    (hm : ((cachedBy cache answers m).get? requestId).isSome = true) :
    ((cachedBy cache answers n).get? requestId).isSome = true := by
  rcases Nat.exists_eq_add_of_le h with ⟨k, rfl⟩
  rw [cachedBy_add]
  exact isSome_get?_extended _ hm

theorem NoRepeats.not_again {cache : Dict String ServiceResponse}
    {answers : List Answer} (h : NoRepeats cache answers) {requestId : String} {n : Nat}
    (harrived : ((cachedBy cache answers n).get? requestId).isSome = true) (k : Nat) :
    requestId ∉ (responsesIn ((answers.drop n).take k)).map
      ServiceResponse.requestId := by
  intro hagain
  unfold NoRepeats at h
  rw [← List.take_append_drop n answers, responsesIn_append, List.map_append,
    ← List.append_assoc, List.nodup_append] at h
  have hfirst := (isSome_get?_extended_iff _ _).mp harrived
  have hlater : requestId ∈ (responsesIn (answers.drop n)).map
      ServiceResponse.requestId := by
    have hsublist : ((answers.drop n).take k).Sublist (answers.drop n) :=
      List.take_sublist _ _
    exact ((hsublist.filterMap _).map _).subset hagain
  exact h.right.right requestId hfirst requestId hlater rfl

/-- A gathering that has returned some ids after so many answers, none of which was
for nothing. -/
structure SoFar (cache : Dict String ServiceResponse) (answers : List Answer)
    (done : List String) (consumed : Nat) (g : Gathered) : Prop where
  opened : g.connection.closed = false
  unused : g.unused = answers.drop consumed
  out : forall requestId, g.out.get? requestId =
    if requestId ∈ done then (cachedBy cache answers consumed).get? requestId else none
  left : forall requestId, g.connection.cache.get? requestId =
    if requestId ∈ done then none else (cachedBy cache answers consumed).get? requestId
  arrived : forall requestId, requestId ∈ done ->
    ((cachedBy cache answers consumed).get? requestId).isSome = true
  needed : forall j, j < consumed -> exists requestId, requestId ∈ done ∧
    (cachedBy cache answers j).get? requestId = none

theorem soFar_start {conn : ClientConnection} (hopen : conn.closed = false)
    (answers : List Answer) :
    SoFar conn.cache answers [] 0 ⟨Dict.empty, conn, answers⟩ where
  opened := hopen
  unused := rfl
  out := by
    intro requestId
    rfl
  left := by
    intro requestId
    rfl
  arrived := by
    intro requestId h
    cases h
  needed := by
    intro j hj
    exact absurd hj (Nat.not_lt_zero j)

theorem SoFar.same {cache : Dict String ServiceResponse} {answers : List Answer}
    {done done' : List String} {consumed consumed' : Nat} {g g' : Gathered}
    (h : SoFar cache answers done consumed g)
    (h' : SoFar cache answers done' consumed' g')
    (hids : forall requestId, requestId ∈ done <-> requestId ∈ done') : g.Same g' := by
  have hnot : forall {done done' consumed consumed' g g'},
      SoFar cache answers done consumed g -> SoFar cache answers done' consumed' g' ->
        (forall requestId, requestId ∈ done' -> requestId ∈ done) ->
          ¬ consumed < consumed' := by
    intro done done' consumed consumed' g g' h h' hsub hlt
    rcases h'.needed consumed hlt with ⟨requestId, hmem, hnone⟩
    have hsome := h.arrived requestId (hsub requestId hmem)
    rw [hnone] at hsome
    cases hsome
  have hconsumed : consumed = consumed' := by
    have hle := hnot h' h fun requestId => (hids requestId).mp
    have hge := hnot h h' fun requestId => (hids requestId).mpr
    omega
  subst hconsumed
  constructor
  · intro requestId
    rw [h.out, h'.out]
    simp only [hids]
  · intro requestId
    rw [h.left, h'.left]
    simp only [hids]
  · rw [h.unused, h'.unused]

section

variable {cache : Dict String ServiceResponse} {answers : List Answer}
  {done : List String} {consumed : Nat} {g : Gathered}

theorem SoFar.extended_of_not_mem (h : SoFar cache answers done consumed g)
    {requestId : String} (hnot : requestId ∉ done) (k : Nat) :
    (extended g.connection.cache (responsesIn (g.unused.take k))).get? requestId =
      (cachedBy cache answers (consumed + k)).get? requestId := by
  rw [cachedBy_add, h.unused]
  apply get?_extended_congr
  rw [h.left, if_neg hnot]

theorem SoFar.extended_of_mem (h : SoFar cache answers done consumed g)
    (hunique : NoRepeats cache answers) {requestId : String} (hmem : requestId ∈ done)
    (k : Nat) :
    (extended g.connection.cache (responsesIn (g.unused.take k))).get? requestId =
        none ∧
      (cachedBy cache answers (consumed + k)).get? requestId =
        (cachedBy cache answers consumed).get? requestId := by
  have hnot := hunique.not_again (h.arrived requestId hmem) k
  constructor
  · rw [h.unused, get?_extended_of_not_mem _ _ hnot, h.left, if_pos hmem]
  · rw [cachedBy_add, get?_extended_of_not_mem _ _ hnot]

theorem SoFar.extend (h : SoFar cache answers done consumed g)
    (hunique : NoRepeats cache answers) {ids : List String} {k : Nat}
    {found : Dict String ServiceResponse} {conn : ClientConnection}
    (hfresh : forall requestId, requestId ∈ ids -> requestId ∉ done)
    (hopen : conn.closed = false)
    (hfound : forall requestId, found.get? requestId =
      if requestId ∈ ids then
        (extended g.connection.cache (responsesIn (g.unused.take k))).get? requestId
      else none)
    (hleft : forall requestId, conn.cache.get? requestId =
      if requestId ∈ ids then none else
        (extended g.connection.cache (responsesIn (g.unused.take k))).get? requestId)
    (hneeded : forall j, j < k -> exists requestId, requestId ∈ ids ∧
      (found.get? requestId).isSome = true ∧
      (extended g.connection.cache (responsesIn (g.unused.take j))).get? requestId =
        none) :
    SoFar cache answers
      (done ++ ids.filter fun requestId => (found.get? requestId).isSome)
      (consumed + k) ⟨g.out.update found, conn, g.unused.drop k⟩ := by
  have hnew : forall requestId, requestId ∈ ids ->
      found.get? requestId =
        (cachedBy cache answers (consumed + k)).get? requestId := by
    intro requestId hmem
    rw [hfound, if_pos hmem, h.extended_of_not_mem (hfresh requestId hmem)]
  have hmem : forall requestId,
      requestId ∈ done ++ ids.filter (fun requestId =>
        (found.get? requestId).isSome) <->
      requestId ∈ done ∨ (requestId ∈ ids ∧ (found.get? requestId).isSome = true) := by
    intro requestId
    rw [List.mem_append, List.mem_filter]
  constructor
  · exact hopen
  · dsimp only
    rw [h.unused, List.drop_drop]
  · intro requestId
    dsimp only
    rw [Dict.get?_update]
    simp only [hmem]
    by_cases hdone : requestId ∈ done
    · have hnot : requestId ∉ ids := fun hids => hfresh requestId hids hdone
      rw [hfound, if_neg hnot, Option.none_or, h.out, if_pos hdone,
        if_pos (Or.inl hdone), (h.extended_of_mem hunique hdone k).right]
    · rw [h.out, if_neg hdone, Option.or_none]
      by_cases hids : requestId ∈ ids
      · rw [← hnew requestId hids]
        cases hget : found.get? requestId with
        | none => simp
        | some r => simp [hids]
      · rw [hfound, if_neg hids]
        simp [hdone, hids]
  · intro requestId
    dsimp only
    rw [hleft]
    simp only [hmem]
    by_cases hdone : requestId ∈ done
    · have hnot : requestId ∉ ids := fun hids => hfresh requestId hids hdone
      rw [if_neg hnot, (h.extended_of_mem hunique hdone k).left, if_pos (Or.inl hdone)]
    · by_cases hids : requestId ∈ ids
      · rw [if_pos hids, ← hnew requestId hids]
        cases hget : found.get? requestId with
        | none => simp
        | some r => simp [hids]
      · rw [if_neg hids, h.extended_of_not_mem hdone]
        simp [hdone, hids]
  · intro requestId hreturned
    rcases (hmem requestId).mp hreturned with hdone | ⟨hids, hsome⟩
    · exact isSome_cachedBy_mono (Nat.le_add_right _ _) (h.arrived requestId hdone)
    · rw [← hnew requestId hids]
      exact hsome
  · intro j hj
    rcases Nat.lt_or_ge j consumed with hlt | hge
    · rcases h.needed j hlt with ⟨requestId, hdone, hnone⟩
      exact ⟨requestId, (hmem requestId).mpr (Or.inl hdone), hnone⟩
    · rcases Nat.exists_eq_add_of_le hge with ⟨j', rfl⟩
      rcases hneeded j' (by omega) with ⟨requestId, hids, hsome, hnone⟩
      refine ⟨requestId, (hmem requestId).mpr (Or.inr ⟨hids, hsome⟩), ?_⟩
      rw [← h.extended_of_not_mem (hfresh requestId hids)]
      exact hnone

end

/-!
## One call
-/

namespace ClientConnection

/-- A collector that becomes done is done because of an id that was missing. -/
def Awaits (collector : Collector) (ids : List String) : Prop :=
  forall cache cache' : Dict String ServiceResponse,
    collector.isDone (Wanted.ofList ids) cache = true ->
      collector.isDone (Wanted.ofList ids) cache' = false ->
        exists requestId, requestId ∈ ids ∧
          (cache.get? requestId).isSome = true ∧ cache'.get? requestId = none

theorem awaits_all (ids : List String) : Awaits .all ids := by
  intro cache cache' hdone hnot
  simp only [Collector.isDone, Wanted.ofList, List.all_eq_true, List.mem_dedup,
    List.all_eq_false, Bool.not_eq_true, Option.isSome_eq_false_iff,
    Option.isNone_iff_eq_none] at hdone hnot
  rcases hnot with ⟨requestId, hmem, hnone⟩
  exact ⟨requestId, hmem, hdone requestId hmem, hnone⟩

theorem awaits_any (ids : List String) : Awaits .any ids := by
  intro cache cache' hdone hnot
  simp only [Collector.isDone, Wanted.ofList, List.any_eq_true, List.mem_dedup,
    List.any_eq_false, Bool.not_eq_true, Option.isSome_eq_false_iff,
    Option.isNone_iff_eq_none] at hdone hnot
  rcases hdone with ⟨requestId, hmem, hsome⟩
  exact ⟨requestId, hmem, hsome, hnot requestId hmem⟩

theorem isDone_congr (collector : Collector) {wanted : Wanted}
    {cache cache' : Dict String ServiceResponse}
    (h : forall requestId, requestId ∈ wanted.ids ->
      cache.get? requestId = cache'.get? requestId) :
    collector.isDone wanted cache = collector.isDone wanted cache' := by
  cases collector with
  | any =>
      rw [Bool.eq_iff_iff]
      simp only [Collector.isDone, List.any_eq_true]
      refine exists_congr fun requestId => and_congr_right fun hmem => ?_
      rw [h requestId hmem]
  | all =>
      rw [Bool.eq_iff_iff]
      simp only [Collector.isDone, List.all_eq_true]
      refine forall_congr' fun requestId => forall_congr' fun hmem => ?_
      rw [h requestId hmem]
  | quorum needed =>
      have hcount : wanted.ids.countP (fun requestId =>
          (cache.get? requestId).isSome) =
            wanted.ids.countP fun requestId => (cache'.get? requestId).isSome := by
        apply List.countP_congr
        intro requestId hmem
        rw [h requestId hmem]
      simp only [Collector.isDone, hcount]

theorem soFar_collect (settings : Settings) (clock : Clock) {collector : Collector}
    {cache : Dict String ServiceResponse} {answers : List Answer} {done : List String}
    {consumed : Nat} {g : Gathered} (h : SoFar cache answers done consumed g)
    (hunique : NoRepeats cache answers)
    (hpolls : forall answer, answer ∈ answers -> answer.IsPoll) {ids : List String}
    (hdistinct : ids.Nodup) (hcheck : collector.check ids = .ok ())
    (hawaits : Awaits collector ids)
    (hfresh : forall requestId, requestId ∈ ids -> requestId ∉ done)
    (hdone : collector.isDone (Wanted.ofList ids)
      (extended g.connection.cache (responsesIn g.unused)) = true) :
    exists found consumed',
      (g.connection.invoke settings (.collect collector ids none) clock
        g.unused).responses? = some found ∧
      collector.isDone (Wanted.ofList ids) found = true ∧
      (forall requestId, requestId ∉ ids -> found.get? requestId = none) ∧
      SoFar cache answers
        (done ++ ids.filter fun requestId => (found.get? requestId).isSome) consumed'
        ⟨g.out.update found,
          (g.connection.invoke settings (.collect collector ids none) clock
            g.unused).connection,
          (g.connection.invoke settings (.collect collector ids none) clock
            g.unused).unused⟩ := by
  rcases exists_doneAfter hdone with ⟨k, hafter⟩
  have hinvoke : exists calls, calls.length = k ∧
      Polls g.connection.clientId calls ∧
      g.connection.invoke settings (.collect collector ids none) clock g.unused =
        (follow settings (g.unused.drop k)
          (collected (Wanted.ofList ids)
            (g.connection.cacheAll (responsesIn (g.unused.take k))))).after calls := by
    apply invoke_of_doneAfter settings none clock h.opened hcheck hafter
    · intro answer hanswer
      apply hpolls
      rw [h.unused] at hanswer
      exact List.mem_of_mem_drop (List.mem_of_mem_take hanswer)
    · exact patient_none _
    · exact inTime_none _ _ _
  rcases hinvoke with ⟨calls, _, _, heq⟩
  have hids : (Wanted.ofList ids).ids = ids := List.Nodup.dedup hdistinct
  unfold collected at heq
  dsimp only at heq
  rw [follow_returned, hids] at heq
  have hcache := cache_cacheAll (responsesIn (g.unused.take k)) g.connection
  have hfound : forall requestId,
      ((g.connection.cacheAll (responsesIn (g.unused.take k))).popMatching ids
        Dict.empty).2.get? requestId =
      if requestId ∈ ids then
        (extended g.connection.cache (responsesIn (g.unused.take k))).get? requestId
      else none := by
    intro requestId
    rw [get?_popMatching hdistinct, hcache, Dict.get?_empty, Option.or_none]
  have hisDone := hafter.isDone
  refine ⟨_, consumed + k, congrArg Invocation.responses? heq, ?_, ?_, ?_⟩
  · rw [← hisDone]
    apply isDone_congr
    intro requestId hmem
    rw [hids] at hmem
    rw [hfound, if_pos hmem]
  · intro requestId hmem
    rw [hfound, if_neg hmem]
  · rw [heq]
    dsimp only [Invocation.after]
    apply h.extend hunique hfresh
    · rw [popMatching_keeps ClientConnection.closed fun _ _ => rfl,
        cacheAll_keeps ClientConnection.closed fun _ _ => rfl]
      exact h.opened
    · exact hfound
    · intro requestId
      rw [cache_popMatching, hcache]
    · intro j hj
      rcases hawaits _ _ hisDone (hafter.quiet j hj) with
        ⟨requestId, hmem, hsome, hnone⟩
      refine ⟨requestId, hmem, ?_, hnone⟩
      rw [hfound, if_pos hmem]
      exact hsome

end ClientConnection

/-!
## Whole gatherings
-/

theorem SoFar.awaited {cache : Dict String ServiceResponse} {answers : List Answer}
    {done : List String} {consumed : Nat} {g : Gathered}
    (h : SoFar cache answers done consumed g) {requestId : String}
    (hnot : requestId ∉ done)
    (hsome : ((extended cache (responsesIn answers)).get? requestId).isSome = true) :
    ((extended g.connection.cache (responsesIn g.unused)).get? requestId).isSome =
      true := by
  have heq := h.extended_of_not_mem hnot g.unused.length
  have hlength : answers.length ≤ consumed + g.unused.length := by
    rw [h.unused, List.length_drop]
    omega
  rw [List.take_length, cachedBy, List.take_of_length_le hlength] at heq
  rw [heq]
  exact hsome

theorem SoFar.out_of_mem {cache : Dict String ServiceResponse} {answers : List Answer}
    {done : List String} {consumed : Nat} {g : Gathered}
    (h : SoFar cache answers done consumed g) (hunique : NoRepeats cache answers)
    {requestId : String} (hmem : requestId ∈ done) :
    g.out.get? requestId = (extended cache (responsesIn answers)).get? requestId := by
  have heq := (h.extended_of_mem hunique hmem answers.length).right
  rw [cachedBy, List.take_of_length_le (Nat.le_add_left _ _)] at heq
  rw [h.out, if_pos hmem, heq]

theorem SoFar.congr_out {cache : Dict String ServiceResponse} {answers : List Answer}
    {done : List String} {consumed : Nat} {g : Gathered}
    (h : SoFar cache answers done consumed g) (out : Dict String ServiceResponse)
    (hout : forall requestId, out.get? requestId = g.out.get? requestId) :
    SoFar cache answers done consumed ⟨out, g.connection, g.unused⟩ where
  opened := h.opened
  unused := h.unused
  out := by
    intro requestId
    rw [hout]
    exact h.out requestId
  left := h.left
  arrived := h.arrived
  needed := h.needed

theorem Invocation.item?_of_responses? {i : Invocation}
    {found : Dict String ServiceResponse} (h : i.responses? = some found)
    (requestId : String) : i.item? requestId = found.get? requestId := by
  unfold responses? at h
  unfold item?
  split at h
  · rename_i out hprogress
    cases h
    rw [hprogress]
    rfl
  · cases h

theorem Invocation.SameOn.item? {requestId : String} {i j : Invocation}
    (h : i.SameOn (Returned.item requestId) j) :
    i.item? requestId = j.item? requestId := by
  have hending := h.ending
  unfold Invocation.ending at hending
  unfold Invocation.item?
  cases hi : i.progress <;> cases hj : j.progress <;>
    simp_all [Except.map]

namespace ClientConnection

section

variable (settings : Settings) {cache : Dict String ServiceResponse}
  {answers : List Answer} (hunique : NoRepeats cache answers)
  (hpolls : forall answer, answer ∈ answers -> answer.IsPoll)

include hunique hpolls

theorem gatherAll_soFar (clock : Clock) {conn : ClientConnection}
    (hconn : conn.cache = cache) (hopen : conn.closed = false) {ids : List String}
    (hdistinct : ids.Nodup) (hnonempty : ids ≠ [])
    (htogether : forall requestId, requestId ∈ ids ->
      ((extended cache (responsesIn answers)).get? requestId).isSome = true) :
    exists g done consumed, conn.gatherAll settings clock ids answers = some g ∧
      SoFar cache answers done consumed g ∧
      forall requestId, requestId ∈ done <-> requestId ∈ ids := by
  subst hconn
  have hcheck : Collector.check .all ids = .ok () := if_neg hnonempty
  have hdone : Collector.isDone .all (Wanted.ofList ids)
      (extended conn.cache (responsesIn answers)) = true := by
    simp only [Collector.isDone, List.all_eq_true]
    intro requestId hmem
    exact htogether requestId (List.mem_dedup.mp hmem)
  rcases soFar_collect settings clock (soFar_start hopen answers) hunique hpolls
    hdistinct hcheck (awaits_all ids) (by intro requestId _ h; cases h) hdone with
    ⟨found, consumed, hfound, hall, _, hsofar⟩
  simp only [Collector.isDone, List.all_eq_true] at hall
  refine ⟨_, _, consumed, ?_, hsofar.congr_out found ?_, ?_⟩
  · simp only [gatherAll, hfound, Option.map_some]
  · intro requestId
    dsimp only
    rw [Dict.get?_update, Dict.get?_empty, Option.or_none]
  · intro requestId
    rw [List.nil_append, List.mem_filter]
    constructor
    · exact fun h => h.left
    · intro hmem
      exact ⟨hmem, hall requestId (List.mem_dedup.mpr hmem)⟩

theorem gatherEach_soFar (order : List (String × Clock)) :
    forall {g : Gathered} {done : List String} {consumed : Nat},
      SoFar cache answers done consumed g -> (order.map Prod.fst).Nodup ->
      (forall requestId, requestId ∈ order.map Prod.fst -> requestId ∉ done) ->
      (forall requestId, requestId ∈ order.map Prod.fst ->
        ((extended cache (responsesIn answers)).get? requestId).isSome = true) ->
        exists g' done' consumed', gatherEach settings order g = some g' ∧
          SoFar cache answers done' consumed' g' ∧
          forall requestId, requestId ∈ done' <->
            requestId ∈ done ∨ requestId ∈ order.map Prod.fst := by
  induction order with
  | nil =>
      intro g done consumed h _ _ _
      refine ⟨g, done, consumed, rfl, h, ?_⟩
      intro requestId
      simp
  | cons item rest ih =>
      rcases item with ⟨key, clock⟩
      intro g done consumed h hnodup hfresh htogether
      rcases List.nodup_cons.mp hnodup with ⟨hkey, hrest⟩
      have hnot : key ∉ done := hfresh key List.mem_cons_self
      have hfresh' : forall requestId, requestId ∈ [key] -> requestId ∉ done := by
        intro requestId hmem
        rw [List.mem_singleton.mp hmem]
        exact hnot
      have hdone : Collector.isDone .all (Wanted.ofList [key])
          (extended g.connection.cache (responsesIn g.unused)) = true := by
        rw [single_all]
        exact h.awaited hnot (htogether key List.mem_cons_self)
      rcases soFar_collect settings clock h hunique hpolls (List.nodup_singleton key)
        (by rfl) (awaits_all [key]) hfresh' hdone with
        ⟨found, consumed', hfound, hall, hothers, hsofar⟩
      rw [single_all] at hall
      rcases Option.isSome_iff_exists.mp hall with ⟨r, hr⟩
      -- `get_response` does the same as the collector of one id
      have hsame : (g.connection.invoke settings (.getResponse key none) clock
          g.unused).SameOn (Returned.item key)
          (g.connection.invoke settings (.collect .all [key] none) clock g.unused) :=
        sameOn_getResponse (single_all key) rfl settings none clock g.unused
          g.connection
      have hitem : (g.connection.invoke settings (.getResponse key none) clock
          g.unused).item? key = some r := by
        rw [hsame.item?, Invocation.item?_of_responses? hfound, hr]
      rw [← hsame.connection, ← hsame.unused] at hsofar
      have hfilter : [key].filter (fun requestId =>
          (found.get? requestId).isSome) = [key] := by
        simp [hr]
      rw [hfilter] at hsofar
      have hout : forall requestId, (g.out.set key r).get? requestId =
          (g.out.update found).get? requestId := by
        intro requestId
        rw [Dict.get?_set, Dict.get?_update]
        by_cases heq : key = requestId
        · subst heq
          rw [if_pos rfl, hr, Option.some_or]
        · have hmem : requestId ∉ [key] := by
            rw [List.mem_singleton]
            exact fun h => heq h.symm
          rw [if_neg heq, hothers requestId hmem, Option.none_or]
      have hnext := ih (hsofar.congr_out _ hout) hrest ?_ ?_
      · rcases hnext with ⟨g', done', consumed'', hg', hsofar', hdone'⟩
        refine ⟨g', done', consumed'', ?_, hsofar', ?_⟩
        · simp only [gatherEach, hitem]
          exact hg'
        · intro requestId
          rw [hdone', List.mem_append, List.mem_singleton, List.map_cons,
            List.mem_cons, or_assoc]
      · intro requestId hmem hdone'
        rcases List.mem_append.mp hdone' with hold | hnow
        · exact hfresh requestId (List.mem_cons_of_mem _ hmem) hold
        · rw [List.mem_singleton.mp hnow] at hmem
          exact hkey hmem
      · intro requestId hmem
        exact htogether requestId (List.mem_cons_of_mem _ hmem)

theorem gatherAny_soFar (clocks : List Clock) :
    forall {ids : List String} {g : Gathered} {done : List String} {consumed : Nat},
      SoFar cache answers done consumed g -> ids.Nodup ->
      (forall requestId, requestId ∈ ids -> requestId ∉ done) ->
      (forall requestId, requestId ∈ ids ->
        ((extended cache (responsesIn answers)).get? requestId).isSome = true) ->
      ids.length ≤ clocks.length ->
        exists rounds g' done' consumed',
          gatherAny settings clocks ids g = some (rounds, g') ∧
          SoFar cache answers done' consumed' g' ∧
          (forall requestId, requestId ∈ done' <->
            requestId ∈ done ∨ requestId ∈ ids) ∧
          rounds.length ≤ ids.length ∧
          (forall found, found ∈ rounds ->
            (exists requestId, requestId ∈ ids ∧
              (found.get? requestId).isSome = true) ∧
            forall requestId, requestId ∉ ids -> found.get? requestId = none) ∧
          rounds.Pairwise fun found found' => forall requestId,
            (found.get? requestId).isSome = true -> found'.get? requestId = none := by
  induction clocks with
  | nil =>
      intro ids g done consumed h _ _ _ hclocks
      have hids : ids = [] := List.length_eq_zero_iff.mp (Nat.le_zero.mp hclocks)
      subst hids
      refine ⟨[], g, done, consumed, rfl, h, ?_, le_refl _, ?_, List.Pairwise.nil⟩
      · intro requestId
        simp
      · intro found hfound
        cases hfound
  | cons clock clocks ih =>
      intro ids g done consumed h hnodup hfresh htogether hclocks
      cases ids with
      | nil =>
          refine ⟨[], g, done, consumed, rfl, h, ?_, le_refl _, ?_, List.Pairwise.nil⟩
          · intro requestId
            simp
          · intro found hfound
            cases hfound
      | cons key rest =>
          have hcheck : Collector.check .any (key :: rest) = .ok () := rfl
          have hdone : Collector.isDone .any (Wanted.ofList (key :: rest))
              (extended g.connection.cache (responsesIn g.unused)) = true := by
            simp only [Collector.isDone, List.any_eq_true]
            refine ⟨key, List.mem_dedup.mpr List.mem_cons_self, ?_⟩
            exact h.awaited (hfresh key List.mem_cons_self)
              (htogether key List.mem_cons_self)
          rcases soFar_collect settings clock h hunique hpolls hnodup hcheck
            (awaits_any _) hfresh hdone with
            ⟨found, consumed', hfound, hany, hothers, hsofar⟩
          simp only [Collector.isDone, List.any_eq_true] at hany
          rcases hany with ⟨new, hnew, hsome⟩
          have hnew := List.mem_dedup.mp hnew
          -- the ids that are still missing are fewer
          have hfewer : ((key :: rest).filter fun requestId =>
              (found.get? requestId).isNone).length < (key :: rest).length := by
            apply List.length_filter_lt_length_iff_exists.mpr
            refine ⟨new, hnew, ?_⟩
            rw [Option.isNone_eq_false_iff.mpr hsome]
            exact Bool.false_ne_true
          have hmissing : ((key :: rest).filter fun requestId =>
              (found.get? requestId).isNone).Nodup := hnodup.filter _
          have henough : ((key :: rest).filter fun requestId =>
              (found.get? requestId).isNone).length ≤ clocks.length := by
            simp only [List.length_cons] at hclocks hfewer
            omega
          have hnext := ih hsofar hmissing ?_ ?_ henough
          · rcases hnext with
              ⟨rounds, g', done', consumed'', hg', hsofar', hdone', hlength, heach,
                hpairwise⟩
            refine ⟨found :: rounds, g', done', consumed'', ?_, hsofar', ?_, ?_, ?_, ?_⟩
            · simp only [gatherAny, hfound]
              rw [hg']
              rfl
            · intro requestId
              rw [hdone', List.mem_append, List.mem_filter, List.mem_filter]
              cases hget : found.get? requestId with
              | none => simp
              | some r => simp
            · simp only [List.length_cons] at hfewer ⊢
              omega
            · intro found' hmem
              rcases List.mem_cons.mp hmem with rfl | hmem
              · exact ⟨⟨new, hnew, hsome⟩, hothers⟩
              · rcases heach found' hmem with ⟨⟨id, hid, hidSome⟩, hnone⟩
                refine ⟨⟨id, List.mem_of_mem_filter hid, hidSome⟩, ?_⟩
                intro requestId hnot
                apply hnone
                exact fun h => hnot (List.mem_of_mem_filter h)
            · refine List.Pairwise.cons ?_ hpairwise
              intro found' hmem requestId hreturned
              apply (heach found' hmem).right
              intro hmissing
              have hnone := (List.mem_filter.mp hmissing).right
              rw [Option.isNone_iff_eq_none.mp hnone] at hreturned
              cases hreturned
          · intro requestId hmissing hreturned
            rcases List.mem_filter.mp hmissing with ⟨hmem, hnone⟩
            rcases List.mem_append.mp hreturned with hold | hnow
            · exact hfresh requestId hmem hold
            · have hsome := (List.mem_filter.mp hnow).right
              rw [Option.isNone_iff_eq_none.mp hnone] at hsome
              cases hsome
          · intro requestId hmissing
            exact htogether requestId (List.mem_of_mem_filter hmissing)

end

/-- Gathering does not depend on how it is split or on the order of arrival. -/
theorem gathering_independent (settings : Settings) (ids : List String)
    (conn : ClientConnection) (answers : List Answer) (clock : Clock)
    (hdistinct : ids.Nodup) (hnonempty : ids ≠ []) (hopen : conn.closed = false)
    (hpolls : forall answer, answer ∈ answers -> answer.IsPoll)
    (hunique : NoRepeats conn.cache answers)
    (htogether : forall requestId, requestId ∈ ids -> requestId ∈ conn.cache.keys ++
      (responsesIn answers).map ServiceResponse.requestId) :
    exists g, conn.gatherAll settings clock ids answers = some g ∧
      (forall requestId, (g.out.get? requestId).isSome = true <-> requestId ∈ ids) ∧
      -- one by one
      (forall order : List (String × Clock), (order.map Prod.fst).Perm ids ->
        exists g', gatherEach settings order ⟨Dict.empty, conn, answers⟩ = some g' ∧
          g'.Same g) ∧
      -- any of those missing, again and again
      (forall clocks : List Clock, clocks.length = ids.length ->
        exists rounds g',
          gatherAny settings clocks ids ⟨Dict.empty, conn, answers⟩ =
            some (rounds, g') ∧
          g'.Same g ∧ rounds.length ≤ ids.length ∧
          (forall found, found ∈ rounds -> exists requestId, requestId ∈ ids ∧
            (found.get? requestId).isSome = true) ∧
          rounds.Pairwise fun found found' => forall requestId,
            (found.get? requestId).isSome = true -> found'.get? requestId = none) ∧
      -- the replies in another order
      (forall answers' clock', answers'.Perm answers ->
        exists g', conn.gatherAll settings clock' ids answers' = some g' ∧
          forall requestId, g'.out.get? requestId = g.out.get? requestId) := by
  have hawaited : forall requestId, requestId ∈ ids ->
      ((extended conn.cache (responsesIn answers)).get? requestId).isSome = true :=
    fun requestId hmem => (isSome_get?_extended_iff _ _).mpr (htogether requestId hmem)
  rcases gatherAll_soFar settings hunique hpolls clock rfl hopen hdistinct hnonempty
    hawaited with ⟨g, done, consumed, hg, hsofar, hdone⟩
  refine ⟨g, hg, ?_, ?_, ?_, ?_⟩
  · intro requestId
    rw [hsofar.out, ← hdone]
    by_cases hmem : requestId ∈ done
    · rw [if_pos hmem]
      exact iff_of_true (hsofar.arrived requestId hmem) hmem
    · rw [if_neg hmem]
      exact iff_of_false Bool.false_ne_true hmem
  · intro order hperm
    have hmem : forall requestId, requestId ∈ order.map Prod.fst <->
        requestId ∈ ids := fun requestId => hperm.mem_iff
    rcases gatherEach_soFar settings hunique hpolls order (soFar_start hopen answers)
      (hperm.nodup_iff.mpr hdistinct) (by intro requestId _ h; cases h)
      (fun requestId h => hawaited requestId ((hmem requestId).mp h)) with
      ⟨g', done', consumed', hg', hsofar', hdone'⟩
    refine ⟨g', hg', hsofar'.same hsofar ?_⟩
    intro requestId
    rw [hdone', hdone, hmem]
    simp
  · intro clocks hclocks
    rcases gatherAny_soFar settings hunique hpolls clocks (soFar_start hopen answers)
      hdistinct (by intro requestId _ h; cases h) hawaited (le_of_eq hclocks.symm) with
      ⟨rounds, g', done', consumed', hg', hsofar', hdone', hlength, heach, hpairwise⟩
    refine ⟨rounds, g', hg', hsofar'.same hsofar ?_, hlength, ?_, hpairwise⟩
    · intro requestId
      rw [hdone', hdone]
      simp
    · exact fun found hfound => (heach found hfound).left
  · intro answers' clock' hperm
    have hresponses : (responsesIn answers').Perm (responsesIn answers) :=
      hperm.filterMap _
    have hids := hresponses.map ServiceResponse.requestId
    have hunique' : NoRepeats conn.cache answers' :=
      ((hids.append_left conn.cache.keys).nodup_iff).mpr hunique
    have hnodup' : ((responsesIn answers').map ServiceResponse.requestId).Nodup :=
      (List.nodup_append.mp hunique').right.left
    have hsame : forall requestId,
        (extended conn.cache (responsesIn answers')).get? requestId =
          (extended conn.cache (responsesIn answers)).get? requestId :=
      get?_extended_perm hresponses hnodup' conn.cache
    have hawaited' : forall requestId, requestId ∈ ids ->
        ((extended conn.cache (responsesIn answers')).get? requestId).isSome =
          true := by
      intro requestId hmem
      rw [hsame]
      exact hawaited requestId hmem
    rcases gatherAll_soFar settings hunique'
      (fun answer h => hpolls answer (hperm.mem_iff.mp h)) clock' rfl hopen hdistinct
      hnonempty hawaited' with ⟨g', done', consumed', hg', hsofar', hdone'⟩
    refine ⟨g', hg', ?_⟩
    intro requestId
    by_cases hmem : requestId ∈ ids
    · rw [hsofar'.out_of_mem hunique' ((hdone' requestId).mpr hmem),
        hsofar.out_of_mem hunique ((hdone requestId).mpr hmem), hsame]
    · have hnot : requestId ∉ done := fun h => hmem ((hdone requestId).mp h)
      have hnot' : requestId ∉ done' := fun h => hmem ((hdone' requestId).mp h)
      rw [hsofar.out, hsofar'.out, if_neg hnot, if_neg hnot']

/-- Two responses that come in the other way round. -/
theorem gathering_independent_two :
    exists g, (ClientConnection.open "c" "t").gatherAll Settings.default
        (Clock.constant 0) ["1", "2"] [.bringing [50] 0, .bringing [49] 1] = some g ∧
      exists g', gatherEach Settings.default
          [("1", Clock.constant 0), ("2", Clock.constant 3)]
          ⟨Dict.empty, ClientConnection.open "c" "t",
            [.bringing [50] 0, .bringing [49] 1]⟩ = some g' ∧ g'.Same g := by
  rcases gathering_independent Settings.default ["1", "2"]
    (ClientConnection.open "c" "t") [.bringing [50] 0, .bringing [49] 1]
    (Clock.constant 0) (by decide) (by decide) rfl
    (by
      intro answer hanswer
      simp only [List.mem_cons, List.not_mem_nil, or_false] at hanswer
      rcases hanswer with rfl | rfl
      · exact isPoll_bringing _ _
      · exact isPoll_bringing _ _)
    (by
      have hnodup : (Dict.keys (ClientConnection.open "c" "t").cache ++
          (responsesIn [.bringing [50] 0, .bringing [49] 1]).map
            ServiceResponse.requestId).Nodup := by decide +kernel
      exact hnodup)
    (by decide +kernel) with ⟨g, hg, _, heach, _⟩
  exact ⟨g, hg, heach _ (List.Perm.refl _)⟩

/-- Nothing is gathered one by one from the start, but `get_all_responses()` is
refused. -/
theorem gathering_nothing_refused :
    ([] : List String).Nodup ∧ (ClientConnection.open "c" "t").closed = false ∧
      NoRepeats (ClientConnection.open "c" "t").cache [] ∧
      gatherEach Settings.default []
        ⟨Dict.empty, ClientConnection.open "c" "t", []⟩ =
          some ⟨Dict.empty, ClientConnection.open "c" "t", []⟩ ∧
      (ClientConnection.open "c" "t").gatherAll Settings.default (Clock.constant 0) []
        [] = none :=
  ⟨List.nodup_nil, rfl, List.nodup_nil, rfl, rfl⟩

end ClientConnection

end Client
end Pype
