import Pype.Server.ResponseQueues

/-!
# Acknowledged responses

A POST to a client looks the client's entry up first and puts its response on the
entry's queue much later.  In between the entry may leave the registry, and then
the response is acknowledged but out of the client's reach.  As long as no
response is put on an entry that has left the registry, every acknowledged
response is taken once, is still to be had, or was on an entry when that entry
was removed.
-/

namespace Pype
namespace Server

open Foundation Store

theorem remove_registered {s : Store} (remover : Remover) (other : String)
    {clientId : String} {entry : Ref}
    (hentry : s.clientRegistry.get? clientId = some entry) :
    (ClientRegistry.remove remover other s).clientRegistry.get? clientId =
        some entry ∨
      (ClientRegistry.remove remover other s).history = s.history ++
        [.clientEntryRemoved remover clientId entry] := by
  by_cases heq : other = clientId
  · subst heq
    right
    rw [ClientRegistry.remove, hentry]
  · left
    unfold ClientRegistry.remove
    split
    · exact (Dict.get?_erase_of_ne _ heq).trans hentry
    · exact hentry

/-!
## When a response is put
-/

/-- The message and the entry of the stretch that puts a response. -/
inductive PutsOn : Phase -> Action -> PostResponse -> Ref -> Prop where
  | atOnce {params : PostResponse} {entry : Ref} :
      PutsOn (.postResponseBody params entry 0) .body params entry
  | waiting {params : PostResponse} {entry : Ref} {pypeResp : PypeResponse}
      {expires : Time} :
      PutsOn (.postResponsePut params entry pypeResp expires) .serve params entry

theorem postResponseBody_cases (cfg : Settings) (task : TaskId)
    (params : PostResponse) (entry : Ref) (timeoutMs : Int) (clock : Clock)
    (s : Store) :
    (timeoutMs ≠ 0 ∧ postResponseBody cfg task params entry timeoutMs clock s =
      (s, .postResponsePut params entry (params.pypeResp cfg)
        (clock.reading 0 + seconds timeoutMs))) ∨
    (timeoutMs = 0 ∧ exists s',
      s.putResponse task params.clientId entry (params.pypeResp cfg) = some s' ∧
        postResponseBody cfg task params entry timeoutMs clock s =
          answer task (emptyReply 202) s') ∨
    (timeoutMs = 0 ∧
      s.putResponse task params.clientId entry (params.pypeResp cfg) = none ∧
        postResponseBody cfg task params entry timeoutMs clock s =
          answer task (emptyReply 503) s) := by
  unfold postResponseBody queuePut
  dsimp only
  split
  · rename_i hzero
    cases hput : s.putResponse task params.clientId entry (params.pypeResp cfg) with
    | some s' => exact Or.inr (Or.inl ⟨hzero, s', rfl, rfl⟩)
    | none => exact Or.inr (Or.inr ⟨hzero, rfl, rfl⟩)
  · rename_i hne
    exact Or.inl ⟨hne, rfl⟩

/-- An effect that puts no response. -/
def Quiet (cfg : Settings) (jwt : Jwt) (task : TaskId) (request : HttpRequest)
    (s s' : Store) : Prop :=
  Effect cfg jwt task request s s' ∧
    forall i c e r, .responseEnqueued i c e r ∈ s'.history ->
      .responseEnqueued i c e r ∈ s.history

section

variable {cfg : Settings} {jwt : Jwt} {task : TaskId} {request : HttpRequest}

theorem quiet_of_added {s s' : Store} {added : List Record}
    (heffect : Effect cfg jwt task request s s')
    (hhist : s'.history = s.history ++ added)
    (hadded : forall r, r ∈ added -> forall i c e response,
      r ≠ .responseEnqueued i c e response) :
    Quiet cfg jwt task request s s' := by
  constructor
  · exact heffect
  · intro i c e r hr
    rw [hhist] at hr
    rcases List.mem_append.mp hr with hr | hr
    · exact hr
    · exact absurd rfl (hadded _ hr i c e r)

theorem quiet_answer (reply : HttpReply) (s : Store) :
    Quiet cfg jwt task request s (s.record (.answered task reply)) :=
  quiet_of_added (Effect.answer reply s) rfl (by simp)

theorem quiet_openClient {clientId : String} (createdAt : Time) (s : Store)
    (hwho : ActsFor jwt request.authorization clientId ∨
      exists params, Responds jwt request params ∧ params.clientId = clientId) :
    Quiet cfg jwt task request s
      (ClientRegistry.getOrCreate cfg clientId createdAt s).2 := by
  rcases ClientRegistry.history_getOrCreate cfg clientId createdAt s with
    ⟨added, hhist, hnone⟩
  apply quiet_of_added (Effect.openClient createdAt s hwho) hhist
  intro r hr i c e response heq
  have htask := hnone r hr
  rw [heq] at htask
  cases htask

theorem Effect.quiet {s s' : Store} (h : Effect cfg jwt task request s s')
    (hwho : forall params, ¬ Responds jwt request params) :
    Quiet cfg jwt task request s s' := by
  have silent : forall {t : Store}, Effect cfg jwt task request s t ->
      (exists added, t.history = s.history ++ added ∧
        forall r, r ∈ added -> r.task? = none) ->
      Quiet cfg jwt task request s t := by
    rintro t heffect ⟨added, hhist, hnone⟩
    apply quiet_of_added heffect hhist
    intro r hr i c e response heq
    have htask := hnone r hr
    rw [heq] at htask
    cases htask
  cases h with
  | openService serviceName =>
      exact silent (Effect.openService serviceName s)
        (ServiceRegistry.history_getOrCreate cfg _ s)
  | openClient createdAt _ hopen => exact quiet_openClient createdAt s hopen
  | bump now _ hbump =>
      refine silent (Effect.bump now s hbump) ⟨[], ?_, by simp⟩
      rw [ClientRegistry.history_bumpLastSeen, List.append_nil]
  | logoff _ hroute hoff =>
      exact silent (Effect.logoff s hroute hoff) (ClientRegistry.history_remove _ _ s)
  | putRequest hposts hqueue hput =>
      rcases putRequest_eq_some hput with ⟨q, q', _, _, rfl⟩
      exact quiet_of_added (Effect.putRequest hposts hqueue hput) rfl (by simp)
  | takeRequest hpulls hqueue htake =>
      rcases takeRequest_eq_some htake with ⟨q, posted, q', _, _, _, rfl⟩
      exact quiet_of_added (Effect.takeRequest hpulls hqueue htake) rfl (by simp)
  | putResponse hresponds => exact absurd hresponds (hwho _)
  | takeResponse hreceives hentry htake =>
      rcases takeResponse_eq_some htake with ⟨e, posted, q', _, _, _, rfl⟩
      exact quiet_of_added (Effect.takeResponse hreceives hentry htake) rfl (by simp)
  | answer reply => exact quiet_answer reply s

theorem quiet_postResponseToClient {params : PostResponse} {clock : Clock}
    {s : Store} (hwho : Responds jwt request params) :
    Relation.ReflTransGen (Quiet cfg jwt task request) s
      (postResponseToClient cfg task params clock s).1 := by
  have hopen : Quiet cfg jwt task request s
      (ClientRegistry.getOrCreate cfg params.clientId (clock.reading 0) s).2 :=
    quiet_openClient (clock.reading 0) s (Or.inr ⟨params, hwho, rfl⟩)
  unfold postResponseToClient
  dsimp only
  split
  · exact Relation.ReflTransGen.tail (Relation.ReflTransGen.single hopen)
      (quiet_answer _ _)
  · exact Relation.ReflTransGen.single hopen

theorem quiet_dispatch {params : PostResponse} {secret : String} {clock : Clock}
    {s : Store} (hwho : Responds jwt request params) :
    Relation.ReflTransGen (Quiet cfg jwt task request) s
      (dispatch cfg jwt task request secret clock s).1 := by
  have hanswer : forall reply, Relation.ReflTransGen (Quiet cfg jwt task request) s
      (answer task reply s).1 := fun reply =>
    Relation.ReflTransGen.single (quiet_answer reply s)
  unfold dispatch
  rw [hwho.left]
  dsimp only [orRefuse]
  split
  · exact hanswer _
  · unfold requireText
    split
    · exact hanswer _
    · split
      · exact hanswer _
      · exact quiet_postResponseToClient hwho

theorem PhaseOk.quiet_or_puts {phase : Phase} {action : Action} {clock : Clock}
    {s : Store} {r : Store × Phase} (hwell : s.WellFormed cfg)
    (h : PhaseOk cfg jwt task request s phase)
    (hadvance : advance cfg jwt task request phase action clock s = some r) :
    Relation.ReflTransGen (Quiet cfg jwt task request) s r.1 ∨
      exists params entry s', PutsOn phase action params entry ∧
        s.putResponse task params.clientId entry (params.pypeResp cfg) = some s' ∧
        Relation.ReflTransGen (Quiet cfg jwt task request) s' r.1 := by
  by_cases hwho : exists params, Responds jwt request params
  · rcases hwho with ⟨params, hwho⟩
    cases stretch_of_advance hadvance with
    | start => exact Or.inl (quiet_dispatch hwho)
    | postResponseBody =>
        rename_i params' entry timeoutMs
        rcases postResponseBody_cases cfg task params' entry timeoutMs clock s with
          ⟨_, heq⟩ | ⟨rfl, s', hput, heq⟩ | ⟨_, _, heq⟩
        · rw [heq]
          exact Or.inl Relation.ReflTransGen.refl
        · rw [heq]
          exact Or.inr ⟨params', entry, s', PutsOn.atOnce, hput,
            Relation.ReflTransGen.single (quiet_answer _ _)⟩
        · rw [heq]
          exact Or.inl (Relation.ReflTransGen.single (quiet_answer _ _))
    | postResponsePutServed hput =>
        rw [h.right.right.left] at hput
        exact Or.inr ⟨_, _, _, PutsOn.waiting, hput, Relation.ReflTransGen.refl⟩
    | postResponsePutDone =>
        unfold postResponseEnqueued
        split <;> exact Or.inl (Relation.ReflTransGen.single (quiet_answer _ _))
    | startClosed | postResponseBodyClosed | postResponsePutExpired | doneClosed =>
        exact Or.inl Relation.ReflTransGen.refl
    | postRequestBody | postRequestBodyClosed | postRequestPutServed
    | postRequestPutExpired | postRequestPutDone | postRequestGetServed
    | postRequestGetExpired => exact absurd h.left hwho.not_posts
    | postRequestGetDone =>
        rcases h with ⟨_, _, _, hposts, _⟩
        exact absurd hposts hwho.not_posts
    | getRequestGetServed | getRequestGetExpired => exact absurd h.left hwho.not_pulls
    | getRequestGetDone =>
        rcases h with ⟨_, hpulls, _⟩
        exact absurd hpulls hwho.not_pulls
    | getResponseGetServed | getResponseGetExpired | getResponseGetDone =>
        exact absurd h.left hwho.not_polls
  · left
    have hquiet : forall t t', Effect cfg jwt task request t t' ->
        Quiet cfg jwt task request t t' :=
      fun _ _ heffect => heffect.quiet fun params hp => hwho ⟨params, hp⟩
    exact Relation.ReflTransGen.mono hquiet _ _ (good_advance hwell h hadvance).left

theorem Finished.put_of_accepted {records : List Record} {reply : HttpReply}
    {params : PostResponse} (h : Finished cfg jwt task request records reply)
    (hwho : Responds jwt request params) (hstatus : reply.status = 202) :
    exists entry,
      .responseEnqueued task params.clientId entry (params.pypeResp cfg) ∈ records := by
  cases h with
  | responseAccepted hwho' =>
      rename_i params' entry
      have hroute := hwho.left.symm.trans hwho'.left
      cases hroute
      exact ⟨entry, List.mem_cons_self⟩
  | refused hrefused =>
      rcases hrefused with h | h | h | h <;> rw [hstatus] at h <;> cases h
  | responseNotTaken _ => cases hstatus
  | requestNotTaken hwho' | requestAccepted hwho' | requestResponded hwho' _ =>
      exact absurd hwho' hwho.not_posts
  | noRequest hwho' | requestDelivered hwho' => exact absurd hwho' hwho.not_pulls
  | noResponse hwho' | responseDelivered hwho' => exact absurd hwho' hwho.not_polls
  | administered hroute =>
      rw [hwho.left] at hroute
      simp at hroute

/-!
## Registered entries
-/

theorem Effect.registered {s s' : Store} (h : Effect cfg jwt task request s s')
    {clientId : String} {entry : Ref}
    (hentry : s.clientRegistry.get? clientId = some entry) :
    s'.clientRegistry.get? clientId = some entry ∨
      s'.history = s.history ++
        [.clientEntryRemoved (.logoff task) clientId entry] := by
  rcases h.onClient with
    hsame | ⟨other, createdAt, _, rfl⟩ | ⟨other, now, _, rfl⟩ |
    ⟨other, _, rfl⟩ | ⟨params, e, _, _, hput⟩ | ⟨other, e, item, _, _, htake⟩
  · rw [hsame.registry]
    exact Or.inl hentry
  · left
    rcases ClientRegistry.getOrCreate_cases cfg other createdAt s with
      ⟨registered, _, heq⟩ | ⟨hnone, heq⟩
    · rw [heq]
      exact hentry
    · have hne : other ≠ clientId := by
        rintro rfl
        rw [hnone] at hentry
        cases hentry
      rw [heq, ClientRegistry.create, Dict.get?_set_of_ne _ _ hne]
      exact hentry
  · unfold ClientRegistry.bumpLastSeen
    split <;> exact Or.inl hentry
  · exact remove_registered _ other hentry
  · rcases putResponse_eq_some hput with ⟨_, _, _, _, rfl⟩
    exact Or.inl hentry
  · rcases takeResponse_eq_some htake with ⟨_, _, _, _, _, _, rfl⟩
    exact Or.inl hentry

end

/-- Every response was put on an entry that is still registered, or that was
removed later. -/
def PutsKept (s : Store) : Prop :=
  forall i c e r, .responseEnqueued i c e r ∈ s.history ->
    s.clientRegistry.get? c = some e ∨
      exists remover, List.Sublist
        [.responseEnqueued i c e r, .clientEntryRemoved remover c e] s.history

theorem putsKept_initial : PutsKept Store.initial := by
  intro i c e r hr
  cases hr

theorem PutsKept.grow {s s' : Store} {i : TaskId} {c : String} {e : Ref}
    {r : PypeResponse} {added : List Record} (h : PutsKept s)
    (hr : .responseEnqueued i c e r ∈ s.history)
    (hhist : s'.history = s.history ++ added)
    (hregistered : s.clientRegistry.get? c = some e ->
      s'.clientRegistry.get? c = some e ∨
        exists remover, s'.history = s.history ++ [.clientEntryRemoved remover c e]) :
    s'.clientRegistry.get? c = some e ∨
      exists remover, List.Sublist
        [.responseEnqueued i c e r, .clientEntryRemoved remover c e] s'.history := by
  rcases h i c e r hr with hentry | ⟨remover, hsub⟩
  · rcases hregistered hentry with hentry' | ⟨remover, hremoved⟩
    · exact Or.inl hentry'
    · refine Or.inr ⟨remover, ?_⟩
      rw [hremoved]
      exact (List.singleton_sublist.mpr hr).append (List.Sublist.refl [_])
  · refine Or.inr ⟨remover, ?_⟩
    rw [hhist]
    exact hsub.trans (List.sublist_append_left _ _)

section

variable {cfg : Settings} {jwt : Jwt} {task : TaskId} {request : HttpRequest}

theorem PutsKept.quiet {s s' : Store} (h : PutsKept s)
    (hquiet : Quiet cfg jwt task request s s') : PutsKept s' := by
  intro i c e r hr
  rcases hquiet.left.history with ⟨added, hhist, _⟩
  apply h.grow (hquiet.right i c e r hr) hhist
  intro hentry
  rcases hquiet.left.registered hentry with hentry' | hremoved
  · exact Or.inl hentry'
  · exact Or.inr ⟨_, hremoved⟩

theorem PutsKept.quiets {s s' : Store} (h : PutsKept s)
    (hquiet : Relation.ReflTransGen (Quiet cfg jwt task request) s s') :
    PutsKept s' := by
  induction hquiet with
  | refl => exact h
  | tail _ hlast ih => exact ih.quiet hlast

theorem PutsKept.put {s s' : Store} {clientId : String} {entry : Ref}
    {response : PypeResponse} (h : PutsKept s)
    (hentry : s.clientRegistry.get? clientId = some entry)
    (hput : s.putResponse task clientId entry response = some s') :
    PutsKept s' := by
  rcases putResponse_eq_some hput with ⟨_, _, _, _, rfl⟩
  intro i c e r hr
  rcases List.mem_append.mp hr with hr | hr
  · exact h.grow hr rfl Or.inl
  · cases List.mem_singleton.mp hr
    exact Or.inl hentry

theorem PutsKept.remove {s : Store} (h : PutsKept s) (remover : Remover)
    (clientId : String) : PutsKept (ClientRegistry.remove remover clientId s) := by
  intro i c e r hr
  rcases ClientRegistry.history_remove remover clientId s with ⟨added, hhist, hnone⟩
  have hold : .responseEnqueued i c e r ∈ s.history := by
    rw [hhist] at hr
    rcases List.mem_append.mp hr with hr | hr
    · exact hr
    · cases hnone _ hr
  apply h.grow hold hhist
  intro hentry
  rcases remove_registered remover clientId hentry with hentry' | hremoved
  · exact Or.inl hentry'
  · exact Or.inr ⟨remover, hremoved⟩

end

/-!
## Runs
-/

/-- The message and the entry of the put that an action makes a handler try. -/
def Phase.target? : Phase -> Action -> Option (PostResponse × Ref)
  | .postResponseBody params entry timeoutMs, .body =>
      if timeoutMs = 0 then some (params, entry) else none
  | .postResponsePut params entry _ _, .serve => some (params, entry)
  | _, _ => none

theorem PutsOn.target {phase : Phase} {action : Action} {params : PostResponse}
    {entry : Ref} (h : PutsOn phase action params entry) :
    phase.target? action = some (params, entry) := by
  cases h <;> rfl

def Store.entryFull (entry : Ref) (s : Store) : Bool :=
  match s.clientEntries[entry]? with
  | some e => decide e.queue.Full
  | none => false

namespace App

/-- An event that puts a response puts it on the entry registered for the client,
unless there is no room for it anyway. -/
def PutsOnRegistered (s : App) : Event -> Prop
  | .run task action _ =>
      match s.tasks.get? task with
      | none => True
      | some t =>
          match t.phase.target? action with
          | none => True
          | some (params, entry) =>
              s.store.clientRegistry.get? params.clientId = some entry ∨
                s.store.entryFull entry = true
  | _ => True

instance (s : App) (e : Event) : Decidable (PutsOnRegistered s e) := by
  unfold PutsOnRegistered
  split
  · split
    · exact instDecidableTrue
    · split
      · exact instDecidableTrue
      · exact instDecidableOr
  · exact instDecidableTrue

variable {cfg : Settings} {jwt : Jwt}

theorem putsKept_step {s : App} {e : Event} (hguard : PutsOnRegistered s e)
    (hinv : Invariant cfg jwt s) (h : PutsKept s.store) :
    PutsKept (step cfg jwt s e).store := by
  rcases step_cases cfg jwt s e with
    hsame | ⟨task, request, _, _, hstep⟩ |
    ⟨task, t, action, clock, store, phase, rfl, ht, _, hadvance, hstep⟩ |
    ⟨now, _, _, hstep⟩
  · rw [hsame]
    exact h
  · rw [hstep]
    exact h
  · rw [hstep]
    rcases (hinv.conduct task t ht).quiet_or_puts hinv.wellFormed hadvance with
      hquiet | ⟨params, entry, s', hputs, hput, hquiet⟩
    · exact h.quiets hquiet
    · simp only [PutsOnRegistered, ht, hputs.target] at hguard
      rcases hguard with hentry | hfull
      · exact (h.put hentry hput).quiets hquiet
      · rcases putResponse_eq_some hput with ⟨x, q', hx, hq', _⟩
        simp only [Store.entryFull, hx, decide_eq_true_eq] at hfull
        rw [BoundedQueue.putNowait_eq_none_iff.mpr hfull] at hq'
        cases hq'
  · rw [hstep]
    exact ClientQueueReaper.tick_invariant PutsKept
      (fun clientId _ _ _ _ ih => ih.remove (.reaper now) clientId) s.reaper h

/-- What becomes of the responses that were acknowledged with 202. -/
def AcknowledgedKept (cfg : Settings) (jwt : Jwt) (s : App) : Prop :=
  forall task t params reply, s.tasks.get? task = some t ->
    Responds jwt t.request params ->
    .answered task reply ∈ s.store.history -> reply.status = 202 ->
    (s.store.takersOf task).length ≤ 1 ∧
    (forall taker, taker ∈ s.store.takersOf task ->
      exists u, s.tasks.get? taker = some u ∧
        Receives jwt u.request params.clientId) ∧
    exists entry,
      .responseEnqueued task params.clientId entry (params.pypeResp cfg) ∈
          s.store.history ∧
        (s.store.takersOf task ≠ [] ∨
          (s.store.clientRegistry.get? params.clientId = some entry ∧
            ⟨task, params.pypeResp cfg⟩ ∈ s.store.entryContent entry) ∨
          exists remover, List.Sublist
            [.responseEnqueued task params.clientId entry (params.pypeResp cfg),
              .clientEntryRemoved remover params.clientId entry] s.store.history)

theorem Invariant.put_of_accepted {s : App} (hinv : Invariant cfg jwt s)
    {task : TaskId} {t : Task} {params : PostResponse} {reply : HttpReply}
    (ht : s.tasks.get? task = some t) (hwho : Responds jwt t.request params)
    (hr : .answered task reply ∈ s.store.history) (hstatus : reply.status = 202) :
    exists entry,
      .responseEnqueued task params.clientId entry (params.pypeResp cfg) ∈
        s.store.history := by
  rcases hinv.of_answered hr with ⟨u, hu, hfinished, _⟩
  rw [ht] at hu
  cases hu
  rcases hfinished.put_of_accepted hwho hstatus with ⟨entry, hmem⟩
  exact ⟨entry, (Store.mem_recordsOf.mp hmem).left⟩

theorem acknowledgedKept_of {s : App} (hinv : Invariant cfg jwt s)
    (haccount : ClientAccount s.store) (hkept : PutsKept s.store) :
    AcknowledgedKept cfg jwt s := by
  intro task t params reply ht hwho hr hstatus
  rcases hinv.put_of_accepted ht hwho hr hstatus with ⟨entry, hput⟩
  refine ⟨hinv.length_takersOf_le_one haccount task,
    fun taker htaker => hinv.of_mem_takersOf haccount hput htaker, entry, hput, ?_⟩
  have henq : (⟨task, params.pypeResp cfg⟩ : Posted PypeResponse) ∈
      s.store.enqueuedResponses entry :=
    List.mem_filterMap.mpr ⟨_, hput, by simp [Record.responseEnqueued?]⟩
  rw [haccount.balance entry] at henq
  rcases List.mem_append.mp henq with htaken | hcontent
  · -- it was taken
    left
    rcases List.mem_map.mp htaken with ⟨⟨taker, posted⟩, hmem, heq⟩
    rcases List.mem_filterMap.mp hmem with ⟨r, hrec, hsome⟩
    cases r <;> simp only [Record.responseDequeued?, reduceCtorEq] at hsome
    split at hsome
    · cases hsome
      have htaker : taker ∈ s.store.takersOf task := by
        simp only at heq
        exact List.mem_filterMap.mpr ⟨_, hrec, by simp [Record.responseTaker?, heq]⟩
      exact List.ne_nil_of_mem htaker
    · cases hsome
  · -- it is on the queue of an entry that is registered, or was removed since
    rcases hkept task params.clientId entry _ hput with hentry | hremoved
    · exact Or.inr (Or.inl ⟨hentry, hcontent⟩)
    · exact Or.inr (Or.inr hremoved)

/-- In every run that puts responses on registered entries only, no acknowledged
response vanishes. -/
theorem acknowledged_kept (cfg : Settings) (jwt : Jwt) (es : List Event)
    (hguard : Along (step cfg jwt) PutsOnRegistered initial es)
    (seen : List Event) (hseen : seen <+: es) :
    AcknowledgedKept cfg jwt (reached cfg jwt seen) := by
  rcases hseen with ⟨rest, rfl⟩
  have hboth : Invariant cfg jwt (reached cfg jwt seen) ∧
      PutsKept (reached cfg jwt seen).store := by
    refine run_invariant_along
      (fun s => Invariant cfg jwt s ∧ PutsKept s.store) ?_
      ⟨invariant_initial cfg jwt, putsKept_initial⟩ (along_append.mp hguard).left
    intro s e hstep h
    exact ⟨h.left.step e, putsKept_step hstep h.left h.right⟩
  exact acknowledgedKept_of hboth.left (clientAccount_reached cfg jwt seen)
    hboth.right

def promptResponse : List Event :=
  [.connect 0 ⟨some "Bearer service", .postResponse ⟨"c", "1", some 0, none, []⟩⟩,
    .run 0 (.start "") (Clock.constant 0),
    .run 0 .body (Clock.constant 0)]

theorem acknowledged_kept_promptResponse :
    AcknowledgedKept (Settings.default "10.0.0.1") (Jwt.ofPair "c" "s")
      (reached (Settings.default "10.0.0.1") (Jwt.ofPair "c" "s") promptResponse) :=
  acknowledged_kept _ _ promptResponse (by decide +kernel) promptResponse
    (List.prefix_refl _)

/-- The client logs off while the body of a response to it is on its way. -/
def logoffBeforeBody : List Event :=
  [.connect 0 ⟨some "Bearer service", .postResponse ⟨"c", "1", some 0, none, []⟩⟩,
    .run 0 (.start "") (Clock.constant 0),
    .connect 1 ⟨some "Bearer client", .clientLogoff⟩,
    .run 1 (.start "") (Clock.constant 0),
    .run 0 .body (Clock.constant 0)]

def removalKind : Record -> Nat
  | .responseEnqueued .. => 1
  | .clientEntryRemoved .. => 2
  | _ => 0

/-- The response that arrives after the logoff is acknowledged and lost. -/
theorem acknowledged_lost :
    ¬ AcknowledgedKept (Settings.default "10.0.0.1") (Jwt.ofPair "c" "s")
      (reached (Settings.default "10.0.0.1") (Jwt.ofPair "c" "s")
        logoffBeforeBody) := by
  intro h
  have htask : ((reached (Settings.default "10.0.0.1") (Jwt.ofPair "c" "s")
      logoffBeforeBody).tasks.get? 0).map Task.request =
      some ⟨some "Bearer service", .postResponse ⟨"c", "1", some 0, none, []⟩⟩ := by
    decide +kernel
  rcases Option.map_eq_some_iff.mp htask with ⟨t, ht, hrequest⟩
  have hanswer : (reached (Settings.default "10.0.0.1") (Jwt.ofPair "c" "s")
      logoffBeforeBody).store.history.any (Record.answers 0 202) = true := by
    decide +kernel
  rcases Record.exists_of_any_answers hanswer with ⟨reply, hr, hstatus⟩
  have hwho : Responds (Jwt.ofPair "c" "s") t.request
      ⟨"c", "1", some 0, none, []⟩ := by
    rw [hrequest]
    decide +kernel
  rcases h 0 t _ reply ht hwho hr hstatus with ⟨_, _, entry, _, hcases⟩
  rcases hcases with htaken | ⟨hentry, _⟩ | ⟨remover, hsub⟩
  · exact htaken (by decide +kernel)
  · have hnone : (reached (Settings.default "10.0.0.1") (Jwt.ofPair "c" "s")
        logoffBeforeBody).store.clientRegistry.get? "c" = none := by
      decide +kernel
    rw [hnone] at hentry
    cases hentry
  · -- the only removal precedes the only put
    have hkinds : (reached (Settings.default "10.0.0.1") (Jwt.ofPair "c" "s")
        logoffBeforeBody).store.history.map removalKind = [0, 2, 0, 1, 0] := by
      decide +kernel
    have hsub' : List.Sublist [1, 2] [0, 2, 0, 1, 0] := by
      rw [← hkinds]
      exact hsub.map removalKind
    exact absurd hsub' (by decide)

end App

end Server
end Pype
