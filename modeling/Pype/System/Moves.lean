import Pype.Server.Schedules
import Pype.System.Parties

/-!
# What the next moves can do

Each kind of move from a state in which it can happen, and a whole exchange: a call is
made, the server runs its handler through, and the reply comes back.
-/

namespace Pype
namespace System

open Foundation Server

section

variable {caller worker : Type} {d : Deployment caller worker}
  {s s' : State caller worker}

/-!
## Exchanges
-/

theorem Provenance.fresh (h : Provenance d s) :
    s.server.tasks.get? s.exchanges.length = none := by
  cases ht : s.server.tasks.get? s.exchanges.length with
  | none => rfl
  | some t =>
      rcases h.server.requests _ t ht with ⟨x, hx, _⟩
      rw [List.getElem?_eq_none_iff.mpr (le_refl s.exchanges.length)] at hx
      cases hx

theorem server_issue {x : Exchange caller worker} {request : HttpRequest}
    (hfresh : s.server.tasks.get? s.exchanges.length = none)
    (hrequest : d.requestFor x = some request) :
    (d.issue x s).server =
      { s.server with
        tasks := s.server.tasks.set s.exchanges.length ⟨request, .received⟩ } := by
  show d.accept s.exchanges.length x s.server = _
  unfold Deployment.accept
  rw [hrequest]
  show s.server.connect s.exchanges.length request = _
  rw [App.connect, hfresh]

theorem replyTo?_of_done {task : TaskId} {request : HttpRequest} {reply : HttpReply}
    (h : s.server.tasks.get? task = some ⟨request, .done reply⟩) :
    replyTo? s.server task = some reply := by
  rw [replyTo?, h]

/-!
## Turns that end an operation
-/

def Over {frame value : Type} (progress : Client.Turn frame value) : Prop :=
  forall call f, progress ≠ .blocked call f

theorem settle_over [DecidableEq caller] {k : caller}
    {result : Client.ClientConnection × Client.Progress}
    (h : Over result.2) :
    d.settle k result s =
      s.setCaller k ⟨result.1.noteReturned result.2.pending, none⟩ := by
  rcases result with ⟨conn, progress⟩
  cases progress with
  | blocked call frame => exact absurd rfl (h call frame)
  | returned value => rfl
  | raised error => rfl

theorem over_of_failed {settings : Client.Settings} (frame : Client.Frame)
    (task : TaskId) (clock : Clock) (conn : Client.ClientConnection) :
    Over (conn.resume settings frame .requestException task clock).2 := by
  intro call f
  cases frame <;> simp [Client.ClientConnection.resume,
    Client.ClientConnection.sendRequestSent, Client.ClientConnection.callPosted,
    Client.ClientConnection.getResponsePolled, Client.ClientConnection.collectPolled,
    Client.ClientConnection.polled, Client.expectReply]

def pulledBy : Client.ServiceConnection.Progress -> List Client.ClientRequest
  | .returned (.request request) => [request]
  | _ => []

theorem finish_eq [DecidableEq worker] {w : worker}
    {result : Client.ServiceConnection × Client.ServiceConnection.Progress} :
    Deployment.finish w result s =
      s.setDesk w ⟨result.1, none, (s.desks w).pulled ++ pulledBy result.2,
        (s.desks w).answered⟩ := by
  rcases result with ⟨conn, progress⟩
  unfold Deployment.finish
  dsimp only
  cases progress with
  | blocked call frame => simp [pulledBy]
  | raised error => simp [pulledBy]
  | returned value => cases value <;> simp [pulledBy]

/-!
## Answers
-/

/-- A worker has begun to answer only what it has pulled. -/
def AnswersPulled (s : State caller worker) : Prop :=
  forall w q, q ∈ (s.desks w).answered -> q ∈ (s.desks w).pulled

theorem AnswersPulled.setDesk [DecidableEq worker] {w : worker} (h : AnswersPulled s)
    {desk : Desk}
    (hdesk : forall q, q ∈ desk.answered -> q ∈ desk.pulled) :
    AnswersPulled (s.setDesk w desk) := by
  intro w' q hq
  by_cases heq : w' = w
  · subst heq
    simp only [State.setDesk, Function.update_self] at hq ⊢
    exact hdesk q hq
  · simp only [State.setDesk, Function.update_of_ne heq] at hq ⊢
    exact h w' q hq

theorem AnswersPulled.settle [DecidableEq caller] (h : AnswersPulled s) (k : caller)
    (result : Client.ClientConnection × Client.Progress) :
    AnswersPulled (d.settle k result s) := by
  unfold Deployment.settle
  dsimp only
  split <;> exact h

theorem AnswersPulled.begin [DecidableEq worker] {w : worker} (h : AnswersPulled s)
    {operation : Client.ServiceConnection.Operation}
    (hmay : MayWork (s.desks w) operation) : AnswersPulled (d.begin w operation s) := by
  unfold Deployment.begin
  cases operation with
  | sendResponse forRequest response contentType timeout =>
      have hanswered : forall q, q ∈ (s.desks w).answered ++ [forRequest] ->
          q ∈ (s.desks w).pulled := by
        intro q hq
        rcases List.mem_append.mp hq with hold | hnew
        · exact h w q hold
        · rw [List.mem_singleton.mp hnew]
          exact hmay.left
      dsimp only
      split
      · exact h.setDesk hanswered
      · exact h.setDesk hanswered
  | getRequest timeout =>
      dsimp only
      split
      · exact h.setDesk (h w)
      · exact h.setDesk (h w)
  | close => exact h.setDesk (h w)

theorem AnswersPulled.finish [DecidableEq worker] {w : worker} (h : AnswersPulled s)
    (result : Client.ServiceConnection × Client.ServiceConnection.Progress) :
    AnswersPulled (Deployment.finish w result s) := by
  rw [finish_eq]
  apply h.setDesk
  intro q hq
  exact List.mem_append_left _ (h w q hq)

end

section

variable {caller worker : Type} [DecidableEq caller] [DecidableEq worker]
  {d : Deployment caller worker} {s s' : State caller worker} {k : caller} {w : worker}

/-!
## Moves
-/

theorem step_ask {operation : Client.Operation} {clock : Clock}
    (hwaits : (s.callers k).waiting = none) (hplain : AsksPlain operation) :
    d.step s (.ask k operation clock) =
      d.settle k ((s.callers k).connection.start d.settings operation clock) s := by
  unfold Deployment.step
  dsimp only
  rw [hwaits]
  exact if_pos hplain

theorem step_fail {task : TaskId} {frame : Client.Frame} {timedOut : Bool} {clock : Clock}
    (hwaits : (s.callers k).waiting = some (task, frame)) :
    d.step s (.fail k timedOut clock) =
      d.settle k ((s.callers k).connection.resume d.settings frame (failure timedOut) task
        clock) s := by
  unfold Deployment.step
  dsimp only
  rw [hwaits]

theorem step_work {operation : Client.ServiceConnection.Operation}
    (hwaits : (s.desks w).waiting = none) (hmay : MayWork (s.desks w) operation) :
    d.step s (.work w operation) = d.begin w operation s := by
  unfold Deployment.step
  dsimp only
  rw [hwaits]
  exact if_pos hmay

theorem step_failWork {task : TaskId} {frame : Client.ServiceConnection.Frame}
    {timedOut : Bool} (hwaits : (s.desks w).waiting = some (task, frame)) :
    d.step s (.failWork w timedOut) =
      Deployment.finish w
        ((s.desks w).connection.resume frame (failure timedOut) task) s := by
  unfold Deployment.step
  dsimp only
  rw [hwaits]

/-- The server ran one handler up to a phase. -/
structure Ran (s s' : State caller worker) (task : TaskId) (request : HttpRequest)
    (r : Store × Phase) : Prop where
  callers : s'.callers = s.callers
  desks : s'.desks = s.desks
  exchanges : s'.exchanges = s.exchanges
  store : s'.server.store = r.1
  ran : s'.server.tasks.get? task = some ⟨request, r.2⟩
  others : forall other, other ≠ task ->
    s'.server.tasks.get? other = s.server.tasks.get? other

theorem step_serve {task : TaskId} {t : Task} {action : Action} {r : Store × Phase}
    (ht : s.server.tasks.get? task = some t)
    (h : advance d.cfg d.jwt task t.request t.phase action
      (Clock.constant s.server.now) s.server.store = some r) :
    d.step s (.serve task action (Clock.constant s.server.now)) =
      { s with
        server :=
          { s.server with
            store := r.1
            tasks := s.server.tasks.set task { t with phase := r.2 } } } := by
  have hrun : s.server.runTask d.cfg d.jwt task action (Clock.constant s.server.now) =
      { s.server with
        store := r.1
        tasks := s.server.tasks.set task { t with phase := r.2 } } := by
    have hnow : s.server.now ≤ (Clock.constant s.server.now).reading 0 := le_refl _
    unfold App.runTask
    rw [ht]
    dsimp only
    rw [if_pos hnow, h]
    rfl
  exact congrArg (fun server => { s with server := server }) hrun

theorem leads_run {task : TaskId} {request : HttpRequest} {phase : Phase}
    {actions : List Action} {r : Store × Phase}
    (ht : s.server.tasks.get? task = some ⟨request, phase⟩)
    (h : runStretches d.cfg d.jwt task request s.server.now actions
      (s.server.store, phase) = some r) :
    Leads d.step (fun s' => Ran s s' task request r) s := by
  induction actions generalizing s phase with
  | nil =>
      cases h
      exact Leads.here ⟨rfl, rfl, rfl, rfl, ht, fun _ _ => rfl⟩
  | cons action rest ih =>
      rw [runStretches] at h
      split at h
      · cases h
      · rename_i r' hadvance
        have hstep : d.step s (.serve task action (Clock.constant s.server.now)) = _ :=
          step_serve ht hadvance
        apply Leads.next (.serve task action (Clock.constant s.server.now))
        rw [hstep]
        apply (ih (Dict.get?_set_self _ _ _) h).mono
        intro t hran
        refine ⟨hran.callers, hran.desks, hran.exchanges, hran.store, hran.ran, ?_⟩
        intro other hne
        rw [hran.others other hne]
        exact Dict.get?_set_of_ne _ _ (Ne.symm hne)

/-!
## Replies
-/

theorem handle_close {task : TaskId} {request : HttpRequest} {reply : HttpReply}
    (h : s.server.tasks.get? task = some ⟨request, .done reply⟩) :
    d.handle (.run task .close (Clock.constant s.server.now)) s =
      { s with
        server :=
          { s.server with
            tasks := s.server.tasks.set task ⟨request, .closed (some reply)⟩ } } :=
  step_serve (r := (s.server.store, .closed (some reply))) h rfl

theorem step_reply {task : TaskId} {frame : Client.Frame} {request : HttpRequest}
    {reply : HttpReply} {clock : Clock}
    (hwaits : (s.callers k).waiting = some (task, frame))
    (hdone : s.server.tasks.get? task = some ⟨request, .done reply⟩) :
    d.step s (.reply k clock) =
      d.settle k
        ((s.callers k).connection.resume d.settings frame (.reply reply) task clock)
        { s with
          server :=
            { s.server with
              tasks := s.server.tasks.set task ⟨request, .closed (some reply)⟩ } } := by
  unfold Deployment.step
  dsimp only
  rw [hwaits]
  dsimp only
  rw [replyTo?_of_done hdone]
  dsimp only
  rw [handle_close hdone]

theorem step_replyToWork {task : TaskId} {frame : Client.ServiceConnection.Frame}
    {request : HttpRequest} {reply : HttpReply}
    (hwaits : (s.desks w).waiting = some (task, frame))
    (hdone : s.server.tasks.get? task = some ⟨request, .done reply⟩) :
    d.step s (.replyToWork w) =
      Deployment.finish w ((s.desks w).connection.resume frame (.reply reply) task)
        { s with
          server :=
            { s.server with
              tasks := s.server.tasks.set task ⟨request, .closed (some reply)⟩ } } := by
  unfold Deployment.step
  dsimp only
  rw [hwaits]
  dsimp only
  rw [replyTo?_of_done hdone]
  dsimp only
  rw [handle_close hdone]

/-!
## One exchange from its call to its answer
-/

/-- A call was made and its handler ran up to a phase. -/
structure Handled (s s' : State caller worker) (x : Exchange caller worker)
    (request : HttpRequest) (r : Store × Phase) : Prop where
  callers : s'.callers = s.callers
  desks : s'.desks = s.desks
  exchanges : s'.exchanges = s.exchanges ++ [x]
  store : s'.server.store = r.1
  ran : s'.server.tasks.get? s.exchanges.length = some ⟨request, r.2⟩
  others : forall task, task < s.exchanges.length ->
    s'.server.tasks.get? task = s.server.tasks.get? task

theorem leads_handled {x : Exchange caller worker} {request : HttpRequest}
    {actions : List Action} {r : Store × Phase}
    (hfresh : s.server.tasks.get? s.exchanges.length = none)
    (hrequest : d.requestFor x = some request)
    (hruns : runStretches d.cfg d.jwt s.exchanges.length request s.server.now actions
      (s.server.store, .received) = some r) :
    Leads d.step (fun s' => Handled s s' x request r) (d.issue x s) := by
  have hserver := server_issue hfresh hrequest
  have ht : (d.issue x s).server.tasks.get? s.exchanges.length =
      some ⟨request, .received⟩ := by
    rw [hserver]
    exact Dict.get?_set_self _ _ _
  have hruns' : runStretches d.cfg d.jwt s.exchanges.length request
      (d.issue x s).server.now actions ((d.issue x s).server.store, .received) = some r := by
    rw [hserver]
    exact hruns
  apply (leads_run ht hruns').mono
  intro s' hran
  refine ⟨hran.callers, hran.desks, hran.exchanges, hran.store, hran.ran, ?_⟩
  intro task hlt
  rw [hran.others task (Nat.ne_of_lt hlt), hserver]
  exact Dict.get?_set_of_ne _ _ (Nat.ne_of_gt hlt)

/-!
## What holds of the parties
-/

theorem AnswersPulled.step (h : AnswersPulled s) (move : Move caller worker) :
    AnswersPulled (d.step s move) := by
  have hcases := d.step_cases s move
  generalize d.step s move = s' at hcases ⊢
  have hends : forall {task outcome t}, Deployment.Ends d s task outcome t ->
      AnswersPulled t := by
    intro task outcome t hends
    cases hends with
    | replied hready => exact h
    | failed timedOut => exact h
  cases hcases with
  | idles => exact h
  | asks hasks => exact h.settle _ _
  | resumes hwaits hover => exact (hends hover).settle _ _
  | works hmay => exact h.begin hmay
  | finishes hwaits hover => exact (hends hover).finish _
  | visits hvisit => exact h
  | handles hconnect => exact h

/-- What holds in every reachable state. -/
structure Sound (d : Deployment caller worker) (s : State caller worker) : Prop where
  provenance : Provenance d s
  calls : PartyCalls d s
  answered : AnswersPulled s

theorem Sound.step (h : Sound d s) (move : Move caller worker) :
    Sound d (d.step s move) where
  provenance := h.provenance.step move
  calls := h.calls.step h.provenance move
  answered := h.answered.step move

theorem sound_reached (d : Deployment caller worker) (moves : List (Move caller worker)) :
    Sound d (d.reached moves) := by
  apply run_invariant (Sound d) (fun _ move h => h.step move)
  constructor
  · exact provenance_initial d
  · exact partyCalls_initial d
  · intro w q hq
    cases hq

theorem Sound.keep (h : Sound d s) {P : State caller worker -> Prop}
    (hleads : Leads d.step P s) : Leads d.step (fun s' => Sound d s' ∧ P s') s :=
  hleads.keep (Sound d) (fun _ move h => h.step move) h

end

end System
end Pype
