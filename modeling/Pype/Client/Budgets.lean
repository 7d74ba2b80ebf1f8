import Pype.Client.Invocation

/-!
# Timeouts within an operation

An operation with a finite timeout cuts the timeouts of its calls from deadlines
that it computes from the clock.  Each `timeout` parameter is within the caller's,
none is larger than the one before, and the socket timeout is the parameter with
the network buffer added; except that the POST of `call` adds the buffer to a
budget that may have gone negative, while its parameter is clamped.
-/

namespace Pype
namespace Client

open Foundation Server

/-- The timeout of an operation that waits for responses. -/
def Operation.budget? : Operation -> Option Int
  | .call _ _ _ timeout => timeout
  | .getResponse _ timeout => timeout
  | .collect _ _ timeout => timeout
  | _ => none

/-- The call takes a `timeout` parameter to a handler that reads it. -/
def HttpCall.Carries (call : HttpCall) (ms : Int) : Prop :=
  call.method ≠ .delete ∧ call.timeout = some ms

/-- The timeouts of some calls nest: each parameter is nonnegative and at most the
one before, the first at most a limit, and each socket timeout is the parameter
plus the buffer. -/
def Nested (settings : Settings) : Int -> List HttpCall -> Prop
  | _, [] => True
  | limit, call :: rest =>
      exists ms, call.Carries ms ∧ 0 ≤ ms ∧ ms ≤ limit ∧
        call.timeoutSeconds =
          some (((ms + settings.networkBufferMs : Int) : Rat) / 1000) ∧
        Nested settings ms rest

def Chronological : Time -> List Answer -> Prop
  | _, [] => True
  | now, answer :: rest =>
      now ≤ answer.clock.reading 0 ∧ Chronological (answer.clock.reading 2) rest

theorem Nested.nonneg {settings : Settings} {calls : List HttpCall} :
    forall {limit : Int}, Nested settings limit calls ->
      forall call, call ∈ calls -> exists ms, call.Carries ms ∧ 0 ≤ ms := by
  induction calls with
  | nil =>
      intro limit _ call hcall
      cases hcall
  | cons first rest ih =>
      rintro limit ⟨ms, hcarries, hnonneg, _, _, hrest⟩ call hcall
      rcases List.mem_cons.mp hcall with rfl | hcall
      · exact ⟨ms, hcarries, hnonneg⟩
      · exact ih hrest call hcall

theorem Chronological.earlier {now now' : Time} {answers : List Answer}
    (h : Chronological now' answers) (hle : now ≤ now') : Chronological now answers := by
  cases answers with
  | nil => trivial
  | cons answer rest => exact ⟨le_trans hle h.left, h.right⟩

def left (deadline now : Time) : Int := truncate ((deadline - now) * 1000)

theorem remainingMs_some (deadline now : Time) :
    remainingMs (some deadline) now = some (left deadline now) := rfl

theorem left_le {deadline now now' : Time} (h : now ≤ now') :
    left deadline now' ≤ left deadline now := by
  apply truncate_mono
  linarith

theorem left_set_le {start now : Time} {ms : Int} (h : start ≤ now) :
    left (start + seconds ms) now ≤ ms := by
  have hle : (start + seconds ms - now) * 1000 ≤ (ms : Rat) := by
    unfold seconds
    linarith
  have hmono := truncate_mono hle
  rw [truncate_intCast] at hmono
  exact hmono

namespace ClientConnection

section

variable {settings : Settings} {conn : ClientConnection}

theorem nested_returned (limit : Int) (answers : List Answer) (value : Returned) :
    Nested settings limit
      (follow settings answers (conn, .returned value)).calls := by
  rw [follow_returned]
  trivial

theorem nested_raised (limit : Int) (answers : List Answer) (error : PypeError) :
    Nested settings limit (follow settings answers (conn, .raised error)).calls := by
  rw [follow_raised]
  trivial

theorem carries_pollCall (settings : Settings) (ms : Int) (conn : ClientConnection) :
    (conn.pollCall settings (some ms)).Carries ms := by
  refine ⟨?_, rfl⟩
  intro hdelete
  cases hdelete

theorem carries_postCall (settings : Settings) (serviceName requestId : String)
    (request : Payload) (contentType : String) (ms : Int)
    (socketTimeout : Option Int) (block : Bool) :
    (postCall settings serviceName requestId request contentType (some ms)
      socketTimeout block).Carries ms := by
  refine ⟨?_, rfl⟩
  intro hdelete
  cases hdelete

theorem nested_poll {deadline now : Time} {limit : Int} {frame : Frame}
    {answers : List Answer} (hlimit : left deadline now ≤ limit)
    (hresume : forall answer rest, answers = answer :: rest ->
      Nested settings (left deadline now)
        (follow settings rest
          (conn.resume settings frame answer.outcome answer.source
            answer.clock)).calls) :
    Nested settings limit
      (follow settings answers
        (conn, conn.pollOne settings (remainingMs (some deadline) now)
          frame)).calls := by
  rcases pollOne_cases settings (remainingMs (some deadline) now) frame conn with
    ⟨hnonneg, heq⟩ | ⟨ms, _, _, heq⟩
  · have hleft : 0 ≤ left deadline now := hnonneg _ rfl
    have hcarries := carries_pollCall settings (left deadline now) conn
    rw [heq]
    cases answers with
    | nil => exact ⟨_, hcarries, hleft, hlimit, rfl, trivial⟩
    | cons answer rest =>
        exact ⟨_, hcarries, hleft, hlimit, rfl, hresume answer rest rfl⟩
  · rw [heq]
    exact nested_raised limit answers _

/-- A loop that polls, and after every answer ends or polls again with what is left of
the same deadline, keeps to the deadline. -/
theorem nested_loop {deadline : Time} {frame : Frame}
    {loop : Time -> ClientConnection -> ClientConnection × Progress}
    (hpolls : forall conn now, loop now conn =
      (conn, conn.pollOne settings (remainingMs (some deadline) now) frame))
    (hresume : forall (conn : ClientConnection) (answer : Answer),
      (exists conn' error, conn.resume settings frame answer.outcome answer.source
        answer.clock = (conn', .raised error)) ∨
      (exists conn' value, conn.resume settings frame answer.outcome answer.source
        answer.clock = (conn', .returned value)) ∨
      exists conn', conn.resume settings frame answer.outcome answer.source
        answer.clock = loop (answer.clock.reading 0) conn')
    (answers : List Answer) (conn : ClientConnection) {now : Time} {limit : Int}
    (hlimit : left deadline now ≤ limit) (hclock : Chronological now answers) :
    Nested settings limit (follow settings answers (loop now conn)).calls := by
  induction answers generalizing conn now limit with
  | nil =>
      rw [hpolls]
      apply nested_poll hlimit
      intro answer rest h
      cases h
  | cons answer rest ih =>
      rw [hpolls]
      apply nested_poll hlimit
      intro answer' rest' h
      cases h
      rcases hresume conn answer with
        ⟨conn', error, heq⟩ | ⟨conn', value, heq⟩ | ⟨conn', heq⟩
      · rw [heq]
        exact nested_raised _ _ _
      · rw [heq]
        exact nested_returned _ _ _
      · rw [heq]
        apply ih
        · exact left_le hclock.left
        · exact hclock.right.earlier (answer.clock.mono (by decide))

theorem nested_getResponseLoop {requestId : String} {infinite : Bool}
    {deadline : Time} (answers : List Answer) (conn : ClientConnection) {now : Time}
    {limit : Int} (hlimit : left deadline now ≤ limit)
    (hclock : Chronological now answers) :
    Nested settings limit
      (follow settings answers
        (conn.getResponseLoop settings requestId infinite (some deadline)
          now)).calls := by
  apply nested_loop (fun _ _ => rfl) _ answers conn hlimit hclock
  intro conn answer
  simp only [resume, getResponsePolled]
  split
  · exact Or.inl ⟨_, _, rfl⟩
  · split
    · exact Or.inl ⟨_, _, rfl⟩
    · exact Or.inr (Or.inr ⟨_, rfl⟩)
  · split
    · exact Or.inr (Or.inl ⟨_, _, rfl⟩)
    · exact Or.inr (Or.inr ⟨_, rfl⟩)

theorem nested_collectLoop {collector : Collector} {wanted : Wanted} {infinite : Bool}
    {deadline : Time} (answers : List Answer) (conn : ClientConnection) {now : Time}
    {limit : Int} (hlimit : left deadline now ≤ limit)
    (hclock : Chronological now answers) :
    Nested settings limit
      (follow settings answers
        (conn.collectLoop settings collector wanted infinite (some deadline)
          now)).calls := by
  apply nested_loop (fun _ _ => rfl) _ answers conn hlimit hclock
  intro conn answer
  simp only [resume, collectPolled]
  split
  · exact Or.inl ⟨_, _, rfl⟩
  · split
    · exact Or.inl ⟨_, _, rfl⟩
    · exact Or.inr (Or.inr ⟨_, rfl⟩)
  · split
    · exact Or.inr (Or.inl ⟨_, _, rfl⟩)
    · exact Or.inr (Or.inr ⟨_, rfl⟩)

theorem nested_getResponse {requestId : String} {ms limit : Int}
    {deadlineAt remainingAt : Time} {answers : List Answer}
    (hlimit : ms ≤ limit) (hread : deadlineAt ≤ remainingAt)
    (hclock : Chronological remainingAt answers) :
    Nested settings limit
      (follow settings answers
        (conn.getResponse settings requestId (some ms) deadlineAt
          remainingAt)).calls := by
  unfold getResponse
  split
  · exact nested_raised _ _ _
  · split
    · exact nested_returned _ _ _
    · exact nested_getResponseLoop answers conn
        (le_trans (left_set_le hread) hlimit) hclock

theorem nested_collect {collector : Collector} {requestIds : List String} {ms : Int}
    {deadlineAt remainingAt : Time} {answers : List Answer}
    (hread : deadlineAt ≤ remainingAt) (hclock : Chronological remainingAt answers) :
    Nested settings ms
      (follow settings answers
        (conn.collect settings collector requestIds (some ms) deadlineAt
          remainingAt)).calls := by
  unfold collect
  split
  · exact nested_raised _ _ _
  · split
    · exact nested_raised _ _ _
    · dsimp only
      split
      · exact nested_returned _ _ _
      · exact nested_collectLoop answers conn (left_set_le hread) hclock

theorem nested_callFallback {requestId : String} {deadline now : Time} {limit : Int}
    {remainingAt deadlineAt pollAt : Time} {answers : List Answer}
    (hlimit : left deadline now ≤ limit) (hnow : now ≤ remainingAt)
    (hread : deadlineAt ≤ pollAt) (hclock : Chronological pollAt answers) :
    Nested settings limit
      (follow settings answers
        (conn.callFallback settings requestId (some deadline) remainingAt deadlineAt
          pollAt)).calls := by
  have hleft : left deadline remainingAt ≤ limit := le_trans (left_le hnow) hlimit
  unfold callFallback
  rw [remainingMs_some]
  dsimp only
  split
  · exact nested_raised _ _ _
  · exact nested_getResponse hleft hread hclock

theorem nested_callPosted {requestId : String} {deadline now : Time} {limit : Int}
    {answer : Answer} {rest : List Answer} (hlimit : left deadline now ≤ limit)
    (hclock : Chronological now (answer :: rest)) :
    Nested settings limit
      (follow settings rest
        (conn.callPosted settings requestId (some deadline) answer.outcome
          answer.source answer.clock)).calls := by
  have hfallback : forall conn : ClientConnection,
      Nested settings limit
        (follow settings rest
          (conn.callFallback settings requestId (some deadline)
            (answer.clock.reading 0) (answer.clock.reading 1)
            (answer.clock.reading 2))).calls := by
    intro conn
    exact nested_callFallback hlimit hclock.left (answer.clock.mono (by decide))
      hclock.right
  unfold callPosted
  split
  · exact nested_raised _ _ _
  · split
    · split
      · exact nested_raised _ _ _
      · dsimp only
        split
        · exact nested_returned _ _ _
        · exact hfallback _
    · exact hfallback _

end

/-- The POST of a `call` is made before its timeout has been over for a
millisecond. -/
def PostsInTime (operation : Operation) (clock : Clock) (conn : ClientConnection) :
    Prop :=
  match operation with
  | .call _ _ _ (some ms) => conn.closed = false ->
      (clock.reading 1 - clock.reading 0) * 1000 < ms + 1
  | _ => True

theorem nonneg_left_iff (start now : Time) (ms : Int) :
    0 ≤ left (start + seconds ms) now <-> (now - start) * 1000 < ms + 1 := by
  rw [left, truncate_nonneg_iff]
  unfold seconds
  constructor
  · intro h
    linarith
  · intro h
    linarith

/-- The POST of a `call` and what follows it nest exactly if the budget left for the
POST is not negative: the parameter is clamped, and the socket timeout is not. -/
theorem nested_post_iff {settings : Settings} {serviceName requestId : String}
    {request : Payload} {contentType : String} {start now : Time} {ms : Int}
    {answers : List Answer} {conn : ClientConnection} (hread : start ≤ now)
    (hclock : Chronological now answers) :
    Nested settings ms
      (follow settings answers
        (conn, .blocked
          (postCall settings serviceName requestId request contentType
            (some (max 0 (left (start + seconds ms) now)))
            (some (left (start + seconds ms) now)) true)
          (.call requestId (some (start + seconds ms))))).calls <->
      0 ≤ left (start + seconds ms) now := by
  have hle : left (start + seconds ms) now ≤ ms := left_set_le hread
  constructor
  · intro h
    have hpost : exists ms', some (max 0 (left (start + seconds ms) now)) = some ms' ∧
        some (((left (start + seconds ms) now + settings.networkBufferMs : Int) :
          Rat) / 1000) =
          some (((ms' + settings.networkBufferMs : Int) : Rat) / 1000) := by
      cases answers with
      | nil =>
          rcases h with ⟨ms', hcarries, _, _, hsocket, _⟩
          exact ⟨ms', hcarries.right, hsocket⟩
      | cons answer rest =>
          rcases h with ⟨ms', hcarries, _, _, hsocket, _⟩
          exact ⟨ms', hcarries.right, hsocket⟩
    rcases hpost with ⟨ms', htimeout, hsocket⟩
    cases htimeout
    have hcast := (div_left_inj' (by norm_num : (1000 : Rat) ≠ 0)).mp
      (Option.some.inj hsocket)
    have hsame := Int.cast_injective hcast
    omega
  · intro hnonneg
    have hmax : max 0 (left (start + seconds ms) now) =
        left (start + seconds ms) now := max_eq_right hnonneg
    rw [hmax]
    have hcarries := carries_postCall settings serviceName requestId request contentType
      (left (start + seconds ms) now) (some (left (start + seconds ms) now)) true
    cases answers with
    | nil => exact ⟨_, hcarries, hnonneg, hle, rfl, trivial⟩
    | cons answer rest =>
        refine ⟨_, hcarries, hnonneg, hle, rfl, ?_⟩
        exact nested_callPosted (le_refl _) hclock

/-- The timeouts of an operation nest exactly if its POST, if it makes one, is in
time. -/
theorem nested_iff (settings : Settings) (operation : Operation) (ms : Int)
    (clock : Clock) (answers : List Answer) (conn : ClientConnection)
    (hbudget : operation.budget? = some ms)
    (hclock : Chronological (clock.reading 1) answers) :
    Nested settings ms (conn.invoke settings operation clock answers).calls <->
      PostsInTime operation clock conn := by
  have hread : clock.reading 0 ≤ clock.reading 1 := clock.mono (Nat.zero_le 1)
  cases operation with
  | call serviceName request contentType timeout =>
      have htimeout : timeout = some ms := hbudget
      subst htimeout
      cases hclosed : conn.closed with
      | true =>
          simp only [invoke, start, call, ensureOpen, hclosed, if_true, follow_raised]
          apply iff_of_true trivial
          intro hopen
          rw [hclosed] at hopen
          cases hopen
      | false =>
          simp only [invoke, start, call, ensureOpen, hclosed]
          apply (nested_post_iff hread hclock).trans
          rw [nonneg_left_iff]
          constructor
          · exact fun h _ => h
          · exact fun h => h hclosed
  | getResponse requestId timeout =>
      have htimeout : timeout = some ms := hbudget
      subst htimeout
      exact iff_of_true (nested_getResponse (le_refl ms) hread hclock) trivial
  | collect collector requestIds timeout =>
      have htimeout : timeout = some ms := hbudget
      subst htimeout
      exact iff_of_true (nested_collect hread hclock) trivial
  | sendRequest serviceName request contentType timeout => cases hbudget
  | close => cases hbudget

end ClientConnection

end Client
end Pype
