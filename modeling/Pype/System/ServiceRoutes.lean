import Mathlib.Data.Set.Defs
import Pype.Foundation.UrlPath
import Pype.Server.ServiceQueues
import Pype.System.Network

/-!
# From a service name to its queue

A login takes a service name as it is.  The other calls write it into a URL, and the
server reads it back as one segment of the path.  Here are exactly the names that
come back unchanged, and what follows for the queues.
-/

namespace Pype
namespace System

open Foundation Server

/-!
## Calls for a service
-/

def serviceOf? : Client.Operation -> Option String
  | .sendRequest serviceName _ _ _ => some serviceName
  | .call serviceName _ _ _ => some serviceName
  | _ => none

/-- The calls made for a service, with the token they are made with: the POSTs of
`send_request` and of `call`, and the GET of `get_request`. -/
inductive CallFor (serviceName : String) : String -> Client.HttpCall -> Prop where
  | sent {settings : Client.Settings} {operation : Client.Operation} {clock : Clock}
      {conn : Client.ClientConnection} {call : Client.HttpCall} {frame : Client.Frame}
      (hservice : serviceOf? operation = some serviceName)
      (hstart : (conn.start settings operation clock).2 = .blocked call frame) :
      CallFor serviceName conn.accessToken call
  | pulled {settings : Client.Settings} {timeout : Option Int}
      {conn : Client.ServiceConnection} {call : Client.HttpCall}
      {frame : Client.ServiceConnection.Frame}
      (hservice : conn.serviceName = serviceName)
      (hstart : conn.getRequest settings timeout = .blocked call frame) :
      CallFor serviceName conn.accessToken call

theorem CallFor.shape {serviceName accessToken : String} {call : Client.HttpCall}
    (h : CallFor serviceName accessToken call) :
    call.path = ["services", serviceName] ∧
      ((call.method = .post ∧ call.requestId.isSome ∧ call.contentType.isSome) ∨
        (call.method = .get ∧ call.requestId = none ∧ call.contentType = none)) := by
  cases h with
  | sent hservice hstart =>
      rename_i settings operation clock conn frame
      cases operation with
      | sendRequest name request contentType timeout =>
          cases hservice
          simp only [Client.ClientConnection.start,
            Client.ClientConnection.sendRequest] at hstart
          split at hstart
          · cases hstart
          · cases hstart
            exact ⟨rfl, Or.inl ⟨rfl, rfl, rfl⟩⟩
      | call name request contentType timeout =>
          cases hservice
          simp only [Client.ClientConnection.start,
            Client.ClientConnection.call] at hstart
          split at hstart
          · cases hstart
          · cases hstart
            exact ⟨rfl, Or.inl ⟨rfl, rfl, rfl⟩⟩
      | getResponse => cases hservice
      | collect => cases hservice
      | close => cases hservice
  | pulled hservice hstart =>
      subst hservice
      unfold Client.ServiceConnection.getRequest at hstart
      split at hstart
      · cases hstart
      · cases hstart
        exact ⟨rfl, Or.inr ⟨rfl, rfl, rfl⟩⟩

/-!
## Where they arrive
-/

def arrived (transport : UrlPath.Transport) (call : Client.HttpCall) :
    Client.HttpCall :=
  { call with path := UrlPath.received transport call.path }

/-- The request that reaches the server for a call whose path is written into a
URL. -/
def requestAt (transport : UrlPath.Transport) (header : HeaderTransport)
    (accessToken : String) (call : Client.HttpCall) : Option HttpRequest :=
  requestOf header accessToken (arrived transport call)

def queueOf? : Endpoint -> Option String
  | .postRequest params => some params.serviceName
  | .getRequest serviceName _ => some serviceName
  | _ => none

/-- The stacks carry the content type of the call, if it has one. -/
def SendsHeader (header : HeaderTransport) (call : Client.HttpCall) : Prop :=
  forall contentType, call.contentType = some contentType ->
    (header contentType).isSome

def UsesQueue (s : App) (task : TaskId) (queue : Ref) : Prop :=
  exists r serviceName, r ∈ s.store.recordsOf task ∧
    r.movedOn? = some (serviceName, queue)

/-- Every call for a service that is sent arrives at the route of that service. -/
def Routed (transport : UrlPath.Transport) (serviceName : String) : Prop :=
  forall header accessToken call, CallFor serviceName accessToken call ->
    SendsHeader header call ->
      exists request, requestAt transport header accessToken call = some request ∧
        queueOf? request.endpoint = some serviceName

/-- The exchange is about a call made for the service. -/
def ServesCallFor (transport : UrlPath.Transport) (serviceName : String) (s : App)
    (task : TaskId) : Prop :=
  exists t header accessToken call, s.tasks.get? task = some t ∧
    CallFor serviceName accessToken call ∧
      requestAt transport header accessToken call = some t.request

/-- Each of the names routes to a queue of its own. -/
structure RoutesApart (transport : UrlPath.Transport) (names : Set String) : Prop where
  routed : forall serviceName, serviceName ∈ names -> Routed transport serviceName
  /-- Whatever is put on a queue or taken from one for a name is on the queue that is
  registered under exactly that name. -/
  keyed : forall serviceName, serviceName ∈ names -> forall cfg jwt es task,
    ServesCallFor transport serviceName (App.reached cfg jwt es) task ->
      forall queue, UsesQueue (App.reached cfg jwt es) task queue ->
        (App.reached cfg jwt es).store.serviceRegistry.get? serviceName = some queue
  /-- A POST that is past its enqueue has put its request on that queue. -/
  enqueued : forall serviceName, serviceName ∈ names -> forall cfg jwt es task t,
    ServesCallFor transport serviceName (App.reached cfg jwt es) task ->
      (App.reached cfg jwt es).tasks.get? task = some t ->
        forall params claims, Posts jwt t.request params claims ->
          t.phase.pastEnqueue = true ->
            exists queue, UsesQueue (App.reached cfg jwt es) task queue
  /-- Different names use different queues. -/
  apart : forall serviceName, serviceName ∈ names -> forall other, other ∈ names ->
    serviceName ≠ other -> forall cfg jwt es task task',
      ServesCallFor transport serviceName (App.reached cfg jwt es) task ->
        ServesCallFor transport other (App.reached cfg jwt es) task' ->
          forall queue queue', UsesQueue (App.reached cfg jwt es) task queue ->
            UsesQueue (App.reached cfg jwt es) task' queue' -> queue ≠ queue'

theorem carried_services : UrlPath.Carried "services" := by
  decide +kernel

theorem arrived_of_carried (transport : UrlPath.Transport) {serviceName : String}
    (hcarried : UrlPath.Carried serviceName) {call : Client.HttpCall}
    (hpath : call.path = ["services", serviceName]) :
    arrived transport call = call := by
  have hreceived : UrlPath.received transport call.path = call.path := by
    rw [hpath]
    exact UrlPath.received_of_carried transport carried_services hcarried
  unfold arrived
  rw [hreceived]

theorem queueOf?_iff {header : HeaderTransport} {call : Client.HttpCall}
    {endpoint : Endpoint} {serviceName : String}
    (h : endpointOf header call = some endpoint) :
    queueOf? endpoint = some serviceName <-> call.path = ["services", serviceName] := by
  unfold endpointOf at h
  split at h
  · rename_i hpath _ _
    rcases Option.map_eq_some_iff.mp h with ⟨contentType, _, rfl⟩
    simp [queueOf?, hpath]
  · rename_i hpath _ _
    cases h
    simp [queueOf?, hpath]
  · rename_i hpath _ _
    rcases Option.map_eq_some_iff.mp h with ⟨contentType, _, rfl⟩
    simp [queueOf?, hpath]
  · rename_i hpath _ _
    cases h
    simp [queueOf?, hpath]
  · rename_i hpath _ _
    cases h
    simp [queueOf?, hpath]
  · cases h

theorem CallFor.endpointOf {serviceName accessToken : String}
    {call : Client.HttpCall} (h : CallFor serviceName accessToken call)
    {header : HeaderTransport} (hheader : SendsHeader header call) :
    exists endpoint, System.endpointOf header call = some endpoint := by
  rcases h.shape with ⟨hpath, ⟨hmethod, hid, htype⟩ | ⟨hmethod, hid, htype⟩⟩
  · rcases Option.isSome_iff_exists.mp hid with ⟨requestId, hid⟩
    rcases Option.isSome_iff_exists.mp htype with ⟨contentType, htype⟩
    rcases Option.isSome_iff_exists.mp (hheader contentType htype) with
      ⟨sent, hsent⟩
    unfold System.endpointOf
    rw [hmethod, hpath, hid, htype]
    exact ⟨_, Option.map_eq_some_iff.mpr ⟨sent, hsent, rfl⟩⟩
  · unfold System.endpointOf
    rw [hmethod, hpath, hid, htype]
    exact ⟨_, rfl⟩

theorem routed_of_carried (transport : UrlPath.Transport) {serviceName : String}
    (hcarried : UrlPath.Carried serviceName) : Routed transport serviceName := by
  intro header accessToken call hcall hheader
  have hpath := hcall.shape.left
  rcases hcall.endpointOf hheader with ⟨endpoint, hendpoint⟩
  unfold requestAt requestOf
  rw [arrived_of_carried transport hcarried hpath, hendpoint]
  exact ⟨_, rfl, (queueOf?_iff hendpoint).mpr hpath⟩

theorem carried_of_routed {transport : UrlPath.Transport} {serviceName : String}
    (hne : serviceName ≠ "") (h : Routed transport serviceName) :
    UrlPath.Carried serviceName := by
  have hcall : CallFor serviceName "token" (Client.ClientConnection.postCall
      Client.Settings.default serviceName "1" (.raw []) "text/plain" none none
      false) :=
    @CallFor.sent serviceName Client.Settings.default
      (.sendRequest serviceName (.raw []) "text/plain" none) (Clock.constant 0)
      (Client.ClientConnection.open "client" "token") _ _ rfl rfl
  rcases h some "token" _ hcall (fun _ _ => rfl) with ⟨request, hrequest, hqueue⟩
  rcases Option.map_eq_some_iff.mp hrequest with ⟨endpoint, hendpoint, rfl⟩
  exact (UrlPath.received_pair_iff transport carried_services hne).mp
    ((queueOf?_iff hendpoint).mp hqueue)

/-!
## Which queue they use
-/

theorem registered_of_usesQueue {cfg : Settings} {jwt : Jwt} {es : List Event}
    {task : TaskId} {queue : Ref} (h : UsesQueue (App.reached cfg jwt es) task queue) :
    exists t serviceName, (App.reached cfg jwt es).tasks.get? task = some t ∧
      queueOf? t.request.endpoint = some serviceName ∧
        (App.reached cfg jwt es).store.serviceRegistry.get? serviceName =
          some queue := by
  have hinv := App.invariant_reached cfg jwt es
  have hkeyed := (keyedByService_storeInvariant cfg jwt).reached
    keyedByService_initial es
  rcases h with ⟨r, serviceName, hr, hmoved⟩
  rcases Store.mem_recordsOf.mp hr with ⟨hhist, htask⟩
  have hqueue := hkeyed r serviceName queue hhist hmoved
  cases r with
  | requestEnqueued =>
      cases htask
      cases hmoved
      rcases hinv.of_requestEnqueued hhist with ⟨t, params, claims, ht, hwho, rfl, _⟩
      refine ⟨t, params.serviceName, ht, ?_, hqueue⟩
      rw [hwho.left]
      rfl
  | requestDequeued =>
      cases htask
      cases hmoved
      rcases hinv.of_requestDequeued hhist with ⟨t, ht, ⟨timeout, hroute⟩, _⟩
      refine ⟨t, serviceName, ht, ?_, hqueue⟩
      rw [hroute]
      rfl
  | _ => cases hmoved

theorem keyed_of_carried {transport : UrlPath.Transport} {serviceName : String}
    (hcarried : UrlPath.Carried serviceName) {cfg : Settings} {jwt : Jwt}
    {es : List Event} {task : TaskId} {queue : Ref}
    (hserves : ServesCallFor transport serviceName (App.reached cfg jwt es) task)
    (huses : UsesQueue (App.reached cfg jwt es) task queue) :
    (App.reached cfg jwt es).store.serviceRegistry.get? serviceName = some queue := by
  rcases hserves with ⟨t, header, accessToken, call, ht, hcall, hrequest⟩
  rcases registered_of_usesQueue huses with ⟨t', other, ht', hother, hqueue⟩
  rw [ht] at ht'
  cases ht'
  unfold requestAt at hrequest
  rw [arrived_of_carried transport hcarried hcall.shape.left] at hrequest
  rcases Option.map_eq_some_iff.mp hrequest with ⟨endpoint, hendpoint, hsame⟩
  have hname := (queueOf?_iff hendpoint).mpr hcall.shape.left
  rw [← hsame] at hother
  cases hname.symm.trans hother
  exact hqueue

theorem usesQueue_of_pastEnqueue {cfg : Settings} {jwt : Jwt} {es : List Event}
    {task : TaskId} {t : Server.Task} {params : PostRequest} {claims : ClientClaims}
    (ht : (App.reached cfg jwt es).tasks.get? task = some t)
    (hwho : Posts jwt t.request params claims) (hpast : t.phase.pastEnqueue = true) :
    exists queue, UsesQueue (App.reached cfg jwt es) task queue := by
  have hmem := ((App.invariant_reached cfg jwt es).contributors params.serviceName
    ⟨task, params.pypeReq cfg claims⟩).mpr
      ⟨t, params, claims, ht, hwho, rfl, hpast, rfl⟩
  rcases List.mem_filterMap.mp hmem with ⟨r, hr, hsome⟩
  cases r with
  | requestEnqueued poster serviceName queue request =>
      simp only [Record.requestEnqueued?] at hsome
      split at hsome
      · cases hsome
        exact ⟨queue, _, serviceName, Store.mem_recordsOf.mpr ⟨hr, rfl⟩, rfl⟩
      · cases hsome
  | _ => cases hsome

/-- Accepted service names route to queues of their own, exactly if every one of them
is carried by a path as it is. -/
theorem routes_apart_iff (transport : UrlPath.Transport) (names : Set String)
    (haccepted : forall serviceName, serviceName ∈ names -> serviceName ≠ "") :
    RoutesApart transport names <->
      forall serviceName, serviceName ∈ names -> UrlPath.Carried serviceName := by
  constructor
  · intro h serviceName hmem
    exact carried_of_routed (haccepted serviceName hmem) (h.routed serviceName hmem)
  · intro h
    constructor
    · intro serviceName hmem
      exact routed_of_carried transport (h serviceName hmem)
    · intro serviceName hmem cfg jwt es task hserves queue huses
      exact keyed_of_carried (h serviceName hmem) hserves huses
    · intro serviceName hmem cfg jwt es task t hserves ht params claims hwho hpast
      exact usesQueue_of_pastEnqueue ht hwho hpast
    · intro serviceName hmem other hother hne cfg jwt es task task' hserves hserves'
        queue queue' huses huses' hsame
      subst hsame
      apply hne
      exact (App.invariant_reached cfg jwt es).wellFormed.distinct _ _ _
        (keyed_of_carried (h serviceName hmem) hserves huses)
        (keyed_of_carried (h other hother) hserves' huses')

/-- Stacks that send letters and digits as they are, and a reader that leaves out
ill-formed bytes. -/
def plainTransport : UrlPath.Transport where
  safe := Char.isAlphanum
  text := UrlPath.Decoder.ignore

/-- Blanks, characters beyond ASCII and a percent sign that begins no escape do no
harm. -/
theorem routes_apart_orders :
    RoutesApart plainTransport {"orders", "größe 100%"} :=
  (routes_apart_iff plainTransport {"orders", "größe 100%"}
    (by rintro serviceName (rfl | rfl) <;> decide)).mpr
      (by rintro serviceName (rfl | rfl) <;> decide +kernel)

/-- Requests for the services `a?x` and `a%41` go to the queues of `a` and `aA`,
requests for `a/b` to none, and `..` leaves the path. -/
theorem routes_join :
    [UrlPath.received plainTransport ["services", "a?x"],
      UrlPath.received plainTransport ["services", "a%41"],
      UrlPath.received plainTransport ["services", "a/b"],
      UrlPath.received plainTransport ["services", ".."]] =
        [["services", "a"], ["services", "aA"], ["services", "a", "b"], [""]] ∧
      ¬ RoutesApart plainTransport {"a", "a?x"} := by
  constructor
  · decide +kernel
  · intro h
    have hcarried := carried_of_routed (by decide) (h.routed "a?x" (Or.inr rfl))
    revert hcarried
    decide +kernel

end System
end Pype
