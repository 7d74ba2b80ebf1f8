import Pype.Client.Authentication
import Pype.Server.InternalIp
import Pype.Server.Verdicts
import Pype.System.Network

/-!
# Logging in

What a login brings back opens a connection whose requests the server accepts, in the
name that logged in and for the id that the server made up.
-/

namespace Pype

namespace Server

open Foundation

/-- The libraries, as far as they are used: a token that the server issues decodes to the
claims that it was issued for, and is found in a header that carries it. -/
structure Jwt.Lawful (jwt : Jwt) : Prop where
  client : forall name clientId, jwt.decode (issueClientJwt jwt name clientId) =
    some (clientTokenClaims name clientId)
  service : forall name serviceSecret, jwt.decode (issueServiceJwt jwt name serviceSecret) =
    some (serviceTokenClaims name serviceSecret)
  nonempty : forall claims, jwt.encode claims ≠ ""
  header : forall claims, jwt.schemeParam ("Bearer " ++ jwt.encode claims) =
    ("Bearer", jwt.encode claims)

def clientAuthData (jwt : Jwt) (name clientId : String) : JsonValue :=
  .object
    [("access_token", .string (issueClientJwt jwt name clientId)),
      ("token_type", .string "Bearer"), ("role", .string "client"),
      ("name", .string name), ("client_id", .string clientId)]

def serviceAuthData (jwt : Jwt) (name serviceSecret : String) : JsonValue :=
  .object
    [("access_token", .string (issueServiceJwt jwt name serviceSecret)),
      ("token_type", .string "Bearer"), ("role", .string "service"),
      ("name", .string name), ("service_secret", .string serviceSecret)]

def clientAuthReply (cfg : Settings) (jwt : Jwt) (name clientId : String) : HttpReply :=
  authReply cfg (clientAuthData jwt name clientId)

def serviceAuthReply (cfg : Settings) (jwt : Jwt) (name serviceSecret : String) :
    HttpReply :=
  authReply cfg (serviceAuthData jwt name serviceSecret)

def LoginReplies (cfg : Settings) (jwt : Jwt) (endpoint : Endpoint) (reply : HttpReply) :
    Prop :=
  match endpoint with
  | .clientAuth name =>
      (name = "" ∧ reply = frameworkReply 422) ∨
        (name ≠ "" ∧ exists clientId, reply = clientAuthReply cfg jwt name clientId)
  | .serviceAuth name =>
      (name = "" ∧ reply = frameworkReply 422) ∨
        (name ≠ "" ∧ exists serviceSecret,
          reply = serviceAuthReply cfg jwt name serviceSecret)
  | _ => True

def IsLogin : Endpoint -> Prop
  | .clientAuth _ => True
  | .serviceAuth _ => True
  | _ => False

section

variable {cfg : Settings} {jwt : Jwt} {task : TaskId} {request : HttpRequest}

theorem loginReplies_dispatch (hlogin : IsLogin request.endpoint) (secret : String)
    (clock : Clock) (s : Store) :
    exists reply, (dispatch cfg jwt task request secret clock s).2 = .done reply ∧
      LoginReplies cfg jwt request.endpoint reply := by
  unfold dispatch LoginReplies
  cases hendpoint : request.endpoint with
  | clientAuth name =>
      dsimp only
      unfold requireText
      split
      · rename_i hempty
        exact ⟨_, rfl, Or.inl ⟨hempty, rfl⟩⟩
      · rename_i hne
        exact ⟨_, rfl, Or.inr ⟨hne, secret, rfl⟩⟩
  | serviceAuth name =>
      dsimp only
      unfold requireText
      split
      · rename_i hempty
        exact ⟨_, rfl, Or.inl ⟨hempty, rfl⟩⟩
      · rename_i hne
        exact ⟨_, rfl, Or.inr ⟨hne, secret, rfl⟩⟩
  | postRequest _ | getRequest _ _ | postResponse _ | getResponse _ _ | clientLogoff
  | servicesLoad =>
      rw [hendpoint] at hlogin
      exact hlogin.elim

namespace App

theorem settled_reached (cfg : Settings) (jwt : Jwt) (es : List Event) :
    AllTasks (fun request phase => IsLogin request.endpoint ->
      Settled (LoginReplies cfg jwt request.endpoint) phase) (reached cfg jwt es) := by
  apply allTasks_reached
  · exact fun _ _ => Or.inl rfl
  · intro task request phase action clock s r hsettled hadvance hlogin
    exact (hsettled hlogin).advance
      (fun secret => loginReplies_dispatch hlogin secret clock s) hadvance

theorem reply_of_login {es : List Event} {t : Task} {reply : HttpReply}
    (ht : (reached cfg jwt es).tasks.get? task = some t)
    (hlogin : IsLogin t.request.endpoint)
    (hanswered : .answered task reply ∈ (reached cfg jwt es).store.history) :
    LoginReplies cfg jwt t.request.endpoint reply := by
  rcases (invariant_reached cfg jwt es).of_answered hanswered with ⟨u, hu, _, hphase⟩
  rw [ht] at hu
  cases hu
  apply (settled_reached cfg jwt es task t ht hlogin).of_reply
  rcases hphase with hphase | hphase
  · rw [hphase]
    rfl
  · rw [hphase]
    rfl

end App

end

end Server

namespace System

open Foundation Server

theorem bears_client {jwt : Jwt} (hjwt : jwt.Lawful) (name clientId : String) :
    Bears jwt (issueClientJwt jwt name clientId) (clientTokenClaims name clientId) :=
  ⟨hjwt.nonempty _, hjwt.header _, hjwt.client name clientId⟩

theorem bears_service {jwt : Jwt} (hjwt : jwt.Lawful) (name serviceSecret : String) :
    Bears jwt (issueServiceJwt jwt name serviceSecret)
      (serviceTokenClaims name serviceSecret) :=
  ⟨hjwt.nonempty _, hjwt.header _, hjwt.service name serviceSecret⟩

def loginEndpoint (call : Client.AuthCall) : Option Endpoint :=
  match call.path with
  | ["auth", "client"] =>
      (JsonValue.string? (call.json.item? "name")).map Endpoint.clientAuth
  | ["auth", "service"] =>
      (JsonValue.string? (call.json.item? "service_name")).map Endpoint.serviceAuth
  | _ => none

theorem loginEndpoint_client (settings : Client.Settings) (name : String) :
    loginEndpoint (Client.PypeClient.authCall settings name) = some (.clientAuth name) :=
  rfl

theorem loginEndpoint_service (settings : Client.Settings) (name : String) :
    loginEndpoint (Client.ServiceClient.authCall settings name) =
      some (.serviceAuth name) :=
  rfl

/-!
## Reading the reply
-/

section

variable {cfg : Server.Settings} {jwt : Jwt} {python : Client.Python}

theorem authReply_cases (cfg : Server.Settings) (value : JsonValue) :
    (exists ip, HeaderText.encode cfg.internalIp = some ip ∧
      Server.authReply cfg value = { jsonReply 200 value with xPypeServerIp := some ip }) ∨
    (¬ HeaderText.Encodable cfg.internalIp ∧
      Server.authReply cfg value = internalServerError) := by
  unfold Server.authReply
  cases hencode : HeaderText.encode cfg.internalIp with
  | some ip => exact Or.inl ⟨ip, rfl, rfl⟩
  | none =>
      right
      refine ⟨?_, rfl⟩
      rw [← HeaderText.encode_isSome_iff, hencode]
      simp

theorem authReply_read (python : Client.Python) (value : JsonValue) (ip : Bytes) :
    Client.authReply python
        (.reply { jsonReply 200 value with xPypeServerIp := some ip }) =
      .ok ({ jsonReply 200 value with xPypeServerIp := some ip }, value) := rfl

theorem authReply_refused (python : Client.Python) {reply : HttpReply}
    (h : reply.status ≠ 200) :
    exists e, Client.authReply python (.reply reply) = .error e := by
  unfold Client.authReply
  cases hexpect : Client.expectReply (.reply reply) [200] with
  | error e => exact ⟨_, rfl⟩
  | ok reply' =>
      rcases Client.expectReply_ok hexpect with ⟨heq, hstatus⟩
      cases heq
      exact absurd (List.mem_singleton.mp hstatus) h

def Carries (cfg : Server.Settings) (session : Client.HttpSession) (token : String) :
    Prop :=
  session.authorization = some (bearer token) ∧ session.closed = false ∧
    (HeaderText.Faithful cfg.internalIp -> cfg.internalIp ≠ "" ->
      session.xPypeServerIp = some cfg.internalIp)

theorem carries_login {ip : Bytes} (hip : HeaderText.encode cfg.internalIp = some ip)
    (python : Client.Python) (token : String) (value : JsonValue) :
    Carries cfg
      (Client.HttpSession.initial.login python (.string token)
        { jsonReply 200 value with xPypeServerIp := some ip }) token := by
  refine ⟨?_, rfl, ?_⟩
  · show some ("Bearer " ++ python.str (.string token)) = some (bearer token)
    rw [python.str_string]
    rfl
  · intro hfaithful hne
    have hread : Client.serverInternalIp
        { jsonReply 200 value with xPypeServerIp := some ip } = some cfg.internalIp :=
      congrArg some (hfaithful.decode hip)
    unfold Client.HttpSession.login
    dsimp only
    rw [hread]
    dsimp only
    rw [if_neg hne]

/-- A client's connection, as its login makes it. -/
structure ClientLoggedIn (cfg : Server.Settings) (jwt : Jwt) (name : String)
    (session : Client.HttpSession) (login : Client.PypeClient.Authenticated) :
    Prop where
  carries : Carries cfg session login.connection.accessToken
  named : login.name = .string name
  /-- The server accepts what is sent in the session, from the client's id. -/
  accepted : exists claims, clientClaims jwt session.authorization = .ok claims ∧
    claims.name = name ∧ claims.clientId = login.connection.clientId
  fresh : login.connection =
    Client.ClientConnection.open login.connection.clientId login.connection.accessToken

/-- A service's connection, as its login makes it. -/
structure ServiceLoggedIn (cfg : Server.Settings) (jwt : Jwt) (name : String)
    (session : Client.HttpSession) (login : Client.ServiceClient.Authenticated) :
    Prop where
  carries : Carries cfg session login.connection.accessToken
  accepted : exists claims, serviceClaims jwt session.authorization = .ok claims ∧
    claims.name = name
  fresh : login.connection =
    Client.ServiceConnection.open name login.connection.accessToken

theorem fields_clientAuthData (jwt : Jwt) (name : String) {clientId : String}
    (hne : clientId ≠ "") :
    Client.PypeClient.fields (clientAuthData jwt name clientId) =
      some (.string (issueClientJwt jwt name clientId), clientId, .string name) := by
  simp [Client.PypeClient.fields, clientAuthData, JsonValue.item?, hne]

theorem fields_clientAuthData_empty (jwt : Jwt) (name : String) :
    Client.PypeClient.fields (clientAuthData jwt name "") = none := by
  simp [Client.PypeClient.fields, clientAuthData, JsonValue.item?]

theorem fields_serviceAuthData (jwt : Jwt) (name serviceSecret : String) :
    Client.ServiceClient.fields (serviceAuthData jwt name serviceSecret) =
      some (.string (issueServiceJwt jwt name serviceSecret), .string name) := by
  simp [Client.ServiceClient.fields, serviceAuthData, JsonValue.item?]

/-- What a client's login comes to: a connection whose requests the server accepts, or an
exception and a closed session. -/
def OpensClient (cfg : Server.Settings) (jwt : Jwt) (python : Client.Python)
    (name : String) (reply : HttpReply) : Prop :=
  match Client.PypeClient.authenticated python (.reply reply)
      Client.HttpSession.initial with
  | (session, .ok login) => ClientLoggedIn cfg jwt name session login
  | (session, .error _) =>
      session.closed = true ∧
        (name = "" ∨ ¬ HeaderText.Encodable cfg.internalIp ∨
          reply = clientAuthReply cfg jwt name "")

def OpensService (cfg : Server.Settings) (jwt : Jwt) (python : Client.Python)
    (name : String) (reply : HttpReply) : Prop :=
  match Client.ServiceClient.authenticated python (.reply reply)
      Client.HttpSession.initial with
  | (session, .ok login) => ServiceLoggedIn cfg jwt name session login
  | (session, .error _) =>
      session.closed = true ∧ (name = "" ∨ ¬ HeaderText.Encodable cfg.internalIp)

theorem opensClient_refused (python : Client.Python) {name : String} {reply : HttpReply}
    (hstatus : reply.status ≠ 200)
    (hwhy : name = "" ∨ ¬ HeaderText.Encodable cfg.internalIp) :
    OpensClient cfg jwt python name reply := by
  rcases authReply_refused python hstatus with ⟨e, he⟩
  unfold OpensClient Client.PypeClient.authenticated
  rw [he]
  constructor
  · rfl
  · rcases hwhy with hempty | hencodable
    · exact Or.inl hempty
    · exact Or.inr (Or.inl hencodable)

theorem opensService_refused (python : Client.Python) {name : String} {reply : HttpReply}
    (hstatus : reply.status ≠ 200)
    (hwhy : name = "" ∨ ¬ HeaderText.Encodable cfg.internalIp) :
    OpensService cfg jwt python name reply := by
  rcases authReply_refused python hstatus with ⟨e, he⟩
  unfold OpensService Client.ServiceClient.authenticated
  rw [he]
  exact ⟨rfl, hwhy⟩

theorem opensClient_of_issued (hjwt : jwt.Lawful) (python : Client.Python)
    (name clientId : String) :
    OpensClient cfg jwt python name (clientAuthReply cfg jwt name clientId) := by
  rcases authReply_cases cfg (clientAuthData jwt name clientId) with
    ⟨ip, hip, hreply⟩ | ⟨hnot, hreply⟩
  · by_cases hne : clientId = ""
    · subst hne
      unfold OpensClient Client.PypeClient.authenticated clientAuthReply
      rw [hreply, authReply_read]
      dsimp only
      rw [fields_clientAuthData_empty]
      exact ⟨rfl, Or.inr (Or.inr rfl)⟩
    · unfold OpensClient Client.PypeClient.authenticated clientAuthReply
      rw [hreply, authReply_read]
      dsimp only
      rw [fields_clientAuthData jwt name hne]
      constructor
      · dsimp only [Client.ClientConnection.open]
        rw [python.str_string]
        exact carries_login hip python _ _
      · rfl
      · refine ⟨⟨name, clientId, hne⟩, ?_, rfl, rfl⟩
        show clientClaims jwt (some ("Bearer " ++ python.str _)) = _
        rw [python.str_string]
        exact clientClaims_bearer (bears_client hjwt name clientId) hne
      · rfl
  · apply opensClient_refused python _ (Or.inr hnot)
    rw [clientAuthReply, hreply]
    decide

theorem opensService_of_issued (hjwt : jwt.Lawful) (python : Client.Python)
    (name serviceSecret : String) :
    OpensService cfg jwt python name (serviceAuthReply cfg jwt name serviceSecret) := by
  rcases authReply_cases cfg (serviceAuthData jwt name serviceSecret) with
    ⟨ip, hip, hreply⟩ | ⟨hnot, hreply⟩
  · unfold OpensService Client.ServiceClient.authenticated serviceAuthReply
    rw [hreply, authReply_read]
    dsimp only
    rw [fields_serviceAuthData]
    constructor
    · dsimp only [Client.ServiceConnection.open]
      rw [python.str_string (issueServiceJwt jwt name serviceSecret)]
      exact carries_login hip python _ _
    · refine ⟨⟨name, serviceSecret⟩, ?_, rfl⟩
      show serviceClaims jwt (some ("Bearer " ++ python.str _)) = _
      rw [python.str_string]
      exact serviceClaims_bearer (bears_service hjwt name serviceSecret)
    · dsimp only [Client.ServiceConnection.open]
      rw [python.str_string name]
  · apply opensService_refused python _ (Or.inr hnot)
    rw [serviceAuthReply, hreply]
    decide

def Opens (cfg : Server.Settings) (jwt : Jwt) (python : Client.Python)
    (endpoint : Endpoint) (reply : HttpReply) : Prop :=
  match endpoint with
  | .clientAuth name => OpensClient cfg jwt python name reply
  | .serviceAuth name => OpensService cfg jwt python name reply
  | _ => True

theorem opens_of_loginReplies (hjwt : jwt.Lawful) (python : Client.Python)
    {endpoint : Endpoint} {reply : HttpReply}
    (h : LoginReplies cfg jwt endpoint reply) : Opens cfg jwt python endpoint reply := by
  cases endpoint with
  | clientAuth name =>
      rcases h with ⟨hempty, rfl⟩ | ⟨_, clientId, rfl⟩
      · show OpensClient cfg jwt python name (frameworkReply 422)
        apply opensClient_refused python _ (Or.inl hempty)
        decide
      · exact opensClient_of_issued hjwt python name clientId
  | serviceAuth name =>
      rcases h with ⟨hempty, rfl⟩ | ⟨_, serviceSecret, rfl⟩
      · show OpensService cfg jwt python name (frameworkReply 422)
        apply opensService_refused python _ (Or.inl hempty)
        decide
      · exact opensService_of_issued hjwt python name serviceSecret
  | postRequest _ | getRequest _ _ | postResponse _ | getResponse _ _ | clientLogoff
  | servicesLoad => trivial

theorem opens_of_answered (hjwt : jwt.Lawful) (python : Client.Python)
    {es : List Server.Event} {task : TaskId} {t : Task} {reply : HttpReply}
    (ht : (App.reached cfg jwt es).tasks.get? task = some t)
    (hanswered : .answered task reply ∈ (App.reached cfg jwt es).store.history)
    (hlogin : IsLogin t.request.endpoint) : Opens cfg jwt python t.request.endpoint reply :=
  opens_of_loginReplies hjwt python (App.reply_of_login ht hlogin hanswered)

/-- Two texts in one: the length of the first in unary, and both. -/
def pack (name rest : String) : List Char :=
  List.replicate name.toList.length '|' ++ '.' :: (name.toList ++ rest.toList)

def unpack (body : List Char) : String × String :=
  let length := (body.takeWhile (· = '|')).length
  let text := body.drop (length + 1)
  (String.ofList (text.take length), String.ofList (text.drop length))

theorem unpack_pack (name rest : String) : unpack (pack name rest) = (name, rest) := by
  have hbars : (pack name rest).takeWhile (· = '|') =
      List.replicate name.toList.length '|' := by
    unfold pack
    rw [List.takeWhile_append_of_pos]
    · simp
    · intro c hc
      rw [List.eq_of_mem_replicate hc]
      rfl
  have htext : (pack name rest).drop (name.toList.length + 1) =
      name.toList ++ rest.toList := by
    unfold pack
    rw [List.drop_append, List.length_replicate]
    simp
  unfold unpack
  rw [hbars, List.length_replicate]
  dsimp only
  rw [htext, List.take_left, List.drop_left, String.ofList_toList, String.ofList_toList]

/-- Libraries that sign nothing: their tokens are the claims. -/
def readable : Jwt where
  encode := fun claims =>
    let text key := (JsonValue.string? (claims.get? key)).getD ""
    match JsonValue.string? (claims.get? "client_id") with
    | some clientId => String.ofList ('c' :: pack (text "name") clientId)
    | none => String.ofList ('s' :: pack (text "name") (text "service_secret"))
  decode := fun token =>
    match token.toList with
    | [] => none
    | role :: body =>
        let (name, rest) := unpack body
        some (if role = 'c' then clientTokenClaims name rest
          else serviceTokenClaims name rest)
  schemeParam := splitAtBlank

theorem lawful_readable : readable.Lawful where
  client := by
    intro name clientId
    have htoken : issueClientJwt readable name clientId =
        String.ofList ('c' :: pack name clientId) := rfl
    rw [htoken]
    unfold readable
    dsimp only
    rw [String.toList_ofList]
    dsimp only
    rw [unpack_pack]
    rfl
  service := by
    intro name serviceSecret
    have htoken : issueServiceJwt readable name serviceSecret =
        String.ofList ('s' :: pack name serviceSecret) := rfl
    rw [htoken]
    unfold readable
    dsimp only
    rw [String.toList_ofList]
    dsimp only
    rw [unpack_pack]
    rfl
  nonempty := by
    intro claims h
    have hlist := congrArg String.toList h
    unfold readable at hlist
    dsimp only at hlist
    split at hlist <;> simp at hlist
  header := fun _ => splitAtBlank_bearer _

/-- In every run of the server, what `authenticate` makes of the reply to its call is a
connection under the name that logged in, whose requests the server accepts for its id
and its name; or it raises and closes the session, for a reason that it names. -/
theorem login_opens (cfg : Server.Settings) (jwt : Jwt) (hjwt : jwt.Lawful)
    (python : Client.Python) (settings : Client.Settings) (es : List Server.Event)
    (task : TaskId) (t : Task) (name : String) (reply : HttpReply)
    (ht : (App.reached cfg jwt es).tasks.get? task = some t)
    (hanswered : .answered task reply ∈ (App.reached cfg jwt es).store.history) :
    (loginEndpoint (Client.PypeClient.authCall settings name) = some t.request.endpoint ->
      OpensClient cfg jwt python name reply) ∧
    (loginEndpoint (Client.ServiceClient.authCall settings name) =
        some t.request.endpoint ->
      OpensService cfg jwt python name reply) := by
  constructor
  · intro hcall
    rw [loginEndpoint_client] at hcall
    have hopens := opens_of_answered hjwt python ht hanswered
    rw [← Option.some.inj hcall] at hopens
    exact hopens trivial
  · intro hcall
    rw [loginEndpoint_service] at hcall
    have hopens := opens_of_answered hjwt python ht hanswered
    rw [← Option.some.inj hcall] at hopens
    exact hopens trivial

def texts : Client.Python where
  loads := fun _ => none
  replyJson := fun _ => none
  frameworkJson := fun _ => none
  str := fun value => (JsonValue.string? (some value)).getD ""
  repr := fun _ => ""
  str_string := fun _ => rfl

def firstLogin : List Server.Event :=
  [.connect 0 ⟨none, .clientAuth "caller"⟩, .run 0 (.start "c") (Clock.constant 0)]

theorem login_opens_first :
    exists reply : HttpReply, reply.status = 200 ∧
      OpensClient (Server.Settings.default "10.0.0.1") readable texts "caller" reply := by
  have hany : (App.reached (Server.Settings.default "10.0.0.1") readable
      firstLogin).store.history.any (Record.answers 0 200) = true := by
    decide +kernel
  have hendpoint : ((App.reached (Server.Settings.default "10.0.0.1") readable
      firstLogin).tasks.get? 0).map (fun t => t.request.endpoint) =
        some (.clientAuth "caller") := by
    decide +kernel
  rcases Record.exists_of_any_answers hany with ⟨reply, hanswered, hstatus⟩
  rcases Option.map_eq_some_iff.mp hendpoint with ⟨t, ht, hclient⟩
  refine ⟨reply, hstatus, ?_⟩
  apply (login_opens _ readable lawful_readable texts Client.Settings.default firstLogin 0
    t "caller" reply ht hanswered).left
  rw [loginEndpoint_client, hclient]

theorem tells_of_carries {host : Host} (hip : cfg.internalIp = detectInternalIp host)
    {session : Client.HttpSession} {token : String} (h : Carries cfg session token) :
    session.xPypeServerIp = some (detectInternalIp host) := by
  rcases exists_detectInternalIp host with ⟨x, _, htext⟩
  rw [← hip]
  apply h.right.right
  · rw [hip, htext]
    exact faithful_text x
  · rw [hip, htext]
    exact IPv4.text_ne_empty x

/-- A server that advertises the address that it has detected answers every login under
a name, and the sessions that it opens tell this address. -/
theorem detected_address_told (cfg : Server.Settings) (host : Host)
    (hip : cfg.internalIp = detectInternalIp host) (jwt : Jwt) (hjwt : jwt.Lawful)
    (python : Client.Python) (es : List Server.Event) (task : TaskId) (t : Task)
    (name : String) (reply : HttpReply)
    (ht : (App.reached cfg jwt es).tasks.get? task = some t) (hname : name ≠ "")
    (hanswered : .answered task reply ∈ (App.reached cfg jwt es).store.history) :
    (t.request.endpoint = .serviceAuth name ->
      exists session login,
        Client.ServiceClient.authenticated python (.reply reply)
            Client.HttpSession.initial = (session, .ok login) ∧
          session.xPypeServerIp = some (detectInternalIp host)) ∧
    (t.request.endpoint = .clientAuth name -> reply ≠ clientAuthReply cfg jwt name "" ->
      exists session login,
        Client.PypeClient.authenticated python (.reply reply)
            Client.HttpSession.initial = (session, .ok login) ∧
          session.xPypeServerIp = some (detectInternalIp host)) := by
  have hencodable : HeaderText.Encodable cfg.internalIp := by
    rcases exists_detectInternalIp host with ⟨x, _, htext⟩
    rw [hip, htext]
    exact (faithful_text x).left
  have hopens := opens_of_answered hjwt python ht hanswered
  constructor
  · intro hendpoint
    rw [hendpoint] at hopens
    have hservice : OpensService cfg jwt python name reply := hopens trivial
    unfold OpensService at hservice
    rcases hresult : Client.ServiceClient.authenticated python (.reply reply)
      Client.HttpSession.initial with ⟨session, error | login⟩
    · rw [hresult] at hservice
      rcases hservice.right with hempty | hnot
      · exact absurd hempty hname
      · exact absurd hencodable hnot
    · rw [hresult] at hservice
      exact ⟨session, login, rfl, tells_of_carries hip hservice.carries⟩
  · intro hendpoint hid
    rw [hendpoint] at hopens
    have hclient : OpensClient cfg jwt python name reply := hopens trivial
    unfold OpensClient at hclient
    rcases hresult : Client.PypeClient.authenticated python (.reply reply)
      Client.HttpSession.initial with ⟨session, error | login⟩
    · rw [hresult] at hclient
      rcases hclient.right with hempty | hnot | hnone
      · exact absurd hempty hname
      · exact absurd hencodable hnot
      · exact absurd hnone hid
    · rw [hresult] at hclient
      exact ⟨session, login, rfl, tells_of_carries hip hclient.carries⟩

def containerHost : Host where
  resolved := some ["127.0.1.1"]
  probed := some "172.17.0.2"

def serviceLogin : List Server.Event :=
  [.connect 0 ⟨none, .serviceAuth "s"⟩, .run 0 (.start "secret") (Clock.constant 0)]

theorem detected_address_told_container :
    exists reply session login,
      Client.ServiceClient.authenticated texts (.reply reply)
          Client.HttpSession.initial = (session, .ok login) ∧
        session.xPypeServerIp = some "172.17.0.2" := by
  have hdetect : detectInternalIp containerHost = "172.17.0.2" := by
    decide +kernel
  have hany : (App.reached (Server.Settings.default (detectInternalIp containerHost))
      readable serviceLogin).store.history.any (Record.answers 0 200) = true := by
    decide +kernel
  have hendpoint : ((App.reached (Server.Settings.default (detectInternalIp containerHost))
      readable serviceLogin).tasks.get? 0).map (fun t => t.request.endpoint) =
        some (.serviceAuth "s") := by
    decide +kernel
  rcases Record.exists_of_any_answers hany with ⟨reply, hanswered, _⟩
  rcases Option.map_eq_some_iff.mp hendpoint with ⟨t, ht, hservice⟩
  rcases (detected_address_told _ containerHost rfl readable lawful_readable texts
    serviceLogin 0 t "s" reply ht (by decide) hanswered).left hservice with
    ⟨session, login, hresult, htold⟩
  rw [hdetect] at htold
  exact ⟨reply, session, login, hresult, htold⟩

end

end System
end Pype
