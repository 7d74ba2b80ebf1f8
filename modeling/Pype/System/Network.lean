import Pype.Server.Effects
import Pype.Client.ClientConnection
import Pype.Client.ServiceConnection

/-!
# From a call of the library to a request at the server

Path segments, query parameters and bodies arrive as they were sent.  What the
server reads of a header value that the library sends is up to the HTTP stacks
between them.
-/

namespace Pype
namespace System

open Foundation Server

/-!
## Calls
-/

/-- What the server reads of a header value, unless the HTTP library refuses to
send it. -/
abbrev HeaderTransport := String -> Option String

/-- The endpoint that a call reaches.  The library makes no other calls. -/
def endpointOf (header : HeaderTransport) (call : Client.HttpCall) :
    Option Endpoint :=
  match call.method, call.path, call.requestId, call.contentType with
  | .post, ["services", serviceName], some requestId, some contentType =>
      (header contentType).map fun contentType =>
        .postRequest
          { serviceName := serviceName
            requestId := requestId
            timeout := call.timeout
            block := call.block
            contentType := some contentType
            body := call.body }
  | .get, ["services", serviceName], none, none =>
      some (.getRequest serviceName call.timeout)
  | .post, ["clients", clientId], some requestId, some contentType =>
      (header contentType).map fun contentType =>
        .postResponse
          { clientId := clientId
            requestId := requestId
            timeout := call.timeout
            contentType := some contentType
            body := call.body }
  | .get, ["clients", clientId], none, none =>
      some (.getResponse clientId call.timeout)
  | .delete, ["auth", "client"], none, none => some .clientLogoff
  | _, _, _, _ => none

def bearer (accessToken : String) : String := "Bearer " ++ accessToken

def requestOf (header : HeaderTransport) (accessToken : String)
    (call : Client.HttpCall) : Option HttpRequest :=
  (endpointOf header call).map fun endpoint =>
    { authorization := some (bearer accessToken), endpoint := endpoint }

def SendsRequest (call : Client.HttpCall) (requestId : String) : Prop :=
  call.method = .post ∧ call.requestId = some requestId

instance (call : Client.HttpCall) (requestId : String) :
    Decidable (SendsRequest call requestId) := instDecidableAnd

theorem sends_of_postRequest {header : HeaderTransport} {call : Client.HttpCall}
    {params : PostRequest} (h : endpointOf header call = some (.postRequest params)) :
    SendsRequest call params.requestId ∧ params.body = call.body := by
  unfold endpointOf at h
  split at h <;> simp only [Option.map_eq_some_iff, Option.some.injEq,
    Endpoint.postRequest.injEq, reduceCtorEq, and_false, exists_false] at h
  rename_i hmethod _ hrequestId _
  rcases h with ⟨contentType, _, rfl⟩
  exact ⟨⟨hmethod, hrequestId⟩, rfl⟩

theorem posts_of_postResponse {header : HeaderTransport} {call : Client.HttpCall}
    {params : PostResponse}
    (h : endpointOf header call = some (.postResponse params)) :
    call.method = .post ∧ call.path = ["clients", params.clientId] ∧
      call.requestId = some params.requestId ∧ params.body = call.body := by
  unfold endpointOf at h
  split at h <;> simp only [Option.map_eq_some_iff, Option.some.injEq,
    Endpoint.postResponse.injEq, reduceCtorEq, and_false, exists_false] at h
  rename_i hmethod hpath hrequestId _
  rcases h with ⟨contentType, _, rfl⟩
  exact ⟨hmethod, hpath, hrequestId, rfl⟩

/-!
## Texts that stand for themselves
-/

/-- A character that a URL carries as it is. -/
def IsPlain (c : Char) : Prop :=
  c.isAlphanum = true ∨ c = '-' ∨ c = '.' ∨ c = '_' ∨ c = '~'

instance (c : Char) : Decidable (IsPlain c) :=
  inferInstanceAs (Decidable (_ ∨ _ ∨ _ ∨ _ ∨ _))

/-- A text that stands for itself as one segment of a URL path. -/
def PlainSegment (value : String) : Prop :=
  (value ≠ "" ∧ value ≠ "." ∧ value ≠ "..") ∧
    forall c, c ∈ value.toList -> IsPlain c

instance (value : String) : Decidable (PlainSegment value) :=
  @instDecidableAnd _ _ instDecidableAnd (List.decidableBAll IsPlain value.toList)

theorem bounds_of_isAlphanum {c : Char} (h : c.isAlphanum = true) :
    48 ≤ c.toNat ∧ c.toNat ≤ 122 := by
  change (decide (c.val ≥ 65 ∧ c.val ≤ 90) ||
    (decide (c.val ≥ 97) && decide (c.val ≤ 122)) ||
    (decide (c.val ≥ 48) && decide (c.val ≤ 57))) = true at h
  simp only [Bool.or_eq_true, Bool.and_eq_true, decide_eq_true_eq, ge_iff_le,
    UInt32.le_iff_toNat_le] at h
  change ((65 ≤ c.toNat ∧ c.toNat ≤ 90) ∨ (97 ≤ c.toNat ∧ c.toNat ≤ 122)) ∨
    (48 ≤ c.toNat ∧ c.toNat ≤ 57) at h
  omega

theorem visible_of_isPlain {c : Char} (h : IsPlain c) :
    HeaderText.Allowed c ∧ ¬ HeaderText.IsBlank c := by
  rcases h with halphanum | rfl | rfl | rfl | rfl
  · have hbounds := bounds_of_isAlphanum halphanum
    refine ⟨⟨by omega, ?_, ?_⟩, ?_⟩
    · rintro rfl
      simp at hbounds
    · rintro rfl
      simp at hbounds
    · rintro (rfl | rfl) <;> simp at hbounds
  all_goals decide

theorem PlainSegment.faithful {value : String} (h : PlainSegment value) :
    HeaderText.Faithful value :=
  HeaderText.faithful_of_visible fun c hc => visible_of_isPlain (h.right c hc)

theorem faithful_toString (n : Nat) : HeaderText.Faithful (toString n) := by
  apply HeaderText.faithful_of_visible
  intro c hc
  apply visible_of_isPlain
  left
  rw [Nat.toString_eq_repr, Nat.toList_repr] at hc
  have hdigit : c.isDigit = true :=
    Nat.isDigit_of_mem_toDigits (by decide) (by decide) hc
  rw [Char.isAlphanum, hdigit, Bool.or_true]

theorem toString_injective {m n : Nat} (h : toString m = toString n) : m = n := by
  have hdigits : Nat.toDigits 10 m = Nat.toDigits 10 n := by
    rw [← Nat.toList_repr, ← Nat.toList_repr]
    exact congrArg String.toList h
  calc
    m = Nat.ofDigitChars 10 (Nat.toDigits 10 m) 0 :=
      Nat.ofDigitChars_ten_toDigits.symm
    _ = Nat.ofDigitChars 10 (Nat.toDigits 10 n) 0 := by rw [hdigits]
    _ = n := Nat.ofDigitChars_ten_toDigits

/-!
## Logins
-/

/-- A token as the server issues them, for some claims: it is not empty, and FastAPI finds
it in the header that carries it. -/
structure Bears (jwt : Jwt) (accessToken : String) (claims : Claims) : Prop where
  nonempty : accessToken ≠ ""
  header : jwt.schemeParam (bearer accessToken) = ("Bearer", accessToken)
  decodes : jwt.decode accessToken = some claims

theorem splitAtBlank_bearer (accessToken : String) :
    splitAtBlank (bearer accessToken) = ("Bearer", accessToken) := by
  unfold splitAtBlank bearer
  rw [String.toList_append]
  simp [List.takeWhile, List.dropWhile]

theorem Bears.extractAndDecode {jwt : Jwt} {accessToken : String} {claims : Claims}
    (h : Bears jwt accessToken claims) :
    extractAndDecode jwt (some (bearer accessToken)) = .ok claims := by
  have hheader : bearer accessToken ≠ "" := by
    intro h
    have hlength := congrArg (fun s : String => s.toList.length) h
    simp [bearer, String.toList_append] at hlength
  have hscheme : "Bearer".toLower = "bearer" := by decide +kernel
  simp only [Server.extractAndDecode, if_neg hheader, h.header, hscheme, h.nonempty,
    h.decodes, ne_eq, not_true, or_self, if_false]

theorem clientClaims_bearer {jwt : Jwt} {accessToken name clientId : String}
    (h : Bears jwt accessToken (clientTokenClaims name clientId)) (hid : clientId ≠ "") :
    clientClaims jwt (some (bearer accessToken)) = .ok ⟨name, clientId, hid⟩ := by
  unfold clientClaims
  rw [h.extractAndDecode]
  simp [clientTokenClaims, hasRole, JsonValue.string?, Dict.get?_set, hid]

theorem serviceClaims_bearer {jwt : Jwt} {accessToken name serviceSecret : String}
    (h : Bears jwt accessToken (serviceTokenClaims name serviceSecret)) :
    serviceClaims jwt (some (bearer accessToken)) = .ok ⟨name, serviceSecret⟩ := by
  unfold serviceClaims
  rw [h.extractAndDecode]
  simp [serviceTokenClaims, hasRole, JsonValue.string?, Dict.get?_set]

structure ClientLogin (jwt : Jwt) where
  name : String
  clientId : String
  accessToken : String
  plain : PlainSegment clientId
  issued : Bears jwt accessToken (clientTokenClaims name clientId)

structure ServiceLogin (jwt : Jwt) where
  name : String
  serviceSecret : String
  accessToken : String
  plain : PlainSegment name
  issued : Bears jwt accessToken (serviceTokenClaims name serviceSecret)

theorem ClientLogin.actsFor {jwt : Jwt} (login : ClientLogin jwt) :
    ActsFor jwt (some (bearer login.accessToken)) login.clientId :=
  ⟨_, login.issued.extractAndDecode, rfl, rfl⟩

theorem ServiceLogin.serves {jwt : Jwt} (login : ServiceLogin jwt) :
    Serves jwt (some (bearer login.accessToken)) login.name :=
  ⟨_, login.issued.extractAndDecode, rfl, rfl⟩

end System
end Pype
