import Pype.Server.Messages

/-!
# Tokens and claims

Every endpoint but authentication and the load report decodes a bearer token and
checks the role it was issued for.  Signing, verification and the reading of the header
are those of other libraries; the claims of a verified token are an arbitrary
dictionary.
-/

namespace Pype
namespace Server

open Foundation

abbrev Claims := Dict String JsonValue

/-- What the server uses of other libraries to issue and to read tokens: the JWT library
under the server's key and algorithm, by which a token that is not signed with the key
does not decode, and FastAPI's split of an `Authorization` header. -/
structure Jwt where
  encode : Claims -> String
  decode : String -> Option Claims
  /-- `get_authorization_scheme_param`. -/
  schemeParam : String -> String × String

def serviceTokenClaims (name serviceSecret : String) : Claims :=
  ((Dict.empty.set "role" (JsonValue.string "service")).set
    "name" (JsonValue.string name)).set
    "service_secret" (JsonValue.string serviceSecret)

def clientTokenClaims (name clientId : String) : Claims :=
  ((Dict.empty.set "role" (JsonValue.string "client")).set
    "name" (JsonValue.string name)).set
    "client_id" (JsonValue.string clientId)

def splitAtBlank (text : String) : String × String :=
  (String.ofList (text.toList.takeWhile (· ≠ ' ')),
    String.ofList ((text.toList.dropWhile (· ≠ ' ')).drop 1))

/-- The libraries as seen by a server that has issued exactly the listed tokens. -/
def Jwt.ofTokens (tokens : Dict String Claims) : Jwt where
  encode := fun _ => ""
  decode := tokens.get?
  schemeParam := splitAtBlank

/-- The library of a server that has issued the token `client` to one client and
the token `service` to one service. -/
def Jwt.ofPair (clientId serviceName : String) : Jwt :=
  Jwt.ofTokens
    ((Dict.empty.set "client" (clientTokenClaims "caller" clientId)).set
      "service" (serviceTokenClaims serviceName "secret"))

structure ServiceClaims where
  name : String
  serviceSecret : String

/-- Claims of a client token; the client id is never empty. -/
structure ClientClaims where
  name : String
  clientId : String
  nonempty : clientId ≠ ""
deriving DecidableEq

/-- `isinstance(value, str)`, with the string. -/
def JsonValue.string? : Option JsonValue -> Option String
  | some (JsonValue.string value) => some value
  | _ => none

def issueServiceJwt (jwt : Jwt) (name serviceSecret : String) : String :=
  jwt.encode (serviceTokenClaims name serviceSecret)

def issueClientJwt (jwt : Jwt) (name clientId : String) : String :=
  jwt.encode (clientTokenClaims name clientId)

/-- `_extract_and_decode`: the claims of the bearer token in the header. -/
def extractAndDecode (jwt : Jwt) (authorization : Option String) :
    Except PypeError Claims :=
  match authorization with
  | none => .error (.authError "missing Authorization header")
  | some header =>
      if header = "" then .error (.authError "missing Authorization header")
      else
        let (scheme, token) := jwt.schemeParam header
        if scheme.toLower ≠ "bearer" ∨ token = "" then
          .error (.authError "Authorization header must be 'Bearer <token>'")
        else
          match jwt.decode token with
          | none => .error (.authError "invalid or expired token")
          | some claims => .ok claims

/-- The role claim of a token, compared as in `claims.get("role") != role`. -/
def hasRole (claims : Claims) (role : String) : Bool :=
  decide (JsonValue.string? (claims.get? "role") = some role)

def serviceClaims (jwt : Jwt) (authorization : Option String) :
    Except PypeError ServiceClaims :=
  match extractAndDecode jwt authorization with
  | .error e => .error e
  | .ok claims =>
      if !hasRole claims "service" then
        .error (.roleMismatchError "expected role=service")
      else
        match JsonValue.string? (claims.get? "name"),
            JsonValue.string? (claims.get? "service_secret") with
        | some name, some serviceSecret => .ok ⟨name, serviceSecret⟩
        | _, _ => .error (.authError "malformed service token")

def clientClaims (jwt : Jwt) (authorization : Option String) :
    Except PypeError ClientClaims :=
  match extractAndDecode jwt authorization with
  | .error e => .error e
  | .ok claims =>
      if !hasRole claims "client" then
        .error (.roleMismatchError "expected role=client")
      else
        match JsonValue.string? (claims.get? "name"),
            JsonValue.string? (claims.get? "client_id") with
        | some name, some clientId =>
            if hempty : clientId = "" then
              .error (.authError "malformed client token")
            else .ok ⟨name, clientId, hempty⟩
        | _, _ => .error (.authError "malformed client token")

/-!
## What verified claims say
-/

/-- The request carries a verified token with role client and this client id. -/
def ActsFor (jwt : Jwt) (authorization : Option String) (clientId : String) : Prop :=
  exists claims, extractAndDecode jwt authorization = .ok claims ∧
    claims.get? "role" = some (JsonValue.string "client") ∧
    claims.get? "client_id" = some (JsonValue.string clientId)

/-- The request carries a verified token with role service. -/
def IsService (jwt : Jwt) (authorization : Option String) : Prop :=
  exists claims, extractAndDecode jwt authorization = .ok claims ∧
    claims.get? "role" = some (JsonValue.string "service")

/-- The request carries a verified token with role service and this name. -/
def Serves (jwt : Jwt) (authorization : Option String) (serviceName : String) : Prop :=
  exists claims, extractAndDecode jwt authorization = .ok claims ∧
    claims.get? "role" = some (JsonValue.string "service") ∧
    claims.get? "name" = some (JsonValue.string serviceName)

theorem string?_eq_some {value : Option JsonValue} {text : String}
    (h : JsonValue.string? value = some text) :
    value = some (JsonValue.string text) := by
  unfold JsonValue.string? at h
  split at h
  · cases h
    rfl
  · cases h

theorem string?_eq_some_iff {value : Option JsonValue} {text : String} :
    JsonValue.string? value = some text <->
      value = some (JsonValue.string text) := by
  constructor
  · exact string?_eq_some
  · rintro rfl
    rfl

instance decidableActsFor (jwt : Jwt) (authorization : Option String)
    (clientId : String) : Decidable (ActsFor jwt authorization clientId) :=
  match h : extractAndDecode jwt authorization with
  | .error _ => isFalse (by
      rintro ⟨claims, hdecode, _⟩
      rw [h] at hdecode
      cases hdecode)
  | .ok claims =>
      decidable_of_iff
        (JsonValue.string? (claims.get? "role") = some "client" ∧
          JsonValue.string? (claims.get? "client_id") = some clientId) (by
        rw [string?_eq_some_iff, string?_eq_some_iff]
        constructor
        · intro hfields
          exact ⟨claims, h, hfields⟩
        · rintro ⟨claims', hdecode, hfields⟩
          rw [h] at hdecode
          cases hdecode
          exact hfields)

instance decidableIsService (jwt : Jwt) (authorization : Option String) :
    Decidable (IsService jwt authorization) :=
  match h : extractAndDecode jwt authorization with
  | .error _ => isFalse (by
      rintro ⟨claims, hdecode, _⟩
      rw [h] at hdecode
      cases hdecode)
  | .ok claims =>
      decidable_of_iff
        (JsonValue.string? (claims.get? "role") = some "service") (by
        rw [string?_eq_some_iff]
        constructor
        · intro hrole
          exact ⟨claims, h, hrole⟩
        · rintro ⟨claims', hdecode, hrole⟩
          rw [h] at hdecode
          cases hdecode
          exact hrole)

theorem get?_role_of_hasRole {claims : Claims} {role : String}
    (h : hasRole claims role = true) :
    claims.get? "role" = some (JsonValue.string role) :=
  string?_eq_some (of_decide_eq_true h)

theorem actsFor_of_clientClaims {jwt : Jwt} {authorization : Option String}
    {claims : ClientClaims} (h : clientClaims jwt authorization = .ok claims) :
    ActsFor jwt authorization claims.clientId := by
  unfold clientClaims at h
  split at h
  · cases h
  · rename_i dict hdecode
    split at h
    · cases h
    · rename_i hrole
      split at h
      · rename_i name clientId hname hid
        split at h
        · cases h
        · cases h
          refine ⟨dict, hdecode, ?_, string?_eq_some hid⟩
          exact get?_role_of_hasRole (by simpa using hrole)
      · cases h

theorem serves_of_serviceClaims {jwt : Jwt} {authorization : Option String}
    {claims : ServiceClaims} (h : serviceClaims jwt authorization = .ok claims) :
    Serves jwt authorization claims.name := by
  unfold serviceClaims at h
  split at h
  · cases h
  · rename_i dict hdecode
    split at h
    · cases h
    · rename_i hrole
      split at h
      · rename_i name secret hname hsecret
        cases h
        refine ⟨dict, hdecode, ?_, string?_eq_some hname⟩
        exact get?_role_of_hasRole (by simpa using hrole)
      · cases h

theorem Serves.isService {jwt : Jwt} {authorization : Option String}
    {serviceName : String} (h : Serves jwt authorization serviceName) :
    IsService jwt authorization := by
  rcases h with ⟨claims, hdecode, hrole, _⟩
  exact ⟨claims, hdecode, hrole⟩

theorem ActsFor.unique {jwt : Jwt} {authorization : Option String}
    {clientId clientId' : String} (h : ActsFor jwt authorization clientId)
    (h' : ActsFor jwt authorization clientId') : clientId = clientId' := by
  rcases h with ⟨claims, hdecode, _, hid⟩
  rcases h' with ⟨claims', hdecode', _, hid'⟩
  rw [hdecode] at hdecode'
  cases hdecode'
  rw [hid] at hid'
  cases hid'
  rfl

theorem ActsFor.not_isService {jwt : Jwt} {authorization : Option String}
    {clientId : String} (h : ActsFor jwt authorization clientId) :
    ¬ IsService jwt authorization := by
  rintro ⟨claims', hdecode', hrole'⟩
  rcases h with ⟨claims, hdecode, hrole, _⟩
  rw [hdecode] at hdecode'
  cases hdecode'
  rw [hrole] at hrole'
  simp at hrole'

end Server
end Pype
