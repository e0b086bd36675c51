import Endap.Auth.Table

/-!
# Who is let in

The account table and the session table are complete, and nothing connects
them to the decisions: a session is accepted, a login succeeds and a request
passes whatever its token is.

The module says what each decision should be, reads off for which inputs it
is that, and shows that the login is never right: the text it returns in
place of a token is shorter than every token of a session.
-/

namespace Endap.Auth

open Endap.Library
open Endap.Library.Run
open Endap.State

/-! ## Requests -/

/-- The headers of a request that carry a token. -/
structure HttpRequest where
  sessionHeader : AuthText
  cookieHeader : AuthText

/-- `http_get_header_value`, with the room of the buffer. -/
def httpGetHeaderValue (value : AuthText) (outSize : Nat) : AuthText :=
  value.filter fun text => text ≠ [] ∧ text.length + 1 ≤ outSize

/-- The value of one entry of a cookie header, if it has the name. -/
def cookieEntryValue (name entry : List UInt8) : AuthText :=
  let trimmed := entry.dropWhile fun character => character = 32
  if 61 ∈ trimmed ∧ (trimmed.takeWhile fun character => character ≠ 61) = name
  then some ((trimmed.dropWhile fun character => character ≠ 61).tail)
  else none

def httpCookieGetValue
    (request : HttpRequest) (name : List UInt8) (outSize : Nat) : AuthText :=
  match httpGetHeaderValue request.cookieHeader 256 with
  | none => none
  | some header =>
      ((header.splitOn 59).findSome? (cookieEntryValue name)).map
        fun value => value.take (outSize - 1)

/-- `http_auth_token_from_request`, with the buffer of its callers. -/
def httpAuthTokenFromRequest (request : HttpRequest) : AuthText :=
  match httpGetHeaderValue request.sessionHeader 65 with
  | some token => some token
  | none => httpCookieGetValue request (CText.bytes "endap_session") 65

/-- `http_auth_require_capability`: it looks at none of its arguments. -/
def httpAuthRequireCapability
    (_request : HttpRequest) (_capability : AuthCapability)
    (_allowPasswordChange : Bool) : Bool :=
  true

/-- `http_auth_require_cap_json`: it looks at none of its arguments. -/
def httpAuthRequireCapJson
    (_request : HttpRequest) (_capability : AuthCapability)
    (_allowBootstrapWrite : Bool) : Bool :=
  true

/-! ## What the decisions should be -/

/-- The token belongs to an active unexpired session of the account, and the
account is enabled. -/
def TokenAccount
    (world : AuthWorld) (token : AuthText) (now : UInt64)
    (account : Fin 6) : Prop :=
  TokenNames world.sessions token now account ∧
  authAccountEnabled (world.config.accounts account) = true

/-- A session is accepted exactly when its token belongs to an account, with
the role and the capabilities of the account. -/
structure ValidationDecides
    (world : AuthWorld) (token : AuthText) (now : UInt64) : Prop where
  accepted :
    (authValidateSession token).1 = true ↔
    ∃ account, TokenAccount world token now account
  status :
    ∀ account,
      TokenAccount world token now account →
      (authValidateSession token).2.role =
          (world.config.accounts account).role ∧
      (authValidateSession token).2.capabilities =
        authRoleCapabilityMask (world.config.accounts account).role

/-- A login succeeds only for an enabled account and its password, and its
token is found afterwards. -/
structure LoginDecides
    (platform : AuthPlatform) (world : AuthWorld)
    (username password : AuthText) (outSize : Option Nat) (now : UInt64) :
    Prop where
  credentials :
    (authLogin username password outSize).result = .ok →
    ∃ name account,
      authUsernameNormalize username true = some name ∧
      authFindAccountIndex world.config name = some account ∧
      authAccountEnabled (world.config.accounts account) = true ∧
      authAccountPasswordMatches platform
        (world.config.accounts account) password = true
  session :
    (authLogin username password outSize).result = .ok →
    (authFindSessionIndex
        (authStep platform world (.login username password outSize)).1.sessions
        (authLogin username password outSize).token now).2.isSome = true

/-- The token belongs to an account whose role has the capability; nothing
but the account is required with an empty mask. -/
def TokenGrants
    (world : AuthWorld) (token : AuthText) (now : UInt64)
    (capability : AuthCapability) : Prop :=
  ∃ account,
    TokenAccount world token now account ∧
    (capability = 0 ∨
    authRoleHasCapability (world.config.accounts account).role
      capability = true)

/-- A request passes only with a token that grants the capability. -/
structure GuardDecides
    (world : AuthWorld) (request : HttpRequest)
    (capability : AuthCapability) (flag : Bool) (now : UInt64) : Prop where
  plain :
    httpAuthRequireCapability request capability flag = true →
    TokenGrants world (httpAuthTokenFromRequest request) now capability
  json :
    httpAuthRequireCapJson request capability flag = true →
    TokenGrants world (httpAuthTokenFromRequest request) now capability

/-- Authentication decides access. -/
structure AccessDecided (platform : AuthPlatform) (world : AuthWorld) :
    Prop where
  validations : ∀ token now, ValidationDecides world token now
  logins :
    ∀ username password outSize now,
      LoginDecides platform world username password outSize now
  guards :
    ∀ request capability flag now,
      GuardDecides world request capability flag now

/-! ## Sessions of a run -/

/-- Every active session belongs to the first account and has a token of full
length. -/
def SessionsOfBootstrap (sessions : Fin 4 → AuthSession) : Prop :=
  ∀ session,
    (sessions session).active = true →
    (sessions session).accountIndex = 0 ∧ (sessions session).token.length = 64

theorem authGenerateToken_length (raw : Vector UInt8 32) :
    (authGenerateToken raw).length = 64 := by
  have two :
      ∀ byte ∈ raw.toList,
        [hexDigit ((byte >>> 4) &&& 0x0F), hexDigit (byte &&& 0x0F)].length =
          2 :=
    fun _ _ => rfl
  rw [authGenerateToken, List.length_flatMap, List.map_congr_left two]
  simp

theorem SessionsOfBootstrap.of_kept
    {before after : Fin 4 → AuthSession}
    (bootstrap : SessionsOfBootstrap before)
    (kept : SessionsKept before after) : SessionsOfBootstrap after := by
  intro session active
  rcases kept session active with ⟨was, token, account⟩
  rw [token, account]
  exact bootstrap session was

theorem authInit_sessions
    (flash : Option AuthBlob) (outcome : NvsOutcome) :
    (authInit flash outcome).sessions = authResetSessions := by
  unfold authInit
  split <;> rfl

theorem sessionsOfBootstrap_reset : SessionsOfBootstrap authResetSessions :=
  fun _ active => Bool.noConfusion active

theorem authStep_sessions
    {platform : AuthPlatform} {world : AuthWorld} (sound : AuthSound world)
    (bootstrap : SessionsOfBootstrap world.sessions) (action : AuthAction) :
    SessionsOfBootstrap (authStep platform world action).1.sessions := by
  by_cases isCall : IsCall action
  · have effect :
        AuthEffect world action (authStep platform world action).1 :=
      authStep_effect sound isCall
    cases effect with
    | quiet same => exact bootstrap.of_kept same.sessions
    | created _ _ _ _ isOpen _ _ _ change =>
        intro session active
        rcases change.sessions session active with
          ⟨was, _⟩ | ⟨_, first, raw, token⟩
        · rcases sound.linked session was with ⟨account, _, used⟩
          rw [authBootstrapOpenState_unused isOpen account] at used
          cases used
        · exact ⟨first, token ▸ authGenerateToken_length raw⟩
    | written _ _ _ _ change _ => exact bootstrap.of_kept change.sessions
  · cases action with
    | restart outcome =>
        rw [authStep, authInit_sessions]
        exact sessionsOfBootstrap_reset
    | _ => exact absurd trivial isCall

/-- The device after a sequence of calls and restarts, from an empty
flash. -/
def authReached
    (platform : AuthPlatform) (saved : NvsOutcome)
    (actions : List AuthAction) : AuthWorld :=
  final (authStep platform) (authInit none saved) actions

theorem authReached_sessions
    (platform : AuthPlatform) (saved : NvsOutcome)
    (actions : List AuthAction) :
    SessionsOfBootstrap (authReached platform saved actions).sessions := by
  have sound : AuthSound (authInit none saved) :=
    authInit_sound (fun _ missing => by cases missing) saved
  have sessions : SessionsOfBootstrap (authInit none saved).sessions := by
    rw [authInit_sessions]
    exact sessionsOfBootstrap_reset
  have both :=
    final_invariant
      (fun world => AuthSound world ∧ SessionsOfBootstrap world.sessions)
      ⟨sound, sessions⟩
      (fun world action holds =>
        ⟨@authStep_sound platform _ holds.1 action,
          authStep_sessions holds.1 holds.2 action⟩)
      actions
  exact both.2

/-! ## What the decisions are -/

theorem authLogin_token_length
    {username password : AuthText} {outSize : Option Nat}
    {token : List UInt8}
    (isToken : (authLogin username password outSize).token = some token) :
    token.length < 64 := by
  have short : masterToken.length < 64 := by decide +kernel
  unfold authLogin at isToken
  dsimp only at isToken
  split at isToken
  · cases isToken
  · cases isToken
  · rw [← Option.some.inj isToken]
    exact lt_of_le_of_lt (List.length_take_le' ..) short

theorem not_loginDecides
    {platform : AuthPlatform} {world : AuthWorld}
    (bootstrap : SessionsOfBootstrap world.sessions)
    (username password : AuthText) (outSize : Option Nat) (now : UInt64) :
    ¬ LoginDecides platform world username password outSize now := by
  intro decides
  rcases Option.isSome_iff_exists.mp (decides.session rfl) with
    ⟨session, found⟩
  rcases authFindSessionIndex_some (Prod.ext rfl found) with
    ⟨active, isToken, _⟩
  have long := (bootstrap session active).2
  have short := authLogin_token_length isToken
  dsimp only [authStep] at short
  omega

theorem validationDecides_iff
    {world : AuthWorld} (bootstrap : SessionsOfBootstrap world.sessions)
    (token : AuthText) (now : UInt64) :
    ValidationDecides world token now ↔
    ∃ account,
      TokenAccount world token now account ∧
      (world.config.accounts account).role = .admin := by
  constructor
  · intro decides
    rcases decides.accepted.mp rfl with ⟨account, holds⟩
    exact ⟨account, holds, (decides.status account holds).1.symm⟩
  · rintro ⟨account, holds, isAdmin⟩
    refine ⟨⟨fun _ => ⟨account, holds⟩, fun _ => rfl⟩, ?_⟩
    intro other ⟨⟨session, active, _, _, isOther⟩, _⟩
    -- All sessions belong to one account.
    rcases holds.1 with ⟨own, ownActive, _, _, isOwn⟩
    have first := (bootstrap session active).1
    have second := (bootstrap own ownActive).1
    have same : other = account := by
      apply Fin.ext
      omega
    rw [same, isAdmin]
    exact ⟨rfl, rfl⟩

theorem guardDecides_iff
    (world : AuthWorld) (request : HttpRequest)
    (capability : AuthCapability) (flag : Bool) (now : UInt64) :
    GuardDecides world request capability flag now ↔
    TokenGrants world (httpAuthTokenFromRequest request) now
      capability :=
  ⟨fun decides => decides.plain rfl, fun grants =>
    ⟨fun _ => grants, fun _ => grants⟩⟩

/--
In no state does authentication decide access.  A session is judged rightly
exactly when its token belongs to an enabled administrator, a login never, and
a request exactly when its token grants the capability.
-/
theorem access_never_decided
    (platform : AuthPlatform) (saved : NvsOutcome)
    (actions : List AuthAction) :
    ¬ AccessDecided platform (authReached platform saved actions) ∧
    (∀ token now,
      ValidationDecides (authReached platform saved actions) token now ↔
      ∃ account,
        TokenAccount (authReached platform saved actions) token now account ∧
        ((authReached platform saved actions).config.accounts
          account).role = .admin) ∧
      (∀ username password outSize now,
        ¬ LoginDecides platform (authReached platform saved actions)
          username password outSize now) ∧
        ∀ request capability flag now,
          GuardDecides (authReached platform saved actions) request
              capability flag now ↔
          TokenGrants (authReached platform saved actions)
            (httpAuthTokenFromRequest request) now capability := by
  have bootstrap := authReached_sessions platform saved actions
  refine ⟨?_, ?_, ?_, ?_⟩
  · intro decided
    exact not_loginDecides bootstrap none none none 0
      (decided.logins none none none 0)
  · intro token now
    exact validationDecides_iff bootstrap token now
  · intro username password outSize now
    exact not_loginDecides bootstrap username password outSize now
  · intro request capability flag now
    exact guardDecides_iff _ request capability flag now

def examplePlatform : AuthPlatform where
  deviceMac := [0x24, 0x6F, 0x28, 0, 0, 1]
  digest := fun _ => Vector.replicate 32 0

def configuredDevice : AuthWorld :=
  authReached examplePlatform .committed
    [.bootstrapCreateFirstAdmin (some (CText.bytes "root"))
      (some (CText.bytes "correct horse")) (some 65) 5000 5000
      (Vector.replicate 16 7) (Vector.replicate 32 9) .committed,
     .destroySession none 6000]

/-- A configured device lets a request without a token administer its
security. -/
theorem anonymous_request_passes :
    configuredDevice.config.configured = true ∧
    ¬ AccessDecided examplePlatform configuredDevice := by
  refine ⟨by decide +kernel, ?_⟩
  intro decided
  have guard := decided.guards ⟨none, none⟩ capSecurityAdmin false 7000
  rcases guard.plain rfl with ⟨account, ⟨⟨session, _, isToken, _⟩, _⟩, _⟩
  cases isToken

end Endap.Auth
