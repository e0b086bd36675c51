import Endap.Auth.Accounts
import Endap.Library.Run

/-!
# Operations on accounts and sessions

The operations of the component as one step function.  Creating the first
administrator is the only operation that opens a session: the login reports
success for every request, with a fixed text in place of a token, and the
check of a session accepts every token.

An account other than the caller's own is changed or deleted by the session of
an enabled administrator; its own password an account changes itself.
-/

namespace Endap.Auth

open Endap.Library
open Endap.State

/-! ## Results -/

structure AuthStatus where
  authenticated : Bool
  configured : Bool
  bootstrapOpen : Bool
  passwordChangeRequired : Bool
  role : AuthRole
  capabilities : UInt32
  sessionExpiresIn : UInt32
  sessionTimeoutSeconds : UInt32
  retryAfterSeconds : UInt32
  username : List UInt8
deriving DecidableEq

inductive AuthLoginResult where
  | ok
  | invalidCredentials
  | rateLimited
  | sessionCreateFailed
deriving DecidableEq

inductive AuthChangePasswordResult where
  | ok
  | invalidCurrent
  | weak
  | saveFailed
  | internalError
deriving DecidableEq

inductive AuthBootstrapCreateResult where
  | ok
  | invalidUsername
  | weakPassword
  | alreadyConfigured
  | saveFailed
  | sessionCreateFailed
deriving DecidableEq

inductive AuthAccountSaveResult where
  | ok
  | invalidUsername
  | invalidRole
  | weakPassword
  | noSpace
  | saveFailed
  | forbidden
  | lastAdmin
deriving DecidableEq

inductive AuthAccountDeleteResult where
  | ok
  | notFound
  | saveFailed
  | forbidden
  | lastAdmin
deriving DecidableEq

/-! ## Status and login -/

/-- `auth_fill_status`: it looks at none of its arguments. -/
def authFillStatus : AuthStatus where
  authenticated := true
  configured := true
  bootstrapOpen := false
  passwordChangeRequired := false
  role := .admin
  capabilities := authRoleCapabilityMask .admin
  sessionExpiresIn := 3600
  sessionTimeoutSeconds := 3600
  retryAfterSeconds := 0
  username := CText.bytes "admin"

def authValidateSession (_token : AuthText) : Bool × AuthStatus :=
  (true, authFillStatus)

/-- The text that `auth_login` writes in place of a token. -/
def masterToken : List UInt8 := CText.bytes "master_admin_session_token"

/-- What a call of `auth_login` leaves: its result, the token, if there is
room for one, and the status. -/
structure AuthLogin where
  result : AuthLoginResult
  token : AuthText
  status : AuthStatus
deriving DecidableEq

def authLogin (_username _password : AuthText) (outSize : Option Nat) :
    AuthLogin where
  result := .ok
  token :=
    match outSize with
    | none => none
    | some 0 => none
    | some (room + 1) => some (masterToken.take room)
  status := authFillStatus

/-! ## The first administrator -/

/-- What a call of `auth_bootstrap_create_first_admin` leaves. -/
structure AuthBootstrap where
  result : AuthBootstrapCreateResult
  token : AuthText
  status : AuthStatus
deriving DecidableEq

/-- The configuration with the first administrator. -/
def firstAdmin
    (platform : AuthPlatform) (config : AuthConfig)
    (username password : List UInt8) (salt : AuthSalt) : AuthConfig :=
  { config.setAccount firstAccount
      { authAccountClear with
        inUse := true
        enabled := true
        role := .admin
        flags := 0
        username := username
        salt := salt
        hash := authHashPassword platform password salt } with
    configured := true }

def authBootstrapCreateFirstAdmin
    (platform : AuthPlatform) (world : AuthWorld)
    (username password : AuthText) (outSize : Option Nat)
    (now pruned : UInt64) (salt : AuthSalt) (raw : Vector UInt8 32)
    (outcome : NvsOutcome) : AuthWorld × AuthBootstrap :=
  if authBootstrapOpenState world.config = false then
    (world, ⟨.alreadyConfigured, none, authFillStatus⟩)
  else
    match authUsernameNormalize username true with
    | none => (world, ⟨.invalidUsername, none, authFillStatus⟩)
    | some normalized =>
        if authPasswordIsStrong password = false then
          (world, ⟨.weakPassword, none, authFillStatus⟩)
        else
          let config :=
            firstAdmin platform world.config normalized (password.getD []) salt
          let saved := authSaveConfig { world with config := config } outcome
          if outcome.succeeds = false then
            -- The configuration of before is put back.
            ({ saved with config := world.config },
              ⟨.saveFailed, none, authFillStatus⟩)
          else
            match
              authCreateSessionForAccount saved.sessions 0 outSize now
                pruned raw with
            | (sessions, none) =>
                ({ saved with sessions := sessions },
                  ⟨.sessionCreateFailed, none, authFillStatus⟩)
            | (sessions, some token) =>
                ({ saved with sessions := sessions },
                  ⟨.ok, some token, authFillStatus⟩)

/-! ## Ending a session -/

def authDestroySession
    (world : AuthWorld) (token : AuthText) (now : UInt64) : AuthWorld :=
  match token with
  | none => { world with sessions := authResetSessions }
  | some [] => { world with sessions := authResetSessions }
  | some token =>
      match authFindSessionIndex world.sessions (some token) now with
      | (remaining, none) => { world with sessions := remaining }
      | (remaining, some index) =>
          { world with
            sessions := Function.update remaining index clearedSession }

/-! ## Changing a password -/

/-- The slot that an account index names. -/
def accountSlot? (index : Int) : Option (Fin 6) :=
  if fits : 0 ≤ index ∧ index.toNat < 6 then some ⟨index.toNat, fits.2⟩
  else none

/-- The account with another password. -/
def AuthAccount.withPassword
    (platform : AuthPlatform) (account : AuthAccount)
    (password : List UInt8) (salt : AuthSalt) : AuthAccount :=
  { account with
    salt := salt
    hash := authHashPassword platform password salt
    flags := account.flags &&& ~~~1 }

def authChangePassword
    (platform : AuthPlatform) (world : AuthWorld)
    (token current new : AuthText) (now later : UInt64)
    (salt : AuthSalt) (outcome : NvsOutcome) :
    AuthWorld × AuthChangePasswordResult :=
  match authFindSessionIndex world.sessions token now with
  | (remaining, none) =>
      ({ world with sessions := remaining }, .internalError)
  | (remaining, some session) =>
      let pruned := { world with sessions := remaining }
      match accountSlot? (remaining session).accountIndex with
      | none => (pruned, .internalError)
      | some index =>
          let account := world.config.accounts index
          if authAccountEnabled account = false then
            (pruned, .internalError)
          else if authAccountBootstrap account = false ∧
              authAccountPasswordMatches platform account current =
                false then
            (pruned, .invalidCurrent)
          else if authPasswordIsStrong new = false then (pruned, .weak)
          else
            let config :=
              { world.config.setAccount index
                  (account.withPassword platform (new.getD []) salt) with
                configured := true }
            let saved := authSaveConfig { pruned with config := config } outcome
            if outcome.succeeds = false then
              ({ saved with config := world.config }, .saveFailed)
            else
              ({ saved with
                  sessions :=
                    Function.update remaining session
                      { remaining session with
                        expiresAtMs := later + sessionTimeoutMs } },
                .ok)

/-! ## Accounts of others -/

/-- The slot of the caller, when it is an enabled administrator. -/
def callerAdmin? (config : AuthConfig) (index : Int) : Option (Fin 6) :=
  (accountSlot? index).filter fun slot => enabledAdmin (config.accounts slot)

/-- The part of `auth_save_account` that changes an account. -/
def authUpdateAccount
    (platform : AuthPlatform) (world : AuthWorld) (existing : Fin 6)
    (role : AuthRole) (enabled : Bool) (password : AuthText)
    (salt : AuthSalt) (outcome : NvsOutcome) :
    AuthWorld × AuthAccountSaveResult :=
  let account :=
    { world.config.accounts existing with enabled := enabled, role := role }
  let saved (config : AuthConfig) (sessions : Fin 4 → AuthSession) :
      AuthWorld × AuthAccountSaveResult :=
    let written :=
      authSaveConfig
        { world with config := config, sessions := sessions } outcome
    if outcome.succeeds = false then
      ({ written with config := world.config }, .saveFailed)
    else (written, .ok)
  if password.getD [] = [] then
    saved (world.config.setAccount existing account) world.sessions
  else if authPasswordIsStrong password = false then
    -- The new role is in force already, and it is not saved.
    ({ world with config := world.config.setAccount existing account },
      .weakPassword)
  else
    saved
      (world.config.setAccount existing
        (account.withPassword platform (password.getD []) salt))
      (authInvalidateSessionsForAccount world.sessions existing)

/-- The part of `auth_save_account` that creates an account. -/
def authInsertAccount
    (platform : AuthPlatform) (world : AuthWorld)
    (normalized : List UInt8) (role : AuthRole) (enabled : Bool)
    (password : AuthText) (salt : AuthSalt) (outcome : NvsOutcome) :
    AuthWorld × AuthAccountSaveResult :=
  if authPasswordIsStrong password = false then (world, .weakPassword)
  else
    match authFindFreeAccountIndex world.config with
    | none => (world, .noSpace)
    | some free =>
        let config :=
          world.config.setAccount free
            { authAccountClear with
              inUse := true
              enabled := enabled
              role := role
              username := normalized
              salt := salt
              hash := authHashPassword platform (password.getD []) salt }
        let saved := authSaveConfig { world with config := config } outcome
        if outcome.succeeds = false then
          ({ saved with config := world.config }, .saveFailed)
        else (saved, .ok)

def authSaveAccount
    (platform : AuthPlatform) (world : AuthWorld)
    (currentToken username : AuthText) (role : AuthRole) (enabled : Bool)
    (password : AuthText) (now : UInt64) (salt : AuthSalt)
    (outcome : NvsOutcome) : AuthWorld × AuthAccountSaveResult :=
  match authUsernameNormalize username true with
  | none => (world, .invalidUsername)
  | some normalized =>
      if role = .none then (world, .invalidRole)
      else
        let found :=
          authSessionAccountIndexFromToken world.sessions currentToken now
        let pruned := { world with sessions := found.1 }
        match callerAdmin? world.config found.2 with
        | none => (pruned, .forbidden)
        | some current =>
            match authFindAccountIndex world.config normalized with
            | some existing =>
                if existing = current then (pruned, .forbidden)
                else if (enabled = false ∨ role ≠ .admin) ∧
                    (world.config.accounts existing).role = .admin ∧
                    authCountEnabledAdminsExcluding world.config existing =
                      0 then
                  (pruned, .lastAdmin)
                else
                  authUpdateAccount platform pruned existing role enabled
                    password salt outcome
            | none =>
                authInsertAccount platform pruned normalized role enabled
                  password salt outcome

def authDeleteAccount
    (world : AuthWorld) (currentToken username : AuthText) (now : UInt64)
    (outcome : NvsOutcome) : AuthWorld × AuthAccountDeleteResult :=
  match authUsernameNormalize username true with
  | none => (world, .notFound)
  | some normalized =>
      let found :=
        authSessionAccountIndexFromToken world.sessions currentToken now
      let pruned := { world with sessions := found.1 }
      match callerAdmin? world.config found.2 with
      | none => (pruned, .forbidden)
      | some current =>
          match authFindAccountIndex world.config normalized with
          | none => (pruned, .notFound)
          | some index =>
              if index = current then (pruned, .forbidden)
              else if (world.config.accounts index).role = .admin ∧
                  authCountEnabledAdminsExcluding world.config index =
                    0 then
                (pruned, .lastAdmin)
              else
                let saved :=
                  authSaveConfig
                    { pruned with
                      config := world.config.setAccount index authAccountClear
                      sessions :=
                        authInvalidateSessionsForAccount pruned.sessions index }
                    outcome
                if outcome.succeeds = false then
                  ({ saved with config := world.config }, .saveFailed)
                else (saved, .ok)

/-! ## The component -/

/-- A call of the component, with its readings of the clock, its random bytes
and the fate of its save; and a restart of the device. -/
inductive AuthAction where
  | bootstrapCreateFirstAdmin
      (username password : AuthText) (outSize : Option Nat)
      (now pruned : UInt64) (salt : AuthSalt) (raw : Vector UInt8 32)
      (outcome : NvsOutcome)
  | login (username password : AuthText) (outSize : Option Nat)
  | destroySession (token : AuthText) (now : UInt64)
  | saveAccount
      (currentToken username : AuthText) (role : AuthRole) (enabled : Bool)
      (password : AuthText) (now : UInt64) (salt : AuthSalt)
      (outcome : NvsOutcome)
  | deleteAccount
      (currentToken username : AuthText) (now : UInt64)
      (outcome : NvsOutcome)
  | changePassword
      (token current new : AuthText) (now later : UInt64) (salt : AuthSalt)
      (outcome : NvsOutcome)
  | restart (outcome : NvsOutcome)

/-- What a call returns. -/
inductive AuthOutput where
  | bootstrap (made : AuthBootstrap)
  | login (made : AuthLogin)
  | saved (result : AuthAccountSaveResult)
  | deleted (result : AuthAccountDeleteResult)
  | passwordChanged (result : AuthChangePasswordResult)
  | nothing
deriving DecidableEq

/-- One call. -/
def authStep (platform : AuthPlatform) (world : AuthWorld) :
    AuthAction → AuthWorld × AuthOutput
  | .bootstrapCreateFirstAdmin username password outSize now pruned salt raw
      outcome =>
      (authBootstrapCreateFirstAdmin platform world username password
        outSize now pruned salt raw outcome).map id .bootstrap
  | .login username password outSize =>
      (world, .login (authLogin username password outSize))
  | .destroySession token now => (authDestroySession world token now, .nothing)
  | .saveAccount currentToken username role enabled password now salt
      outcome =>
      (authSaveAccount platform world currentToken username role enabled
        password now salt outcome).map id .saved
  | .deleteAccount currentToken username now outcome =>
      (authDeleteAccount world currentToken username now outcome).map id
        .deleted
  | .changePassword token current new now later salt outcome =>
      (authChangePassword platform world token current new now later salt
        outcome).map id .passwordChanged
  | .restart outcome => (authInit world.flash outcome, .nothing)

end Endap.Auth
