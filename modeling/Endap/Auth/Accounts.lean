import Endap.Library.CText
import Endap.State.Nvs
import Mathlib.Data.Fintype.Pi
import Mathlib.Data.List.DropRight
import Mathlib.Data.List.FinRange

/-!
# Local accounts and their sessions

The device keeps six accounts in one blob of the flash and four sessions in
memory.  A session refers to its account by the slot.  While no account was
ever created the device is open: anyone on the local network may create the
first administrator.

An operation works on the blob in memory and then saves it; when the save is
refused, most paths put the blob of before back.  The clock, the random bytes
and the fate of the save are inputs of each operation, and the digest of the
passwords is a function of the platform.
-/

namespace Endap.Auth

open Endap.Library
open Endap.State

/-! ## Roles and capabilities -/

inductive AuthRole where
  | none
  | admin
  | installer
  | operator
  | viewer
deriving DecidableEq

/-- `auth_capability_t`: a mask of bits. -/
abbrev AuthCapability := UInt32

def capDashboardRead : AuthCapability := (1 : UInt32) <<< 0
def capManualIo : AuthCapability := (1 : UInt32) <<< 1
def capNodeAdmission : AuthCapability := (1 : UInt32) <<< 2
def capProfileWrite : AuthCapability := (1 : UInt32) <<< 3
def capTransportWrite : AuthCapability := (1 : UInt32) <<< 4
def capAutomationWrite : AuthCapability := (1 : UInt32) <<< 5
def capRebootRecovery : AuthCapability := (1 : UInt32) <<< 6
def capRuntimeDiagnostics : AuthCapability := (1 : UInt32) <<< 7
def capSecurityAdmin : AuthCapability := (1 : UInt32) <<< 8
def capFailsafeWrite : AuthCapability := (1 : UInt32) <<< 9

def authRoleCapabilityMask : AuthRole → UInt32
  | .admin =>
      capDashboardRead ||| capManualIo ||| capNodeAdmission |||
        capProfileWrite ||| capTransportWrite ||| capAutomationWrite |||
          capRebootRecovery ||| capRuntimeDiagnostics |||
            capSecurityAdmin ||| capFailsafeWrite
  | .installer =>
      capDashboardRead ||| capManualIo ||| capNodeAdmission |||
        capProfileWrite ||| capTransportWrite ||| capAutomationWrite |||
          capRebootRecovery ||| capRuntimeDiagnostics ||| capFailsafeWrite
  | .operator => capDashboardRead ||| capManualIo
  | .viewer => capDashboardRead
  | .none => 0

def authRoleHasCapability (role : AuthRole) (capability : AuthCapability) :
    Bool :=
  authRoleCapabilityMask role &&& capability ≠ 0

/-! ## Records -/

/-- A text argument; `none` is the null pointer. -/
abbrev AuthText := Option (List UInt8)

abbrev AuthSalt := Vector UInt8 16
abbrev AuthHash := Vector UInt8 32

/-- `auth_account_record_t`. -/
@[ext]
structure AuthAccount where
  inUse : Bool
  enabled : Bool
  role : AuthRole
  flags : UInt8
  username : List UInt8
  salt : AuthSalt
  hash : AuthHash

/-- `auth_config_blob_t`. -/
structure AuthConfig where
  version : UInt32
  configured : Bool
  accounts : Fin 6 → AuthAccount

/-- `auth_config_blob_v1_t`. -/
structure AuthLegacyConfig where
  version : UInt32
  configured : Bool
  salt : AuthSalt
  hash : AuthHash

/-- The blob under the key of the configuration, told apart by its size. -/
inductive AuthBlob where
  | current (config : AuthConfig)
  | legacy (config : AuthLegacyConfig)
  | other

/-- `auth_session_state_t`. -/
structure AuthSession where
  active : Bool
  token : List UInt8
  expiresAtMs : UInt64
  issuedAtMs : UInt64
  accountIndex : Int

/-- The variables of the component and the blob in the flash. -/
structure AuthWorld where
  config : AuthConfig
  sessions : Fin 4 → AuthSession
  flash : Option AuthBlob

/-- What the component takes from the chip. -/
structure AuthPlatform where
  deviceMac : List UInt8
  /-- SHA-256. -/
  digest : List UInt8 → AuthHash

/-! ## Passwords and user names -/

def authHashPassword
    (platform : AuthPlatform) (password : List UInt8) (salt : AuthSalt) :
    AuthHash :=
  platform.digest (salt.toList ++ platform.deviceMac ++ password)

def authPasswordIsStrong : AuthText → Bool
  | none => false
  | some password => password ≠ [] ∧ 8 ≤ password.length

/-- `isspace` in the C locale. -/
def isSpace (character : UInt8) : Bool :=
  character = 32 ∨ 9 ≤ character ∧ character ≤ 13

def isUpper (character : UInt8) : Bool := 65 ≤ character ∧ character ≤ 90

/-- `isalnum` in the C locale. -/
def isAlnum (character : UInt8) : Bool :=
  48 ≤ character ∧ character ≤ 57 ∨
  isUpper character ∨ 97 ≤ character ∧ character ≤ 122

/-- `tolower` in the C locale. -/
def toLower (character : UInt8) : UInt8 :=
  if isUpper character then character + 32 else character

/-- The test of one character of a user name: a letter, a digit, a dot, a
hyphen or an underscore. -/
def usernameCharacter (character : UInt8) : Bool :=
  isAlnum character ∨ toLower character = 46 ∨
  toLower character = 45 ∨ toLower character = 95

/-- `auth_username_normalize`, with a result of 25 characters. -/
def authUsernameNormalize (input : AuthText) (allowDefaultAdmin : Bool) :
    Option (List UInt8) :=
  let trimmed := ((input.getD []).dropWhile isSpace).rdropWhile isSpace
  if trimmed.length = 0 then
    if allowDefaultAdmin then some (CText.bytes "admin") else none
  else if trimmed.length > 24 then none
  else if trimmed.all usernameCharacter then some (trimmed.map toLower)
  else none

/-! ## The account table -/

def authAccountInUse (account : AuthAccount) : Bool :=
  account.inUse ∧ account.username ≠ []

def authAccountEnabled (account : AuthAccount) : Bool :=
  authAccountInUse account ∧ account.enabled

def authAccountBootstrap (account : AuthAccount) : Bool :=
  authAccountInUse account ∧ account.flags &&& 1 ≠ 0

/-- A cleared record, as `auth_account_clear` leaves it. -/
def authAccountClear : AuthAccount where
  inUse := false
  enabled := false
  role := .none
  flags := 0
  username := []
  salt := Vector.replicate 16 0
  hash := Vector.replicate 32 0

def authHasAnyAccount (config : AuthConfig) : Bool :=
  (List.finRange 6).any fun index => authAccountInUse (config.accounts index)

def authFindAccountIndex (config : AuthConfig) (normalized : List UInt8) :
    Option (Fin 6) :=
  if normalized = [] then none
  else
    (List.finRange 6).find? fun index =>
      authAccountInUse (config.accounts index) ∧
      (config.accounts index).username = normalized

def authFindFreeAccountIndex (config : AuthConfig) : Option (Fin 6) :=
  (List.finRange 6).find? fun index =>
    ¬ authAccountInUse (config.accounts index)

/-- The account is an enabled administrator. -/
def enabledAdmin (account : AuthAccount) : Bool :=
  authAccountEnabled account ∧ account.role = .admin

def authCountEnabledAdminsExcluding
    (config : AuthConfig) (excluded : Fin 6) : Nat :=
  (List.finRange 6).countP fun index =>
    index ≠ excluded ∧ enabledAdmin (config.accounts index)

def authAccountPasswordMatches
    (platform : AuthPlatform) (account : AuthAccount) : AuthText → Bool
  | none => false
  | some password =>
      authAccountEnabled account ∧ password ≠ [] ∧
      authHashPassword platform password account.salt = account.hash

/-- `accounts[0]`, the record of the first administrator. -/
abbrev firstAccount : Fin 6 := 0

/-- The configuration with another record in a slot. -/
def AuthConfig.setAccount
    (config : AuthConfig) (index : Fin 6) (account : AuthAccount) :
    AuthConfig :=
  { config with accounts := Function.update config.accounts index account }

/-! ## Sessions -/

/-- A cleared session. -/
def clearedSession : AuthSession where
  active := false
  token := []
  expiresAtMs := 0
  issuedAtMs := 0
  accountIndex := 0

def authResetSessions : Fin 4 → AuthSession := fun _ => clearedSession

def authPruneExpiredSessions
    (sessions : Fin 4 → AuthSession) (now : UInt64) :
    Fin 4 → AuthSession :=
  fun index =>
    if (sessions index).active ∧ (sessions index).expiresAtMs ≤ now then
      clearedSession
    else sessions index

/-- `auth_find_session_index`: the sessions that remain, and the first with
the token. -/
def authFindSessionIndex
    (sessions : Fin 4 → AuthSession) (token : AuthText) (now : UInt64) :
    (Fin 4 → AuthSession) × Option (Fin 4) :=
  let remaining := authPruneExpiredSessions sessions now
  match token with
  | none => (remaining, none)
  | some [] => (remaining, none)
  | some token =>
      (remaining,
        (List.finRange 4).find? fun index =>
          (remaining index).active ∧ (remaining index).token = token)

def authSessionAccountIndexFromToken
    (sessions : Fin 4 → AuthSession) (token : AuthText) (now : UInt64) :
    (Fin 4 → AuthSession) × Int :=
  match authFindSessionIndex sessions token now with
  | (remaining, none) => (remaining, -1)
  | (remaining, some index) => (remaining, (remaining index).accountIndex)

def authInvalidateSessionsForAccount
    (sessions : Fin 4 → AuthSession) (account : Fin 6) :
    Fin 4 → AuthSession :=
  fun index =>
    if (sessions index).active ∧
        (sessions index).accountIndex = account.val then
      clearedSession
    else sessions index

/-- One of the sixteen digits of `auth_generate_token`. -/
def hexDigit (value : UInt8) : UInt8 :=
  ((CText.bytes "0123456789abcdef")[value.toNat]?).getD 0

/-- `auth_generate_token`, from its random bytes. -/
def authGenerateToken (raw : Vector UInt8 32) : List UInt8 :=
  raw.toList.flatMap fun byte : UInt8 =>
    [hexDigit ((byte >>> 4) &&& 0x0F), hexDigit (byte &&& 0x0F)]

/-- `AUTH_SESSION_TIMEOUT_SECONDS_DEFAULT`, in milliseconds. -/
def sessionTimeoutMs : UInt64 := 1800 * 1000

/-- The slot for a new session: the first free one, else the one issued
first. -/
def sessionTarget (sessions : Fin 4 → AuthSession) :
    List (Fin 4) → UInt64 → Option (Fin 4) → Option (Fin 4)
  | [], _, target => target
  | index :: rest, oldestIssued, target =>
      if (sessions index).active = false then some index
      else if (sessions index).issuedAtMs < oldestIssued then
        sessionTarget sessions rest (sessions index).issuedAtMs (some index)
      else sessionTarget sessions rest oldestIssued target

/-- `auth_create_session_for_account`: the sessions, and the token if one
was created.  `outSize` is the room for the token, if there is any. -/
def authCreateSessionForAccount
    (sessions : Fin 4 → AuthSession) (account : Int) (outSize : Option Nat)
    (now pruned : UInt64) (raw : Vector UInt8 32) :
    (Fin 4 → AuthSession) × AuthText :=
  let remaining := authPruneExpiredSessions sessions pruned
  match
    sessionTarget remaining (List.finRange 4) 0xFFFFFFFFFFFFFFFF none,
    outSize with
  | some target, some size =>
      if size < 65 then (remaining, none)
      else
        (Function.update remaining target
          { active := true
            token := authGenerateToken raw
            expiresAtMs := now + sessionTimeoutMs
            issuedAtMs := now
            accountIndex := account },
          some (authGenerateToken raw))
  | _, _ => (remaining, none)

/-! ## The blob in the flash -/

def authSaveConfig (world : AuthWorld) (outcome : NvsOutcome) :
    AuthWorld :=
  { world with
    flash := nvsWrite outcome world.flash (some (.current world.config)) }

def authSeedOpenBootstrap : AuthConfig where
  version := 2
  configured := false
  accounts := fun _ => authAccountClear

def authBootstrapOpenState (config : AuthConfig) : Bool :=
  config.configured = false ∧ authHasAnyAccount config = false

/-- `auth_sanitize_loaded_config`: what it makes of the blob, if it changes
it. -/
def authSanitizeLoadedConfig (config : AuthConfig) : Option AuthConfig :=
  if config.version ≠ 2 then some authSeedOpenBootstrap
  else if config.configured = false then
    if authHasAnyAccount config then some authSeedOpenBootstrap else none
  else if authHasAnyAccount config = false then some authSeedOpenBootstrap
  else none

/-- `auth_migrate_legacy_config`: the accounts made of a blob of the first
version. -/
def authMigrateLegacyConfig (legacy : AuthLegacyConfig) : Option AuthConfig :=
  if legacy.version ≠ 1 then none
  else if legacy.configured then
    some
      ({ authSeedOpenBootstrap with configured := true }.setAccount
        firstAccount
        { inUse := true
          enabled := true
          role := .admin
          flags := 0
          username := CText.bytes "admin"
          salt := legacy.salt
          hash := legacy.hash })
  else some authSeedOpenBootstrap

/-- `auth_load_config`: the configuration in force, and whether it is saved
again; `none` when nothing could be loaded. -/
def authLoadConfig : Option AuthBlob → Option (AuthConfig × Bool)
  | none => none
  | some (.current loaded) =>
      if loaded.version ≠ 2 then none
      else
        match authSanitizeLoadedConfig loaded with
        | none => some (loaded, false)
        | some config => some (config, true)
  | some (.legacy legacy) =>
      (authMigrateLegacyConfig legacy).map fun config => (config, true)
  | some .other => none

/-- `auth_init` after a start, with what the flash holds. -/
def authInit (flash : Option AuthBlob) (outcome : NvsOutcome) : AuthWorld :=
  match authLoadConfig flash with
  | none =>
      authSaveConfig
        { config := authSeedOpenBootstrap
          sessions := authResetSessions
          flash := flash }
        outcome
  | some (config, false) =>
      { config := config, sessions := authResetSessions, flash := flash }
  | some (config, true) =>
      authSaveConfig
        { config := config, sessions := authResetSessions, flash := flash }
        outcome

end Endap.Auth
