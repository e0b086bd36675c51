import Endap.Auth.Operations
import Endap.Library.Layout

/-!
# The account table over every run

A table is sound when its user names are normalised and differ, when a
configured device has an enabled administrator, and when a device with an
account is configured.  A session is linked when it names a record in use.

Every call leaves the records alone, creates the first administrator of an
open device, or writes one record for a caller who may do so.  The record
that is written keeps the table sound, because the caller is an enabled
administrator in another slot or changes nothing but its own password.  The
flash only ever receives tables that were sound when they were saved, so that
a restart finds one.
-/

namespace Endap.Auth

open Endap.Library
open Endap.Library.Run
open Endap.State

/-! ## Normalised user names -/

theorem usernameCharacter_toLower :
    ∀ character : UInt8,
      usernameCharacter character = true →
      usernameCharacter (toLower character) = true ∧
      toLower (toLower character) = toLower character ∧
      isSpace (toLower character) = false := by
  apply forall_byte
  decide +kernel

theorem trim_eq_self
    {name : List UInt8}
    (solid : ∀ character ∈ name, isSpace character = false) :
    (name.dropWhile isSpace).rdropWhile isSpace = name := by
  have front : name.dropWhile isSpace = name := by
    cases name with
    | nil => rfl
    | cons head rest =>
        exact
          List.dropWhile_cons_of_neg
            (by simp [solid head (List.mem_cons_self ..)])
  rw [front, List.rdropWhile_eq_self_iff]
  intro nonempty
  simp [solid _ (List.getLast_mem nonempty)]

theorem authUsernameNormalize_fixed
    {input : AuthText} {allowDefaultAdmin : Bool} {name : List UInt8}
    (normalized : authUsernameNormalize input allowDefaultAdmin = some name) :
    authUsernameNormalize (some name) true = some name ∧ name ≠ [] := by
  unfold authUsernameNormalize at normalized
  generalize
    ((input.getD []).dropWhile isSpace).rdropWhile isSpace = trimmed
    at normalized
  dsimp only at normalized
  split at normalized
  · split at normalized
    · rw [← Option.some.inj normalized]
      exact ⟨by decide +kernel, by decide +kernel⟩
    · cases normalized
  rename_i nonempty
  split at normalized
  · cases normalized
  rename_i short
  split at normalized
  · rename_i allowed
    rw [← Option.some.inj normalized]
    have lowered := fun character member =>
      usernameCharacter_toLower character
        (List.all_eq_true.mp allowed character member)
    have solid :
        ∀ character ∈ trimmed.map toLower, isSpace character = false := by
      intro character member
      rcases List.mem_map.mp member with ⟨before, inside, rfl⟩
      exact (lowered before inside).2.2
    have twice : (trimmed.map toLower).map toLower = trimmed.map toLower := by
      rw [List.map_map]
      exact
        List.map_congr_left fun character member =>
          (lowered character member).2.1
    have still : (trimmed.map toLower).all usernameCharacter = true := by
      rw [List.all_map]
      exact
        List.all_eq_true.mpr fun character member =>
          (lowered character member).1
    have length : (trimmed.map toLower).length = trimmed.length :=
      List.length_map ..
    constructor
    · rw [authUsernameNormalize, Option.getD_some, trim_eq_self solid]
      rw [if_neg (length ▸ nonempty), if_neg (length ▸ short),
        if_pos still, twice]
    · intro empty
      exact nonempty (length ▸ congrArg List.length empty)
  · cases normalized

/-! ## Sound tables -/

/-- What holds of the accounts of a device. -/
structure AccountsSound (config : AuthConfig) : Prop where
  distinct :
    ∀ first second,
      authAccountInUse (config.accounts first) = true →
      authAccountInUse (config.accounts second) = true →
      (config.accounts first).username =
          (config.accounts second).username →
        first = second
  normalized :
    ∀ index,
      authAccountInUse (config.accounts index) = true →
      authUsernameNormalize (some (config.accounts index).username) true =
        some (config.accounts index).username
  administered :
    config.configured = true →
    ∃ index, enabledAdmin (config.accounts index) = true
  populated :
    ∀ index,
      authAccountInUse (config.accounts index) = true → config.configured = true

/-- Every active session names a record in use. -/
def SessionsLinked
    (config : AuthConfig) (sessions : Fin 4 → AuthSession) : Prop :=
  ∀ session,
    (sessions session).active = true →
    ∃ account : Fin 6,
      (sessions session).accountIndex = account.val ∧
      authAccountInUse (config.accounts account) = true

/-- What holds of the component and of the flash. -/
structure AuthSound (world : AuthWorld) : Prop where
  accounts : AccountsSound world.config
  linked : SessionsLinked world.config world.sessions
  stored : ∀ config, world.flash = some (.current config) → AccountsSound config

theorem enabledAdmin_inUse
    {account : AuthAccount} (admin : enabledAdmin account = true) :
    authAccountInUse account = true := by
  simp only [enabledAdmin, authAccountEnabled, Bool.decide_and,
    Bool.decide_eq_true, Bool.and_eq_true] at admin
  exact admin.1.1

theorem setAccount_own
    (config : AuthConfig) (index : Fin 6) (account : AuthAccount) :
    (config.setAccount index account).accounts index = account :=
  Function.update_self ..

theorem setAccount_other
    (config : AuthConfig) {index other : Fin 6} (account : AuthAccount)
    (different : other ≠ index) :
    (config.setAccount index account).accounts other = config.accounts other :=
  Function.update_of_ne different ..

/-- The record may stand in the slot. -/
structure Fits
    (config : AuthConfig) (index : Fin 6) (account : AuthAccount) :
    Prop where
  normalized :
    authAccountInUse account = true →
    authUsernameNormalize (some account.username) true = some account.username
  alone :
    authAccountInUse account = true →
    ∀ other,
      other ≠ index →
      authAccountInUse (config.accounts other) = true →
      (config.accounts other).username ≠ account.username
  administered :
    ∃ admin,
      enabledAdmin ((config.setAccount index account).accounts admin) = true
  configured : config.configured = true

theorem AccountsSound.setAccount
    {config : AuthConfig} (sound : AccountsSound config)
    {index : Fin 6} {account : AuthAccount}
    (fits : Fits config index account) :
    AccountsSound (config.setAccount index account) where
  distinct := by
    intro first second usedFirst usedSecond same
    by_cases isFirst : first = index
    · subst isFirst
      by_contra different
      rw [setAccount_own] at usedFirst same
      rw [setAccount_other _ _ (Ne.symm different)] at usedSecond same
      exact fits.alone usedFirst second (Ne.symm different) usedSecond same.symm
    · rw [setAccount_other _ _ isFirst] at usedFirst same
      by_cases isSecond : second = index
      · subst isSecond
        rw [setAccount_own] at usedSecond same
        exact absurd same (fits.alone usedSecond first isFirst usedFirst)
      · rw [setAccount_other _ _ isSecond] at usedSecond same
        exact sound.distinct first second usedFirst usedSecond same
  normalized := by
    intro other used
    by_cases isIndex : other = index
    · subst isIndex
      rw [setAccount_own] at used ⊢
      exact fits.normalized used
    · rw [setAccount_other _ _ isIndex] at used ⊢
      exact sound.normalized other used
  administered := fun _ => fits.administered
  populated := fun _ _ => fits.configured

theorem administered_of_other
    {config : AuthConfig} {index admin : Fin 6} (account : AuthAccount)
    (different : admin ≠ index)
    (isAdmin : enabledAdmin (config.accounts admin) = true) :
    ∃ still,
      enabledAdmin ((config.setAccount index account).accounts still) =
        true := by
  refine ⟨admin, ?_⟩
  rwa [setAccount_other _ _ different]

theorem administered_of_same_role
    {config : AuthConfig} {index : Fin 6} {account : AuthAccount}
    (administered : ∃ admin, enabledAdmin (config.accounts admin) = true)
    (role : enabledAdmin account = enabledAdmin (config.accounts index)) :
    ∃ still,
      enabledAdmin ((config.setAccount index account).accounts still) =
        true := by
  rcases administered with ⟨admin, isAdmin⟩
  by_cases isOwn : admin = index
  · subst isOwn
    refine ⟨admin, ?_⟩
    rw [setAccount_own, role]
    exact isAdmin
  · exact administered_of_other account isOwn isAdmin

theorem AccountsSound.fits_renamed
    {config : AuthConfig} (sound : AccountsSound config)
    {index : Fin 6} {account : AuthAccount}
    (used : authAccountInUse (config.accounts index) = true)
    (name : account.username = (config.accounts index).username)
    (administered :
      ∃ admin,
        enabledAdmin ((config.setAccount index account).accounts admin) =
          true) :
    Fits config index account where
  normalized := fun _ => name ▸ sound.normalized index used
  alone := by
    intro _ other different usedOther same
    exact
      different (sound.distinct other index usedOther used (same.trans name))
  administered := administered
  configured := sound.populated index used

/-! ## Sessions -/

/-- No session begins, and those that stay keep their token and account. -/
def SessionsKept (before after : Fin 4 → AuthSession) : Prop :=
  ∀ session,
    (after session).active = true →
    (before session).active = true ∧
    (after session).token = (before session).token ∧
    (after session).accountIndex = (before session).accountIndex

theorem SessionsKept.refl (sessions : Fin 4 → AuthSession) :
    SessionsKept sessions sessions :=
  fun _ active => ⟨active, rfl, rfl⟩

theorem SessionsKept.trans
    {first second third : Fin 4 → AuthSession}
    (earlier : SessionsKept first second)
    (later : SessionsKept second third) : SessionsKept first third := by
  intro session active
  rcases later session active with ⟨was, token, account⟩
  rcases earlier session was with ⟨wasBefore, tokenBefore, accountBefore⟩
  exact ⟨wasBefore, token.trans tokenBefore, account.trans accountBefore⟩

theorem sessionsKept_reset (sessions : Fin 4 → AuthSession) :
    SessionsKept sessions authResetSessions := by
  intro session active
  cases active

theorem sessionsKept_prune (sessions : Fin 4 → AuthSession) (now : UInt64) :
    SessionsKept sessions (authPruneExpiredSessions sessions now) := by
  intro session active
  unfold authPruneExpiredSessions at active ⊢
  split at active
  · cases active
  · rename_i remains
    rw [if_neg remains]
    exact ⟨active, rfl, rfl⟩

theorem sessionsKept_invalidate
    (sessions : Fin 4 → AuthSession) (account : Fin 6) :
    SessionsKept sessions
      (authInvalidateSessionsForAccount sessions account) := by
  intro session active
  unfold authInvalidateSessionsForAccount at active ⊢
  split at active
  · cases active
  · rename_i remains
    rw [if_neg remains]
    exact ⟨active, rfl, rfl⟩

theorem invalidate_account
    {sessions : Fin 4 → AuthSession} {account : Fin 6} {session : Fin 4}
    (active :
      (authInvalidateSessionsForAccount sessions account session).active =
        true) :
    (authInvalidateSessionsForAccount sessions account
        session).accountIndex ≠ account.val := by
  unfold authInvalidateSessionsForAccount at active ⊢
  split at active
  · cases active
  · rename_i remains
    rw [if_neg remains]
    exact fun same => remains ⟨active, same⟩

theorem sessionsKept_update
    {sessions : Fin 4 → AuthSession} (session : Fin 4)
    {value : AuthSession}
    (same :
      value.active = true →
      (sessions session).active = true ∧
      value.token = (sessions session).token ∧
      value.accountIndex = (sessions session).accountIndex) :
    SessionsKept sessions (Function.update sessions session value) := by
  intro other active
  by_cases isSession : other = session
  · subst isSession
    rw [Function.update_self] at active ⊢
    exact same active
  · rw [Function.update_of_ne isSession] at active ⊢
    exact ⟨active, rfl, rfl⟩

/-- An unexpired session with the token belongs to the account. -/
def TokenNames
    (sessions : Fin 4 → AuthSession) (token : AuthText) (now : UInt64)
    (account : Fin 6) : Prop :=
  ∃ session,
    (sessions session).active = true ∧
    token = some (sessions session).token ∧
    now < (sessions session).expiresAtMs ∧
    (sessions session).accountIndex = account.val

theorem authFindSessionIndex_remaining
    (sessions : Fin 4 → AuthSession) (token : AuthText) (now : UInt64) :
    (authFindSessionIndex sessions token now).1 =
      authPruneExpiredSessions sessions now := by
  unfold authFindSessionIndex
  split <;> rfl

theorem authFindSessionIndex_kept
    {sessions remaining : Fin 4 → AuthSession} {token : AuthText}
    {now : UInt64} {result : Option (Fin 4)}
    (found : authFindSessionIndex sessions token now = (remaining, result)) :
    SessionsKept sessions remaining := by
  have remains := authFindSessionIndex_remaining sessions token now
  rw [found] at remains
  rw [show remaining = _ from remains]
  exact sessionsKept_prune sessions now

theorem authFindSessionIndex_some
    {sessions remaining : Fin 4 → AuthSession} {token : AuthText}
    {now : UInt64} {session : Fin 4}
    (found :
      authFindSessionIndex sessions token now = (remaining, some session)) :
    (sessions session).active = true ∧
    token = some (sessions session).token ∧
    now < (sessions session).expiresAtMs ∧
    remaining session = sessions session := by
  have remains := authFindSessionIndex_remaining sessions token now
  rw [found] at remains
  rw [show remaining = _ from remains]
  have second := congrArg Prod.snd found
  unfold authFindSessionIndex at second
  dsimp only at second
  split at second
  · cases second
  · cases second
  · rename_i token
    have holds := List.find?_some second
    simp only [Bool.decide_and, Bool.decide_eq_true, Bool.and_eq_true,
      decide_eq_true_eq] at holds
    unfold authPruneExpiredSessions at holds ⊢
    split at holds
    · exact absurd holds.1 nofun
    · rename_i remains
      refine ⟨holds.1, ?_, ?_, if_neg remains⟩
      · rw [holds.2]
      · exact UInt64.not_le.mp fun expired => remains ⟨holds.1, expired⟩

theorem accountSlot?_some
    {index : Int} {slot : Fin 6} (inside : accountSlot? index = some slot) :
    index = slot.val := by
  unfold accountSlot? at inside
  split at inside
  · rename_i fits
    rw [← Option.some.inj inside]
    exact (Int.toNat_of_nonneg fits.1).symm
  · cases inside

theorem callerAdmin?_some
    {config : AuthConfig} {sessions : Fin 4 → AuthSession}
    {token : AuthText} {now : UInt64} {current : Fin 6}
    (caller :
      callerAdmin? config
          (authSessionAccountIndexFromToken sessions token now).2 =
        some current) :
    TokenNames sessions token now current ∧
    enabledAdmin (config.accounts current) = true := by
  rcases Option.filter_eq_some_iff.mp caller with ⟨slot, admin⟩
  refine ⟨?_, admin⟩
  have names := accountSlot?_some slot
  unfold authSessionAccountIndexFromToken at names
  split at names
  · omega
  · rename_i remaining session found
    rcases authFindSessionIndex_some found with
      ⟨active, token, unexpired, same⟩
    dsimp only at names
    rw [same] at names
    exact ⟨session, active, token, unexpired, names⟩

theorem authSessionAccountIndexFromToken_kept
    (sessions : Fin 4 → AuthSession) (token : AuthText) (now : UInt64) :
    SessionsKept sessions
      (authSessionAccountIndexFromToken sessions token now).1 := by
  unfold authSessionAccountIndexFromToken
  split
  · rename_i found
    exact authFindSessionIndex_kept found
  · rename_i found
    exact authFindSessionIndex_kept found

/-! ## What a call does -/

/-- The token is one of an enabled administrator other than the account. -/
def OtherAdminNames
    (world : AuthWorld) (token : AuthText) (now : UInt64)
    (account : Fin 6) : Prop :=
  ∃ admin,
    admin ≠ account ∧ TokenNames world.sessions token now admin ∧
    enabledAdmin (world.config.accounts admin) = true

/-- The call may change the record in the slot. -/
def Authorizes (world : AuthWorld) (account : Fin 6) : AuthAction → Prop
  | .bootstrapCreateFirstAdmin .. =>
      authBootstrapOpenState world.config = true
  | .login .. => False
  | .destroySession .. => False
  | .saveAccount token _ _ _ _ now _ _ =>
      OtherAdminNames world token now account
  | .deleteAccount token _ now _ => OtherAdminNames world token now account
  | .changePassword token _ _ now _ _ _ =>
      TokenNames world.sessions token now account
  | .restart _ => False

/-- The call leaves the accounts alone. -/
structure Quiet (world next : AuthWorld) : Prop where
  config : next.config = world.config
  flash : next.flash = world.flash
  sessions : SessionsKept world.sessions next.sessions

/-- The call writes a record, or tries to. -/
structure SlotWritten
    (world next : AuthWorld) (index : Fin 6) (account : AuthAccount) :
    Prop where
  config :
    next.config = world.config ∨
    next.config = world.config.setAccount index account
  flash :
    next.flash = world.flash ∨
    next.flash =
      some (.current (world.config.setAccount index account))
  sessions : SessionsKept world.sessions next.sessions

/-- The call creates the first administrator, or tries to. -/
structure FirstAdminCreated
    (world next : AuthWorld) (created : AuthConfig) : Prop where
  config : next.config = world.config ∨ next.config = created
  flash :
    next.flash = world.flash ∨ next.flash = some (.current created)
  sessions :
    ∀ session,
      (next.sessions session).active = true →
      (world.sessions session).active = true ∧
          (next.sessions session).token = (world.sessions session).token ∨
        next.config = created ∧
        (next.sessions session).accountIndex = 0 ∧
        ∃ raw, (next.sessions session).token = authGenerateToken raw

/-- Everything that a call can do. -/
inductive AuthEffect
    (world : AuthWorld) (action : AuthAction) (next : AuthWorld) : Prop
  | quiet (same : Quiet world next)
  | created
      (platform : AuthPlatform) (name password : List UInt8)
      (salt : AuthSalt)
      (isOpen : authBootstrapOpenState world.config = true)
      (normalized : authUsernameNormalize (some name) true = some name)
      (nonempty : name ≠ [])
      (authorized : ∀ account, Authorizes world account action)
      (change :
        FirstAdminCreated world next
          (firstAdmin platform world.config name password salt))
  | written
      (index : Fin 6) (account : AuthAccount)
      (authorized : Authorizes world index action)
      (fits : Fits world.config index account)
      (change : SlotWritten world next index account)
      (linked :
        ∀ session,
          (next.sessions session).active = true →
          (next.sessions session).accountIndex = index.val →
          authAccountInUse account = true)

theorem AuthEffect.of_kept
    {world : AuthWorld} {action : AuthAction} {sessions : Fin 4 → AuthSession}
    (kept : SessionsKept world.sessions sessions) :
    AuthEffect world action { world with sessions := sessions } :=
  .quiet ⟨rfl, rfl, kept⟩

theorem nvsWrite_cases
    {Value : Type} (outcome : NvsOutcome) (old new : Value) :
    nvsWrite outcome old new = old ∨ nvsWrite outcome old new = new := by
  unfold nvsWrite
  split
  · exact .inr rfl
  · exact .inl rfl

theorem SlotWritten.of_pruned
    {world next : AuthWorld} {sessions : Fin 4 → AuthSession}
    {index : Fin 6} {account : AuthAccount}
    (pruned : SessionsKept world.sessions sessions)
    (change :
      SlotWritten { world with sessions := sessions } next index account) :
    SlotWritten world next index account where
  config := change.config
  flash := change.flash
  sessions := pruned.trans change.sessions

/-! ## The first administrator -/

theorem authCreateSessionForAccount_cases
    (sessions : Fin 4 → AuthSession) (account : Int) (outSize : Option Nat)
    (now pruned : UInt64) (raw : Vector UInt8 32) :
    (authCreateSessionForAccount sessions account outSize now pruned
        raw).1 = authPruneExpiredSessions sessions pruned ∨
    ∃ target created,
      (authCreateSessionForAccount sessions account outSize now pruned
          raw).1 =
          Function.update (authPruneExpiredSessions sessions pruned)
            target created ∧
      created.accountIndex = account ∧
      created.token = authGenerateToken raw := by
  unfold authCreateSessionForAccount
  dsimp only
  split
  · split
    · exact .inl rfl
    · exact .inr ⟨_, _, rfl, rfl, rfl⟩
  · exact .inl rfl

theorem authCreateSessionForAccount_active
    {sessions created : Fin 4 → AuthSession} {account : Int}
    {outSize : Option Nat} {now pruned : UInt64} {raw : Vector UInt8 32}
    {token : AuthText}
    (made :
      authCreateSessionForAccount sessions account outSize now pruned raw =
        (created, token))
    {session : Fin 4} (active : (created session).active = true) :
    (sessions session).active = true ∧
        (created session).token = (sessions session).token ∨
      (created session).accountIndex = account ∧
      (created session).token = authGenerateToken raw := by
  have kept := sessionsKept_prune sessions pruned session
  have cases :=
    authCreateSessionForAccount_cases sessions account outSize now pruned raw
  rw [made] at cases
  dsimp only at cases
  rcases cases with same | ⟨target, new, updated, isAccount, isToken⟩
  · rw [same] at active ⊢
    exact .inl ⟨(kept active).1, (kept active).2.1⟩
  · rw [updated] at active ⊢
    by_cases isTarget : session = target
    · subst isTarget
      rw [Function.update_self]
      exact .inr ⟨isAccount, isToken⟩
    · rw [Function.update_of_ne isTarget] at active ⊢
      exact .inl ⟨(kept active).1, (kept active).2.1⟩

theorem authBootstrapCreateFirstAdmin_effect
    (platform : AuthPlatform) (world : AuthWorld)
    (username password : AuthText) (outSize : Option Nat)
    (now pruned : UInt64) (salt : AuthSalt) (raw : Vector UInt8 32)
    (outcome : NvsOutcome) :
    AuthEffect world
      (.bootstrapCreateFirstAdmin username password outSize now pruned salt
        raw outcome)
      (authBootstrapCreateFirstAdmin platform world username password
        outSize now pruned salt raw outcome).1 := by
  have unchanged := SessionsKept.refl world.sessions
  unfold authBootstrapCreateFirstAdmin
  split
  · exact .of_kept unchanged
  rename_i isOpen
  have opened : authBootstrapOpenState world.config = true := by
    simpa using isOpen
  split
  · exact .of_kept unchanged
  rename_i normalized isNormalized
  rcases authUsernameNormalize_fixed isNormalized with ⟨fixed, nonempty⟩
  split
  · exact .of_kept unchanged
  dsimp only
  split
  · refine
      .created platform normalized (password.getD []) salt opened fixed
        nonempty (fun _ => opened) ⟨.inl rfl, nvsWrite_cases .., ?_⟩
    intro session active
    exact .inl ⟨active, rfl⟩
  · split <;> rename_i sessions _ made
    all_goals
      refine
        .created platform normalized (password.getD []) salt opened fixed
          nonempty (fun _ => opened) ⟨.inr rfl, nvsWrite_cases .., ?_⟩
      intro session active
      rcases authCreateSessionForAccount_active made active with
        kept | ⟨zero, token⟩
      · exact .inl kept
      · exact .inr ⟨rfl, zero, raw, token⟩

/-! ## Accounts of others -/

theorem authAccountInUse_congr
    {first second : AuthAccount} (used : first.inUse = second.inUse)
    (name : first.username = second.username) :
    authAccountInUse first = authAccountInUse second := by
  rw [authAccountInUse, used, name, authAccountInUse]

theorem authUpdateAccount_written
    (platform : AuthPlatform) (world : AuthWorld) (existing : Fin 6)
    (role : AuthRole) (enabled : Bool) (password : AuthText)
    (salt : AuthSalt) (outcome : NvsOutcome) :
    ∃ account,
      SlotWritten world
          (authUpdateAccount platform world existing role enabled password
            salt outcome).1 existing account ∧
      account.username = (world.config.accounts existing).username ∧
      account.inUse = (world.config.accounts existing).inUse := by
  unfold authUpdateAccount
  dsimp only
  split
  · refine
      ⟨{ world.config.accounts existing with
          enabled := enabled
          role := role },
        ?_, rfl, rfl⟩
    split
    · exact ⟨.inl rfl, nvsWrite_cases .., SessionsKept.refl _⟩
    · exact ⟨.inr rfl, nvsWrite_cases .., SessionsKept.refl _⟩
  split
  · exact ⟨_, ⟨.inr rfl, .inl rfl, SessionsKept.refl _⟩, rfl, rfl⟩
  · have kept := sessionsKept_invalidate world.sessions existing
    refine
      ⟨({ world.config.accounts existing with
            enabled := enabled
            role := role } : AuthAccount).withPassword platform
          (password.getD []) salt,
        ?_, rfl, rfl⟩
    split
    · exact ⟨.inl rfl, nvsWrite_cases .., kept⟩
    · exact ⟨.inr rfl, nvsWrite_cases .., kept⟩

theorem authInsertAccount_written
    (platform : AuthPlatform) (world : AuthWorld)
    (normalized : List UInt8) (role : AuthRole) (enabled : Bool)
    (password : AuthText) (salt : AuthSalt) (outcome : NvsOutcome) :
    Quiet world
        (authInsertAccount platform world normalized role enabled password
          salt outcome).1 ∨
    ∃ free account,
      SlotWritten world
          (authInsertAccount platform world normalized role enabled
            password salt outcome).1 free account ∧
      authAccountInUse (world.config.accounts free) = false ∧
      account.username = normalized ∧ account.inUse = true := by
  unfold authInsertAccount
  split
  · exact .inl ⟨rfl, rfl, SessionsKept.refl _⟩
  split
  · exact .inl ⟨rfl, rfl, SessionsKept.refl _⟩
  · rename_i free isFree
    have unused : authAccountInUse (world.config.accounts free) = false := by
      simpa using List.find?_some isFree
    dsimp only
    refine
      .inr
        ⟨free,
          { authAccountClear with
            inUse := true
            enabled := enabled
            role := role
            username := normalized
            salt := salt
            hash := authHashPassword platform (password.getD []) salt },
          ?_, unused, rfl, rfl⟩
    split
    · exact ⟨.inl rfl, nvsWrite_cases .., SessionsKept.refl _⟩
    · exact ⟨.inr rfl, nvsWrite_cases .., SessionsKept.refl _⟩

theorem authFindAccountIndex_some
    {config : AuthConfig} {name : List UInt8} {index : Fin 6}
    (found : authFindAccountIndex config name = some index) :
    authAccountInUse (config.accounts index) = true ∧
    (config.accounts index).username = name := by
  unfold authFindAccountIndex at found
  split at found
  · cases found
  · simpa using List.find?_some found

theorem authFindAccountIndex_none
    {config : AuthConfig} {name : List UInt8} (nonempty : name ≠ [])
    (missing : authFindAccountIndex config name = none) {index : Fin 6}
    (used : authAccountInUse (config.accounts index) = true) :
    (config.accounts index).username ≠ name := by
  rw [authFindAccountIndex, if_neg nonempty, List.find?_eq_none] at missing
  have here := missing index (List.mem_finRange index)
  simpa [used] using here

theorem authSaveAccount_effect
    {platform : AuthPlatform} {world : AuthWorld} (sound : AuthSound world)
    (currentToken username : AuthText) (role : AuthRole) (enabled : Bool)
    (password : AuthText) (now : UInt64) (salt : AuthSalt)
    (outcome : NvsOutcome) :
    AuthEffect world
      (.saveAccount currentToken username role enabled password now salt
        outcome)
      (authSaveAccount platform world currentToken username role enabled
        password now salt outcome).1 := by
  unfold authSaveAccount
  split
  · exact .of_kept (SessionsKept.refl _)
  rename_i normalized isNormalized
  rcases authUsernameNormalize_fixed isNormalized with ⟨fixed, nonempty⟩
  split
  · exact .of_kept (SessionsKept.refl _)
  have pruned :=
    authSessionAccountIndexFromToken_kept world.sessions currentToken now
  dsimp only
  split
  · exact .of_kept pruned
  rename_i current caller
  rcases callerAdmin?_some caller with ⟨names, isAdmin⟩
  split
  · rename_i existing found
    rcases authFindAccountIndex_some found with ⟨used, _⟩
    split
    · exact .of_kept pruned
    rename_i different
    split
    · exact .of_kept pruned
    rcases
      authUpdateAccount_written platform
        { world with
          sessions :=
            (authSessionAccountIndexFromToken world.sessions currentToken
              now).1 }
        existing role enabled password salt outcome with
      ⟨account, written, name, inUse⟩
    have other : current ≠ existing := Ne.symm different
    refine
      .written existing account ⟨current, other, names, isAdmin⟩
        (sound.accounts.fits_renamed used name
          (administered_of_other account other isAdmin))
        (written.of_pruned pruned) fun _ _ _ => ?_
    exact (authAccountInUse_congr inUse name).trans used
  · rename_i missing
    rcases
      authInsertAccount_written platform
        { world with
          sessions :=
            (authSessionAccountIndexFromToken world.sessions currentToken
              now).1 }
        normalized role enabled password salt outcome with
      quiet | ⟨free, account, written, unused, name, inUse⟩
    · exact .quiet ⟨quiet.config, quiet.flash, pruned.trans quiet.sessions⟩
    have usedCurrent := enabledAdmin_inUse isAdmin
    have other : current ≠ free := by
      rintro rfl
      exact Bool.noConfusion (usedCurrent.symm.trans unused)
    refine
      .written free account ⟨current, other, names, isAdmin⟩
        { normalized := fun _ => name ▸ fixed
          alone := fun _ index _ used => ?_
          administered := administered_of_other account other isAdmin
          configured := sound.accounts.populated current usedCurrent }
        (written.of_pruned pruned) fun _ _ _ => ?_
    · rw [name]
      exact authFindAccountIndex_none nonempty missing used
    · simp [authAccountInUse, inUse, name, nonempty]

theorem authDeleteAccount_effect
    {world : AuthWorld} (sound : AuthSound world)
    (currentToken username : AuthText) (now : UInt64)
    (outcome : NvsOutcome) :
    AuthEffect world (.deleteAccount currentToken username now outcome)
      (authDeleteAccount world currentToken username now outcome).1 := by
  unfold authDeleteAccount
  split
  · exact .of_kept (SessionsKept.refl _)
  have pruned :=
    authSessionAccountIndexFromToken_kept world.sessions currentToken now
  dsimp only
  split
  · exact .of_kept pruned
  rename_i current caller
  rcases callerAdmin?_some caller with ⟨names, isAdmin⟩
  split
  · exact .of_kept pruned
  rename_i index found
  split
  · exact .of_kept pruned
  rename_i different
  split
  · exact .of_kept pruned
  have other : current ≠ index := Ne.symm different
  have cleared : Fits world.config index authAccountClear :=
    { normalized := fun used => Bool.noConfusion used
      alone := fun used => Bool.noConfusion used
      administered := administered_of_other _ other isAdmin
      configured :=
        sound.accounts.populated current (enabledAdmin_inUse isAdmin) }
  have kept :=
    pruned.trans
      (sessionsKept_invalidate
        (authSessionAccountIndexFromToken world.sessions currentToken now).1
        index)
  split
  · refine
      .written index _ ⟨current, other, names, isAdmin⟩ cleared
        ⟨.inl rfl, nvsWrite_cases .., kept⟩ fun session active same => ?_
    exact absurd same (invalidate_account active)
  · refine
      .written index _ ⟨current, other, names, isAdmin⟩ cleared
        ⟨.inr rfl, nvsWrite_cases .., kept⟩ fun session active same => ?_
    exact absurd same (invalidate_account active)

/-! ## The own password, and the end of a session -/

theorem withPassword_kept
    (platform : AuthPlatform) (account : AuthAccount)
    (password : List UInt8) (salt : AuthSalt) :
    (account.withPassword platform password salt).username = account.username ∧
    (account.withPassword platform password salt).inUse = account.inUse ∧
    enabledAdmin (account.withPassword platform password salt) =
      enabledAdmin account :=
  ⟨rfl, rfl, rfl⟩

theorem authChangePassword_effect
    {platform : AuthPlatform} {world : AuthWorld} (sound : AuthSound world)
    (token current new : AuthText) (now later : UInt64) (salt : AuthSalt)
    (outcome : NvsOutcome) :
    AuthEffect world
      (.changePassword token current new now later salt outcome)
      (authChangePassword platform world token current new now later salt
        outcome).1 := by
  unfold authChangePassword
  split
  · rename_i remaining found
    exact .of_kept (authFindSessionIndex_kept found)
  rename_i remaining session found
  have kept := authFindSessionIndex_kept found
  rcases authFindSessionIndex_some found with
    ⟨active, isToken, unexpired, same⟩
  dsimp only
  split
  · exact .of_kept kept
  rename_i index slot
  have isIndex := accountSlot?_some slot
  rw [same] at isIndex
  split
  · exact .of_kept kept
  rename_i isEnabled
  split
  · exact .of_kept kept
  split
  · exact .of_kept kept
  have used : authAccountInUse (world.config.accounts index) = true := by
    simp only [authAccountEnabled, Bool.decide_and, Bool.decide_eq_true,
      Bool.not_eq_false, Bool.and_eq_true] at isEnabled
    exact isEnabled.1
  have configured := sound.accounts.populated index used
  have record :=
    withPassword_kept platform (world.config.accounts index) (new.getD []) salt
  generalize
    (world.config.accounts index).withPassword platform (new.getD []) salt =
      account at record ⊢
  rcases record with ⟨name, inUse, role⟩
  -- A configured device stays as configured as it was.
  have same :
      { world.config.setAccount index account with configured := true } =
        world.config.setAccount index account := by
    rw [AuthConfig.setAccount, configured]
  rw [same]
  have administered :=
    administered_of_same_role (sound.accounts.administered configured) role
  have fits := sound.accounts.fits_renamed used name administered
  have names : TokenNames world.sessions token now index :=
    ⟨session, active, isToken, unexpired, isIndex⟩
  have stillUsed := (authAccountInUse_congr inUse name).trans used
  split
  · exact
      .written index account names fits ⟨.inl rfl, nvsWrite_cases .., kept⟩
        fun _ _ _ => stillUsed
  · have extended :=
      kept.trans
        (@sessionsKept_update remaining session
          { remaining session with expiresAtMs := later + sessionTimeoutMs }
          fun active => ⟨active, rfl, rfl⟩)
    exact
      .written index account names fits
        ⟨.inr rfl, nvsWrite_cases .., extended⟩ fun _ _ _ => stillUsed

theorem authDestroySession_quiet
    (world : AuthWorld) (token : AuthText) (now : UInt64) :
    Quiet world (authDestroySession world token now) := by
  unfold authDestroySession
  split
  · exact ⟨rfl, rfl, sessionsKept_reset _⟩
  · exact ⟨rfl, rfl, sessionsKept_reset _⟩
  split
  · rename_i remaining found
    exact ⟨rfl, rfl, authFindSessionIndex_kept found⟩
  · rename_i remaining session found
    refine ⟨rfl, rfl, (authFindSessionIndex_kept found).trans ?_⟩
    exact sessionsKept_update session fun active => by cases active

/-- The action is a call, and not a restart. -/
def IsCall : AuthAction → Prop
  | .restart _ => False
  | _ => True

theorem authStep_effect
    {platform : AuthPlatform} {world : AuthWorld} (sound : AuthSound world)
    {action : AuthAction} (isCall : IsCall action) :
    AuthEffect world action (authStep platform world action).1 := by
  cases action with
  | bootstrapCreateFirstAdmin username password outSize now pruned salt raw
      outcome =>
      exact authBootstrapCreateFirstAdmin_effect ..
  | login username password outSize =>
      exact .of_kept (SessionsKept.refl _)
  | destroySession token now =>
      exact .quiet (authDestroySession_quiet world token now)
  | saveAccount currentToken username role enabled password now salt
      outcome =>
      exact authSaveAccount_effect sound ..
  | deleteAccount currentToken username now outcome =>
      exact authDeleteAccount_effect sound ..
  | changePassword token current new now later salt outcome =>
      exact authChangePassword_effect sound ..
  | restart outcome => exact isCall.elim

/-! ## Every call keeps the table sound -/

theorem authBootstrapOpenState_unused
    {config : AuthConfig} (isOpen : authBootstrapOpenState config = true)
    (index : Fin 6) :
    authAccountInUse (config.accounts index) = false := by
  simp only [authBootstrapOpenState, authHasAnyAccount, Bool.decide_and,
    Bool.and_eq_true, decide_eq_true_eq, List.any_eq_false] at isOpen
  simpa using isOpen.2 index (List.mem_finRange index)

/-- A table whose only account is an enabled administrator in the first
slot. -/
theorem AccountsSound.single
    {config : AuthConfig} (configured : config.configured = true)
    (others :
      ∀ index, index ≠ 0 → authAccountInUse (config.accounts index) = false)
    (admin : enabledAdmin (config.accounts 0) = true)
    (normalized :
      authUsernameNormalize (some (config.accounts 0).username) true =
        some (config.accounts 0).username) :
    AccountsSound config := by
  have isFirst :
      ∀ index,
        authAccountInUse (config.accounts index) = true → index = 0 := by
    intro index used
    by_contra other
    rw [others index other] at used
    cases used
  refine ⟨?_, ?_, fun _ => ⟨0, admin⟩, fun _ _ => configured⟩
  · intro first second usedFirst usedSecond _
    rw [isFirst first usedFirst, isFirst second usedSecond]
  · intro index used
    rw [isFirst index used]
    exact normalized

theorem firstAdmin_sound
    (platform : AuthPlatform) {config : AuthConfig}
    (isOpen : authBootstrapOpenState config = true)
    {name : List UInt8}
    (normalized : authUsernameNormalize (some name) true = some name)
    (nonempty : name ≠ []) (password : List UInt8) (salt : AuthSalt) :
    AccountsSound (firstAdmin platform config name password salt) := by
  refine AccountsSound.single rfl ?_ ?_ ?_
  · intro index other
    have kept := setAccount_other config
      { authAccountClear with
        inUse := true
        enabled := true
        role := .admin
        flags := 0
        username := name
        salt := salt
        hash := authHashPassword platform password salt } other
    exact
      (congrArg authAccountInUse kept).trans
        (authBootstrapOpenState_unused isOpen index)
  · simp [firstAdmin, AuthConfig.setAccount, enabledAdmin,
      authAccountEnabled, authAccountInUse, nonempty]
  · simpa [firstAdmin, AuthConfig.setAccount] using normalized

theorem SessionsLinked.of_kept
    {config : AuthConfig} {before after : Fin 4 → AuthSession}
    (linked : SessionsLinked config before)
    (kept : SessionsKept before after) : SessionsLinked config after := by
  intro session active
  rcases kept session active with ⟨was, _, same⟩
  rw [same]
  exact linked session was

theorem AuthEffect.sound
    {world next : AuthWorld} {action : AuthAction}
    (sound : AuthSound world) (effect : AuthEffect world action next) :
    AuthSound next := by
  cases effect with
  | quiet same =>
      refine ⟨same.config ▸ sound.accounts, ?_, same.flash ▸ sound.stored⟩
      rw [same.config]
      exact sound.linked.of_kept same.sessions
  | created platform name password salt isOpen normalized nonempty _
      change =>
      have created :=
        firstAdmin_sound platform isOpen normalized nonempty password salt
      refine ⟨?_, ?_, ?_⟩
      · rcases change.config with same | same
        · exact same ▸ sound.accounts
        · exact same ▸ created
      · intro session active
        rcases change.sessions session active with
          ⟨was, _⟩ | ⟨isCreated, first, _⟩
        · -- An open device has no session.
          rcases sound.linked session was with ⟨account, _, used⟩
          rw [authBootstrapOpenState_unused isOpen account] at used
          cases used
        · refine ⟨0, first, ?_⟩
          simp [isCreated, firstAdmin, AuthConfig.setAccount,
            authAccountInUse, nonempty]
      · intro config isStored
        rcases change.flash with same | same
        · exact sound.stored config (same ▸ isStored)
        · rw [same] at isStored
          cases isStored
          exact created
  | written index account _ fits change linked =>
      have written := sound.accounts.setAccount fits
      refine ⟨?_, ?_, ?_⟩
      · rcases change.config with same | same
        · exact same ▸ sound.accounts
        · exact same ▸ written
      · intro session active
        rcases sound.linked.of_kept change.sessions session active with
          ⟨named, isNamed, used⟩
        refine ⟨named, isNamed, ?_⟩
        rcases change.config with same | same
        · rw [same]
          exact used
        · rw [same]
          by_cases isIndex : named = index
          · subst isIndex
            rw [setAccount_own]
            exact linked session active isNamed
          · rw [setAccount_other _ _ isIndex]
            exact used
      · intro config isStored
        rcases change.flash with same | same
        · exact sound.stored config (same ▸ isStored)
        · rw [same] at isStored
          cases isStored
          exact written

theorem AuthEffect.authorized
    {world next : AuthWorld} {action : AuthAction}
    (effect : AuthEffect world action next) {index : Fin 6}
    (changed :
      next.config.accounts index ≠ world.config.accounts index) :
    Authorizes world index action := by
  cases effect with
  | quiet same => exact absurd (by rw [same.config]) changed
  | created _ _ _ _ _ _ _ authorized _ => exact authorized index
  | written written account authorized _ change _ =>
      rcases change.config with same | same
      · exact absurd (by rw [same]) changed
      · by_cases isWritten : index = written
        · exact isWritten ▸ authorized
        · rw [same, setAccount_other _ _ isWritten] at changed
          exact absurd rfl changed

/-! ## Restarts -/

theorem authSeedOpenBootstrap_sound : AccountsSound authSeedOpenBootstrap :=
  ⟨fun _ _ used => Bool.noConfusion used, fun _ used => Bool.noConfusion used,
    fun configured => Bool.noConfusion configured,
    fun _ used => Bool.noConfusion used⟩

theorem authMigrateLegacyConfig_sound
    {legacy : AuthLegacyConfig} {config : AuthConfig}
    (migrated : authMigrateLegacyConfig legacy = some config) :
    AccountsSound config := by
  unfold authMigrateLegacyConfig at migrated
  split at migrated
  · cases migrated
  split at migrated
  · rw [← Option.some.inj migrated]
    refine AccountsSound.single rfl ?_ ?_ ?_
    · intro index other
      rw [setAccount_other _ _ other]
      rfl
    · rw [setAccount_own]
      rfl
    · have named :
          authUsernameNormalize (some (CText.bytes "admin")) true =
            some (CText.bytes "admin") := by
        decide +kernel
      rw [setAccount_own]
      exact named
  · rw [← Option.some.inj migrated]
    exact authSeedOpenBootstrap_sound

theorem authLoadConfig_sound
    {flash : Option AuthBlob}
    (stored : ∀ config, flash = some (.current config) → AccountsSound config)
    {config : AuthConfig} {again : Bool}
    (loaded : authLoadConfig flash = some (config, again)) :
    AccountsSound config := by
  unfold authLoadConfig at loaded
  split at loaded
  · cases loaded
  · rename_i blob
    split at loaded
    · cases loaded
    split at loaded
    · cases loaded
      exact stored config rfl
    · rename_i sanitized isSanitized
      cases loaded
      unfold authSanitizeLoadedConfig at isSanitized
      have seeded : authSeedOpenBootstrap = config := by
        split at isSanitized
        · exact Option.some.inj isSanitized
        split at isSanitized
        · split at isSanitized
          · exact Option.some.inj isSanitized
          · cases isSanitized
        · split at isSanitized
          · exact Option.some.inj isSanitized
          · cases isSanitized
      exact seeded ▸ authSeedOpenBootstrap_sound
  · rcases Option.map_eq_some_iff.mp loaded with ⟨made, migrated, same⟩
    cases same
    exact authMigrateLegacyConfig_sound migrated
  · cases loaded

theorem authSaveConfig_sound
    {config : AuthConfig} (accounts : AccountsSound config)
    {flash : Option AuthBlob}
    (stored : ∀ config, flash = some (.current config) → AccountsSound config)
    (outcome : NvsOutcome) :
    AuthSound
      (authSaveConfig
        { config := config, sessions := authResetSessions, flash := flash }
        outcome) := by
  refine ⟨accounts, fun _ active => Bool.noConfusion active, ?_⟩
  intro saved isSaved
  rcases nvsWrite_cases outcome flash (some (.current config)) with
    old | new
  · exact stored saved (old ▸ isSaved)
  · rw [authSaveConfig, new] at isSaved
    cases isSaved
    exact accounts

theorem authInit_sound
    {flash : Option AuthBlob}
    (stored : ∀ config, flash = some (.current config) → AccountsSound config)
    (outcome : NvsOutcome) : AuthSound (authInit flash outcome) := by
  unfold authInit
  split
  · exact authSaveConfig_sound authSeedOpenBootstrap_sound stored outcome
  · rename_i config loaded
    exact
      ⟨authLoadConfig_sound stored loaded,
        fun _ active => Bool.noConfusion active, stored⟩
  · rename_i config loaded
    exact
      authSaveConfig_sound (authLoadConfig_sound stored loaded) stored outcome

theorem authStep_sound
    {platform : AuthPlatform} {world : AuthWorld} (sound : AuthSound world)
    (action : AuthAction) :
    AuthSound (authStep platform world action).1 := by
  by_cases isCall : IsCall action
  · exact (authStep_effect sound isCall).sound sound
  · cases action with
    | restart outcome => exact authInit_sound sound.stored outcome
    | _ => exact absurd trivial isCall

/-! ## Every run -/

/-- What holds of the accounts and the sessions at any time. -/
structure AccountTable (world : AuthWorld) : Prop where
  distinct :
    ∀ first second,
      authAccountInUse (world.config.accounts first) = true →
      authAccountInUse (world.config.accounts second) = true →
      (world.config.accounts first).username =
          (world.config.accounts second).username →
        first = second
  normalized :
    ∀ index,
      authAccountInUse (world.config.accounts index) = true →
      authUsernameNormalize (some (world.config.accounts index).username) true =
        some (world.config.accounts index).username
  administered :
    world.config.configured = true →
    ∃ index,
      authAccountInUse (world.config.accounts index) = true ∧
      authAccountEnabled (world.config.accounts index) = true ∧
      (world.config.accounts index).role = .admin
  linked :
    ∀ session,
      (world.sessions session).active = true →
      ∃ account : Fin 6,
        (world.sessions session).accountIndex = account.val ∧
        authAccountInUse (world.config.accounts account) = true

theorem AuthSound.table {world : AuthWorld} (sound : AuthSound world) :
    AccountTable world where
  distinct := sound.accounts.distinct
  normalized := sound.accounts.normalized
  administered := by
    intro configured
    rcases sound.accounts.administered configured with ⟨index, admin⟩
    have used := enabledAdmin_inUse admin
    simp only [enabledAdmin, Bool.decide_and, Bool.decide_eq_true,
      Bool.and_eq_true, decide_eq_true_eq] at admin
    exact ⟨index, used, admin.1, admin.2⟩
  linked := sound.linked

/--
From a device without a blob, over every sequence of calls and restarts: the
table is sound after each of them, and a call changes a record only if it
creates the first administrator of an open device, acts with the session of
another enabled administrator, or changes the password of its own account.
-/
theorem account_table_along_runs
    (platform : AuthPlatform) (saved : NvsOutcome)
    (actions : List AuthAction) :
    AccountTable (final (authStep platform) (authInit none saved) actions) ∧
    ∀ made ∈ history (authStep platform) (authInit none saved) actions,
      AccountTable made.after ∧
      (IsCall made.action →
      ∀ account,
        made.after.config.accounts account ≠
            made.before.config.accounts account →
          Authorizes made.before account made.action) := by
  have start : AuthSound (authInit none saved) :=
    authInit_sound (fun _ missing => by cases missing) saved
  constructor
  · have reached :
        AuthSound (final (authStep platform) (authInit none saved) actions) :=
      final_invariant AuthSound start
        (fun _ action sound => authStep_sound sound action) actions
    exact reached.table
  · intro made member
    rcases
      history_invariant AuthSound start
        (fun _ action sound => authStep_sound sound action) member with
      ⟨sound, isCallOf⟩
    have reached : made.after = (authStep platform made.before
        made.action).1 := by
      rw [isCallOf]
      rfl
    rw [reached]
    refine ⟨(authStep_sound sound made.action).table, ?_⟩
    intro isCall account changed
    exact (authStep_effect sound isCall).authorized changed

end Endap.Auth
