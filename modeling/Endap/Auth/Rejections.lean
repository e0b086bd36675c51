import Endap.Auth.Access

/-!
# Rejected operations on accounts

An operation that creates, changes or deletes an account, or changes a
password, keeps the configuration of before and puts it back when the save is
refused.  The update of an account gives its record the new role before it
looks at the password, and a weak password leaves through an exit that puts
nothing back.

Everything else that an operation refuses leaves the accounts as they were.
-/

namespace Endap.Auth

open Endap.Library
open Endap.State

/-- The records of the accounts and the configured flag are the same. -/
structure SameAccounts (world next : AuthWorld) : Prop where
  accounts : next.config.accounts = world.config.accounts
  configured : next.config.configured = world.config.configured

/-- The call says that it has not done what was asked.  When only the session
of the first administrator is missing, the administrator was created. -/
def AuthOutput.Rejects : AuthOutput → Prop
  | .bootstrap made =>
      made.result ≠ .ok ∧ made.result ≠ .sessionCreateFailed
  | .saved result => result ≠ .ok
  | .deleted result => result ≠ .ok
  | .passwordChanged result => result ≠ .ok
  | .login _ => False
  | .nothing => False

variable {world next : AuthWorld}

theorem SameAccounts.of_config
    (same : next.config = world.config) :
    SameAccounts world next :=
  ⟨congrArg AuthConfig.accounts same, congrArg AuthConfig.configured same⟩

/-! ## The update of an account -/

/-- The change would leave the device without an enabled administrator. -/
def RemovesLastAdmin
    (config : AuthConfig) (existing : Fin 6) (role : AuthRole)
    (enabled : Bool) : Prop :=
  (enabled = false ∨ role ≠ .admin) ∧
  (config.accounts existing).role = .admin ∧
  authCountEnabledAdminsExcluding config existing = 0

/-- The arguments of `auth_save_account` that reach the update of an account:
an enabled administrator changes another account. -/
structure ReachesUpdate
    (world : AuthWorld) (currentToken username : AuthText)
    (role : AuthRole) (enabled : Bool) (now : UInt64)
    (normalized : List UInt8) (current existing : Fin 6) : Prop where
  named : authUsernameNormalize username true = some normalized
  hasRole : role ≠ .none
  caller :
    callerAdmin? world.config
        (authSessionAccountIndexFromToken world.sessions currentToken now).2 =
      some current
  found : authFindAccountIndex world.config normalized = some existing
  other : existing ≠ current
  administered : ¬ RemovesLastAdmin world.config existing role enabled

/-- A password is given, and it is too weak. -/
def WeakPassword (password : AuthText) : Prop :=
  password.getD [] ≠ [] ∧ authPasswordIsStrong password = false

/-- The call is an update with a weak password and with another role, or
another state, than the account has. -/
def LeavesHalfUpdate (world : AuthWorld) : AuthAction → Prop
  | .saveAccount currentToken username role enabled password now _ _ =>
      WeakPassword password ∧
      ∃ normalized current existing,
        ReachesUpdate world currentToken username role enabled now
            normalized current existing ∧
        ((world.config.accounts existing).role ≠ role ∨
        (world.config.accounts existing).enabled ≠ enabled)
  | _ => False

variable {currentToken username : AuthText} {role : AuthRole} {enabled : Bool}
    {now : UInt64}

theorem ReachesUpdate.saves
    {normalized : List UInt8} {current existing : Fin 6}
    (reaches :
      ReachesUpdate world currentToken username role enabled now normalized
        current existing)
    (platform : AuthPlatform) (password : AuthText) (salt : AuthSalt)
    (outcome : NvsOutcome) :
    authSaveAccount platform world currentToken username role enabled
        password now salt outcome =
      authUpdateAccount platform
        { world with
          sessions :=
            (authSessionAccountIndexFromToken world.sessions currentToken
              now).1 }
        existing role enabled password salt outcome := by
  have administered := reaches.administered
  rw [RemovesLastAdmin] at administered
  simp only [authSaveAccount, reaches.named, reaches.hasRole,
    reaches.caller, reaches.found, reaches.other, if_false]
  exact if_neg administered

variable {password : AuthText}

theorem authUpdateAccount_weak
    (platform : AuthPlatform) (world : AuthWorld) (existing : Fin 6)
    (role : AuthRole) (enabled : Bool)
    (weak : WeakPassword password) (salt : AuthSalt)
    (outcome : NvsOutcome) :
    authUpdateAccount platform world existing role enabled password salt
        outcome =
      ({ world with
          config :=
            world.config.setAccount existing
              { world.config.accounts existing with
                enabled := enabled
                role := role } },
        .weakPassword) := by
  simp only [authUpdateAccount, weak.1, weak.2, if_false, if_true]

variable {platform : AuthPlatform} {salt : AuthSalt} {outcome : NvsOutcome}

theorem authUpdateAccount_rejected
    {existing : Fin 6}
    (strong : ¬ WeakPassword password)
    (rejected :
      (authUpdateAccount platform world existing role enabled password salt
        outcome).2 ≠ .ok) :
    (authUpdateAccount platform world existing role enabled password salt
      outcome).1.config = world.config := by
  unfold authUpdateAccount at rejected ⊢
  dsimp only at rejected ⊢
  by_cases fails : outcome.succeeds = false
  · by_cases missing : password.getD [] = []
    · rw [if_pos missing, if_pos fails]
    · have isStrong : ¬ authPasswordIsStrong password = false :=
        fun isWeak => strong ⟨missing, isWeak⟩
      rw [if_neg missing, if_neg isStrong, if_pos fails]
  · by_cases missing : password.getD [] = []
    · rw [if_pos missing, if_neg fails] at rejected
      exact absurd rfl rejected
    · have isStrong : ¬ authPasswordIsStrong password = false :=
        fun isWeak => strong ⟨missing, isWeak⟩
      rw [if_neg missing, if_neg isStrong, if_neg fails] at rejected
      exact absurd rfl rejected

/-- The record that a weak password leaves is another one exactly when the
role or the state is another one. -/
theorem sameAccounts_setAccount_iff
    (world : AuthWorld) (sessions : Fin 4 → AuthSession) (existing : Fin 6)
    (role : AuthRole) (enabled : Bool) :
    SameAccounts world
        { world with
          config :=
            world.config.setAccount existing
              { world.config.accounts existing with
                enabled := enabled
                role := role }
          sessions := sessions } ↔
      ¬ ((world.config.accounts existing).role ≠ role ∨
      (world.config.accounts existing).enabled ≠ enabled) := by
  constructor
  · intro same
    have record := congrFun same.accounts existing
    simp only [AuthConfig.setAccount, Function.update_self] at record
    have sameRole := congrArg AuthAccount.role record
    have sameState := congrArg AuthAccount.enabled record
    rintro (otherRole | otherState)
    · exact otherRole sameRole.symm
    · exact otherState sameState.symm
  · intro same
    push Not at same
    refine ⟨?_, rfl⟩
    rw [← same.1, ← same.2]
    exact Function.update_eq_self existing world.config.accounts

/-! ## The four operations -/

theorem authBootstrapCreateFirstAdmin_rejected
    {outSize : Option Nat}
    {pruned : UInt64} {raw : Vector UInt8 32}
    {made : AuthBootstrap}
    (call :
      authBootstrapCreateFirstAdmin platform world username password outSize
        now pruned salt raw outcome = (next, made))
    (rejected : made.result ≠ .ok ∧ made.result ≠ .sessionCreateFailed) :
    next.config = world.config := by
  unfold authBootstrapCreateFirstAdmin at call
  split at call
  · cases call
    rfl
  split at call
  · cases call
    rfl
  split at call
  · cases call
    rfl
  dsimp only at call
  split at call
  · cases call
    rfl
  split at call
  · cases call
    exact absurd rfl rejected.2
  · cases call
    exact absurd rfl rejected.1

theorem authInsertAccount_rejected
    {normalized : List UInt8}
    (rejected :
      (authInsertAccount platform world normalized role enabled password
        salt outcome).2 ≠ .ok) :
    (authInsertAccount platform world normalized role enabled password salt
      outcome).1.config = world.config := by
  unfold authInsertAccount at rejected ⊢
  split
  · rfl
  rename_i strong
  rw [if_neg strong] at rejected
  split
  · rfl
  rename_i free isFree
  rw [isFree] at rejected
  dsimp only at rejected ⊢
  split
  · rfl
  · rename_i succeeds
    rw [if_neg succeeds] at rejected
    exact absurd rfl rejected

theorem authSaveAccount_rejected
    (sound :
      WeakPassword password →
      ∀ normalized current existing,
        ¬ ReachesUpdate world currentToken username role enabled now
          normalized current existing)
    (rejected :
      (authSaveAccount platform world currentToken username role enabled
        password now salt outcome).2 ≠ .ok) :
    (authSaveAccount platform world currentToken username role enabled
      password now salt outcome).1.config = world.config := by
  cases named : authUsernameNormalize username true with
  | none => simp only [authSaveAccount, named]
  | some normalized =>
      by_cases noRole : role = .none
      · simp only [authSaveAccount, named, if_pos noRole]
      cases caller :
          callerAdmin? world.config
            (authSessionAccountIndexFromToken world.sessions currentToken
              now).2 with
      | none => simp only [authSaveAccount, named, if_neg noRole, caller]
      | some current =>
          cases found : authFindAccountIndex world.config normalized with
          | none =>
              simp only [authSaveAccount, named, if_neg noRole, caller,
                found] at rejected ⊢
              exact authInsertAccount_rejected rejected
          | some existing =>
              by_cases own : existing = current
              · simp only [authSaveAccount, named, if_neg noRole, caller,
                  found, if_pos own]
              by_cases last :
                  RemovesLastAdmin world.config existing role enabled
              · rw [RemovesLastAdmin] at last
                simp only [authSaveAccount, named, if_neg noRole, caller,
                  found, if_neg own, if_pos last]
              have reaches :
                  ReachesUpdate world currentToken username role enabled
                    now normalized current existing :=
                ⟨named, noRole, caller, found, own, last⟩
              rw [reaches.saves] at rejected ⊢
              exact
                authUpdateAccount_rejected
                  (fun weak =>
                    sound weak normalized current existing reaches)
                  rejected

theorem authDeleteAccount_rejected
    {result : AuthAccountDeleteResult}
    (call :
      authDeleteAccount world currentToken username now outcome =
        (next, result))
    (rejected : result ≠ .ok) : next.config = world.config := by
  unfold authDeleteAccount at call
  split at call
  · cases call
    rfl
  dsimp only at call
  split at call
  · cases call
    rfl
  split at call
  · cases call
    rfl
  split at call
  · cases call
    rfl
  split at call
  · cases call
    rfl
  split at call
  · cases call
    rfl
  · cases call
    exact absurd rfl rejected

theorem authChangePassword_rejected
    {token current new : AuthText} {later : UInt64}
    {result : AuthChangePasswordResult}
    (call :
      authChangePassword platform world token current new now later salt
        outcome = (next, result))
    (rejected : result ≠ .ok) : next.config = world.config := by
  unfold authChangePassword at call
  split at call
  · cases call
    rfl
  dsimp only at call
  split at call
  · cases call
    rfl
  split at call
  · cases call
    rfl
  split at call
  · cases call
    rfl
  split at call
  · cases call
    rfl
  split at call
  · cases call
    rfl
  · cases call
    exact absurd rfl rejected

/-! ## Rejected calls -/

/-- A rejected call leaves the accounts alone if and only if it is no update
of another account with a weak password and a new role or state. -/
theorem rejected_call_keeps_accounts_iff
    (platform : AuthPlatform) (world : AuthWorld) (action : AuthAction) :
    ((authStep platform world action).2.Rejects →
        SameAccounts world (authStep platform world action).1) ↔
      ¬ LeavesHalfUpdate world action := by
  cases action with
  | bootstrapCreateFirstAdmin username password outSize now pruned salt raw
      outcome =>
      refine ⟨fun _ => not_false, fun _ rejected => .of_config ?_⟩
      exact authBootstrapCreateFirstAdmin_rejected rfl rejected
  | login username password outSize =>
      exact ⟨fun _ => not_false, fun _ rejected => rejected.elim⟩
  | destroySession token now =>
      exact ⟨fun _ => not_false, fun _ rejected => rejected.elim⟩
  | saveAccount currentToken username role enabled password now salt
      outcome =>
      constructor
      · rintro kept ⟨weak, normalized, current, existing, reaches, changes⟩
        have call :=
          (reaches.saves platform password salt outcome).trans
            (authUpdateAccount_weak platform _ existing role enabled weak
              salt outcome)
        simp only [authStep, call, Prod.map] at kept
        have rejects : AuthAccountSaveResult.weakPassword ≠ .ok := by decide
        exact
          (sameAccounts_setAccount_iff world _ existing role enabled).mp
            (kept rejects) changes
      · intro sound rejected
        by_cases reached :
            WeakPassword password ∧
            ∃ normalized current existing,
              ReachesUpdate world currentToken username role enabled now
                normalized current existing
        · rcases reached with
            ⟨weak, normalized, current, existing, reaches⟩
          have call :=
            (reaches.saves platform password salt outcome).trans
              (authUpdateAccount_weak platform _ existing role enabled weak
                salt outcome)
          simp only [authStep, call, Prod.map]
          refine
            (sameAccounts_setAccount_iff world _ existing role enabled).mpr
              fun changes => ?_
          exact sound ⟨weak, normalized, current, existing, reaches, changes⟩
        · refine .of_config (authSaveAccount_rejected ?_ rejected)
          intro weak normalized current existing reaches
          exact reached ⟨weak, normalized, current, existing, reaches⟩
  | deleteAccount currentToken username now outcome =>
      refine ⟨fun _ => not_false, fun _ rejected => .of_config ?_⟩
      exact authDeleteAccount_rejected rfl rejected
  | changePassword token current new now later salt outcome =>
      refine ⟨fun _ => not_false, fun _ rejected => .of_config ?_⟩
      exact authChangePassword_rejected rfl rejected
  | restart outcome =>
      exact ⟨fun _ => not_false, fun _ rejected => rejected.elim⟩

/-- A device on which the first administrator is logged in, next to a viewer
with the name `ana`. -/
def deviceWithViewer : AuthWorld :=
  authReached examplePlatform .committed
    [.bootstrapCreateFirstAdmin (some (CText.bytes "root"))
      (some (CText.bytes "correct horse")) (some 65) 5000 5000
      (Vector.replicate 16 7) (Vector.replicate 32 9) .committed,
     .saveAccount (some (authGenerateToken (Vector.replicate 32 9)))
      (some (CText.bytes "ana")) .viewer true
      (some (CText.bytes "battery staple")) 6000 (Vector.replicate 16 8)
      .committed]

/-- The administrator gives the viewer a weak password and the role of an
administrator. -/
def weakPromotion : AuthAction :=
  .saveAccount (some (authGenerateToken (Vector.replicate 32 9)))
    (some (CText.bytes "ana")) .admin true (some (CText.bytes "short")) 7000
    (Vector.replicate 16 6) .committed

/-- The refused request makes the viewer an administrator. -/
theorem weak_password_promotes :
    (authStep examplePlatform deviceWithViewer weakPromotion).2 =
        .saved .weakPassword ∧
    (deviceWithViewer.config.accounts 1).role = .viewer ∧
    ((authStep examplePlatform deviceWithViewer
      weakPromotion).1.config.accounts 1).role = .admin ∧
    ¬ ((authStep examplePlatform deviceWithViewer
          weakPromotion).2.Rejects →
        SameAccounts deviceWithViewer
          (authStep examplePlatform deviceWithViewer
            weakPromotion).1) := by
  have refused :
      (authStep examplePlatform deviceWithViewer weakPromotion).2 =
        .saved .weakPassword := by
    decide +kernel
  have before : (deviceWithViewer.config.accounts 1).role = .viewer := by
    decide +kernel
  have after :
      ((authStep examplePlatform deviceWithViewer
        weakPromotion).1.config.accounts 1).role = .admin := by
    decide +kernel
  refine ⟨refused, before, after, fun kept => ?_⟩
  have rejects :
      (authStep examplePlatform deviceWithViewer
        weakPromotion).2.Rejects := by
    rw [refused]
    exact fun isOk => by cases isOk
  have same := congrFun (kept rejects).accounts 1
  rw [same, before] at after
  cases after

end Endap.Auth
