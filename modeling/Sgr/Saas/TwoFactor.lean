import Sgr.Concurrency.Machine
import Sgr.Saas.Auth

/-!
# Two-factor authentication

`setup_2fa` and `enable_2fa` of `AuthService` in `sgr/saas/auth.py`, and the check of the code in
`login`. All of them work on the one secret in the row of the user, so a setup writes its secret
over the one that logins are verified against. There is no operation that turns the second factor
off.
-/

open Concurrency

namespace Sgr

/-- What a setup calls besides: the URI for the authenticator app, and the cipher with a random
initialization vector. -/
structure TotpLibraries (τ : Type*) extends AuthLibraries τ where
  provisioningUri : String → String → String → String
  encryptTotpSecret : ℕ → String → String

/-- What is documented of the cipher: a text that it has encrypted is not empty, and is decrypted
to what it was. -/
structure TotpLibraries.Encrypts {τ : Type*} (lib : TotpLibraries τ) : Prop where
  decrypt_encrypt : ∀ iv secret,
    lib.decryptTotpSecret (lib.encryptTotpSecret iv secret) = some secret
  encrypt_ne_empty : ∀ iv secret, lib.encryptTotpSecret iv secret ≠ ""

/-- The answer of `setup_2fa`. -/
structure Setup2fa where
  totpUri : String
  secret : String

inductive TotpCall
  /-- With the vector and the secret that are drawn. -/
  | setup2fa (email : String) (iv : ℕ) (secret : String)
  | enable2fa (totpCode : String)
  | login (email password : String) (totpCode : Option String)

/-- A call, with the time in microseconds and whether the database takes what it writes. -/
structure TotpEvent where
  now : ℤ
  written : Bool := true
  call : TotpCall

section Service

variable {τ : Type*} (lib : TotpLibraries τ)

/-- `get_totp_uri`. -/
def getTotpUri (secret userEmail : String) : String :=
  lib.provisioningUri secret userEmail "ProjectSGR"

/-- `setup_2fa`, with the row that it leaves. -/
def setup2fa (e : TotpEvent) (user : UserRow) (email : String) (iv : ℕ) (secret : String) :
    Except AuthError (Setup2fa × UserRow) :=
  if e.written then
    .ok (⟨getTotpUri lib secret email, secret⟩,
      { user with totpSecret := some (lib.encryptTotpSecret iv secret) })
  else .error .serverError

/-- `enable_2fa`, with the row that it leaves. -/
def enable2fa (e : TotpEvent) (user : UserRow) (totpCode : String) :
    Except AuthError (Bool × UserRow) :=
  match user.totpSecret.filter fun secret => secret ≠ "" with
  | none => .ok (false, user)
  | some encrypted =>
      match lib.decryptTotpSecret encrypted with
      | none => .error .serverError
      | some secret =>
          if lib.verifyTotp (secondOf e.now) secret totpCode then
            if e.written then .ok (true, { user with is2faEnabled := true })
            else .error .serverError
          else .ok (false, user)

/-- The secret in a row. -/
def UserRow.storedSecret (user : UserRow) : Option String :=
  (user.totpSecret.filter fun secret => secret ≠ "").bind lib.decryptTotpSecret

/-- The secret that logins are verified against, if the second factor is enabled. -/
def UserRow.loginSecret (user : UserRow) : Option String :=
  if user.is2faEnabled then user.storedSecret lib else none

/-- The row of a user, and the secret that was confirmed last. -/
structure TotpAccount where
  user : UserRow
  confirmed : Option String

/-- The account of a row as it is found. -/
def TotpAccount.ofRow (user : UserRow) : TotpAccount := ⟨user, user.loginSecret lib⟩

/-- What a call makes of an account. A call that ends with an exception leaves the row as it was,
and so does a login. The secret is confirmed when `enable_2fa` returns true. -/
def TotpAccount.next (a : TotpAccount) (e : TotpEvent) : TotpAccount :=
  match e.call with
  | .setup2fa email iv secret =>
      match setup2fa lib e a.user email iv secret with
      | .ok (_, user) => { a with user := user }
      | .error _ => a
  | .enable2fa totpCode =>
      match enable2fa lib e a.user totpCode with
      | .ok (true, user) => ⟨user, a.user.storedSecret lib⟩
      | .ok (false, user) => { a with user := user }
      | .error _ => a
  | .login _ _ _ => a

/-- The calls on an account, one after the other. -/
def totpMachine : Machine TotpAccount TotpEvent where
  next a e := some (a.next lib e)

/-- Logins are verified against the secret that was confirmed last. -/
def TotpAccount.VerifiesConfirmed (a : TotpAccount) : Prop := a.user.loginSecret lib = a.confirmed

/-- A setup writes another secret into the row of a user whose second factor is enabled. -/
def TotpEvent.Overwrites (a : TotpAccount) (e : TotpEvent) : Prop :=
  a.user.is2faEnabled = true ∧ e.written = true ∧
    ∃ email iv secret, e.call = .setup2fa email iv secret ∧ a.user.loginSecret lib ≠ some secret

variable {lib} {a : TotpAccount} {e : TotpEvent} {user : UserRow}

/-- With the second factor enabled, a login needs a code of the login secret. -/
theorem checkTotp_eq_ok_iff {now : ℤ} {totpCode : Option String}
    (henabled : user.is2faEnabled = true) :
    checkTotp lib.toAuthLibraries now user totpCode = .ok () ↔
      ∃ secret code, user.loginSecret lib = some secret ∧ totpCode = some code ∧ code ≠ "" ∧
        lib.verifyTotp (secondOf now) secret code = true := by
  rw [checkTotp, if_pos henabled, UserRow.loginSecret, if_pos henabled, UserRow.storedSecret]
  cases hcode : totpCode.filter fun code => code ≠ "" with
  | none =>
      refine iff_of_false (by simp) ?_
      rintro ⟨secret, code, -, rfl, hne, -⟩
      simp [hne] at hcode
  | some code =>
      obtain ⟨rfl, hne⟩ := Option.filter_eq_some_iff.1 hcode
      cases hstored : user.totpSecret.filter fun secret => secret ≠ "" with
      | none => simp
      | some encrypted =>
          cases hsecret : lib.decryptTotpSecret encrypted with
          | none => simp [hsecret]
          | some secret =>
              have hne' : code ≠ "" := by simpa using hne
              by_cases hverify : lib.verifyTotp (secondOf now) secret code = true
              · simp [hsecret, hverify, hne']
              · simp [hsecret, hverify]

/-- A confirmation ends well exactly if its code is one of the stored secret and the database
takes the update. -/
theorem enable2fa_eq_ok_true_iff {totpCode : String} {user' : UserRow} :
    enable2fa lib e user totpCode = .ok (true, user') ↔
      (∃ secret, user.storedSecret lib = some secret ∧
        lib.verifyTotp (secondOf e.now) secret totpCode = true) ∧ e.written = true ∧
        user' = { user with is2faEnabled := true } := by
  rw [enable2fa, UserRow.storedSecret]
  cases hstored : user.totpSecret.filter fun secret => secret ≠ "" with
  | none => simp
  | some encrypted =>
      cases hsecret : lib.decryptTotpSecret encrypted with
      | none => simp [hsecret]
      | some secret =>
          by_cases hverify : lib.verifyTotp (secondOf e.now) secret totpCode = true
          · cases hwritten : e.written with
            | false => simp [hsecret, hverify]
            | true => simpa [hsecret, hverify] using eq_comm
          · simp [hsecret, hverify]

theorem enable2fa_eq_ok_false {totpCode : String} {user' : UserRow}
    (h : enable2fa lib e user totpCode = .ok (false, user')) : user' = user := by
  unfold enable2fa at h
  split at h
  · cases h
    rfl
  · split at h
    · cases h
    · split at h
      · split at h <;> cases h
      · cases h
        rfl

/-- What is encrypted into a row is the secret stored in it. -/
theorem storedSecret_encrypt (hlib : lib.Encrypts) (user : UserRow) (iv : ℕ) (secret : String) :
    UserRow.storedSecret lib { user with totpSecret := some (lib.encryptTotpSecret iv secret) } =
      some secret := by
  have hne : decide (lib.encryptTotpSecret iv secret ≠ "") = true :=
    decide_eq_true (hlib.encrypt_ne_empty iv secret)
  rw [UserRow.storedSecret]
  dsimp only
  rw [Option.filter_some_pos (p := fun secret => decide (secret ≠ "")) hne, Option.bind_some,
    hlib.decrypt_encrypt]

/-- What a setup makes of an account. -/
theorem next_of_setup2fa {email : String} {iv : ℕ} {secret : String}
    (hcall : e.call = .setup2fa email iv secret) :
    a.next lib e = if e.written then
      { a with user := { a.user with totpSecret := some (lib.encryptTotpSecret iv secret) } }
    else a := by
  unfold TotpAccount.next
  simp only [hcall, setup2fa]
  cases e.written <;> rfl

/-- The confirmed secret changes only when a code of the new one is accepted. -/
theorem confirmed_next (hne : (a.next lib e).confirmed ≠ a.confirmed) :
    ∃ totpCode secret, e.call = .enable2fa totpCode ∧ (a.next lib e).confirmed = some secret ∧
      lib.verifyTotp (secondOf e.now) secret totpCode = true := by
  cases hcall : e.call with
  | setup2fa email iv secret =>
      rw [next_of_setup2fa hcall] at hne
      cases hwritten : e.written <;> exact absurd (by simp [hwritten]) hne
  | enable2fa totpCode =>
      unfold TotpAccount.next at hne ⊢
      simp only [hcall] at hne ⊢
      split at hne
      next user henable =>
        obtain ⟨⟨secret, hsecret, hverify⟩, -, -⟩ := enable2fa_eq_ok_true_iff.1 henable
        exact ⟨totpCode, secret, rfl, hsecret, hverify⟩
      next => exact absurd rfl hne
      next => exact absurd rfl hne
  | login email password totpCode =>
      unfold TotpAccount.next at hne
      rw [hcall] at hne
      exact absurd rfl hne

/-- Only a setup overwrites the secret. -/
theorem TotpEvent.not_overwrites
    (h : ∀ email iv secret, e.call ≠ .setup2fa email iv secret) : ¬ e.Overwrites lib a := by
  rintro ⟨-, -, email, iv, secret, hsetup, -⟩
  exact h email iv secret hsetup

/-- When logins are verified against the confirmed secret, they still are after a call exactly if
the call is not a setup that overwrites it. -/
theorem TotpAccount.VerifiesConfirmed.next_iff (hlib : lib.Encrypts)
    (h : a.VerifiesConfirmed lib) :
    (a.next lib e).VerifiesConfirmed lib ↔ ¬ e.Overwrites lib a := by
  cases hcall : e.call with
  | setup2fa email iv secret =>
      rw [next_of_setup2fa hcall]
      cases hwritten : e.written with
      | false =>
          refine iff_of_true h fun hover => ?_
          rw [hover.2.1] at hwritten
          cases hwritten
      | true =>
          rw [if_pos rfl]
          cases henabled : a.user.is2faEnabled with
          | false =>
              refine iff_of_true ?_ fun hover => ?_
              · rw [TotpAccount.VerifiesConfirmed, UserRow.loginSecret, henabled] at h
                rw [TotpAccount.VerifiesConfirmed, UserRow.loginSecret, henabled]
                exact h
              · rw [hover.1] at henabled
                cases henabled
          | true =>
              rw [TotpAccount.VerifiesConfirmed, UserRow.loginSecret, henabled, if_pos rfl,
                storedSecret_encrypt hlib, ← h, TotpEvent.Overwrites]
              simp [henabled, hwritten, hcall, eq_comm]
  | enable2fa totpCode =>
      refine iff_of_true ?_ (TotpEvent.not_overwrites (by simp [hcall]))
      unfold TotpAccount.next
      simp only [hcall]
      split
      next user henable =>
        obtain ⟨-, -, rfl⟩ := enable2fa_eq_ok_true_iff.1 henable
        rfl
      next user henable =>
        rw [enable2fa_eq_ok_false henable]
        exact h
      next => exact h
  | login email password totpCode =>
      refine iff_of_true ?_ (TotpEvent.not_overwrites (by simp [hcall]))
      unfold TotpAccount.next
      rw [hcall]
      exact h

/-- All along a sequence of calls logins are verified against the secret that was confirmed last
exactly if no setup overwrites it while the second factor is enabled. -/
theorem along_verifiesConfirmed_iff (hlib : lib.Encrypts) (user : UserRow)
    (es : List TotpEvent) :
    (totpMachine lib).Along (TotpAccount.VerifiesConfirmed lib) (.ofRow lib user) es ↔
      (totpMachine lib).Guarded (fun a e => ¬ e.Overwrites lib a) (.ofRow lib user) es := by
  obtain ⟨t, hrun⟩ := Option.isSome_iff_exists.1
    ((totpMachine lib).isSome_run (fun _ _ _ => rfl : ∀ e ∈ es, ∀ a, _) (.ofRow lib user))
  refine (totpMachine lib).along_iff_guarded (I := fun _ => True) (fun _ _ _ _ _ => trivial)
    (fun a e t _ ha hnext => ?_) trivial rfl hrun
  cases hnext
  exact ha.next_iff hlib

end Service

/-- A cipher that marks what it has encrypted, and codes that are the secret itself. -/
def TotpLibraries.plain : TotpLibraries TokenClaims where
  toAuthLibraries :=
    { AuthLibraries.plain with
      decryptTotpSecret := fun encrypted =>
        match encrypted.toList with
        | '#' :: secret => some (String.ofList secret)
        | _ => none }
  provisioningUri secret name issuer :=
    "otpauth://totp/" ++ issuer ++ ":" ++ name ++ "?secret=" ++ secret
  encryptTotpSecret _ secret := String.ofList ('#' :: secret.toList)

theorem encrypts_plain : TotpLibraries.plain.Encrypts where
  decrypt_encrypt iv secret := by simp [TotpLibraries.plain]
  encrypt_ne_empty iv secret := by
    intro h
    have hlist := congrArg String.toList h
    simp [TotpLibraries.plain] at hlist

/-- A user who has enabled the second factor with a secret. -/
def UserRow.withSecret (secret : String) : UserRow where
  id := "u1"
  email := "user@example.com"
  hashedPassword := "Passw0rd-12"
  is2faEnabled := true
  totpSecret := some (TotpLibraries.plain.encryptTotpSecret 0 secret)

/-- A setup that draws the secret anew, and its confirmation, when the second factor is not
enabled yet. -/
theorem along_verifiesConfirmed_iff_firstSetup :
    (totpMachine .plain).Along (TotpAccount.VerifiesConfirmed .plain)
        (.ofRow .plain { UserRow.withSecret "A" with is2faEnabled := false })
        [⟨0, true, .setup2fa "user@example.com" 1 "B"⟩, ⟨60000000, true, .enable2fa "B"⟩] ↔
      (totpMachine .plain).Guarded (fun a e => ¬ e.Overwrites .plain a)
        (.ofRow .plain { UserRow.withSecret "A" with is2faEnabled := false })
        [⟨0, true, .setup2fa "user@example.com" 1 "B"⟩, ⟨60000000, true, .enable2fa "B"⟩] :=
  along_verifiesConfirmed_iff encrypts_plain _ _

/-- After a setup that is never confirmed, a code of the secret that was confirmed is refused and
one of the new secret is accepted. -/
theorem not_along_verifiesConfirmed :
    ¬ ∀ (lib : TotpLibraries TokenClaims) (user : UserRow) (es : List TotpEvent),
      lib.Encrypts → user.is2faEnabled = true →
        (totpMachine lib).Along (TotpAccount.VerifiesConfirmed lib) (.ofRow lib user) es := by
  intro h
  have halong := h .plain (.withSecret "A") [⟨0, true, .setup2fa "user@example.com" 1 "B"⟩]
    encrypts_plain rfl
  have hend := halong.of_run _ rfl
  have hold : (UserRow.withSecret "A").loginSecret .plain = some "A" :=
    storedSecret_encrypt encrypts_plain (.withSecret "A") 0 "A"
  have hnew : (TotpAccount.next .plain (.ofRow .plain (.withSecret "A"))
      ⟨0, true, .setup2fa "user@example.com" 1 "B"⟩).user.loginSecret .plain = some "B" :=
    storedSecret_encrypt encrypts_plain (.withSecret "A") 1 "B"
  exact absurd (hnew.symm.trans (hend.trans hold)) (by decide)

end Sgr
