import Mathlib.Algebra.Order.Ring.Int
import Sgr.Core.Types

/-!
# Login and token refresh

`AuthService` of `sgr/saas/auth.py` with the endpoints `/auth/login` and `/auth/refresh` of
`sgr/saas/routers.py`. The service keeps nothing: a refresh token is verified by its signature,
its type and its expiry. So a token is exchanged as often as it is presented before it expires,
as long as its account is active.
-/

namespace Sgr

/-- What the service reads of a user. -/
structure UserRow where
  id : String
  email : String
  hashedPassword : String
  isActive : Bool := true
  is2faEnabled : Bool := false
  isAdmin : Bool := false
  tradingMode : String := "paper"
  totpSecret : Option String := none

/-- The claims of a token; the times are in seconds. -/
structure TokenClaims where
  sub : String
  tradingMode : Option String := none
  isAdmin : Option Bool := none
  iat : ℤ
  exp : ℤ
  type : String

/-- What the service calls of other packages: `jwt.encode` and `jwt.decode` with the secret of
the configuration, the verification of a password and of a code, and the cipher. The times are
seconds; an error is the text of the exception. -/
structure AuthLibraries (τ : Type*) where
  encode : TokenClaims → τ
  decode : ℤ → τ → Except String TokenClaims
  verifyPassword : String → String → Bool
  decryptTotpSecret : String → Option String
  verifyTotp : ℤ → String → String → Bool

/-- What is documented of `jwt.decode` for the tokens of `jwt.encode`. -/
def AuthLibraries.ChecksExpiry {τ : Type*} (lib : AuthLibraries τ) : Prop :=
  ∀ now claims, lib.decode now (lib.encode claims) =
    if claims.exp < now then .error "Signature has expired." else .ok claims

/-- `APIConfig`, as far as tokens are concerned. -/
structure TokenLifetimes where
  accessTokenExpireMinutes : ℤ := 60
  refreshTokenExpireDays : ℤ := 30

/-- `TokenResponse`; its `token_type` is always `bearer`. -/
structure TokenResponse (τ : Type*) where
  accessToken : τ
  refreshToken : τ
  userId : String
  tradingMode : String

/-- How a call fails: with status 401 and a detail, or with an exception that is not caught. -/
inductive AuthError
  | unauthorized (detail : String)
  | serverError
  deriving DecidableEq

inductive AuthCall (τ : Type*)
  | login (email password : String) (totpCode : Option String)
  | refresh (refreshToken : τ)

/-- A call, with what it meets: the time in microseconds, the users, `none` when the database
does not answer, and whether the time of the login cannot be written. -/
structure AuthRequest (τ : Type*) where
  now : ℤ
  users : Option (List UserRow)
  lastLoginFails : Bool := false
  call : AuthCall τ

/-- `TradingMode(text)`. -/
def tradingModeOf (text : String) : Except AuthError TradingMode :=
  if text = TradingMode.paper.value then .ok .paper
  else if text = TradingMode.live.value then .ok .live
  else .error (.unauthorized ("'" ++ text ++ "' is not a valid TradingMode"))

/-- The second that an instant lies in, as claims have it. -/
def secondOf (now : ℤ) : ℤ := now / 1000000

section Service

variable {τ : Type*} (lib : AuthLibraries τ) (cfg : TokenLifetimes)

/-- `create_access_token`. -/
def createAccessToken (now : ℤ) (userId : String) (mode : TradingMode) (isAdmin : Bool) : τ :=
  lib.encode
    { sub := userId
      tradingMode := some mode.value
      isAdmin := some isAdmin
      iat := secondOf now
      exp := secondOf (now + cfg.accessTokenExpireMinutes * 60 * 1000000)
      type := "access" }

/-- The claims of `create_refresh_token`. -/
def refreshClaims (now : ℤ) (userId : String) : TokenClaims where
  sub := userId
  iat := secondOf now
  exp := secondOf (now + cfg.refreshTokenExpireDays * 86400 * 1000000)
  type := "refresh"

/-- `create_refresh_token`. -/
def createRefreshToken (now : ℤ) (userId : String) : τ := lib.encode (refreshClaims cfg now userId)

/-- `decode_token`. -/
def decodeToken (now : ℤ) (token : τ) : Except AuthError TokenClaims :=
  (lib.decode (secondOf now) token).mapError fun text =>
    .unauthorized ("Invalid token: " ++ text)

/-- `verify_refresh_token`. -/
def verifyRefreshToken (now : ℤ) (token : τ) : Except AuthError String :=
  (decodeToken lib now token).bind fun payload =>
    if payload.type ≠ "refresh" then .error (.unauthorized "Not a refresh token")
    else .ok payload.sub

/-- The tokens of a login and of a refresh. -/
def tokenResponse (now : ℤ) (userId : String) (mode : TradingMode) (isAdmin : Bool) :
    TokenResponse τ where
  accessToken := createAccessToken lib cfg now userId mode isAdmin
  refreshToken := createRefreshToken lib cfg now userId
  userId := userId
  tradingMode := mode.value

/-- The check of the second factor in `login`. -/
def checkTotp (now : ℤ) (user : UserRow) (totpCode : Option String) : Except AuthError Unit :=
  if user.is2faEnabled then
    match totpCode.filter fun code => code ≠ "" with
    | none => .error (.unauthorized "2FA code required")
    | some code =>
        match user.totpSecret.filter fun secret => secret ≠ "" with
        | none => .error (.unauthorized "2FA not properly configured")
        | some encrypted =>
            match lib.decryptTotpSecret encrypted with
            | none => .error .serverError
            | some secret =>
                if lib.verifyTotp (secondOf now) secret code then .ok ()
                else .error (.unauthorized "Invalid 2FA code")
  else .ok ()

/-- `login`. -/
def login (r : AuthRequest τ) (email password : String) (totpCode : Option String) :
    Except AuthError (TokenResponse τ) :=
  match r.users with
  | none => .error .serverError
  | some table =>
      match (table.find? fun user => user.email = email).filter fun user =>
          lib.verifyPassword password user.hashedPassword with
      | none => .error (.unauthorized "Invalid credentials")
      | some user =>
          if user.isActive then
            (checkTotp lib r.now user totpCode).bind fun _ =>
              (tradingModeOf user.tradingMode).bind fun mode =>
                if r.lastLoginFails then .error .serverError
                else .ok (tokenResponse lib cfg r.now user.id mode user.isAdmin)
          else .error (.unauthorized "Account deactivated")

/-- `refresh_token`. -/
def refreshToken (r : AuthRequest τ) (token : τ) : Except AuthError (TokenResponse τ) :=
  (verifyRefreshToken lib r.now token).bind fun userId =>
    match r.users with
    | none => .error .serverError
    | some table =>
        match table.find? fun user => user.id = userId with
        | none => .error (.unauthorized "User not found")
        | some user =>
            if user.isActive then
              (tradingModeOf user.tradingMode).map fun mode =>
                tokenResponse lib cfg r.now userId mode user.isAdmin
            else .error (.unauthorized "Account deactivated")

/-- The answer to a call. -/
def AuthRequest.answer (r : AuthRequest τ) : Except AuthError (TokenResponse τ) :=
  match r.call with
  | .login email password totpCode => login lib cfg r email password totpCode
  | .refresh token => refreshToken lib cfg r token

end Service

/-! ### Single use -/

section SingleUse

variable {τ : Type*} (lib : AuthLibraries τ) (cfg : TokenLifetimes)

/-- The call exchanges a refresh token for new tokens. -/
def AuthRequest.Exchanges (r : AuthRequest τ) (token : τ) : Prop :=
  r.call = .refresh token ∧ ∃ response, r.answer lib cfg = .ok response

/-- Each refresh token that a call of the sequence has issued is exchanged at most once. -/
def SingleUse (rs : List (AuthRequest τ)) : Prop :=
  ∀ i ∈ rs, ∀ response, i.answer lib cfg = .ok response →
    rs.Pairwise fun r r' => r.Exchanges lib cfg response.refreshToken →
      ¬ r'.Exchanges lib cfg response.refreshToken

/-- The user is found, is active and has a trading mode. -/
def AuthRequest.FindsActive (r : AuthRequest τ) (userId : String) : Prop :=
  ∃ table user mode, r.users = some table ∧ (table.find? fun user => user.id = userId) = some user ∧
    user.isActive = true ∧ tradingModeOf user.tradingMode = .ok mode

/-- The call presents the refresh token of a response that was given at `issued`, not later than
the token expires and while its user is active. -/
structure AuthRequest.PresentsInTime (issued : ℤ) (response : TokenResponse τ)
    (r : AuthRequest τ) : Prop where
  presents : r.call = .refresh response.refreshToken
  inTime : secondOf r.now ≤ secondOf (issued + cfg.refreshTokenExpireDays * 86400 * 1000000)
  active : r.FindsActive response.userId

/-- Of the calls that present one issued token at most one does so in time. -/
def PresentedOnce (rs : List (AuthRequest τ)) : Prop :=
  ∀ i ∈ rs, ∀ response, i.answer lib cfg = .ok response →
    rs.Pairwise fun r r' => r.PresentsInTime cfg i.now response →
      ¬ r'.PresentsInTime cfg i.now response

variable {lib cfg} {r i : AuthRequest τ} {response : TokenResponse τ} {token : τ}

/-- A login that ends well answers with tokens for a user. -/
theorem login_eq_ok {email password : String} {totpCode : Option String}
    (h : login lib cfg r email password totpCode = .ok response) :
    ∃ (user : UserRow) (mode : TradingMode),
      response = tokenResponse lib cfg r.now user.id mode user.isAdmin := by
  unfold login at h
  split at h
  · cases h
  · split at h
    · cases h
    next user _ =>
      split at h
      · obtain ⟨-, -, h⟩ := bind_eq_ok_iff.1 h
        obtain ⟨mode, -, h⟩ := bind_eq_ok_iff.1 h
        split at h
        · cases h
        · cases h
          exact ⟨user, mode, rfl⟩
      · cases h

/-- A refresh ends well exactly if the token is verified and its user is active. -/
theorem refreshToken_eq_ok_iff : refreshToken lib cfg r token = .ok response ↔
    ∃ userId, verifyRefreshToken lib r.now token = .ok userId ∧
      ∃ table user mode, r.users = some table ∧
        (table.find? fun user => user.id = userId) = some user ∧ user.isActive = true ∧
        tradingModeOf user.tradingMode = .ok mode ∧
        response = tokenResponse lib cfg r.now userId mode user.isAdmin := by
  rw [refreshToken, bind_eq_ok_iff]
  refine exists_congr fun userId => and_congr_right fun _ => ?_
  cases husers : r.users with
  | none => simp
  | some table =>
      cases huser : table.find? fun user => user.id = userId with
      | none => simp [huser]
      | some user =>
          cases hactive : user.isActive with
          | false => simp [huser, hactive]
          | true =>
              cases hmode : tradingModeOf user.tradingMode with
              | error e => simp [huser, hactive, hmode, Except.map]
              | ok mode =>
                  simp only [huser, hactive, hmode, Except.map, if_true, Except.ok.injEq]
                  constructor
                  · rintro rfl
                    exact ⟨table, user, mode, rfl, huser, hactive, hmode, rfl⟩
                  · rintro ⟨table', user', mode', htable, huser', -, hmode', rfl⟩
                    cases htable
                    rw [huser] at huser'
                    cases huser'
                    rw [hmode] at hmode'
                    cases hmode'
                    rfl

/-- The refresh token of an answer is one for its user. -/
theorem refreshToken_of_answer (h : i.answer lib cfg = .ok response) :
    response.refreshToken = createRefreshToken lib cfg i.now response.userId := by
  unfold AuthRequest.answer at h
  split at h
  next =>
    obtain ⟨user, mode, rfl⟩ := login_eq_ok h
    rfl
  next =>
    obtain ⟨userId, -, table, user, mode, -, -, -, -, rfl⟩ := refreshToken_eq_ok_iff.1 h
    rfl

/-- A token that was issued is verified until it expires. -/
theorem verifyRefreshToken_createRefreshToken (hlib : lib.ChecksExpiry) (now issued : ℤ)
    (userId userId' : String) :
    verifyRefreshToken lib now (createRefreshToken lib cfg issued userId) = .ok userId' ↔
      secondOf now ≤ secondOf (issued + cfg.refreshTokenExpireDays * 86400 * 1000000) ∧
        userId' = userId := by
  rw [verifyRefreshToken, decodeToken, createRefreshToken, hlib]
  by_cases hexpired : (refreshClaims cfg issued userId).exp < secondOf now
  · rw [if_pos hexpired]
    exact iff_of_false (by simp [Except.mapError, Except.bind]) fun h => h.1.not_gt hexpired
  · have hinTime : secondOf now ≤ secondOf
        (issued + cfg.refreshTokenExpireDays * 86400 * 1000000) := not_lt.1 hexpired
    rw [if_neg hexpired]
    simp [Except.mapError, Except.bind, refreshClaims, hinTime, eq_comm]

/-- An issued token is exchanged exactly if it is presented in time. -/
theorem exchanges_iff (hlib : lib.ChecksExpiry) (hissued : i.answer lib cfg = .ok response)
    (r : AuthRequest τ) : r.Exchanges lib cfg response.refreshToken ↔
      r.PresentsInTime cfg i.now response := by
  constructor
  · rintro ⟨hcall, answer, hanswer⟩
    rw [AuthRequest.answer, hcall] at hanswer
    obtain ⟨userId, hverify, table, user, mode, husers, hfind, hactive, hmode, -⟩ :=
      refreshToken_eq_ok_iff.1 hanswer
    rw [refreshToken_of_answer hissued] at hverify
    obtain ⟨hinTime, rfl⟩ := (verifyRefreshToken_createRefreshToken hlib _ _ _ _).1 hverify
    exact ⟨hcall, hinTime, table, user, mode, husers, hfind, hactive, hmode⟩
  · rintro ⟨hcall, hinTime, table, user, mode, husers, hfind, hactive, hmode⟩
    have hverify : verifyRefreshToken lib r.now response.refreshToken = .ok response.userId := by
      rw [refreshToken_of_answer hissued]
      exact (verifyRefreshToken_createRefreshToken hlib _ _ _ _).2 ⟨hinTime, rfl⟩
    refine ⟨hcall, tokenResponse lib cfg r.now response.userId mode user.isAdmin, ?_⟩
    rw [AuthRequest.answer, hcall]
    exact refreshToken_eq_ok_iff.2
      ⟨_, hverify, table, user, mode, husers, hfind, hactive, hmode, rfl⟩

/-- The issued refresh tokens of a sequence of calls are exchanged at most once exactly if each of
them is presented in time at most once. -/
theorem singleUse_iff (hlib : lib.ChecksExpiry) (cfg : TokenLifetimes)
    (rs : List (AuthRequest τ)) : SingleUse lib cfg rs ↔ PresentedOnce lib cfg rs := by
  refine forall₂_congr fun i _ => forall₂_congr fun response hissued => ?_
  simp only [exchanges_iff hlib hissued]

end SingleUse

/-- Tokens that are their claims. -/
def AuthLibraries.plain : AuthLibraries TokenClaims where
  encode claims := claims
  decode now claims := if claims.exp < now then .error "Signature has expired." else .ok claims
  verifyPassword password hashed := password == hashed
  decryptTotpSecret secret := some secret
  verifyTotp _ secret code := secret == code

theorem checksExpiry_plain : AuthLibraries.plain.ChecksExpiry := fun _ _ => rfl

/-- A call at a second, with one user. -/
def AuthRequest.atSecond (second : ℤ) (call : AuthCall TokenClaims) : AuthRequest TokenClaims where
  now := second * 1000000
  users := some [{ id := "u1", email := "user@example.com", hashedPassword := "Passw0rd-12" }]
  call := call

/-- A login whose token is presented once. -/
theorem singleUse_iff_once :
    SingleUse .plain {} [.atSecond 0 (.login "user@example.com" "Passw0rd-12" none),
        .atSecond 60 (.refresh (refreshClaims {} 0 "u1"))] ↔
      PresentedOnce .plain {} [.atSecond 0 (.login "user@example.com" "Passw0rd-12" none),
        .atSecond 60 (.refresh (refreshClaims {} 0 "u1"))] :=
  singleUse_iff checksExpiry_plain {} _

/-- A token is exchanged after a minute and after two. -/
theorem not_singleUse :
    ¬ ∀ (lib : AuthLibraries TokenClaims) (cfg : TokenLifetimes)
      (rs : List (AuthRequest TokenClaims)), lib.ChecksExpiry → SingleUse lib cfg rs := by
  intro h
  have honce := h .plain {}
    [.atSecond 0 (.login "user@example.com" "Passw0rd-12" none),
      .atSecond 60 (.refresh (refreshClaims {} 0 "u1")),
      .atSecond 120 (.refresh (refreshClaims {} 0 "u1"))] checksExpiry_plain
  have hpair := (List.pairwise_cons.1 (honce _ List.mem_cons_self _ rfl)).2
  exact (List.pairwise_cons.1 hpair).1 _ List.mem_cons_self ⟨rfl, _, rfl⟩ ⟨rfl, _, rfl⟩

end Sgr
