import NextLevelApi.User
import NextLevelApi.Library.Fallible
import NextLevelApi.Auth.Packages

/-!
# AuthService

Login, refresh and logout with their guards, and `serve`, one request from its guard to its
answer with nothing in between. `serve_spec` says all that a served request can do to the
user table.
-/

namespace NextLevelApi
open Fallible

/-- The packages and the configuration that `AuthService` is built from. `normalize` is
`email.trim().toLowerCase()`; the two durations are in seconds. -/
structure AuthEnv where
  jwt : Jsonwebtoken
  bcrypt : Bcrypt
  normalize : String → String
  jwtSecret : String
  jwtRefreshSecret : String
  accessExpiration : ℕ
  refreshExpiration : ℕ
  isProd : Bool

def User.claims (user : User) (iat validity : ℕ) : Claims where
  id := user.id
  email := user.email
  tenantId := user.tenantId
  role := user.role
  iat := iat
  exp := iat + validity

structure Tokens where
  accessToken : String
  refreshToken : String
  accessExpires : ℕ
  refreshExpires : ℕ
  deriving DecidableEq

structure LoginResponseDto where
  id : ℕ
  email : String
  firstName : Option String
  lastName : Option String
  role : String
  tenantId : ℕ
  createdAt : ℕ
  updatedAt : ℕ

/-- A cookie set on the response; `expires` is absent for a cookie that is cleared. -/
structure Cookie where
  name : String
  value : String
  expires : Option ℕ
  path : String
  httpOnly : Bool
  sameSite : String
  secure : Bool

/-- The other clock readings of `generateTokens`, in milliseconds: the access token is signed so
long before the refresh token, and the two expiry dates are read so long after it. -/
structure Lags where
  access : ℕ := 0
  accessExpires : ℕ := 0
  refreshExpires : ℕ := 0

/-- The instants of one request, in milliseconds, and the salt that bcrypt draws for it. At
`signAt` the refresh token is signed. -/
structure Moments where
  guardAt : ℕ
  signAt : ℕ
  saveAt : ℕ
  salt : String
  lags : Lags := {}

/-- What a request was answered with, for a session together with the body and the cookies
of the response. -/
inductive Answer
  | session (user : User) (tokens : Tokens) (body : LoginResponseDto) (cookies : List Cookie)
  | loggedOut (user : User) (cookies : List Cookie)
  | updated (id : ℕ)

def Answer.session? (u : ℕ) : Answer → Option Tokens
  | .session user tokens _ _ => if user.id = u then some tokens else none
  | _ => none

namespace AuthService

variable (env : AuthEnv)

/-- `generateTokens`, whose four clock readings are `now` for the refresh token and, for the
access token and the two expiry dates, as far from it as the lags say. -/
def generateTokens (user : User) (now : ℕ) (lags : Lags) : Tokens where
  accessToken :=
    env.jwt.sign env.jwtSecret (user.claims ((now - lags.access) / 1000) env.accessExpiration)
  refreshToken := env.jwt.sign env.jwtRefreshSecret (user.claims (now / 1000) env.refreshExpiration)
  accessExpires := now + lags.accessExpires + env.accessExpiration * 1000
  refreshExpires := now + lags.refreshExpires + env.refreshExpiration * 1000

def validateUser (users : UserTable) (email password : String) : Except Exception User :=
  match users.findByEmail (env.normalize email) with
  | none => .error (UnauthorizedException "Invalid Credentials")
  | some user =>
    if env.bcrypt.compare password user.passwordHash then .ok user
    else .error (UnauthorizedException "Invalid Credentials")

def validateRefreshTokens (users : UserTable) (userId : ℕ) (refreshToken : String) :
    Except Exception User :=
  match UserService.getUserById users userId with
  | none => .error (UnauthorizedException "Invalid Credentials")
  | some user =>
    match user.refreshTokenHash with
    | none => .error (UnauthorizedException "Invalid Credentials")
    | some hash =>
      -- an empty hash is falsy
      if hash = "" then .error (UnauthorizedException "Invalid Credentials")
      else if env.bcrypt.compare refreshToken hash then .ok user
      else .error (UnauthorizedException "Invalid credentials")

/-- `getCookieOptions`, on a cookie of the given name, value, expiry and path. -/
def cookie (name value : String) (expires : Option ℕ) (path : String) : Cookie where
  name := name
  value := value
  expires := expires
  path := path
  httpOnly := true
  sameSite := if env.isProd then "none" else "lax"
  secure := env.isProd

/-- The body of a login or refresh answer. -/
def responseDto (user : User) : LoginResponseDto where
  id := user.id
  email := user.email
  firstName := user.firstName
  lastName := user.lastName
  role := user.role
  tenantId := user.tenantId
  createdAt := user.createdAt
  updatedAt := user.updatedAt

def storeToken (tokens : Tokens) (salt : String) : UpdateUserDto where
  refreshTokenHash := some (some (env.bcrypt.hash salt tokens.refreshToken))

def clearToken : UpdateUserDto where
  refreshTokenHash := some none

def accessCookie (tokens : Tokens) : Cookie :=
  cookie env "access_token" tokens.accessToken (some tokens.accessExpires) "/"

def refreshCookie (tokens : Tokens) : Cookie :=
  cookie env "refresh_token" tokens.refreshToken (some tokens.refreshExpires) "/auth"

def login.answer (user : User) (tokens : Tokens) : Answer :=
  .session user tokens (responseDto user) [accessCookie env tokens, refreshCookie env tokens]

/-- The answer of `refreshTokens`, which sets the two cookies in the other order. -/
def refreshTokens.answer (user : User) (tokens : Tokens) : Answer :=
  .session user tokens (responseDto user) [refreshCookie env tokens, accessCookie env tokens]

def logout.answer (user : User) : Answer :=
  .loggedOut user [cookie env "access_token" "" none "/", cookie env "refresh_token" "" none "/auth"]

/-- The body that `login` and `refreshTokens` share: sign, store the hash, answer. -/
def openSession (answer : User → Tokens → Answer) (users : UserTable) (user : User) (m : Moments) :
    Except Exception (UserTable × Answer) := do
  let tokens := generateTokens env user m.signAt m.lags
  let users ← UserService.updateUser (env.bcrypt.hash m.salt) users user.id
    (storeToken env tokens m.salt) m.saveAt
  return (users, answer user tokens)

def login (users : UserTable) (user : User) (m : Moments) : Except Exception (UserTable × Answer) :=
  openSession env (login.answer env) users user m

def refreshTokens (users : UserTable) (user : User) (m : Moments) :
    Except Exception (UserTable × Answer) :=
  openSession env (refreshTokens.answer env) users user m

/-- `logout`, whose handler is given `user.id` -/
def logout (users : UserTable) (user : User) (m : Moments) : Except Exception (UserTable × Answer) := do
  let users ← UserService.updateUser (env.bcrypt.hash m.salt) users user.id clearToken m.saveAt
  return (users, logout.answer env user)

end AuthService

structure User.SameClaims (a b : User) : Prop where
  id : a.id = b.id
  email : a.email = b.email
  tenantId : a.tenantId = b.tenantId
  role : a.role = b.role

lemma User.SameClaims.claims_eq {a b : User} (h : a.SameClaims b) (iat validity : ℕ) :
    a.claims iat validity = b.claims iat validity := by
  simp only [User.claims, h.id, h.email, h.tenantId, h.role]

lemma generateTokens_congr (env : AuthEnv) {a b : User} (h : a.SameClaims b) (now : ℕ) (lags : Lags) :
    AuthService.generateTokens env a now lags = AuthService.generateTokens env b now lags := by
  simp only [AuthService.generateTokens, h.claims_eq]

/-! ### Strategies and guards -/

def JwtRefreshStrategy.validate (env : AuthEnv) (users : UserTable) (token : String) (payload : Claims) :
    Except Exception User :=
  if token = "" then .error (UnauthorizedException "Invalid Credentials")
  else AuthService.validateRefreshTokens env users payload.id token

def JwtStrategy.validate (payload : Claims) : Claims := payload

/-- What passport-jwt hands to a strategy: the payload of the token in the cookie, a missing
cookie being the empty token. -/
def AuthEnv.payload (env : AuthEnv) (secret : String) (now : ℕ) (token : String) :
    Except Exception Claims :=
  if token = "" then .error (UnauthorizedException "Unauthorized")
  else match env.jwt.verify secret now token with
    | none => .error (UnauthorizedException "Unauthorized")
    | some payload => .ok payload

def JwtRefreshGuard (env : AuthEnv) (users : UserTable) (now : ℕ) (token : String) :
    Except Exception User := do
  let payload ← env.payload env.jwtRefreshSecret now token
  JwtRefreshStrategy.validate env users token payload

/-- `JwtGuard` on the cookie `access_token`; its result becomes `request.user`. -/
def JwtGuard (env : AuthEnv) (now : ℕ) (token : String) : Except Exception Claims := do
  let payload ← env.payload env.jwtSecret now token
  return JwtStrategy.validate payload

/-- Whom the guards of a route without roles let through: the global `ThrottlerGuard` runs before
the `JwtGuard` of the route. -/
def requestUser (env : AuthEnv) (overLimit : Bool) (now : ℕ) (token : String) :
    Except Exception Claims := do
  ThrottlerGuard overLimit
  JwtGuard env now token

/-! ### Requests -/

inductive Request
  | login (email password : String)
  | refresh (token : String)
  | logout (token : String)
  deriving DecidableEq

/-- What reads and writes the `user` table: these requests, and `updateUser` on its own. -/
inductive Operation
  | request (r : Request)
  | updateUser (id : ℕ) (dto : UpdateUserDto)

namespace Request

def guard (env : AuthEnv) (users : UserTable) (now : ℕ) : Request → Except Exception User
  | .login email password => AuthService.validateUser env users email password
  | .refresh token => JwtRefreshGuard env users now token
  | .logout token => JwtRefreshGuard env users now token

def handler (env : AuthEnv) (users : UserTable) (user : User) (m : Moments) :
    Request → Except Exception (UserTable × Answer)
  | .login _ _ => AuthService.login env users user m
  | .refresh _ => AuthService.refreshTokens env users user m
  | .logout _ => AuthService.logout env users user m

end Request

/-- One operation from its guard to its answer. -/
def serve (env : AuthEnv) (users : UserTable) (m : Moments) :
    Operation → Except Exception (UserTable × Answer)
  | .request r => do
    let user ← r.guard env users m.guardAt
    r.handler env users user m
  | .updateUser id dto => do
    let users ← UserService.updateUser (env.bcrypt.hash m.salt) users id dto m.saveAt
    return (users, .updated id)

section Specifications

variable {env : AuthEnv} {users users' : UserTable} {user : User} {m : Moments} {token : String} {now : ℕ}

lemma validateUser_ok {email password : String}
    (h : AuthService.validateUser env users email password = .ok user) :
    users.findById user.id = some user ∧ env.bcrypt.compare password user.passwordHash = true := by
  unfold AuthService.validateUser at h
  split at h
  · exact absurd h (by simp)
  · next row hrow =>
    split at h
    · next hcompare =>
      obtain rfl := Except.ok.inj h
      exact ⟨UserTable.findById_of_findByEmail hrow, hcompare⟩
    · exact absurd h (by simp)

lemma validateRefreshTokens_ok {id : ℕ} :
    AuthService.validateRefreshTokens env users id token = .ok user ↔
      users.findById id = some user ∧ ∃ hash, user.refreshTokenHash = some hash ∧ hash ≠ "" ∧
        env.bcrypt.compare token hash = true := by
  unfold AuthService.validateRefreshTokens UserService.getUserById
  cases users.findById id with
  | none => simp
  | some row =>
    cases hhash : row.refreshTokenHash with
    | none =>
      simp only [hhash, reduceCtorEq, Option.some.injEq, false_iff]
      rintro ⟨rfl, hash, h, -⟩
      exact absurd (hhash.symm.trans h) (by simp)
    | some hash =>
      simp only [hhash, Option.some.injEq]
      constructor
      · intro h
        split_ifs at h with hempty hcompare
        obtain rfl := Except.ok.inj h
        exact ⟨rfl, hash, hhash, hempty, hcompare⟩
      · rintro ⟨rfl, hash', h, hempty, hcompare⟩
        obtain rfl := Option.some.inj (hhash.symm.trans h)
        rw [if_neg hempty, if_pos hcompare]

lemma payload_ok {secret : String} {c : Claims} : env.payload secret now token = .ok c ↔
    token ≠ "" ∧ env.jwt.verify secret now token = some c := by
  unfold AuthEnv.payload
  by_cases htoken : token = ""
  · simp [htoken]
  · cases env.jwt.verify secret now token <;> simp [htoken]

/-- The refresh guard lets a token through exactly when it verifies and the hash stored for
the user it names matches it. -/
theorem jwtRefreshGuard_ok : JwtRefreshGuard env users now token = .ok user ↔
    token ≠ "" ∧ ∃ c, env.jwt.verify env.jwtRefreshSecret now token = some c ∧
      users.findById c.id = some user ∧ ∃ hash, user.refreshTokenHash = some hash ∧ hash ≠ "" ∧
        env.bcrypt.compare token hash = true := by
  have hvalidate : ∀ c : Claims, token ≠ "" → JwtRefreshStrategy.validate env users token c =
      AuthService.validateRefreshTokens env users c.id token := fun c htoken => if_neg htoken
  rw [JwtRefreshGuard, bind_eq_ok]
  constructor
  · rintro ⟨c, hpayload, h⟩
    obtain ⟨htoken, hverify⟩ := payload_ok.mp hpayload
    rw [hvalidate c htoken, validateRefreshTokens_ok] at h
    exact ⟨htoken, c, hverify, h⟩
  · rintro ⟨htoken, c, hverify, h⟩
    refine ⟨c, payload_ok.mpr ⟨htoken, hverify⟩, ?_⟩
    rwa [hvalidate c htoken, validateRefreshTokens_ok]

lemma jwtRefreshGuard_row (h : JwtRefreshGuard env users now token = .ok user) :
    users.findById user.id = some user := by
  obtain ⟨-, c, -, hrow, -⟩ := jwtRefreshGuard_ok.mp h
  rw [(UserTable.mem_of_findById hrow).2]
  exact hrow

lemma jwtGuard_eq : JwtGuard env now token = env.payload env.jwtSecret now token := by
  unfold JwtGuard
  cases env.payload env.jwtSecret now token <;> rfl

/-- `JwtGuard` on a signed token looks at its payload and the clock, and at nothing else. -/
lemma jwtGuard_sign (hjwt : env.jwt.Documented) (c : Claims) :
    JwtGuard env now (env.jwt.sign env.jwtSecret c) =
      if now / 1000 < c.exp then .ok c else .error (UnauthorizedException "Unauthorized") := by
  rw [jwtGuard_eq, AuthEnv.payload, if_neg (env.jwt.sign_ne_empty _ _), Jsonwebtoken.verify_sign hjwt]
  by_cases hfresh : now / 1000 < c.exp
  · rw [if_neg (Nat.not_le.mpr hfresh), if_pos hfresh]
  · rw [if_pos (Nat.not_lt.mp hfresh), if_neg hfresh]

lemma requestUser_within : requestUser env false now token = JwtGuard env now token := rfl

lemma requestUser_over : requestUser env true now token =
    .error (.http 429 "ThrottlerException: Too Many Requests") := rfl

lemma requestUser_ok {overLimit : Bool} {c : Claims} : requestUser env overLimit now token = .ok c ↔
    overLimit = false ∧ JwtGuard env now token = .ok c := by
  cases overLimit with
  | false => rw [requestUser_within, eq_self_iff_true, true_and]
  | true => simp [requestUser_over]

lemma load_ok {hash : String → String} {id : ℕ} {dto : UpdateUserDto} {entity : User}
    (h : UserService.updateUser.load hash users id dto = .ok entity) :
    ∃ row passwordHash, users.findById id = some row ∧
      entity = { row with passwordHash := passwordHash }.merge dto := by
  unfold UserService.updateUser.load at h
  split at h
  · exact absurd h (by simp)
  · next row hrow =>
    obtain rfl := Except.ok.inj h
    split
    · exact ⟨row, row.passwordHash, hrow, rfl⟩
    · split
      · exact ⟨row, row.passwordHash, hrow, rfl⟩
      · exact ⟨row, _, hrow, rfl⟩

lemma load_id {hash : String → String} {id : ℕ} {dto : UpdateUserDto} {entity : User}
    (h : UserService.updateUser.load hash users id dto = .ok entity) : entity.id = id := by
  obtain ⟨row, passwordHash, hrow, rfl⟩ := load_ok h
  exact (UserTable.mem_of_findById hrow).2

lemma load_eq {hash : String → String} {id : ℕ} {dto : UpdateUserDto} (hdto : dto.password = none)
    (hrow : users.findById id = some user) :
    UserService.updateUser.load hash users id dto = .ok (user.merge dto) := by
  simp only [UserService.updateUser.load, hrow, hdto]

lemma save_ok {entity : User} :
    UserService.updateUser.save users entity now = .ok users' ↔ users.save entity now = some users' := by
  unfold UserService.updateUser.save
  cases users.save entity now <;> simp

lemma updateUser_ok {hash : String → String} {id : ℕ} {dto : UpdateUserDto} :
    UserService.updateUser hash users id dto now = .ok users' ↔
      ∃ entity, UserService.updateUser.load hash users id dto = .ok entity ∧
        users.save entity now = some users' := by
  simp only [UserService.updateUser, bind_eq_ok, save_ok]

/-- A change that hashes no password is saved on the row that was found. -/
lemma updateUser_found {hash : String → String} {dto : UpdateUserDto} (hdto : dto.password = none)
    (hrow : users.findById user.id = some user)
    (h : UserService.updateUser hash users user.id dto now = .ok users') :
    users.save (user.merge dto) now = some users' := by
  obtain ⟨entity, hload, hsave⟩ := updateUser_ok.mp h
  rw [load_eq hdto hrow] at hload
  exact Except.ok.inj hload ▸ hsave

lemma openSession_ok {answer : User → Tokens → Answer} {a : Answer}
    (hrow : users.findById user.id = some user)
    (h : AuthService.openSession env answer users user m = .ok (users', a)) :
    a = answer user (AuthService.generateTokens env user m.signAt m.lags) ∧
      users.save (user.merge (AuthService.storeToken env
        (AuthService.generateTokens env user m.signAt m.lags) m.salt)) m.saveAt = some users' := by
  unfold AuthService.openSession at h
  obtain ⟨saved, hupdate, h⟩ := bind_eq_ok.mp h
  obtain ⟨rfl, rfl⟩ := Prod.mk.inj (Except.ok.inj h)
  exact ⟨rfl, updateUser_found rfl hrow hupdate⟩

lemma guard_row {r : Request} (h : r.guard env users now = .ok user) :
    users.findById user.id = some user := by
  cases r with
  | login email password => exact (validateUser_ok h).1
  | refresh token => exact jwtRefreshGuard_row h
  | logout token => exact jwtRefreshGuard_row h

/-- All that serving an operation does: it saves one entity, which the answer describes. -/
theorem serve_spec {o : Operation} {a : Answer} (h : serve env users m o = .ok (users', a)) :
    match a with
    | .session user tokens _ _ => users.findById user.id = some user ∧
        tokens = AuthService.generateTokens env user m.signAt m.lags ∧
        users.save (user.merge (AuthService.storeToken env tokens m.salt)) m.saveAt = some users'
    | .loggedOut user _ => users.findById user.id = some user ∧
        users.save (user.merge AuthService.clearToken) m.saveAt = some users'
    | .updated id => ∃ dto entity, o = .updateUser id dto ∧
        UserService.updateUser.load (env.bcrypt.hash m.salt) users id dto = .ok entity ∧
        users.save entity m.saveAt = some users' := by
  cases o with
  | request r =>
    obtain ⟨user, hguard, h⟩ := bind_eq_ok.mp h
    have hrow := guard_row hguard
    cases r with
    | login email password =>
      obtain ⟨rfl, hsave⟩ := openSession_ok hrow h
      exact ⟨hrow, rfl, hsave⟩
    | refresh token =>
      obtain ⟨rfl, hsave⟩ := openSession_ok hrow h
      exact ⟨hrow, rfl, hsave⟩
    | logout token =>
      obtain ⟨saved, hupdate, h⟩ := bind_eq_ok.mp h
      obtain ⟨rfl, rfl⟩ := Prod.mk.inj (Except.ok.inj h)
      exact ⟨hrow, updateUser_found rfl hrow hupdate⟩
  | updateUser id dto =>
    obtain ⟨saved, hupdate, h⟩ := bind_eq_ok.mp h
    obtain ⟨rfl, rfl⟩ := Prod.mk.inj (Except.ok.inj h)
    obtain ⟨entity, hload, hsave⟩ := updateUser_ok.mp hupdate
    exact ⟨dto, entity, rfl, hload, hsave⟩

end Specifications

/-! ### A sample deployment -/

namespace Sample

/-- The packages' references, with access tokens of 15 minutes and refresh tokens of a week. -/
noncomputable def env (input : String → String) : AuthEnv where
  jwt := .reference fun secret _ => secret
  bcrypt := .reference input
  normalize := id
  jwtSecret := "access"
  jwtRefreshSecret := "refresh"
  accessExpiration := 900
  refreshExpiration := 604800
  isProd := false

def user : User where
  id := 1
  firstName := none
  lastName := none
  email := "ana@shop.ro"
  passwordHash := "$2b$10$pw"
  role := "user"
  tenantId := 1
  refreshTokenHash := none
  createdAt := 0
  updatedAt := 0

def users : UserTable := ⟨[user], by decide, by decide⟩

def instant (now : ℕ) : Moments := { guardAt := now, signAt := now, saveAt := now, salt := "salt" }

def login : Operation := .request (.login "ana@shop.ro" "pw")

end Sample

end NextLevelApi
