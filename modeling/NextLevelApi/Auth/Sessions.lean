import NextLevelApi.Auth.Service

/-!
# Runs of complete requests

Requests served one after the other, with a record of what was answered. The stored hash
follows the latest request of a user, but the comparison with it sees only the first 72
bytes of a refresh token, which are the same in all tokens of one user; and `JwtGuard`
does not look at the table at all.
-/

namespace NextLevelApi
open Base64

/-- The user table, and the answers given so far with the moments of their requests, the
latest first. -/
structure SessionState where
  users : UserTable
  history : List (Moments × Answer)

def SessionState.next (env : AuthEnv) (s : SessionState) (request : Moments × Operation) : SessionState :=
  match serve env s.users request.1 request.2 with
  | .error _ => s
  | .ok (users, answer) => ⟨users, (request.1, answer) :: s.history⟩

/-- A run of complete, non-overlapping requests. -/
def SessionState.run (env : AuthEnv) (s : SessionState) (requests : List (Moments × Operation)) :
    SessionState :=
  requests.foldl (SessionState.next env) s

def Answer.concerns (u : ℕ) : Answer → Bool
  | .session user _ _ _ => user.id = u
  | .loggedOut user _ => user.id = u
  | .updated _ => false

/-- All tokens ever issued to `u`, with the moments of their requests. -/
def issued (u : ℕ) (history : List (Moments × Answer)) : List (Moments × Tokens) :=
  history.filterMap fun e => (e.2.session? u).map (e.1, ·)

def currentSession (u : ℕ) (history : List (Moments × Answer)) : Option (Moments × Tokens) :=
  (history.find? fun e => e.2.concerns u).bind fun e => (e.2.session? u).map (e.1, ·)

section History

variable {u : ℕ} {m : Moments} {a : Answer} {history : List (Moments × Answer)}

lemma session?_eq_none (h : a.concerns u = false) : a.session? u = none := by
  cases a with
  | session user tokens body cookies => simpa [Answer.session?, Answer.concerns] using h
  | loggedOut user cookies => rfl
  | updated id => rfl

lemma issued_cons_other (h : a.concerns u = false) : issued u ((m, a) :: history) = issued u history := by
  simp [issued, session?_eq_none h]

lemma currentSession_cons_other (h : a.concerns u = false) :
    currentSession u ((m, a) :: history) = currentSession u history := by
  simp [currentSession, h]

lemma currentSession_mem_issued {session : Moments × Tokens}
    (h : currentSession u history = some session) : session ∈ issued u history := by
  obtain ⟨e, he, hsession⟩ := Option.bind_eq_some_iff.mp h
  exact List.mem_filterMap.mpr ⟨e, List.mem_of_find?_eq_some he, hsession⟩

end History

/-! ### Rotation of refresh tokens -/

def Accepts (env : AuthEnv) (users : UserTable) (now u : ℕ) (token : String) : Prop :=
  ∃ row, row.id = u ∧ JwtRefreshGuard env users now token = .ok row

def Unexpired (env : AuthEnv) (now : ℕ) (m : Moments) : Prop :=
  now / 1000 < m.signAt / 1000 + env.refreshExpiration

/-- Of all unexpired refresh tokens issued to `u`, exactly the one that the latest login or
refresh handed out is accepted, and none after a logout. -/
def SingleSession (env : AuthEnv) (s : SessionState) (now u : ℕ) : Prop :=
  ∀ session ∈ issued u s.history, Unexpired env now session.1 →
    (Accepts env s.users now u session.2.refreshToken ↔
      ∃ current, currentSession u s.history = some current ∧
        session.2.refreshToken = current.2.refreshToken)

/-- While `u` has a session, all unexpired refresh tokens of `u` were signed in one second. -/
def SignedInOneSecond (env : AuthEnv) (s : SessionState) (now u : ℕ) : Prop :=
  ∀ current, currentSession u s.history = some current →
    ∀ session ∈ issued u s.history, Unexpired env now session.1 →
      session.1.signAt / 1000 = current.1.signAt / 1000

/-- What the table knows of the sessions of the user that had row `base` at first. -/
structure Tracks (env : AuthEnv) (base : User) (s : SessionState) : Prop where
  row : ∃ row, s.users.findById base.id = some row ∧ row.SameClaims base ∧
    (∀ current, currentSession base.id s.history = some current →
      ∃ salt, row.refreshTokenHash = some (env.bcrypt.hash salt current.2.refreshToken)) ∧
    (currentSession base.id s.history = none →
      issued base.id s.history = [] ∨ row.refreshTokenHash = none)
  tokens : ∀ session ∈ issued base.id s.history,
    session.2 = AuthService.generateTokens env base session.1.signAt session.1.lags

section Rotation

variable {env : AuthEnv} {s : SessionState} {base : User}

lemma Tracks.sameClaims (h : Tracks env base s) {user : User} (hrow : s.users.findById user.id = some user)
    (hu : user.id = base.id) : user.SameClaims base := by
  obtain ⟨row, hbase, hsame, -⟩ := h.row
  obtain rfl : user = row := Option.some.inj (hrow.symm.trans (hu ▸ hbase))
  exact hsame

lemma tracks_other (h : Tracks env base s) {users : UserTable} {m : Moments} {a : Answer}
    (ha : a.concerns base.id = false) (hrow : users.findById base.id = s.users.findById base.id) :
    Tracks env base ⟨users, (m, a) :: s.history⟩ := by
  refine ⟨?_, ?_⟩
  · simpa only [hrow, issued_cons_other ha, currentSession_cons_other ha] using h.row
  · simpa only [issued_cons_other ha] using h.tokens

lemma tracks_session (h : Tracks env base s) {users : UserTable} {m : Moments} {user : User} {tokens : Tokens}
    {body : LoginResponseDto} {cookies : List Cookie} (hrow : s.users.findById user.id = some user)
    (hu : user.id = base.id) (htokens : tokens = AuthService.generateTokens env user m.signAt m.lags)
    (hsave : s.users.save (user.merge (AuthService.storeToken env tokens m.salt)) m.saveAt = some users) :
    Tracks env base ⟨users, (m, .session user tokens body cookies) :: s.history⟩ := by
  have hsame : user.SameClaims base := h.sameClaims hrow hu
  obtain ⟨stamp, hstamp⟩ := UserTable.findById_save_self hsave hrow
  rw [User.merge_id, hu] at hstamp
  have hcurrent : currentSession base.id ((m, .session user tokens body cookies) :: s.history) =
      some (m, tokens) := by
    simp [currentSession, Answer.concerns, Answer.session?, hu]
  refine ⟨⟨_, hstamp, ⟨rfl, hsame.email, hsame.tenantId, hsame.role⟩, ?_, ?_⟩, ?_⟩
  · intro current hc
    obtain rfl := Option.some.inj (hcurrent.symm.trans hc)
    exact ⟨m.salt, rfl⟩
  · intro hnone
    exact absurd (hcurrent.symm.trans hnone) (by simp)
  · intro session hsession
    simp only [issued, List.filterMap_cons, Answer.session?, hu, if_true, Option.map_some,
      List.mem_cons] at hsession
    rcases hsession with rfl | hsession
    · exact htokens.trans (generateTokens_congr env hsame _ _)
    · exact h.tokens session hsession

lemma tracks_logout (h : Tracks env base s) {users : UserTable} {m : Moments} {user : User}
    {cookies : List Cookie} (hrow : s.users.findById user.id = some user) (hu : user.id = base.id)
    (hsave : s.users.save (user.merge AuthService.clearToken) m.saveAt = some users) :
    Tracks env base ⟨users, (m, .loggedOut user cookies) :: s.history⟩ := by
  have hsame : user.SameClaims base := h.sameClaims hrow hu
  obtain ⟨stamp, hstamp⟩ := UserTable.findById_save_self hsave hrow
  rw [User.merge_id, hu] at hstamp
  have hcurrent : currentSession base.id ((m, .loggedOut user cookies) :: s.history) = none := by
    simp [currentSession, Answer.concerns, Answer.session?, hu]
  refine ⟨⟨_, hstamp, ⟨rfl, hsame.email, hsame.tenantId, hsame.role⟩, ?_, ?_⟩, ?_⟩
  · intro current hc
    exact absurd (hcurrent.symm.trans hc) (by simp)
  · exact fun _ => .inr rfl
  · exact h.tokens

/-- One request keeps the table in step with the sessions, unless it updates the user. -/
lemma tracks_next (h : Tracks env base s) {request : Moments × Operation}
    (hupdate : ∀ dto, request.2 ≠ .updateUser base.id dto) :
    Tracks env base (s.next env request) := by
  obtain ⟨m, r⟩ := request
  unfold SessionState.next
  split
  · exact h
  · next users a hserve =>
    have hspec := serve_spec hserve
    cases a with
    | session user tokens body cookies =>
      obtain ⟨hrow, htokens, hsave⟩ := hspec
      by_cases hu : user.id = base.id
      · exact tracks_session h hrow hu htokens hsave
      · have hother : (Answer.session user tokens body cookies).concerns base.id = false := by
          simp [Answer.concerns, hu]
        exact tracks_other h hother (UserTable.findById_save_of_ne hsave (Ne.symm hu))
    | loggedOut user cookies =>
      obtain ⟨hrow, hsave⟩ := hspec
      by_cases hu : user.id = base.id
      · exact tracks_logout h hrow hu hsave
      · have hother : (Answer.loggedOut user cookies).concerns base.id = false := by
          simp [Answer.concerns, hu]
        exact tracks_other h hother (UserTable.findById_save_of_ne hsave (Ne.symm hu))
    | updated id =>
      obtain ⟨dto, entity, rfl, hload, hsave⟩ := hspec
      have hne : base.id ≠ entity.id := by
        rw [load_id hload]
        rintro rfl
        exact hupdate dto rfl
      exact tracks_other h rfl (UserTable.findById_save_of_ne hsave hne)

lemma tracks_run (h : Tracks env base s) (requests : List (Moments × Operation))
    (hupdate : ∀ request ∈ requests, ∀ dto, request.2 ≠ .updateUser base.id dto) :
    Tracks env base (s.run env requests) := by
  induction requests generalizing s with
  | nil => exact h
  | cons request requests ih =>
    exact ih (tracks_next h (hupdate request (by simp)))
      (fun r hr => hupdate r (List.mem_cons_of_mem _ hr))

lemma tracks_start {users : UserTable} (h : users.findById base.id = some base) :
    Tracks env base ⟨users, []⟩ := by
  refine ⟨⟨base, h, ⟨rfl, rfl, rfl, rfl⟩, ?_, ?_⟩, ?_⟩
  · intro current hc
    exact absurd hc (by simp [currentSession])
  · exact fun _ => .inl rfl
  · intro session hsession
    exact absurd hsession (by simp [issued])

/-- An unexpired refresh token of a user is accepted as long as any hash of a token of this
user is stored: the bytes that bcrypt compares are the same in all of them. -/
theorem accepts_iff_open (hjwt : env.jwt.Documented) (hbcrypt : env.bcrypt.Documented)
    (h : Tracks env base s) {now : ℕ} {session : Moments × Tokens}
    (hsession : session ∈ issued base.id s.history) (hfresh : Unexpired env now session.1) :
    Accepts env s.users now base.id session.2.refreshToken ↔
      ∃ current, currentSession base.id s.history = some current := by
  obtain ⟨row, hrow, hsame, hopen, hclosed⟩ := h.row
  have htoken := congrArg Tokens.refreshToken (h.tokens session hsession)
  have hverify : env.jwt.verify env.jwtRefreshSecret now session.2.refreshToken =
      some (base.claims (session.1.signAt / 1000) env.refreshExpiration) := by
    rw [htoken]
    exact (Jsonwebtoken.verify_sign hjwt).trans (if_neg (Nat.not_le.mpr hfresh))
  constructor
  · rintro ⟨user, -, hguard⟩
    obtain ⟨-, c, hc, huser, hash, hhash, -, -⟩ := jwtRefreshGuard_ok.mp hguard
    obtain rfl := Option.some.inj (hverify.symm.trans hc)
    obtain rfl : row = user := Option.some.inj (hrow.symm.trans huser)
    cases hcurrent : currentSession base.id s.history with
    | some current => exact ⟨current, rfl⟩
    | none =>
      rcases hclosed hcurrent with hnone | hnone
      · exact absurd hsession (by simp [hnone])
      · exact absurd (hnone.symm.trans hhash) (by simp)
  · rintro ⟨current, hcurrent⟩
    obtain ⟨salt, hhash⟩ := hopen current hcurrent
    have hcurrentToken := congrArg Tokens.refreshToken
      (h.tokens current (currentSession_mem_issued hcurrent))
    refine ⟨row, hsame.id, jwtRefreshGuard_ok.mpr ⟨?_, _, hverify, hrow, _, hhash, ?_, ?_⟩⟩
    · rw [htoken]
      exact env.jwt.sign_ne_empty _ _
    · exact hbcrypt.hash_ne_empty _ _
    · rw [hbcrypt.compare_hash, htoken, hcurrentToken]
      exact env.jwt.sign_take_72 env.jwtRefreshSecret rfl rfl

lemma refreshToken_eq_iff (hjwt : env.jwt.Documented) (h : Tracks env base s)
    {a b : Moments × Tokens} (ha : a ∈ issued base.id s.history) (hb : b ∈ issued base.id s.history) :
    a.2.refreshToken = b.2.refreshToken ↔ a.1.signAt / 1000 = b.1.signAt / 1000 := by
  rw [h.tokens a ha, h.tokens b hb]
  constructor
  · intro heq
    exact congrArg Claims.iat (hjwt.sign_inj heq)
  · intro heq
    simp only [AuthService.generateTokens, heq]

lemma Tracks.singleSession_iff (hjwt : env.jwt.Documented) (hbcrypt : env.bcrypt.Documented)
    (h : Tracks env base s) (now : ℕ) :
    SingleSession env s now base.id ↔ SignedInOneSecond env s now base.id := by
  constructor
  · intro hsingle current hcurrent session hsession hfresh
    have haccepts := (accepts_iff_open hjwt hbcrypt h hsession hfresh).mpr ⟨current, hcurrent⟩
    obtain ⟨current', hcurrent', heq⟩ := (hsingle session hsession hfresh).mp haccepts
    obtain rfl := Option.some.inj (hcurrent.symm.trans hcurrent')
    exact (refreshToken_eq_iff hjwt h hsession (currentSession_mem_issued hcurrent)).mp heq
  · intro hone session hsession hfresh
    rw [accepts_iff_open hjwt hbcrypt h hsession hfresh]
    refine exists_congr fun current => iff_self_and.mpr fun hcurrent => ?_
    exact (refreshToken_eq_iff hjwt h hsession (currentSession_mem_issued hcurrent)).mpr
      (hone current hcurrent session hsession hfresh)

/-- Rotation works exactly as far as it has nothing to rotate away: in every state of every
run, the latest refresh token of a user is the only accepted one if and only if the user
is logged out or all unexpired refresh tokens of the user were signed in one second. -/
theorem singleSession_iff_signedInOneSecond (hjwt : env.jwt.Documented)
    (hbcrypt : env.bcrypt.Documented) {users : UserTable} (hbase : users.findById base.id = some base)
    (requests : List (Moments × Operation))
    (hupdate : ∀ request ∈ requests, ∀ dto, request.2 ≠ .updateUser base.id dto) (now : ℕ) :
    SingleSession env (SessionState.run env ⟨users, []⟩ requests) now base.id ↔
      SignedInOneSecond env (SessionState.run env ⟨users, []⟩ requests) now base.id :=
  (tracks_run (tracks_start hbase) requests hupdate).singleSession_iff hjwt hbcrypt now

end Rotation

namespace Sample

def relogin : List (Moments × Operation) := [(instant 0, login), (instant 1000, login)]

end Sample

open Sample in
/-- A login does not end the session before it: the first refresh token is still accepted. -/
theorem relogin_keeps_first_token :
    ¬SingleSession (env Bcrypt.firstBytes)
      (SessionState.run (env Bcrypt.firstBytes) ⟨users, []⟩ relogin) 1000 user.id := by
  have hstart : Tracks (env Bcrypt.firstBytes) user ⟨users, []⟩ := tracks_start rfl
  have htracks := tracks_run hstart relogin (by simp [relogin, login])
  rw [htracks.singleSession_iff (Jsonwebtoken.reference_documented _) Bcrypt.reference_documented]
  intro hone
  have hsecond := hone (instant 1000, AuthService.generateTokens (env Bcrypt.firstBytes) user 1000 {}) rfl
    (instant 0, AuthService.generateTokens (env Bcrypt.firstBytes) user 0 {}) (.tail _ (.head _))
    (by simp [Unexpired, instant, env])
  exact absurd hsecond (by simp [instant])

open Sample in
theorem singleSession_iff_signedInOneSecond_relogin :
    SingleSession (env Bcrypt.firstBytes)
        (SessionState.run (env Bcrypt.firstBytes) ⟨users, []⟩ relogin) 1000 user.id ↔
      SignedInOneSecond (env Bcrypt.firstBytes)
        (SessionState.run (env Bcrypt.firstBytes) ⟨users, []⟩ relogin) 1000 user.id :=
  singleSession_iff_signedInOneSecond (Jsonwebtoken.reference_documented _) Bcrypt.reference_documented
    rfl relogin (by simp [relogin, login]) 1000

/-! ### Access tokens -/

def Operation.keepsAccess (u : ℕ) : Operation → Prop
  | .updateUser id dto => id = u → dto.role = none ∧ dto.tenantId = none
  | _ => True

/-- Of these requests, none that is served names the role or the tenant of `u` in an update. -/
def SessionState.KeepsAccess (env : AuthEnv) (u : ℕ) :
    SessionState → List (Moments × Operation) → Prop
  | _, [] => True
  | s, request :: requests =>
    ((∃ served, serve env s.users request.1 request.2 = .ok served) → request.2.keepsAccess u) ∧
      SessionState.KeepsAccess env u (s.next env request) requests

section AccessTokens

variable {env : AuthEnv} {s : SessionState} {u : ℕ} {row : User}

def SessionState.Grants (s : SessionState) (u : ℕ) (role : String) (tenantId : ℕ) : Prop :=
  ∃ row, s.users.findById u = some row ∧ row.role = role ∧ row.tenantId = tenantId

lemma grants_save {users users' : UserTable} {entity : User} {now : ℕ} {role : String} {tenantId : ℕ}
    {history history' : List (Moments × Answer)}
    (h : (SessionState.mk users history).Grants u role tenantId)
    (hsave : users.save entity now = some users')
    (hentity : entity.id = u → entity.role = role ∧ entity.tenantId = tenantId) :
    (SessionState.mk users' history').Grants u role tenantId := by
  obtain ⟨row, hrow, hrole, htenant⟩ := h
  by_cases hu : entity.id = u
  · subst hu
    obtain ⟨stamp, hstamp⟩ := UserTable.findById_save_self hsave hrow
    exact ⟨_, hstamp, hentity rfl⟩
  · have hother := UserTable.findById_save_of_ne hsave (Ne.symm hu)
    exact ⟨row, hother.trans hrow, hrole, htenant⟩

lemma grants_next {role : String} {tenantId : ℕ} (h : s.Grants u role tenantId)
    {request : Moments × Operation}
    (hkeeps : (∃ served, serve env s.users request.1 request.2 = .ok served) → request.2.keepsAccess u) :
    (s.next env request).Grants u role tenantId := by
  obtain ⟨m, r⟩ := request
  unfold SessionState.next
  split
  · exact h
  · next users a hserve =>
    have hspec := serve_spec hserve
    have hkeeps : r.keepsAccess u := hkeeps ⟨_, hserve⟩
    obtain ⟨row, hrow, hrole, htenant⟩ := id h
    cases a with
    | session user tokens body cookies =>
      obtain ⟨huser, -, hsave⟩ := hspec
      apply grants_save h hsave
      intro hu
      obtain rfl : user = row := Option.some.inj (huser.symm.trans (hu ▸ hrow))
      exact ⟨hrole, htenant⟩
    | loggedOut user cookies =>
      obtain ⟨huser, hsave⟩ := hspec
      apply grants_save h hsave
      intro hu
      obtain rfl : user = row := Option.some.inj (huser.symm.trans (hu ▸ hrow))
      exact ⟨hrole, htenant⟩
    | updated id =>
      obtain ⟨dto, entity, rfl, hload, hsave⟩ := hspec
      apply grants_save h hsave
      intro hu
      obtain ⟨found, passwordHash, hfound, rfl⟩ := load_ok hload
      have hid : id = u := (load_id hload).symm.trans hu
      subst hid
      obtain rfl : found = row := Option.some.inj (hfound.symm.trans hrow)
      obtain ⟨hrole', htenant'⟩ := hkeeps rfl
      simp only [User.merge, hrole', htenant', Option.map_none, Option.getD_none]
      exact ⟨hrole, htenant⟩

lemma grants_run {role : String} {tenantId : ℕ} (h : s.Grants u role tenantId)
    (requests : List (Moments × Operation)) (hkeeps : s.KeepsAccess env u requests) :
    (s.run env requests).Grants u role tenantId := by
  induction requests generalizing s with
  | nil => exact h
  | cons request requests ih => exact ih (grants_next h hkeeps.1) hkeeps.2

/-- `JwtGuard` lets an access token of `u` through only while it is of the latest session. -/
def OnlyLatestSession (env : AuthEnv) (s : SessionState) (now u : ℕ) : Prop :=
  ∀ session ∈ issued u s.history, ∀ c, JwtGuard env now session.2.accessToken = .ok c →
    currentSession u s.history = some session

def CurrentAccess (env : AuthEnv) (s : SessionState) (now u : ℕ) : Prop :=
  ∀ session ∈ issued u s.history, ∀ c, JwtGuard env now session.2.accessToken = .ok c →
    s.Grants u c.role c.tenantId

/-- The access token of a login or refresh is let through from then on until it expires,
whatever requests follow. `request.user` is the user's row as this login or refresh read it,
and still agrees with the current row in role and tenant if no `updateUser` that was served named
those. -/
theorem accessToken_valid_until_expiry (hjwt : env.jwt.Documented) {users users' : UserTable}
    {before : List (Moments × Operation)} {m : Moments} {r : Operation} {user : User}
    {tokens : Tokens} {body : LoginResponseDto} {cookies : List Cookie}
    (hserve : serve env (SessionState.run env ⟨users, []⟩ before).users m r =
      .ok (users', .session user tokens body cookies)) (after : List (Moments × Operation)) :
    (SessionState.run env ⟨users, []⟩ before).users.findById user.id = some user ∧
    (∀ now, JwtGuard env now tokens.accessToken =
      if now / 1000 < (m.signAt - m.lags.access) / 1000 + env.accessExpiration
      then .ok (user.claims ((m.signAt - m.lags.access) / 1000) env.accessExpiration)
      else .error (UnauthorizedException "Unauthorized")) ∧
    ((SessionState.run env ⟨users, []⟩ (before ++ [(m, r)])).KeepsAccess env user.id after →
      (SessionState.run env ⟨users, []⟩ (before ++ (m, r) :: after)).Grants user.id user.role
        user.tenantId) := by
  obtain ⟨hrow, htokens, hsave⟩ := serve_spec hserve
  refine ⟨hrow, fun now => ?_, fun hkeeps => ?_⟩
  · rw [htokens]
    exact jwtGuard_sign hjwt _
  · have hnext : (SessionState.run env ⟨users, []⟩ before).next env (m, r) =
        ⟨users', (m, .session user tokens body cookies) ::
          (SessionState.run env ⟨users, []⟩ before).history⟩ := by
      simp only [SessionState.next, hserve]
    have hgrants : ((SessionState.run env ⟨users, []⟩ before).next env (m, r)).Grants user.id user.role
        user.tenantId := by
      obtain ⟨stamp, hstamp⟩ := UserTable.findById_save_self hsave hrow
      rw [hnext]
      exact ⟨_, hstamp, rfl, rfl⟩
    rw [SessionState.run, List.foldl_append] at hkeeps ⊢
    exact grants_run hgrants after hkeeps

end AccessTokens

namespace Sample

/-- A login, and an update that makes the user an administrator of another tenant. -/
def promotion : List (Moments × Operation) :=
  [(instant 0, login), (instant 1000, .updateUser 1 { role := some .ADMIN, tenantId := some 2 })]

lemma jwtGuard_login (now : ℕ) (hnow : now / 1000 < 900) :
    JwtGuard (env Bcrypt.firstBytes) now
      (AuthService.generateTokens (env Bcrypt.firstBytes) user 0 {}).accessToken =
        .ok (user.claims 0 900) := by
  exact (jwtGuard_sign (Jsonwebtoken.reference_documented _) _).trans (if_pos hnow)

end Sample

open Sample in
theorem accessToken_valid_until_expiry_relogin :
    (SessionState.run (env Bcrypt.firstBytes) ⟨users, []⟩ []).users.findById user.id = some user ∧
    (∀ now, JwtGuard (env Bcrypt.firstBytes) now
        (AuthService.generateTokens (env Bcrypt.firstBytes) user 0 {}).accessToken =
      if now / 1000 < 0 + 900 then .ok (user.claims 0 900)
      else .error (UnauthorizedException "Unauthorized")) ∧
    (SessionState.run (env Bcrypt.firstBytes) ⟨users, []⟩ relogin).Grants user.id "user" 1 := by
  have hserve : ∃ users' body cookies, serve (env Bcrypt.firstBytes)
      (SessionState.run (env Bcrypt.firstBytes) ⟨users, []⟩ []).users (instant 0) login = .ok (users',
        .session user (AuthService.generateTokens (env Bcrypt.firstBytes) user 0 {}) body cookies) :=
    ⟨_, _, _, rfl⟩
  obtain ⟨users', body, cookies, hserve⟩ := hserve
  obtain ⟨hrow, hguard, hgrants⟩ := accessToken_valid_until_expiry
    (Jsonwebtoken.reference_documented _) hserve [(instant 1000, login)]
  exact ⟨hrow, hguard, hgrants ⟨fun _ => trivial, trivial⟩⟩

open Sample in
/-- An access token outlives its session, and what it says of its user. -/
theorem accessToken_outlives_session :
    ¬OnlyLatestSession (env Bcrypt.firstBytes)
        (SessionState.run (env Bcrypt.firstBytes) ⟨users, []⟩ relogin) 1000 user.id ∧
    ¬CurrentAccess (env Bcrypt.firstBytes)
        (SessionState.run (env Bcrypt.firstBytes) ⟨users, []⟩ promotion) 1000 user.id := by
  have hguard := jwtGuard_login 1000 (by decide)
  constructor
  · intro hlatest
    have hcurrent : some (instant 1000, AuthService.generateTokens (env Bcrypt.firstBytes) user 1000 {}) =
        some (instant 0, AuthService.generateTokens (env Bcrypt.firstBytes) user 0 {}) :=
      hlatest (instant 0, _) (.tail _ (.head _)) _ hguard
    exact absurd hcurrent (by simp [instant])
  · intro haccess
    obtain ⟨row, hrow, hrole, -⟩ := haccess (instant 0, _) (.head _) _ hguard
    have hadmin : row.role = "admin" := by
      rw [← Option.some.inj (show _ = some row from hrow)]
      rfl
    exact absurd (hadmin.symm.trans hrole) (by decide)

end NextLevelApi
