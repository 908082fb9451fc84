import NextLevelApi.Auth.Interleaving

/-!
# Single use of refresh tokens

With an exact comparison of tokens, refreshes use each token once as long as two things do
not happen: a guard lets a token through while another request carrying it is between its
guard and its save, and a handler signs the very token that the request carries, because
it runs in the second in which that token was signed.
-/

namespace NextLevelApi
open ThreadPool

def refreshSystem (env : AuthEnv) : System AuthState Call :=
  authSystem env fun o => ∃ token, o = .request (.refresh token)

def Phase.accepted : Phase → Bool
  | .arrived => false
  | .refused _ => false
  | _ => true

def Phase.inFlight : Phase → Bool
  | .guarded _ => true
  | .updating _ _ _ => true
  | .loaded _ _ => true
  | _ => false

/-- No two answered requests carried the same token. -/
def AtMostOnce (p : Pool AuthState Call) : Prop :=
  ∀ (i j : ℕ) (token : String) (a b : Answer),
    p.threads[i]? = some ⟨.request (.refresh token), .answered a⟩ →
    p.threads[j]? = some ⟨.request (.refresh token), .answered b⟩ → i = j

/-- The guard of `c` does not let a token through that a call in flight carries. -/
def Exclusive (env : AuthEnv) (s : AuthState) (c d : Call) : Prop :=
  ∀ token user, c = ⟨.request (.refresh token), .arrived⟩ → d.operation = .request (.refresh token) →
    d.phase.inFlight = true → Request.guard env s.users s.now (.refresh token) ≠ .ok user

/-- The handler of `c` signs in a later second than the token it replaces, unless that token
said something else of the user. -/
def MintsNew (env : AuthEnv) (s : AuthState) (c : Call) : Prop :=
  ∀ token user payload, c = ⟨.request (.refresh token), .guarded user⟩ →
    env.jwt.decode env.jwtRefreshSecret token = some payload →
    payload = user.claims payload.iat env.refreshExpiration → payload.iat < s.now / 1000

/-- The refreshes whose steps meet both conditions. -/
def spacedSystem (env : AuthEnv) : System AuthState Call :=
  (refreshSystem env).restrict (MintsNew env) (Exclusive env)

/-- What is stored for a user is the hash of a refresh token that was signed for this user. -/
def StoredTokens (env : AuthEnv) (users : UserTable) : Prop :=
  ∀ id row hash, users.findById id = some row → row.refreshTokenHash = some hash →
    ∃ salt c, hash = env.bcrypt.hash salt (env.jwt.sign env.jwtRefreshSecret c) ∧ c.id = id

/-! ### The order of a user's tokens -/

/-- Tokens that say of the user what the table says, in the order of their signing; all
others come before them. -/
def tokenRank (env : AuthEnv) (users : UserTable) (c : Claims) : ℕ :=
  match users.findById c.id with
  | none => 0
  | some row => if c = row.claims c.iat env.refreshExpiration then c.iat + 1 else 0

def Stored (env : AuthEnv) (s : AuthState) (c : Claims) : Prop :=
  ∃ row salt, s.users.findById c.id = some row ∧
    row.refreshTokenHash = some (env.bcrypt.hash salt (env.jwt.sign env.jwtRefreshSecret c))

def FromTable (users : UserTable) (entity : User) : Prop :=
  ∃ row, users.findById entity.id = some row ∧ entity.SameClaims row

structure Carries (env : AuthEnv) (s : AuthState) (id : ℕ) (token : String) (c : Claims) : Prop where
  token : token = env.jwt.sign env.jwtRefreshSecret c
  id : c.id = id
  stored : Stored env s c

structure Replaces (env : AuthEnv) (users : UserTable) (c c' : Claims) : Prop where
  id : c'.id = c.id
  rank : tokenRank env users c < tokenRank env users c'

/-- What a call that carries `token` knows: the token stays the stored one until the call
saves, and from then on the stored one is later. -/
def Accounts (env : AuthEnv) (users : UserTable) (s : AuthState) (token : String) : Phase → Prop
  | .guarded user => ∃ c, Carries env s user.id token c ∧ FromTable users user
  | .updating id dto _ => ∃ c c' tokens salt, Carries env s id token c ∧ Replaces env users c c' ∧
      dto = AuthService.storeToken env tokens salt ∧
      tokens.refreshToken = env.jwt.sign env.jwtRefreshSecret c'
  | .loaded entity _ => ∃ c c' salt, Carries env s entity.id token c ∧ Replaces env users c c' ∧
      entity.refreshTokenHash = some (env.bcrypt.hash salt (env.jwt.sign env.jwtRefreshSecret c')) ∧
      FromTable users entity
  | .saved _ => ∃ c c', token = env.jwt.sign env.jwtRefreshSecret c ∧ Replaces env users c c' ∧
      Stored env s c'
  | .answered _ => ∃ c c', token = env.jwt.sign env.jwtRefreshSecret c ∧ Replaces env users c c' ∧
      Stored env s c'
  | _ => True

/-- The table keeps the columns that go into tokens, and stores hashes of tokens only. -/
structure TableSound (env : AuthEnv) (users : UserTable) (s : AuthState) : Prop where
  rows : ∀ {id : ℕ} {row : User}, s.users.findById id = some row → FromTable users row
  stored : StoredTokens env s.users

section SingleUse

variable {env : AuthEnv} {users : UserTable} {s s' : AuthState} {token : String} {c c' : Claims}

lemma tokenRank_claims {user : User} (h : FromTable users user) (iat : ℕ) :
    tokenRank env users (user.claims iat env.refreshExpiration) = iat + 1 := by
  obtain ⟨row, hrow, hsame⟩ := h
  have hid : (user.claims iat env.refreshExpiration).id = user.id := rfl
  simp only [tokenRank, hid, hrow]
  exact if_pos (hsame.claims_eq _ _)

lemma tokenRank_lt {user : User} (h : FromTable users user) (hid : c.id = user.id) {iat : ℕ}
    (hnew : c = user.claims c.iat env.refreshExpiration → c.iat < iat) :
    tokenRank env users c < tokenRank env users (user.claims iat env.refreshExpiration) := by
  rw [tokenRank_claims h]
  obtain ⟨row, hrow, hsame⟩ := h
  simp only [tokenRank, hid, hrow]
  split
  · next heq =>
    have hlt := hnew (heq.trans (hsame.claims_eq _ _).symm)
    omega
  · omega

lemma Stored.unique (hjwt : env.jwt.Documented) (hbcrypt : env.bcrypt.Exact) (h : Stored env s c)
    (h' : Stored env s c') (hid : c.id = c'.id) : c = c' := by
  obtain ⟨row, salt, hrow, hhash⟩ := h
  obtain ⟨row', salt', hrow', hhash'⟩ := h'
  obtain rfl := Option.some.inj (hrow.symm.trans (hid ▸ hrow'))
  have heq := Option.some.inj (hhash.symm.trans hhash')
  have hcompare := (hbcrypt.compare_hash salt' _ _).mpr
    (rfl : id (env.jwt.sign env.jwtRefreshSecret c') = _)
  rw [← heq, hbcrypt.compare_hash] at hcompare
  exact (hjwt.sign_inj hcompare).symm

lemma Stored.of_users (h : Stored env s c) (husers : s'.users = s.users) : Stored env s' c := by
  unfold Stored
  rwa [husers]

lemma Stored.save_other {entity : User} (h : Stored env s c)
    (hsave : s.users.save entity s.now = some s'.users) (hid : c.id ≠ entity.id) : Stored env s' c := by
  obtain ⟨row, salt, hrow, hhash⟩ := h
  exact ⟨row, salt, (UserTable.findById_save_of_ne hsave hid).trans hrow, hhash⟩

lemma stored_save {entity : User} {salt : String} (hrow : Stored env s c) (hid : c.id = entity.id)
    (hid' : c'.id = entity.id) (hsave : s.users.save entity s.now = some s'.users)
    (hhash : entity.refreshTokenHash = some (env.bcrypt.hash salt (env.jwt.sign env.jwtRefreshSecret c'))) :
    Stored env s' c' := by
  obtain ⟨row, -, hfound, -⟩ := hrow
  obtain ⟨stamp, hstamp⟩ := UserTable.findById_save_self hsave (hid ▸ hfound)
  refine ⟨{ entity with updatedAt := stamp }, salt, ?_, hhash⟩
  rw [hid']
  exact hstamp

lemma Carries.of_users {id : ℕ} (h : Carries env s id token c) (husers : s'.users = s.users) :
    Carries env s' id token c := ⟨h.token, h.id, h.stored.of_users husers⟩

lemma accounts_of_users {phase : Phase} (h : Accounts env users s token phase)
    (husers : s'.users = s.users) :
    Accounts env users s' token phase := by
  cases phase with
  | guarded user =>
    obtain ⟨c, hc, hrest⟩ := h
    exact ⟨c, hc.of_users husers, hrest⟩
  | updating id dto a =>
    obtain ⟨c, c', tokens, salt, hc, hrest⟩ := h
    exact ⟨c, c', tokens, salt, hc.of_users husers, hrest⟩
  | loaded entity a =>
    obtain ⟨c, c', salt, hc, hrest⟩ := h
    exact ⟨c, c', salt, hc.of_users husers, hrest⟩
  | saved a =>
    obtain ⟨c, c', htoken, hlater, hstored⟩ := h
    exact ⟨c, c', htoken, hlater, hstored.of_users husers⟩
  | answered a =>
    obtain ⟨c, c', htoken, hlater, hstored⟩ := h
    exact ⟨c, c', htoken, hlater, hstored.of_users husers⟩
  | _ => exact trivial

lemma tableSound_of_users (h : TableSound env users s) (husers : s'.users = s.users) :
    TableSound env users s' := by
  refine ⟨fun hrow => h.rows (husers ▸ hrow), ?_⟩
  rw [husers]
  exact h.stored

lemma fromTable_congr {a b : User} (h : FromTable users a)
    (hsame : b.SameClaims a) : FromTable users b := by
  obtain ⟨row, hrow, hrowSame⟩ := h
  refine ⟨row, hsame.id ▸ hrow, ?_⟩
  exact ⟨hsame.id.trans hrowSame.id, hsame.email.trans hrowSame.email,
    hsame.tenantId.trans hrowSame.tenantId, hsame.role.trans hrowSame.role⟩

lemma tableSound_save {entity : User} {salt : String} (h : TableSound env users s)
    (hsave : s.users.save entity s.now = some s'.users) (hentity : FromTable users entity)
    (hid : c.id = entity.id)
    (hhash : entity.refreshTokenHash = some (env.bcrypt.hash salt (env.jwt.sign env.jwtRefreshSecret c))) :
    TableSound env users s' := by
  -- a row of the new table is the entity, or a row of the old table
  have hrows : ∀ {id row}, s'.users.findById id = some row →
      (∃ stamp, id = entity.id ∧ row = { entity with updatedAt := stamp }) ∨
        s.users.findById id = some row := by
    intro id row hrow
    by_cases hne : id = entity.id
    · subst hne
      rw [UserTable.findById_save hsave] at hrow
      obtain ⟨old, hold, rfl⟩ := Option.map_eq_some_iff.mp hrow
      obtain ⟨stamp, hstamp⟩ := UserTable.overwrite_eq s.now (UserTable.mem_of_findById hold).2
      exact .inl ⟨stamp, rfl, hstamp⟩
    · exact .inr ((UserTable.findById_save_of_ne hsave hne).symm.trans hrow)
  constructor
  · intro id row hrow
    rcases hrows hrow with ⟨stamp, rfl, rfl⟩ | hold
    · exact fromTable_congr hentity ⟨rfl, rfl, rfl, rfl⟩
    · exact h.rows hold
  · intro id row hash hrow hrowHash
    rcases hrows hrow with ⟨stamp, rfl, rfl⟩ | hold
    · exact ⟨salt, c, Option.some.inj (hrowHash.symm.trans hhash), hid⟩
    · exact h.stored id row hash hold hrowHash

lemma guard_carries (hbcrypt : env.bcrypt.Exact) (h : TableSound env users s)
    {user : User} (hguard : Request.guard env s.users s.now (.refresh token) = .ok user) :
    ∃ c, Carries env s user.id token c ∧ FromTable users user := by
  obtain ⟨-, payload, hverify, hrow, hash, hhash, -, hcompare⟩ := jwtRefreshGuard_ok.mp hguard
  obtain ⟨salt, c, rfl, hid⟩ := h.stored _ _ _ hrow hhash
  have htoken : token = env.jwt.sign env.jwtRefreshSecret c := (hbcrypt.compare_hash _ _ _).mp hcompare
  have huser : user.id = c.id := (UserTable.mem_of_findById hrow).2.trans hid.symm
  exact ⟨c, ⟨htoken, huser.symm, user, salt, hid ▸ hrow, hhash⟩, h.rows hrow⟩

lemma accepted_move {d d' : Call} (hmove : AuthMove env s d s' d') (h : d'.phase.accepted = true) :
    d.phase.accepted = true ∨ ∃ r user, d = ⟨.request r, .arrived⟩ ∧
      r.guard env s.users s.now = .ok user := by
  cases hmove with
  | accept hguard => exact .inr ⟨_, _, rfl, hguard⟩
  | refuse hguard => exact absurd h (by simp [Phase.accepted])
  | _ => exact .inl rfl

lemma accounts_move (hjwt : env.jwt.Documented) (hbcrypt : env.bcrypt.Exact)
    (htable : TableSound env users s) {phase phase' : Phase} (h : Accounts env users s token phase)
    (hnew : MintsNew env s ⟨.request (.refresh token), phase⟩)
    (hmove : AuthMove env s ⟨.request (.refresh token), phase⟩ s' ⟨.request (.refresh token), phase'⟩) :
    TableSound env users s' ∧ Accounts env users s' token phase' := by
  cases hmove with
  | accept hguard =>
    obtain ⟨c, hc, huser⟩ := guard_carries hbcrypt htable hguard
    exact ⟨tableSound_of_users htable rfl, c, hc.of_users rfl, huser⟩
  | @handle _ user lags salt =>
    obtain ⟨c, hc, huser⟩ := h
    have hdecode : env.jwt.decode env.jwtRefreshSecret token = some c := hc.token ▸ hjwt.decode_sign _ _
    refine ⟨tableSound_of_users htable rfl, c, user.claims (s.now / 1000) env.refreshExpiration,
      AuthService.generateTokens env user s.now lags, salt, hc.of_users rfl, ?_, rfl, rfl⟩
    exact ⟨hc.id.symm, tokenRank_lt huser hc.id (hnew token user c rfl hdecode)⟩
  | load salt hload =>
    obtain ⟨c, c', tokens, salt', hc, hlater, rfl, htoken⟩ := h
    obtain ⟨row, passwordHash, hrow, rfl⟩ := load_ok hload
    have hid := (UserTable.mem_of_findById hrow).2
    refine ⟨htable, c, c', salt', ⟨hc.token, hc.id.trans hid.symm, hc.stored⟩, hlater, ?_, ?_⟩
    · simp only [User.merge, AuthService.storeToken, Option.getD_some, htoken]
    · exact fromTable_congr (h := htable.rows hrow) ⟨rfl, rfl, rfl, rfl⟩
  | save hsave =>
    obtain ⟨c, c', salt, hc, hlater, hhash, hentity⟩ := h
    have hid := hlater.id.trans hc.id
    exact ⟨tableSound_save htable (save_ok.mp hsave) hentity hid hhash, c, c', hc.token, hlater,
      stored_save hc.stored hc.id hid (save_ok.mp hsave) hhash⟩
  | answer => exact ⟨htable, h⟩
  | _ => exact ⟨htable, trivial⟩

lemma accounts_frame (hjwt : env.jwt.Documented) (hbcrypt : env.bcrypt.Exact) {entity : User} {a : Answer}
    {token' : String} {phase : Phase} (h : Accounts env users s token (.loaded entity a))
    (h' : Accounts env users s token' phase) (hne : phase.accepted = true → token ≠ token')
    (hsave : s.users.save entity s.now = some s'.users) : Accounts env users s' token' phase := by
  obtain ⟨c, c', salt, hc, hlater, hhash, -⟩ := h
  have hkeeps : ∀ {id d}, token ≠ token' → Carries env s id token' d → Carries env s' id token' d := by
    intro id d hne hd
    refine ⟨hd.token, hd.id, hd.stored.save_other hsave fun hid => hne ?_⟩
    rw [hc.token, hd.token, hc.stored.unique hjwt hbcrypt hd.stored (hc.id.trans hid.symm)]
  have hpassed : ∀ {d d'}, Replaces env users d d' → Stored env s d' →
      ∃ d', Replaces env users d d' ∧ Stored env s' d' := by
    intro d d' hd hstored
    by_cases hid : d'.id = entity.id
    · obtain rfl := hstored.unique hjwt hbcrypt hc.stored (hid.trans hc.id.symm)
      exact ⟨c', ⟨hlater.id.trans hd.id, Nat.lt_trans hd.rank hlater.rank⟩,
        stored_save hc.stored hc.id (hlater.id.trans hc.id) hsave hhash⟩
    · exact ⟨d', hd, hstored.save_other hsave hid⟩
  cases phase with
  | guarded user =>
    obtain ⟨d, hd, hrest⟩ := h'
    exact ⟨d, hkeeps (hne rfl) hd, hrest⟩
  | updating id dto answer =>
    obtain ⟨d, d', tokens, salt', hd, hrest⟩ := h'
    exact ⟨d, d', tokens, salt', hkeeps (hne rfl) hd, hrest⟩
  | loaded other answer =>
    obtain ⟨d, d', salt', hd, hrest⟩ := h'
    exact ⟨d, d', salt', hkeeps (hne rfl) hd, hrest⟩
  | saved answer =>
    obtain ⟨d, d', htoken, hd, hstored⟩ := h'
    obtain ⟨d'', hd'', hstored''⟩ := hpassed hd hstored
    exact ⟨d, d'', htoken, hd'', hstored''⟩
  | answered answer =>
    obtain ⟨d, d', htoken, hd, hstored⟩ := h'
    obtain ⟨d'', hd'', hstored''⟩ := hpassed hd hstored
    exact ⟨d, d'', htoken, hd'', hstored''⟩
  | _ => exact trivial

lemma not_guard_of_done (hjwt : env.jwt.Documented) (hbcrypt : env.bcrypt.Exact)
    (htable : TableSound env users s) {phase : Phase} {user : User} (h : Accounts env users s token phase)
    (haccepted : phase.accepted = true) (hdone : phase.inFlight ≠ true) :
    Request.guard env s.users s.now (.refresh token) ≠ .ok user := by
  intro hguard
  obtain ⟨c, hc, -⟩ := guard_carries hbcrypt htable hguard
  have hused : ∀ {d d'}, token = env.jwt.sign env.jwtRefreshSecret d → Replaces env users d d' →
      Stored env s d' → False := by
    intro d d' htoken hd hstored
    obtain rfl := hjwt.sign_inj (hc.token.symm.trans htoken)
    obtain rfl := hstored.unique hjwt hbcrypt hc.stored hd.id
    exact absurd hd.rank (Nat.lt_irrefl _)
  cases phase with
  | saved a =>
    obtain ⟨d, d', htoken, hd, hstored⟩ := h
    exact hused htoken hd hstored
  | answered a =>
    obtain ⟨d, d', htoken, hd, hstored⟩ := h
    exact hused htoken hd hstored
  | arrived => exact absurd haccepted (by simp [Phase.accepted])
  | refused e => exact absurd haccepted (by simp [Phase.accepted])
  | _ => exact hdone rfl

def Apart (c d : Call) : Prop :=
  ∀ token, c.operation = .request (.refresh token) → d.operation = .request (.refresh token) →
    c.phase.accepted = true → d.phase.accepted ≠ true

/-- Every refresh accounts for its token, and no two for the same one. -/
def singleUseOutline (hjwt : env.jwt.Documented) (hbcrypt : env.bcrypt.Exact) (users : UserTable) :
    Outline (spacedSystem env) where
  inv := TableSound env users
  asserts s c := ∃ token, c.operation = .request (.refresh token) ∧ Accounts env users s token c.phase
  apart := Apart
  apart_symm := fun h token hd hc haccepted haccepted' => h token hc hd haccepted' haccepted
  start := by
    rintro s c - ⟨o, ⟨token, rfl⟩, rfl⟩
    exact ⟨token, rfl, trivial⟩
  start_apart := by
    rintro s c d - ⟨o, ⟨token, rfl⟩, rfl⟩ -
    rintro token' - - haccepted
    exact absurd haccepted (by simp [Call.start, Phase.accepted])
  ambient := by
    rintro s s' htable ⟨later, -, rfl⟩
    refine ⟨tableSound_of_users htable rfl, ?_⟩
    rintro c ⟨token, htoken, h⟩
    exact ⟨token, htoken, accounts_of_users h rfl⟩
  move := by
    rintro s ⟨o, phase⟩ s' ⟨o', phase'⟩ htable ⟨token, rfl, h⟩ ⟨hnew, hmove⟩
    obtain rfl : o' = _ := AuthMove.operation_eq hmove
    obtain ⟨htable', h'⟩ := accounts_move hjwt hbcrypt htable h hnew hmove
    exact ⟨htable', token, rfl, h'⟩
  frame := by
    rintro s ⟨o, phase⟩ ⟨o₂, phase₂⟩ s' ⟨o', phase'⟩ htable ⟨token, rfl, h⟩ ⟨token₂, rfl, h₂⟩ hapart
      ⟨hexclusive, -⟩ ⟨-, hmove⟩
    obtain rfl : o' = _ := AuthMove.operation_eq hmove
    constructor
    · refine ⟨token₂, rfl, ?_⟩
      rcases AuthMove.users_cases hmove with husers | ⟨entity, a, hphase, -, hsave⟩
      · exact accounts_of_users h₂ husers
      · obtain rfl : phase = .loaded entity a := hphase
        refine accounts_frame hjwt hbcrypt h h₂ (fun haccepted heq => ?_) hsave
        subst heq
        exact hapart token rfl rfl rfl haccepted
    · intro shared hoperation hoperation₂ haccepted haccepted₂
      obtain rfl : token = shared := by simpa using hoperation
      obtain rfl : token₂ = token := by simpa using hoperation₂
      rcases accepted_move hmove haccepted with hbefore | ⟨r, user, hcall, hguard⟩
      · exact hapart token₂ rfl rfl hbefore haccepted₂
      · obtain ⟨hrequest, rfl⟩ := Call.mk.inj hcall
        obtain rfl := Operation.request.inj hrequest
        by_cases hflight : phase₂.inFlight = true
        · exact hexclusive token₂ user rfl rfl hflight hguard
        · exact not_guard_of_done hjwt hbcrypt htable h₂ haccepted₂ hflight hguard

/-- In every run of refreshes whose steps meet the two conditions, each token is exchanged at
most once. -/
theorem refresh_at_most_once (hjwt : env.jwt.Documented) (hbcrypt : env.bcrypt.Exact)
    (hstart : StoredTokens env s.users) {p : Pool AuthState Call}
    (hrun : Run (spacedSystem env) ⟨s, []⟩ p) :
    AtMostOnce p := by
  have htable : TableSound env s.users s :=
    ⟨fun {id row} hrow => ⟨row, (UserTable.mem_of_findById hrow).2 ▸ hrow, rfl, rfl, rfl, rfl⟩, hstart⟩
  have hholds := (singleUseOutline hjwt hbcrypt s.users).holds_run
    ((singleUseOutline hjwt hbcrypt s.users).holds_empty htable) hrun
  intro i j token a b hi hj
  by_contra hij
  have hapart : Apart _ _ := hholds.apart hij hi hj
  exact hapart token rfl rfl rfl rfl

end SingleUse

namespace Sample

lemma storedTokens_signedIn : StoredTokens (env id) (signedIn id).users := by
  intro u row hash hrow hhash
  obtain ⟨hmem, rfl⟩ := UserTable.mem_of_findById hrow
  obtain rfl := List.mem_singleton.mp hmem
  exact ⟨"salt", user.claims 0 604800, (Option.some.inj hhash).symm, rfl⟩

lemma refresh_answers (s : AuthState) (hknows : s.users.Knows user.id user.email) : ∃ s' a,
    s'.users.Knows user.id user.email ∧ Solo (refreshSystem (env id))
      (s, ⟨.request (.refresh (token id)), .guarded (openUser id)⟩)
      (s', ⟨.request (.refresh (token id)), .answered a⟩) := by
  let request := Request.refresh (token id)
  have hprepare : (request.prepare (env id) (openUser id) s.now {} "salt").1.email = none ∧
      (request.prepare (env id) (openUser id) s.now {} "salt").1.password = none := ⟨rfl, rfl⟩
  obtain ⟨users, hupdate, hknows'⟩ := UserTable.updateUser_of_knows ((env id).bcrypt.hash "salt") hknows
    hprepare.1 hprepare.2 s.now
  exact ⟨_, _, hknows', solo_cons (AuthMove.handle {} "salt") (solo_of_updateUser _ hupdate)⟩

end Sample

open Sample in
/-- Two requests with one token, both past their guards before either saves: both are
answered with new tokens. -/
theorem refresh_twice : ∃ p, Run (refreshSystem (env id)) ⟨signedIn id, []⟩ p ∧ ¬AtMostOnce p := by
  let M := refreshSystem (env id)
  let request := Request.refresh (token id)
  let s := signedIn id
  have hguard : request.guard (env id) s.users s.now = .ok (openUser id) :=
    guard_openUser Bcrypt.reference_exact
  have hstart : Run M ⟨s, []⟩ ⟨s, [Call.start (.request request), Call.start (.request request)]⟩ :=
    .tail (.single (.start ⟨_, ⟨_, rfl⟩, rfl⟩)) (.start ⟨_, ⟨_, rfl⟩, rfl⟩)
  have haccept : ∀ accepted, Solo M ({ s with accepted := accepted }, Call.start (.request request))
      ({ s with accepted := (request, openUser id) :: accepted },
        ⟨.request request, .guarded (openUser id)⟩) :=
    fun _ => solo_cons (AuthMove.accept hguard) .refl
  obtain ⟨s₁, a₁, hknows, hfirst⟩ := refresh_answers
    { s with accepted := [(request, openUser id), (request, openUser id)] } ⟨openUser id, rfl, rfl⟩
  obtain ⟨s₂, a₂, -, hsecond⟩ := refresh_answers s₁ hknows
  have hrun := (((hstart.trans (run_solo (i := 0) (haccept _) rfl fun _ _ _ _ _ _ => trivial)).trans
    (run_solo (i := 1) (haccept _) rfl fun _ _ _ _ _ _ => trivial)).trans
    (run_solo (i := 0) hfirst rfl fun _ _ _ _ _ _ => trivial)).trans
    (run_solo (i := 1) hsecond rfl fun _ _ _ _ _ _ => trivial)
  refine ⟨_, hrun, fun honce => ?_⟩
  exact absurd (honce 0 1 _ a₁ a₂ rfl rfl) (by decide)

namespace Sample

lemma mintsNew_token {s : AuthState} (hnow : 0 < s.now / 1000) (phase : Phase) :
    MintsNew (env id) s ⟨.request (.refresh (token id)), phase⟩ := by
  rintro t u payload hcall hdecode -
  obtain ⟨hrequest, -⟩ := Call.mk.inj hcall
  obtain rfl := Request.refresh.inj (Operation.request.inj hrequest)
  have hpayload : (env id).jwt.decode "refresh" (token id) = some (user.claims 0 604800) :=
    (Jsonwebtoken.reference_documented _).decode_sign _ _
  rw [← Option.some.inj (hpayload.symm.trans hdecode)]
  exact hnow

end Sample

open Sample in
theorem refresh_at_most_once_sequential : ∃ p a, Run (spacedSystem (env id)) ⟨signedIn id, []⟩ p ∧
    p.threads = [⟨.request (.refresh (token id)), .answered a⟩,
      Call.start (.request (.refresh (token id)))] ∧
    AtMostOnce p := by
  let s := signedIn id
  let request := Request.refresh (token id)
  have hguard : request.guard (env id) s.users s.now = .ok (openUser id) :=
    guard_openUser Bcrypt.reference_exact
  have hprepare : (request.prepare (env id) (openUser id) s.now {} "salt").1.email = none ∧
      (request.prepare (env id) (openUser id) s.now {} "salt").1.password = none := ⟨rfl, rfl⟩
  obtain ⟨users, hupdate, -⟩ := UserTable.updateUser_of_knows ((env id).bcrypt.hash "salt")
    (show s.users.Knows user.id user.email from ⟨openUser id, rfl, rfl⟩) hprepare.1 hprepare.2 s.now
  obtain ⟨entity, hload, hsave⟩ := updateUser_ok.mp hupdate
  have hnew : ∀ {s : AuthState}, s.now = 1000 → ∀ phase, MintsNew (env id) s ⟨.request request, phase⟩ :=
    fun hnow => mintsNew_token (by rw [hnow]; decide)
  have hsolo : Solo (spacedSystem (env id)) (s, Call.start (.request request))
      (_, ⟨.request request, .answered _⟩) :=
    solo_cons ⟨hnew rfl _, AuthMove.accept hguard⟩ (solo_cons ⟨hnew rfl _, AuthMove.handle {} "salt"⟩
      (solo_cons ⟨hnew rfl _, AuthMove.load "salt" hload⟩
        (solo_cons ⟨hnew rfl _, AuthMove.save (save_ok.mpr hsave)⟩
          (solo_cons ⟨hnew rfl _, AuthMove.answer⟩ .refl))))
  have hstart : Run (spacedSystem (env id)) ⟨s, []⟩ ⟨s, [Call.start (.request request)]⟩ :=
    .single (.start ⟨_, ⟨_, rfl⟩, rfl⟩)
  have hfirst := hstart.trans (run_solo (i := 0) hsolo rfl (by
    intro s t j u hj hu
    cases j with
    | zero => exact absurd rfl hj
    | succ j => exact absurd hu (by simp)))
  have hrun := hfirst.tail (.start ⟨_, ⟨token id, rfl⟩, rfl⟩)
  exact ⟨_, _, hrun, rfl, refresh_at_most_once (Jsonwebtoken.reference_documented _) Bcrypt.reference_exact
    storedTokens_signedIn hrun⟩

end NextLevelApi
