import NextLevelApi.Auth.Interleaving
import NextLevelApi.Erp.Factory

/-!
# Where access tokens come from

As long as no token is forged, behind every request that `JwtGuard` lets through there is a
login with the user's password and a chain of refreshes, in this order, and the token says
what the last of their guards read in the user's row.
-/

namespace NextLevelApi
open ThreadPool

def Request.token? : Request → Option String
  | .login _ _ => none
  | .refresh token => some token
  | .logout token => some token

/-- What this token says under this secret has been signed under it. -/
def Unforged (env : AuthEnv) (s : AuthState) (secret token : String) : Prop :=
  ∀ c, env.jwt.decode secret token = some c → (secret, c) ∈ s.signed

def unforgedSystem (env : AuthEnv) : System AuthState Call :=
  (authSystem env fun _ => True).restrict
    (fun s c => ∀ r token, c.operation = .request r → r.token? = some token →
      Unforged env s env.jwtRefreshSecret token)
    fun _ _ _ => True

/-- A login of `u` with the right password, followed by refreshes, each with a refresh token
that says what the guard before it read. The latest comes first, and `user` is the row
that its guard read. -/
inductive Chain (env : AuthEnv) (u : ℕ) : List (Request × User) → User → Prop
  | login {email password : String} {user : User} (hid : user.id = u)
      (hpassword : env.bcrypt.compare password user.passwordHash = true) :
      Chain env u [(.login email password, user)] user
  | refresh {chain : List (Request × User)} {previous user : User} {token : String} {iat : ℕ}
      (hchain : Chain env u chain previous) (hid : user.id = u)
      (htoken : env.jwt.decode env.jwtRefreshSecret token =
        some (previous.claims iat env.refreshExpiration)) :
      Chain env u ((.refresh token, user) :: chain) user

/-- Guards of this run, in their order, that lead to a row of `u`. -/
def Descends (env : AuthEnv) (s : AuthState) (u : ℕ) (user : User) : Prop :=
  ∃ chain, Chain env u chain user ∧ chain.Sublist s.accepted

/-- Everything that was signed says what the last guard of a chain read. -/
structure SignedSound (env : AuthEnv) (s : AuthState) : Prop where
  signed : ∀ {secret : String} {c : Claims}, (secret, c) ∈ s.signed → ∃ user signedAt,
    Descends env s c.id user ∧ signedAt ≤ s.now ∧
    ((secret = env.jwtSecret ∧ c = user.claims (signedAt / 1000) env.accessExpiration) ∨
      (secret = env.jwtRefreshSecret ∧ c = user.claims (signedAt / 1000) env.refreshExpiration))

/-- A call past its guard has a chain behind it, unless it is a logout. -/
def Call.Grounded (env : AuthEnv) (s : AuthState) : Call → Prop
  | ⟨o, .guarded user⟩ => (∃ token, o = .request (.logout token)) ∨ Descends env s user.id user
  | _ => True

section Provenance

variable {env : AuthEnv} {s s' : AuthState} {c c' : Call} {u : ℕ} {user : User}

lemma Descends.mono (h : Descends env s u user) (haccepted : s.accepted.Sublist s'.accepted) :
    Descends env s' u user := by
  obtain ⟨chain, hchain, hsub⟩ := h
  exact ⟨chain, hchain, hsub.trans haccepted⟩

lemma SignedSound.mono (h : SignedSound env s) (haccepted : s.accepted.Sublist s'.accepted)
    (hnow : s.now ≤ s'.now) (hsigned : s'.signed = s.signed) : SignedSound env s' := by
  refine ⟨fun hmem => ?_⟩
  obtain ⟨user, signedAt, hdescends, hpast, hsays⟩ := h.signed (hsigned ▸ hmem)
  exact ⟨user, signedAt, hdescends.mono haccepted, Nat.le_trans hpast hnow, hsays⟩

lemma Call.Grounded.mono (h : c.Grounded env s) (haccepted : s.accepted.Sublist s'.accepted) :
    c.Grounded env s' := by
  obtain ⟨o, phase⟩ := c
  cases phase with
  | guarded user => exact h.imp_right fun hdescends => hdescends.mono haccepted
  | _ => exact trivial

lemma accepted_sublist (hmove : AuthMove env s c s' c') :
    s.accepted.Sublist s'.accepted ∧ s'.now = s.now := by
  cases hmove with
  | accept h => exact ⟨List.sublist_cons_self _ _, rfl⟩
  | _ => exact ⟨List.Sublist.refl _, rfl⟩

lemma mem_signs {r : Request} {now : ℕ} {lags : Lags} {secret : String} {c : Claims}
    (h : (secret, c) ∈ r.signs env user now lags) : user.id = c.id ∧ (∀ token, r ≠ .logout token) ∧
    ∃ signedAt, signedAt ≤ now ∧
      ((secret = env.jwtSecret ∧ c = user.claims (signedAt / 1000) env.accessExpiration) ∨
        (secret = env.jwtRefreshSecret ∧ c = user.claims (signedAt / 1000) env.refreshExpiration)) := by
  cases r with
  | logout token => exact absurd h (by simp [Request.signs])
  | _ =>
    simp only [Request.signs, List.mem_cons, Prod.mk.injEq, List.not_mem_nil, or_false] at h
    rcases h with ⟨rfl, rfl⟩ | ⟨rfl, rfl⟩
    · exact ⟨rfl, by simp, now - lags.access, Nat.sub_le _ _, .inl ⟨rfl, rfl⟩⟩
    · exact ⟨rfl, by simp, now, Nat.le_refl _, .inr ⟨rfl, rfl⟩⟩

/-- The guard of a login starts a chain, that of a refresh prolongs the one behind its token. -/
lemma descends_of_guard (hsecrets : env.jwtSecret ≠ env.jwtRefreshSecret)
    (hs : SignedSound env s) {r : Request}
    (hunforged : ∀ token, r.token? = some token → Unforged env s env.jwtRefreshSecret token)
    (h : r.guard env s.users s.now = .ok user) :
    (∃ token, r = .logout token) ∨
      Descends env { s with accepted := (r, user) :: s.accepted } user.id user := by
  cases r with
  | login email password =>
    exact .inr ⟨[(.login email password, user)], .login rfl (validateUser_ok h).2,
      (List.nil_sublist _).cons_cons _⟩
  | refresh token =>
    obtain ⟨-, c, hverify, hrow, -⟩ := jwtRefreshGuard_ok.mp h
    have hdecode := (Jsonwebtoken.verify_eq_some.mp hverify).1
    obtain ⟨previous, signedAt, ⟨chain, hchain, hsub⟩, -, hsays⟩ :=
      hs.signed (hunforged token rfl c hdecode)
    have hid : user.id = c.id := (UserTable.mem_of_findById hrow).2
    rcases hsays with ⟨hsecret, -⟩ | ⟨-, hc⟩
    · exact absurd hsecret.symm hsecrets
    · exact .inr ⟨_, .refresh (hid ▸ hchain) rfl (hc ▸ hdecode), hsub.cons_cons _⟩
  | logout token => exact .inl ⟨token, rfl⟩

def provenanceOutline (hsecrets : env.jwtSecret ≠ env.jwtRefreshSecret) : Outline (unforgedSystem env) where
  inv := SignedSound env
  asserts s c := c.Grounded env s
  start := by
    rintro s c - ⟨o, -, rfl⟩
    cases o <;> exact trivial
  ambient := by
    rintro s s' hs ⟨later, hlater, rfl⟩
    exact ⟨hs.mono (List.Sublist.refl _) hlater rfl, fun c hc => hc.mono (List.Sublist.refl _)⟩
  move := by
    rintro s c s' c' hs hc ⟨hunforged, hmove⟩
    obtain ⟨haccepted, hnow⟩ := accepted_sublist hmove
    cases hmove with
    | accept hguard =>
      refine ⟨hs.mono haccepted (Nat.le_of_eq hnow.symm) rfl, ?_⟩
      rcases descends_of_guard hsecrets hs (fun token => hunforged _ token rfl) hguard
        with ⟨token, rfl⟩ | hdescends
      · exact .inl ⟨token, rfl⟩
      · exact .inr hdescends
    | @handle r user lags salt =>
      refine ⟨⟨fun hmem => ?_⟩, trivial⟩
      rcases List.mem_append.mp hmem with hnew | hold
      · obtain ⟨hid, hopens, signedAt, hpast, hsays⟩ := mem_signs hnew
        rcases hc with ⟨token, htoken⟩ | hdescends
        · exact absurd (Operation.request.inj htoken) (hopens token)
        · exact ⟨user, signedAt, hid ▸ hdescends, hpast, hsays⟩
      · exact hs.signed hold
    | save h => exact ⟨hs.mono haccepted (Nat.le_refl _) rfl, trivial⟩
    | _ => exact ⟨hs, trivial⟩
  frame := by
    rintro s c d s' c' hs hc hd - - ⟨-, hmove⟩
    exact ⟨hd.mono (accepted_sublist hmove).1, trivial⟩

/-- Behind every request that `JwtGuard` lets through at time `now` there is a login with the
password of the user's row and a chain of refreshes of this user; the token says what the
last guard of the chain read, was signed less than its lifetime before, in the second that it
names, and the request works with the adapter of the tenant that it names. -/
theorem request_provenance (hsecrets : env.jwtSecret ≠ env.jwtRefreshSecret) {users : UserTable} {start : ℕ}
    {p : Pool AuthState Call} (hrun : Run (unforgedSystem env) ⟨⟨users, start, [], []⟩, []⟩ p)
    {token : String} (hunforged : Unforged env p.shared env.jwtSecret token) {c : Claims}
    (hguard : JwtGuard env p.shared.now token = .ok c) :
    (∃ chain user signedAt, Chain env c.id chain user ∧ chain.Sublist p.shared.accepted ∧
      (c.id, c.email, c.tenantId, c.role) = (user.id, user.email, user.tenantId, user.role) ∧
      c = user.claims (signedAt / 1000) env.accessExpiration ∧ signedAt ≤ p.shared.now ∧
      p.shared.now < signedAt + env.accessExpiration * 1000) ∧
    ∀ (Config : Type) (tenants : TenantTable) (decrypt : Option String → Except Exception Config)
      (adapter : ErpAdapter Config), ErpService.adapter tenants decrypt c = .ok adapter →
        BuiltFor tenants decrypt c.tenantId adapter := by
  refine ⟨?_, fun _ _ _ _ hadapter => adapter_builtFor hadapter⟩
  have hstart : SignedSound env ⟨users, start, [], []⟩ := ⟨fun hmem => absurd hmem (by simp)⟩
  have hholds := (provenanceOutline hsecrets).holds_run
    ((provenanceOutline hsecrets).holds_empty hstart) hrun
  have hsound : SignedSound env p.shared := hholds.inv
  rw [jwtGuard_eq, payload_ok] at hguard
  obtain ⟨hdecode, hfresh⟩ := Jsonwebtoken.verify_eq_some.mp hguard.2
  obtain ⟨user, signedAt, ⟨chain, hchain, hsub⟩, hpast, hsays⟩ := hsound.signed (hunforged c hdecode)
  rcases hsays with ⟨-, hc⟩ | ⟨hsecret, -⟩
  · have hexp : c.exp = signedAt / 1000 + env.accessExpiration := by rw [hc]; rfl
    refine ⟨chain, user, signedAt, hchain, hsub, by rw [hc]; rfl, hc, hpast, ?_⟩
    omega
  · exact absurd hsecret hsecrets

end Provenance

namespace Sample

/-- The access token of a refresh at second 1. -/
noncomputable def accessToken : String := (env id).jwt.sign "access" (user.claims 1 900)

lemma unforged_login (s : AuthState) (r : Request) (token : String) (hr : login = .request r)
    (htoken : r.token? = some token) : Unforged (env id) s "refresh" token := by
  obtain rfl := Operation.request.inj hr
  exact absurd htoken (by simp [Request.token?])

lemma unforged_refresh {s : AuthState} (h : ("refresh", user.claims 0 604800) ∈ s.signed) (r : Request)
    (t : String) (hr : Operation.request (.refresh (token id)) = .request r) (ht : r.token? = some t) :
    Unforged (env id) s "refresh" t := by
  obtain rfl := Operation.request.inj hr
  obtain rfl := Option.some.inj ht
  intro c hc
  have hdecode : (env id).jwt.decode "refresh" (token id) = some (user.claims 0 604800) :=
    (Jsonwebtoken.reference_documented _).decode_sign _ _
  rwa [← Option.some.inj (hdecode.symm.trans hc)]

lemma solo_login : ∃ users' row a, users'.findById user.id = some row ∧ row.SameClaims user ∧
    row.refreshTokenHash = some ((env id).bcrypt.hash "salt" (token id)) ∧
    Solo (unforgedSystem (env id)) (⟨users, 0, [], []⟩, Call.start login)
      (⟨users', 0, [(.login "ana@shop.ro" "pw", user)],
        [("access", user.claims 0 900), ("refresh", user.claims 0 604800)]⟩, ⟨login, .answered a⟩) := by
  let tokens := AuthService.generateTokens (env id) user 0 {}
  have hguard : (Request.login "ana@shop.ro" "pw").guard (env id) users 0 = .ok user := rfl
  have hload : UserService.updateUser.load ((env id).bcrypt.hash "salt") users user.id
      (AuthService.storeToken (env id) tokens "salt") = .ok _ := load_eq rfl rfl
  have hknows : users.Knows (user.merge (AuthService.storeToken (env id) tokens "salt")).id user.email :=
    ⟨user, rfl, rfl⟩
  obtain ⟨users', hsave⟩ := UserTable.save_of_knows hknows 0
  have hrow : users.findById user.id = some user := rfl
  obtain ⟨stamp, hstamp⟩ := UserTable.findById_save_self hsave hrow
  refine ⟨users', _, AuthService.login.answer (env id) user tokens, hstamp, ⟨rfl, rfl, rfl, rfl⟩, rfl, ?_⟩
  exact solo_cons ⟨unforged_login _, AuthMove.accept hguard⟩
    (solo_cons ⟨unforged_login _, AuthMove.handle {} "salt"⟩
      (solo_cons ⟨unforged_login _, AuthMove.load "salt" hload⟩
        (solo_cons ⟨unforged_login _, AuthMove.save (save_ok.mpr hsave)⟩
          (solo_cons ⟨unforged_login _, AuthMove.answer⟩ .refl))))

/-- A login, and a second later a refresh with its token that has signed anew. -/
lemma refreshed_run : ∃ p row, Run (unforgedSystem (env id)) ⟨⟨users, 0, [], []⟩, []⟩ p ∧
    p.shared.now = 1000 ∧ ("access", user.claims 1 900) ∈ p.shared.signed ∧
    p.shared.accepted = [(.refresh (token id), row), (.login "ana@shop.ro" "pw", user)] := by
  obtain ⟨users', row, a, hrow, hsame, hhash, hlogin⟩ := solo_login
  let refresh := Request.refresh (token id)
  have hguard : refresh.guard (env id) users' 1000 = .ok row := by
    refine jwtRefreshGuard_ok.mpr ⟨Jsonwebtoken.sign_ne_empty _ _ _, user.claims 0 604800, ?_, hrow, _, hhash,
      Bcrypt.reference_exact.hash_ne_empty _ _, (Bcrypt.reference_exact.compare_hash _ _ _).mpr rfl⟩
    exact (Jsonwebtoken.verify_sign (Jsonwebtoken.reference_documented _)).trans (if_neg (by decide))
  have hstart : Run (unforgedSystem (env id)) ⟨⟨users, 0, [], []⟩, []⟩
      ⟨⟨users, 0, [], []⟩, [Call.start login]⟩ := .single (.start ⟨_, trivial, rfl⟩)
  have hfirst := ((hstart.trans (run_solo (i := 0) hlogin rfl fun _ _ _ _ _ _ => ⟨trivial, trivial⟩)).tail
    (.ambient ⟨1000, Nat.zero_le _, rfl⟩)).tail (.start ⟨.request refresh, trivial, rfl⟩)
  have hsigned : ("refresh", user.claims 0 604800) ∈
      [("access", user.claims 0 900), ("refresh", user.claims 0 604800)] := .tail _ (.head _)
  have hrefresh : Solo (unforgedSystem (env id))
      (⟨users', 1000, [(.login "ana@shop.ro" "pw", user)], _⟩, Call.start (.request refresh)) (_, _) :=
    solo_cons ⟨unforged_refresh hsigned, AuthMove.accept hguard⟩
      (solo_cons ⟨unforged_refresh hsigned, AuthMove.handle {} "salt"⟩ .refl)
  have hnew : ("access", user.claims 1 900) ∈ refresh.signs (env id) row 1000 {} := by
    rw [← hsame.claims_eq]
    exact .head _
  exact ⟨_, row, hfirst.trans (run_solo (i := 1) hrefresh rfl fun _ _ _ _ _ _ => ⟨trivial, trivial⟩),
    rfl, List.mem_append_left _ hnew, rfl⟩

end Sample

open Sample in
theorem request_provenance_login : ∃ p row, Run (unforgedSystem (env id)) ⟨⟨users, 0, [], []⟩, []⟩ p ∧
    p.shared.accepted = [(.refresh (token id), row), (.login "ana@shop.ro" "pw", user)] ∧
    JwtGuard (env id) p.shared.now accessToken = .ok (user.claims 1 900) ∧
    ∃ chain last signedAt, Chain (env id) user.id chain last ∧ chain.Sublist p.shared.accepted ∧
      (user.id, user.email, user.tenantId, user.role) = (last.id, last.email, last.tenantId, last.role) ∧
      user.claims 1 900 = last.claims (signedAt / 1000) 900 ∧ signedAt ≤ p.shared.now ∧
      p.shared.now < signedAt + 900 * 1000 := by
  obtain ⟨p, row, hrun, hnow, hsigned, haccepted⟩ := refreshed_run
  have hguard : JwtGuard (env id) p.shared.now accessToken = .ok (user.claims 1 900) := by
    rw [hnow]
    exact (jwtGuard_sign (Jsonwebtoken.reference_documented _) _).trans (if_pos (by decide))
  have hunforged : Unforged (env id) p.shared (env id).jwtSecret accessToken := by
    intro c hc
    have hdecode : (env id).jwt.decode (env id).jwtSecret accessToken = some (user.claims 1 900) :=
      (Jsonwebtoken.reference_documented _).decode_sign _ _
    rw [← Option.some.inj (hdecode.symm.trans hc)]
    exact hsigned
  have hsecrets : (env id).jwtSecret ≠ (env id).jwtRefreshSecret := by simp [env]
  exact ⟨p, row, hrun, haccepted, hguard, (request_provenance hsecrets hrun hunforged hguard).1⟩

end NextLevelApi
