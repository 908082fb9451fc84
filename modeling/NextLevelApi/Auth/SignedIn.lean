import NextLevelApi.Auth.Sessions
import NextLevelApi.Auth.LogoutFinal
import NextLevelApi.Library.Watched

/-!
# Who is signed in

Which refresh tokens of a user are accepted, in any interleaving of requests: all unexpired ones
while the latest write to the user's row is that of a login or a refresh, and none after that of
a logout. Requests of other users, and queries that fail, make no difference.
-/

namespace NextLevelApi
open ThreadPool

def Call.saves : Call → List Answer
  | ⟨_, .saved a⟩ => [a]
  | _ => []

/-- All operations but updates of `u`, with a record of the answers whose write is in the
table, the latest first. -/
def recordedSystem (env : AuthEnv) (u : ℕ) : System (AuthState × List Answer) Call :=
  (authSystem env fun o => ∀ dto, o ≠ .updateUser u dto).watched (fun _ _ saves saves' => saves' = saves)
    fun _ _ _ call' saves => call'.saves ++ saves

def latest (u : ℕ) (saves : List Answer) : Option Answer := saves.find? (Answer.concerns u)

def SignedIn (u : ℕ) (saves : List Answer) : Prop := ∃ a, latest u saves = some a ∧ a.Opens u

/-- The refresh token hash that the write behind an answer leaves in the row. -/
def Answer.Leaves (env : AuthEnv) (hash : Option String) : Answer → Prop
  | .session _ tokens _ _ => ∃ salt, hash = some (env.bcrypt.hash salt tokens.refreshToken)
  | .loggedOut _ _ => hash = none
  | .updated _ => False

/-- What the answers to the user that has row `base` say. -/
def Answer.Issued (env : AuthEnv) (base : User) : Answer → Prop
  | .session user tokens _ cookies => user.id = base.id →
      (∃ signedAt lags, tokens = AuthService.generateTokens env base signedAt lags) ∧
      (cookies = [AuthService.accessCookie env tokens, AuthService.refreshCookie env tokens] ∨
        cookies = [AuthService.refreshCookie env tokens, AuthService.accessCookie env tokens])
  | .loggedOut _ cookies => cookies = [AuthService.cookie env "access_token" "" none "/",
      AuthService.cookie env "refresh_token" "" none "/auth"]
  | .updated id => id ≠ base.id

structure RowKept (env : AuthEnv) (base : User) (users : UserTable) (saves : List Answer) : Prop where
  row : ∃ row, users.findById base.id = some row ∧ row.SameClaims base ∧
    (∀ a, latest base.id saves = some a → a.Leaves env row.refreshTokenHash) ∧
    (latest base.id saves = none → row.refreshTokenHash = none)
  issued : ∀ a ∈ saves, a.Issued env base

/-- What a call knows about the answer that it is going to give, and about what it writes. -/
def Call.Kept (env : AuthEnv) (base : User) : Call → Prop
  | ⟨_, .guarded user⟩ => user.id = base.id → user.SameClaims base
  | ⟨_, .updating id dto a⟩ => a.Issued env base ∧ (a.concerns base.id = true ↔ id = base.id) ∧
      (id = base.id → dto.email = none ∧ dto.tenantId = none ∧ dto.role = none ∧
        ∃ hash, dto.refreshTokenHash = some hash ∧ a.Leaves env hash)
  | ⟨_, .loaded entity a⟩ => a.Issued env base ∧ (a.concerns base.id = true ↔ entity.id = base.id) ∧
      (entity.id = base.id → entity.SameClaims base ∧ a.Leaves env entity.refreshTokenHash)
  | ⟨_, .saved a⟩ => a.Issued env base
  | ⟨_, .answered a⟩ => a.Issued env base
  | _ => True

section Kept

variable {env : AuthEnv} {base : User} {s s' : AuthState} {c c' : Call} {saves : List Answer}

lemma RowKept.sameClaims {users : UserTable} (h : RowKept env base users saves) {user : User}
    (hrow : users.findById user.id = some user) (hid : user.id = base.id) : user.SameClaims base := by
  obtain ⟨row, hbase, hsame, -⟩ := h.row
  obtain rfl : user = row := Option.some.inj (hrow.symm.trans (hid ▸ hbase))
  exact hsame

/-- What a handler prepares for its user. -/
lemma kept_prepare {user : User} (h : user.id = base.id → user.SameClaims base) (o : Operation) (now : ℕ)
    (lags : Lags) (salt : String) (r : Request) :
    Call.Kept env base
      ⟨o, .updating user.id (r.prepare env user now lags salt).1 (r.prepare env user now lags salt).2⟩ := by
  have htokens : user.id = base.id →
      AuthService.generateTokens env user now lags = AuthService.generateTokens env base now lags :=
    fun hid => generateTokens_congr env (h hid) now lags
  cases r with
  | login email password =>
    refine ⟨fun hid => ⟨⟨now, lags, htokens hid⟩, .inl rfl⟩, ?_, fun _ => ⟨rfl, rfl, rfl, _, rfl, salt, rfl⟩⟩
    exact decide_eq_true_iff
  | refresh token =>
    refine ⟨fun hid => ⟨⟨now, lags, htokens hid⟩, .inr rfl⟩, ?_, fun _ => ⟨rfl, rfl, rfl, _, rfl, salt, rfl⟩⟩
    exact decide_eq_true_iff
  | logout token =>
    refine ⟨rfl, ?_, fun _ => ⟨rfl, rfl, rfl, _, rfl, rfl⟩⟩
    exact decide_eq_true_iff

lemma kept_load {users : UserTable} (h : RowKept env base users saves) {o : Operation} {id : ℕ}
    {dto : UpdateUserDto} {a : Answer} (hc : Call.Kept env base ⟨o, .updating id dto a⟩)
    {hash : String → String} {entity : User}
    (hload : UserService.updateUser.load hash users id dto = .ok entity) :
    Call.Kept env base ⟨o, .loaded entity a⟩ := by
  obtain ⟨hissued, hconcerns, hwrites⟩ := hc
  have hentity := load_id hload
  refine ⟨hissued, hentity ▸ hconcerns, fun hid => ?_⟩
  obtain ⟨hemail, htenant, hrole, hash, hhash, hleaves⟩ := hwrites (hentity.symm.trans hid)
  obtain ⟨row, passwordHash, hrow, rfl⟩ := load_ok hload
  have hrowId := (UserTable.mem_of_findById hrow).2
  have hbase : users.findById row.id = some row := by rwa [hrowId]
  obtain ⟨hsameId, hsameEmail, hsameTenant, hsameRole⟩ := h.sameClaims hbase hid
  refine ⟨⟨hsameId, ?_, ?_, ?_⟩, ?_⟩
  · simpa only [User.merge, hemail, Option.getD_none] using hsameEmail
  · simpa only [User.merge, htenant, Option.getD_none] using hsameTenant
  · simpa only [User.merge, hrole, Option.map_none, Option.getD_none] using hsameRole
  · simpa only [User.merge, hhash, Option.getD_some] using hleaves

lemma latest_cons_of_concerns {a : Answer} (h : a.concerns base.id = true) :
    latest base.id (a :: saves) = some a := by
  simp [latest, h]

lemma latest_cons_other {a : Answer} (h : ¬a.concerns base.id = true) :
    latest base.id (a :: saves) = latest base.id saves := by
  simp [latest, h]

lemma RowKept.save {users users' : UserTable} (h : RowKept env base users saves) {o : Operation}
    {entity : User} {a : Answer} (hc : Call.Kept env base ⟨o, .loaded entity a⟩) {now : ℕ}
    (hsave : users.save entity now = some users') : RowKept env base users' (a :: saves) := by
  obtain ⟨hissued, hconcerns, hwrites⟩ := hc
  have hall : ∀ a' ∈ a :: saves, a'.Issued env base := List.forall_mem_cons.mpr ⟨hissued, h.issued⟩
  obtain ⟨row, hrow, hsame, hleaves, hnone⟩ := h.row
  by_cases hid : entity.id = base.id
  · obtain ⟨stamp, hstamp⟩ := UserTable.findById_save_self hsave (hid ▸ hrow)
    rw [hid] at hstamp
    obtain ⟨hclaims, hleft⟩ := hwrites hid
    have hlatest : latest base.id (a :: saves) = some a := latest_cons_of_concerns (hconcerns.mpr hid)
    refine ⟨⟨_, hstamp, ⟨rfl, hclaims.email, hclaims.tenantId, hclaims.role⟩, ?_, ?_⟩, hall⟩
    · intro a' ha'
      obtain rfl := Option.some.inj (hlatest.symm.trans ha')
      exact hleft
    · intro habsent
      exact absurd (hlatest.symm.trans habsent) (by simp)
  · have hlatest : latest base.id (a :: saves) = latest base.id saves :=
      latest_cons_other fun hc => hid (hconcerns.mp hc)
    refine ⟨⟨row, (UserTable.findById_save_of_ne hsave (Ne.symm hid)).trans hrow, hsame, ?_, ?_⟩, hall⟩
    · rwa [hlatest]
    · rwa [hlatest]

/-- What one step does to the user's row and to the record, and what its call knows after it. -/
lemma kept_move (h : RowKept env base s.users saves) (hc : c.Kept env base)
    (hmove : AuthMove env s c s' c') :
    RowKept env base s'.users (c'.saves ++ saves) ∧ c'.Kept env base := by
  cases hmove with
  | accept hguard => exact ⟨h, fun hid => h.sameClaims (guard_row hguard) hid⟩
  | handle lags salt => exact ⟨h, kept_prepare hc _ _ lags salt _⟩
  | load salt hload => exact ⟨h, kept_load h hc hload⟩
  | save hsave => exact ⟨h.save hc (save_ok.mp hsave), hc.1⟩
  | answer => exact ⟨h, hc⟩
  | _ => exact ⟨h, trivial⟩

def keptOutline (env : AuthEnv) (base : User) : Outline (recordedSystem env base.id) where
  inv s := RowKept env base s.1.users s.2
  asserts _ c := c.Kept env base
  start := by
    rintro s c - ⟨o, ho, rfl⟩
    cases o with
    | request r => exact trivial
    | updateUser id dto =>
      have hid : id ≠ base.id := by
        rintro rfl
        exact ho dto rfl
      exact ⟨hid, iff_of_false Bool.false_ne_true hid, fun h => absurd h hid⟩
  ambient := by
    rintro ⟨s, saves⟩ ⟨s', saves'⟩ h ⟨⟨later, -, rfl⟩, hsaves⟩
    obtain rfl : saves' = saves := hsaves
    exact ⟨h, fun c hc => hc⟩
  move := by
    rintro ⟨s, saves⟩ c ⟨s', saves'⟩ c' h hc ⟨hmove, hsaves⟩
    obtain rfl : saves' = c'.saves ++ saves := hsaves
    exact kept_move h hc hmove
  frame := fun _ _ hd _ _ _ => ⟨hd, trivial⟩

theorem keptOutline_run {users : UserTable} (hbase : users.findById base.id = some base)
    (hclosed : base.refreshTokenHash = none) {start : ℕ} {p : Pool (AuthState × List Answer) Call}
    (hrun : Run (recordedSystem env base.id) ⟨(⟨users, start, [], []⟩, []), []⟩ p) :
    (keptOutline env base).Holds p := by
  refine (keptOutline env base).holds_run ((keptOutline env base).holds_empty ⟨?_, by simp⟩) hrun
  exact ⟨base, hbase, ⟨rfl, rfl, rfl, rfl⟩, fun a ha => absurd ha (by simp [latest]), fun _ => hclosed⟩

lemma solo_recorded {u : ℕ} {b : (AuthState × List Answer) × Call} (hmove : AuthMove env s c s' c')
    (hb : Solo (recordedSystem env u) ((s', c'.saves ++ saves), c') b) :
    Solo (recordedSystem env u) ((s, saves), c) b := by
  have hrecorded : (recordedSystem env u).move (s, saves) c (s', c'.saves ++ saves) c' := ⟨hmove, rfl⟩
  exact solo_cons hrecorded hb

lemma concerns_of_latest {u : ℕ} {a : Answer} (h : latest u saves = some a) : a.concerns u = true :=
  List.find?_some h

/-- In a table whose row is kept: all refresh tokens of the user live and die together. -/
lemma RowKept.accepts_iff (hjwt : env.jwt.Documented) (hbcrypt : env.bcrypt.Documented) {users : UserTable}
    (h : RowKept env base users saves) (now iat : ℕ) :
    Accepts env users now base.id
        (env.jwt.sign env.jwtRefreshSecret (base.claims iat env.refreshExpiration)) ↔
      SignedIn base.id saves ∧ now / 1000 < iat + env.refreshExpiration := by
  obtain ⟨row, hrow, hsame, hleaves, hnone⟩ := h.row
  constructor
  · rintro ⟨user, -, hguard⟩
    obtain ⟨-, c, hverify, huser, hash, hhash, -, -⟩ := jwtRefreshGuard_ok.mp hguard
    obtain ⟨hdecode, hfresh⟩ := Jsonwebtoken.verify_eq_some.mp hverify
    obtain rfl := Option.some.inj ((hjwt.decode_sign _ _).symm.trans hdecode)
    obtain rfl : row = user := Option.some.inj (hrow.symm.trans huser)
    refine ⟨?_, hfresh⟩
    cases hlatest : latest base.id saves with
    | none => exact absurd ((hnone hlatest).symm.trans hhash) (by simp)
    | some a =>
      have hleft := hleaves a hlatest
      have hconcerns := concerns_of_latest hlatest
      cases a with
      | session user tokens body cookies =>
        exact ⟨_, hlatest, tokens, if_pos (of_decide_eq_true hconcerns)⟩
      | loggedOut user cookies => exact absurd (hleft.symm.trans hhash) (by simp)
      | updated id => exact hleft.elim
  · rintro ⟨⟨a, hlatest, tokens, htokens⟩, hfresh⟩
    have hleft := hleaves a hlatest
    have hissued := h.issued a (List.mem_of_find?_eq_some hlatest)
    cases a with
    | session user issued body cookies =>
      obtain ⟨salt, hhash⟩ := hleft
      obtain ⟨⟨signedAt, lags, rfl⟩, -⟩ := hissued (of_decide_eq_true (concerns_of_latest hlatest))
      refine ⟨row, hsame.id, jwtRefreshGuard_ok.mpr ⟨env.jwt.sign_ne_empty _ _, _,
        Jsonwebtoken.verify_eq_some.mpr ⟨hjwt.decode_sign _ _, hfresh⟩, hrow, _, hhash,
        hbcrypt.hash_ne_empty _ _, ?_⟩⟩
      rw [hbcrypt.compare_hash]
      exact env.jwt.sign_take_72 env.jwtRefreshSecret rfl rfl
    | loggedOut user cookies => exact absurd htokens (by simp [Answer.session?])
    | updated id => exact absurd htokens (by simp [Answer.session?])

/-- In every state of every interleaving a refresh token of a user is accepted exactly while it
is unexpired and the latest write to the user's row is that of a login or a refresh. -/
theorem refreshToken_accepted_iff (hjwt : env.jwt.Documented) (hbcrypt : env.bcrypt.Documented)
    {users : UserTable} (hbase : users.findById base.id = some base) (hclosed : base.refreshTokenHash = none)
    {start : ℕ} {p : Pool (AuthState × List Answer) Call}
    (hrun : Run (recordedSystem env base.id) ⟨(⟨users, start, [], []⟩, []), []⟩ p) (iat : ℕ) :
    Accepts env p.shared.1.users p.shared.1.now base.id
        (env.jwt.sign env.jwtRefreshSecret (base.claims iat env.refreshExpiration)) ↔
      SignedIn base.id p.shared.2 ∧ p.shared.1.now / 1000 < iat + env.refreshExpiration := by
  have hkept : RowKept env base p.shared.1.users p.shared.2 := (keptOutline_run hbase hclosed hrun).inv
  exact hkept.accepts_iff hjwt hbcrypt p.shared.1.now iat

end Kept

namespace Sample

noncomputable def loginAnswer : Answer :=
  AuthService.login.answer (env Bcrypt.firstBytes) user
    (AuthService.generateTokens (env Bcrypt.firstBytes) user 0 {})

lemma recorded_login : ∃ p, Run (recordedSystem (env Bcrypt.firstBytes) user.id)
      ⟨(⟨users, 0, [], []⟩, []), []⟩ p ∧ p.shared.1.now = 0 ∧ p.shared.2 = [loginAnswer] ∧
    p.threads = [⟨login, .answered loginAnswer⟩] := by
  have hguard : (Request.login "ana@shop.ro" "pw").guard (env Bcrypt.firstBytes) users 0 = .ok user := rfl
  have hload : UserService.updateUser.load ((env Bcrypt.firstBytes).bcrypt.hash "salt") users user.id
      (AuthService.storeToken (env Bcrypt.firstBytes)
        (AuthService.generateTokens (env Bcrypt.firstBytes) user 0 {}) "salt") = .ok _ := load_eq rfl rfl
  have hknows : users.Knows (user.merge (AuthService.storeToken (env Bcrypt.firstBytes)
      (AuthService.generateTokens (env Bcrypt.firstBytes) user 0 {}) "salt")).id user.email :=
    ⟨user, rfl, rfl⟩
  obtain ⟨users', hsave⟩ := UserTable.save_of_knows hknows 0
  have hstart : Run (recordedSystem (env Bcrypt.firstBytes) user.id) ⟨(⟨users, 0, [], []⟩, []), []⟩
      ⟨(⟨users, 0, [], []⟩, []), [Call.start login]⟩ := .single (.start ⟨login, by simp [login], rfl⟩)
  have hsolo : Solo (recordedSystem (env Bcrypt.firstBytes) user.id)
      ((⟨users, 0, [], []⟩, []), Call.start login) (_, ⟨login, .answered loginAnswer⟩) :=
    solo_recorded (AuthMove.accept hguard) (solo_recorded (AuthMove.handle {} "salt")
      (solo_recorded (AuthMove.load "salt" hload) (solo_recorded (AuthMove.save (save_ok.mpr hsave))
        (solo_recorded AuthMove.answer .refl))))
  exact ⟨_, hstart.trans (run_solo (i := 0) hsolo rfl fun _ _ _ _ _ _ => trivial), rfl, rfl, rfl⟩

end Sample

open Sample in
theorem refreshToken_accepted_iff_login : ∃ p, Run (recordedSystem (env Bcrypt.firstBytes) user.id)
      ⟨(⟨users, 0, [], []⟩, []), []⟩ p ∧
    Accepts (env Bcrypt.firstBytes) p.shared.1.users 0 user.id
      ((env Bcrypt.firstBytes).jwt.sign "refresh" (user.claims 0 604800)) := by
  obtain ⟨p, hrun, hnow, hsaves, -⟩ := recorded_login
  have hiff := refreshToken_accepted_iff (Jsonwebtoken.reference_documented _) Bcrypt.reference_documented
    rfl rfl hrun 0
  rw [hnow, hsaves] at hiff
  exact ⟨p, hrun, hiff.mpr ⟨⟨loginAnswer, rfl, _, rfl⟩, by decide⟩⟩

end NextLevelApi
