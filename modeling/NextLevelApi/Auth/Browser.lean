import NextLevelApi.Auth.SignedIn
import NextLevelApi.Library.CookieJar

/-!
# A browser and its session

What a browser that has received some answers sends next, and what it is answered. A cookie
lives at least as long as the token in it, since its expiry is read from the clock after the
token has been signed; and the refresh token goes to the paths under `/auth` only.
-/

namespace NextLevelApi
open ThreadPool CookieJar

def Cookie.toSetCookie (cookie : Cookie) : SetCookie where
  name := cookie.name
  value := cookie.value
  path := cookie.path
  -- a cookie is cleared by `expires: new Date(1)`
  expires := cookie.expires.getD 1 / 1000
  secure := cookie.secure
  httpOnly := cookie.httpOnly
  lax := cookie.sameSite = "lax"

def Answer.cookies : Answer → List Cookie
  | .session _ _ _ cookies => cookies
  | .loggedOut _ cookies => cookies
  | .updated _ => []

/-- The jar of a browser that has received these answers at these times, the latest first. -/
def receivedJar : List (ℕ × Answer) → Jar
  | [] => .empty
  | (now, a) :: received => (receivedJar received).storeAll now (a.cookies.map Cookie.toSetCookie)

/-- `request.cookies[name]`, a missing cookie being the empty token. -/
def sentToken (jar : Jar) (now : ℕ) (target : Target) (name : String) : String :=
  (jar.read now target name).getD ""

/-- The body of `GET /auth/status`: the payload of an access token has only four of its fields. -/
structure StatusDto where
  id : ℕ
  email : String
  firstName : Option String
  lastName : Option String
  role : String
  tenantId : ℕ
  createdAt : Option ℕ
  updatedAt : Option ℕ
  deriving DecidableEq

def AuthController.status (user : Claims) : StatusDto where
  id := user.id
  email := user.email
  firstName := none
  lastName := none
  role := user.role
  tenantId := user.tenantId
  createdAt := none
  updatedAt := none

/-- `GET /auth/status` with its guards. -/
def AuthController.getStatus (env : AuthEnv) (overLimit : Bool) (now : ℕ) (token : String) :
    Except Exception StatusDto := do
  let user ← requestUser env overLimit now token
  return AuthController.status user

/-- A request that takes the cookies of this deployment along: in production one over https, and
elsewhere one of a page of the same site or a navigation. -/
def AuthEnv.Takes (env : AuthEnv) (target : Target) : Prop :=
  if env.isProd then target.https = true else (target.sameSite || target.navigation) = true

/-- The latest answer that the browser has received opened a session of the user, with tokens that
say they were issued in these seconds. -/
def HoldsSession (env : AuthEnv) (base : User) (received : List (ℕ × Answer)) (accessIat refreshIat : ℕ) :
    Prop :=
  ∃ moment user tokens body cookies, received.head? = some (moment, .session user tokens body cookies) ∧
    tokens.accessToken = env.jwt.sign env.jwtSecret (base.claims accessIat env.accessExpiration) ∧
    tokens.refreshToken = env.jwt.sign env.jwtRefreshSecret (base.claims refreshIat env.refreshExpiration)

/-- Answers that calls of the pool have given, to whatever user. -/
def Received (p : Pool AuthState Call) (received : List (ℕ × Answer)) : Prop :=
  ∀ e ∈ received, e.1 ≤ p.shared.now ∧ ∃ o, ⟨o, .answered e.2⟩ ∈ p.threads

/-- The two cookies that `AuthService` sets and clears. -/
structure AuthCookie (env : AuthEnv) (c : SetCookie) : Prop where
  key : (c.name = "access_token" ∧ c.path = "/") ∨ (c.name = "refresh_token" ∧ c.path = "/auth")
  httpOnly : c.httpOnly = true
  secure : c.secure = env.isProd
  lax : c.lax = !env.isProd

structure Answer.SetsCookies (env : AuthEnv) (a : Answer) : Prop where
  authCookies : ∀ c ∈ a.cookies.map Cookie.toSetCookie, AuthCookie env c
  names : (a.cookies.map Cookie.toSetCookie).Pairwise fun c d => c.name ≠ d.name

/-- The answer that a call has ready sets none but the two cookies. -/
def Call.SetsCookies (env : AuthEnv) : Call → Prop
  | ⟨_, .updating _ _ a⟩ => a.SetsCookies env
  | ⟨_, .loaded _ a⟩ => a.SetsCookies env
  | ⟨_, .saved a⟩ => a.SetsCookies env
  | ⟨_, .answered a⟩ => a.SetsCookies env
  | _ => True

section Browser

variable {env : AuthEnv} {base : User} {a : Answer} {received : List (ℕ × Answer)} {now moment : ℕ}
  {target : Target}

lemma authCookie_cookie (name value : String) (expires : Option ℕ) (path : String)
    (hkey : (name = "access_token" ∧ path = "/") ∨ (name = "refresh_token" ∧ path = "/auth")) :
    AuthCookie env (AuthService.cookie env name value expires path).toSetCookie := by
  refine ⟨hkey, rfl, rfl, ?_⟩
  cases h : env.isProd <;> simp [Cookie.toSetCookie, AuthService.cookie, h]

lemma AuthCookie.path_eq {c d : SetCookie} (hc : AuthCookie env c) (hd : AuthCookie env d)
    (h : c.name = d.name) : c.path = d.path := by
  rcases hc.key with ⟨hcName, hcPath⟩ | ⟨hcName, hcPath⟩ <;>
    rcases hd.key with ⟨hdName, hdPath⟩ | ⟨hdName, hdPath⟩
  · rw [hcPath, hdPath]
  · exact absurd (hcName.symm.trans (h.trans hdName)) (by decide)
  · exact absurd (hcName.symm.trans (h.trans hdName)) (by decide)
  · rw [hcPath, hdPath]

lemma AuthCookie.goes_iff {c : SetCookie} (hc : AuthCookie env c) (htarget : env.Takes target) :
    c.Goes now target ↔ c.Live now ∧ PathMatches c.path target.path := by
  unfold AuthEnv.Takes at htarget
  cases hprod : env.isProd <;> simp [hprod] at htarget <;>
    simp [SetCookie.Goes, hc.secure, hc.lax, hprod, htarget]

lemma setsCookies_pair {x y : Cookie} (hx : AuthCookie env x.toSetCookie) (hy : AuthCookie env y.toSetCookie)
    (hne : x.name ≠ y.name) (hcookies : a.cookies = [x, y]) : a.SetsCookies env := by
  refine ⟨?_, ?_⟩
  · simp only [hcookies, List.map_cons, List.map_nil, List.forall_mem_cons]
    exact ⟨hx, hy, by simp⟩
  · simpa [hcookies, Cookie.toSetCookie] using hne

lemma setsCookies_prepare (user : User) (now : ℕ) (lags : Lags) (salt : String) (r : Request) :
    (r.prepare env user now lags salt).2.SetsCookies env := by
  have haccess : ∀ value expires,
      AuthCookie env (AuthService.cookie env "access_token" value expires "/").toSetCookie :=
    fun value expires => authCookie_cookie _ _ _ _ (.inl ⟨rfl, rfl⟩)
  have hrefresh : ∀ value expires,
      AuthCookie env (AuthService.cookie env "refresh_token" value expires "/auth").toSetCookie :=
    fun value expires => authCookie_cookie _ _ _ _ (.inr ⟨rfl, rfl⟩)
  have hne : "access_token" ≠ "refresh_token" := by decide
  cases r with
  | login email password => exact setsCookies_pair (haccess _ _) (hrefresh _ _) hne rfl
  | refresh token => exact setsCookies_pair (hrefresh _ _) (haccess _ _) hne.symm rfl
  | logout token => exact setsCookies_pair (haccess _ _) (hrefresh _ _) hne rfl

def cookieOutline (env : AuthEnv) (admits : Operation → Prop) : Outline (authSystem env admits) where
  inv _ := True
  asserts _ c := c.SetsCookies env
  start := by
    rintro s c - ⟨o, -, rfl⟩
    cases o with
    | request r => exact trivial
    | updateUser id dto => exact ⟨by simp [Answer.cookies], by simp [Answer.cookies]⟩
  ambient := fun _ _ => ⟨trivial, fun _ hc => hc⟩
  move := by
    intro s c s' c' _ hc hmove
    refine ⟨trivial, ?_⟩
    cases hmove with
    | handle lags salt => exact setsCookies_prepare _ _ lags salt _
    | load salt hload => exact hc
    | save hsave => exact hc
    | answer => exact hc
    | _ => exact trivial
  frame := fun _ _ hd _ _ _ => ⟨hd, trivial⟩

/-- Whatever calls of a run have answered, and to whom, sets none but the two cookies. -/
lemma Received.setsCookies {admits : Operation → Prop} {s : AuthState} {p : Pool AuthState Call}
    (hrun : Run (authSystem env admits) ⟨s, []⟩ p) (h : Received p received) :
    ∀ e ∈ received, e.2.SetsCookies env := by
  intro e he
  have hholds := (cookieOutline env admits).holds_run ((cookieOutline env admits).holds_empty trivial) hrun
  obtain ⟨-, o, hcall⟩ := h e he
  obtain ⟨i, hi⟩ := List.mem_iff_getElem?.mp hcall
  exact hholds.asserts hi

/-- Whatever a browser has received, its jar holds the two cookies with their own paths. -/
lemma receivedJar_authCookies (h : ∀ e ∈ received, e.2.SetsCookies env) :
    ∀ c ∈ (receivedJar received).cookies, AuthCookie env c := by
  induction received with
  | nil => exact fun c hc => absurd hc (by simp [receivedJar, Jar.empty])
  | cons e received ih =>
    obtain ⟨hsets, hreceived⟩ := List.forall_mem_cons.mp h
    exact Jar.storeAll_all (ih hreceived) hsets.authCookies

/-- A cookie of the latest answer is read exactly while it lives, where its path goes. -/
lemma read_receivedJar (htarget : env.Takes target) (hle : moment ≤ now)
    (h : ∀ e ∈ (moment, a) :: received, e.2.SetsCookies env) {cookie : Cookie}
    (hcookie : cookie ∈ a.cookies) :
    (receivedJar ((moment, a) :: received)).read now target cookie.name =
      if cookie.toSetCookie.Live now ∧ PathMatches cookie.path target.path then some cookie.value
      else none := by
  obtain ⟨⟨hcookies, hnames⟩, hreceived⟩ := List.forall_mem_cons.mp h
  have hjar := receivedJar_authCookies hreceived
  have hmem := List.mem_map_of_mem (f := Cookie.toSetCookie) hcookie
  have hread : (receivedJar ((moment, a) :: received)).read now target cookie.name =
      if cookie.toSetCookie.Goes now target then some cookie.value else none :=
    Jar.read_storeAll (fun c hc d hd hname => (hjar c hc).path_eq (hcookies d hd) hname) hnames hmem hle
  rw [hread]
  exact if_congr ((hcookies _ hmem).goes_iff htarget) rfl rfl

lemma sentToken_eq (htarget : env.Takes target) (hle : moment ≤ now)
    (h : ∀ e ∈ (moment, a) :: received, e.2.SetsCookies env) {cookie : Cookie}
    (hcookie : cookie ∈ a.cookies) (hpath : PathMatches cookie.path target.path) :
    sentToken (receivedJar ((moment, a) :: received)) now target cookie.name =
      if cookie.toSetCookie.Live now then cookie.value else "" := by
  rw [sentToken, read_receivedJar htarget hle h hcookie]
  by_cases hlive : cookie.toSetCookie.Live now
  · rw [if_pos ⟨hlive, hpath⟩, if_pos hlive, Option.getD_some]
  · rw [if_neg fun hboth => hlive hboth.1, if_neg hlive, Option.getD_none]

/-- The token that a browser sends under the name of one of the two cookies, if the latest answer
was one to the user: that of its session as long as the cookie lives, and none otherwise. -/
lemma sentToken_cases (htarget : env.Takes target) {name : String} (cookieOf : Tokens → Cookie)
    (hname : ∀ tokens, (cookieOf tokens).name = name)
    (hset : ∀ tokens, cookieOf tokens = AuthService.accessCookie env tokens ∨
      cookieOf tokens = AuthService.refreshCookie env tokens)
    (hpath : ∀ tokens, PathMatches (cookieOf tokens).path target.path)
    (h : ∀ e ∈ received, e.2.SetsCookies env)
    (hlatest : ∀ e ∈ received.head?, e.1 ≤ now ∧ e.2.Issued env base ∧ e.2.concerns base.id = true) :
    (∃ moment user signedAt lags body cookies, received.head? = some (moment,
        .session user (AuthService.generateTokens env base signedAt lags) body cookies) ∧
      sentToken (receivedJar received) now target name =
        if (cookieOf (AuthService.generateTokens env base signedAt lags)).toSetCookie.Live now
        then (cookieOf (AuthService.generateTokens env base signedAt lags)).value else "") ∨
    ((∀ accessIat refreshIat, ¬HoldsSession env base received accessIat refreshIat) ∧
      sentToken (receivedJar received) now target name = "") := by
  cases received with
  | nil =>
    refine .inr ⟨fun _ _ ⟨_, _, _, _, _, hhead, _⟩ => absurd hhead (by simp), ?_⟩
    rw [sentToken, receivedJar, Jar.read_eq_none fun c hc => absurd hc (by simp [Jar.empty]),
      Option.getD_none]
  | cons e received =>
    obtain ⟨moment, a⟩ := e
    obtain ⟨hle, hissued, hconcerns⟩ := hlatest _ rfl
    cases a with
    | session user tokens body cookies =>
      obtain ⟨⟨signedAt, lags, rfl⟩, hcookies⟩ := hissued (of_decide_eq_true hconcerns)
      have hmem : cookieOf (AuthService.generateTokens env base signedAt lags) ∈ cookies := by
        rcases hcookies with rfl | rfl <;>
          rcases hset (AuthService.generateTokens env base signedAt lags) with hcookie | hcookie <;>
          simp [hcookie]
      have hsent := sentToken_eq htarget hle h hmem (hpath _)
      rw [hname] at hsent
      exact .inl ⟨moment, user, signedAt, lags, body, cookies, rfl, hsent⟩
    | loggedOut user cookies =>
      refine .inr ⟨fun _ _ ⟨_, _, _, _, _, hhead, _⟩ => absurd hhead (by simp), ?_⟩
      let tokens := AuthService.generateTokens env base 0 {}
      have hmem : AuthService.cookie env (cookieOf tokens).name "" none (cookieOf tokens).path ∈ cookies := by
        obtain rfl := hissued
        rcases hset tokens with hcookie | hcookie <;>
          simp [hcookie, AuthService.accessCookie, AuthService.refreshCookie, AuthService.cookie]
      have hsent := sentToken_eq htarget hle h hmem (hpath tokens)
      rw [if_neg (by simp [SetCookie.Live, Cookie.toSetCookie, AuthService.cookie])] at hsent
      rw [← hname tokens]
      exact hsent
    | updated id => exact absurd hconcerns (by simp [Answer.concerns])

/-- A session is held with the tokens of the latest answer, and what they say is their own. -/
lemma holdsSession_iff (hjwt : env.jwt.Documented) {user : User} {signedAt : ℕ} {lags : Lags}
    {body : LoginResponseDto} {cookies : List Cookie}
    (hhead : received.head? = some (moment,
      .session user (AuthService.generateTokens env base signedAt lags) body cookies))
    (accessIat refreshIat : ℕ) : HoldsSession env base received accessIat refreshIat ↔
      accessIat = (signedAt - lags.access) / 1000 ∧ refreshIat = signedAt / 1000 := by
  constructor
  · rintro ⟨moment', user', tokens, body', cookies', hhead', haccess, hrefresh⟩
    obtain ⟨-, rfl, -, -⟩ := Answer.session.inj
      (Prod.mk.inj (Option.some.inj (hhead.symm.trans hhead'))).2
    exact ⟨(congrArg Claims.iat (hjwt.sign_inj haccess)).symm,
      (congrArg Claims.iat (hjwt.sign_inj hrefresh)).symm⟩
  · rintro ⟨rfl, rfl⟩
    exact ⟨moment, user, _, body, cookies, hhead, rfl, rfl⟩

/-- The expiry of the access cookie is read after its token has been signed. -/
lemma accessCookie_live {signedAt : ℕ} {lags : Lags}
    (h : now / 1000 < (signedAt - lags.access) / 1000 + env.accessExpiration) :
    (AuthService.accessCookie env
      (AuthService.generateTokens env base signedAt lags)).toSetCookie.Live now := by
  have hexpires : (AuthService.accessCookie env
      (AuthService.generateTokens env base signedAt lags)).toSetCookie.expires =
      (signedAt + lags.accessExpires) / 1000 + env.accessExpiration :=
    Nat.add_mul_div_right _ _ (by decide)
  rw [SetCookie.Live, hexpires]
  omega

lemma refreshCookie_live {signedAt : ℕ} {lags : Lags}
    (h : now / 1000 < signedAt / 1000 + env.refreshExpiration) :
    (AuthService.refreshCookie env
      (AuthService.generateTokens env base signedAt lags)).toSetCookie.Live now := by
  have hexpires : (AuthService.refreshCookie env
      (AuthService.generateTokens env base signedAt lags)).toSetCookie.expires =
      (signedAt + lags.refreshExpires) / 1000 + env.refreshExpiration :=
    Nat.add_mul_div_right _ _ (by decide)
  rw [SetCookie.Live, hexpires]
  omega

lemma getStatus_ok {overLimit : Bool} {token : String} {dto : StatusDto} :
    AuthController.getStatus env overLimit now token = .ok dto ↔
      overLimit = false ∧ ∃ c, JwtGuard env now token = .ok c ∧ dto = AuthController.status c := by
  unfold AuthController.getStatus
  simp only [Fallible.bind_eq_ok, requestUser_ok, pure, Except.pure, Except.ok.injEq]
  constructor
  · rintro ⟨c, ⟨hlimit, hguard⟩, rfl⟩
    exact ⟨hlimit, c, hguard, rfl⟩
  · rintro ⟨hlimit, c, hguard, rfl⟩
    exact ⟨c, ⟨hlimit, hguard⟩, rfl⟩

lemma jwtGuard_empty (c : Claims) : JwtGuard env now "" ≠ .ok c := by
  rw [jwtGuard_eq]
  simp [AuthEnv.payload]

/-- What the browser is shown by `GET /auth/status`, given which token it sends. -/
lemma getStatus_signed (hjwt : env.jwt.Documented) {iat : ℕ} {overLimit : Bool} {dto : StatusDto} :
    AuthController.getStatus env overLimit now
        (env.jwt.sign env.jwtSecret (base.claims iat env.accessExpiration)) = .ok dto ↔
      overLimit = false ∧ now / 1000 < iat + env.accessExpiration ∧
        dto = ⟨base.id, base.email, none, none, base.role, base.tenantId, none, none⟩ := by
  rw [getStatus_ok, jwtGuard_sign hjwt]
  refine and_congr_right fun _ => ?_
  have hexp : (base.claims iat env.accessExpiration).exp = iat + env.accessExpiration := rfl
  rw [hexp]
  by_cases hfresh : now / 1000 < iat + env.accessExpiration
  · simp only [hfresh, if_true, true_and, Except.ok.injEq]
    constructor
    · rintro ⟨c, rfl, rfl⟩
      rfl
    · rintro rfl
      exact ⟨_, rfl, rfl⟩
  · simp [hfresh]

/-- The latest answer that a browser has received, if it was one to the user, is what a row that is
kept lets it be. -/
lemma Received.latest {p : Pool (AuthState × List Answer) Call} (hkept : (keptOutline env base).Holds p)
    (h : Received p.unwatched received) (hlatest : ∀ e ∈ received.head?, e.2.concerns base.id = true) :
    ∀ e ∈ received.head?, e.1 ≤ p.shared.1.now ∧ e.2.Issued env base ∧ e.2.concerns base.id = true := by
  intro e he
  obtain ⟨hle, o, hcall⟩ := h e (List.mem_of_mem_head? he)
  obtain ⟨i, hi⟩ := List.mem_iff_getElem?.mp hcall
  have hissued : Call.Kept env base ⟨o, .answered e.2⟩ := hkept.asserts hi
  exact ⟨hle, hissued, hlatest e he⟩

section Session

variable {users : UserTable} {start : ℕ} {p : Pool (AuthState × List Answer) Call}

/-- At every moment of every interleaving: a browser whose latest answer was one to a user is
recognised until the access token of that answer expires, as long as it keeps within the limit,
and can refresh until the refresh token does, unless a later write to the user's row was that of
a logout. -/
theorem browser_session (hjwt : env.jwt.Documented) (hbcrypt : env.bcrypt.Documented)
    (hbase : users.findById base.id = some base) (hclosed : base.refreshTokenHash = none)
    (hrun : Run (recordedSystem env base.id) ⟨(⟨users, start, [], []⟩, []), []⟩ p)
    (hreceived : Received p.unwatched received)
    (hlatest : ∀ e ∈ received.head?, e.2.concerns base.id = true) (htarget : env.Takes target) :
    (∀ overLimit dto, AuthController.getStatus env overLimit p.shared.1.now
          (sentToken (receivedJar received) p.shared.1.now target "access_token") = .ok dto ↔
        overLimit = false ∧ (∃ accessIat refreshIat, HoldsSession env base received accessIat refreshIat ∧
          p.shared.1.now / 1000 < accessIat + env.accessExpiration) ∧
        dto = ⟨base.id, base.email, none, none, base.role, base.tenantId, none, none⟩) ∧
    (PathMatches "/auth" target.path →
      (Accepts env p.shared.1.users p.shared.1.now base.id
          (sentToken (receivedJar received) p.shared.1.now target "refresh_token") ↔
        SignedIn base.id p.shared.2 ∧ ∃ accessIat refreshIat,
          HoldsSession env base received accessIat refreshIat ∧
          p.shared.1.now / 1000 < refreshIat + env.refreshExpiration)) := by
  have hkept := keptOutline_run hbase hclosed hrun
  have hsets := hreceived.setsCookies (run_unwatched hrun)
  have hissued := hreceived.latest hkept hlatest
  constructor
  · intro overLimit dto
    have hroot : ∀ tokens, PathMatches (AuthService.accessCookie env tokens).path target.path :=
      fun tokens => pathMatches_root target
    have hempty : AuthController.getStatus env overLimit p.shared.1.now "" ≠ .ok dto := by
      intro h
      obtain ⟨-, c, hguard, -⟩ := getStatus_ok.mp h
      exact jwtGuard_empty c hguard
    rcases sentToken_cases htarget (AuthService.accessCookie env) (fun _ => rfl) (fun _ => .inl rfl) hroot
        hsets hissued with
      ⟨moment, user, signedAt, lags, body, cookies, hhead, hsent⟩ | ⟨hnone, hsent⟩
    · simp only [holdsSession_iff hjwt hhead, and_assoc, exists_and_left, exists_eq_left]
      rw [hsent]
      split
      · exact getStatus_signed hjwt
      · next hdead => exact iff_of_false hempty fun h => hdead (accessCookie_live h.2.1)
    · rw [hsent]
      refine iff_of_false hempty ?_
      rintro ⟨-, ⟨_, _, hholds, -⟩, -⟩
      exact hnone _ _ hholds
  · intro hpath
    have hrow : RowKept env base p.shared.1.users p.shared.2 := hkept.inv
    have hauth : ∀ tokens, PathMatches (AuthService.refreshCookie env tokens).path target.path :=
      fun tokens => hpath
    have hempty : ¬Accepts env p.shared.1.users p.shared.1.now base.id "" := by
      rintro ⟨row, -, hguard⟩
      exact (jwtRefreshGuard_ok.mp hguard).1 rfl
    rcases sentToken_cases htarget (AuthService.refreshCookie env) (fun _ => rfl) (fun _ => .inr rfl) hauth
        hsets hissued with
      ⟨moment, user, signedAt, lags, body, cookies, hhead, hsent⟩ | ⟨hnone, hsent⟩
    · simp only [holdsSession_iff hjwt hhead, and_assoc, exists_and_left, exists_eq_left]
      rw [hsent]
      split
      · exact hrow.accepts_iff hjwt hbcrypt _ _
      · next hdead => exact iff_of_false hempty fun h => hdead (refreshCookie_live h.2)
    · rw [hsent]
      refine iff_of_false hempty ?_
      rintro ⟨-, _, _, hholds, -⟩
      exact hnone _ _ hholds

end Session

/-- Where the tokens go, whatever answers to whatever users a browser has received and whatever it
requests: the refresh token to the paths under `/auth` only, neither token over plain http in
production or along with what pages of other sites request elsewhere, top-level navigations
apart, and neither to a script. -/
theorem tokens_confined {admits : Operation → Prop} {s : AuthState} {p : Pool AuthState Call}
    (hrun : Run (authSystem env admits) ⟨s, []⟩ p) (hreceived : Received p received) :
    (∀ now target, sentToken (receivedJar received) now target "refresh_token" ≠ "" →
      target.path = "/auth" ∨ "/auth/".toList <+: target.path.toList) ∧
    (∀ now target, (receivedJar received).header now target ≠ [] → env.Takes target) ∧
    (receivedJar received).scriptable = [] := by
  have hjar := receivedJar_authCookies (hreceived.setsCookies hrun)
  refine ⟨fun now target hsent => ?_, fun now target hheader => ?_, ?_⟩
  · have hauth : PathMatches "/auth" target.path ↔
        target.path = "/auth" ∨ "/auth/".toList <+: target.path.toList := pathMatches_iff (by decide)
    rw [← hauth]
    by_contra hpath
    refine hsent ?_
    rw [sentToken, Jar.read_eq_none fun c hc hname hgoes => hpath ?_, Option.getD_none]
    rcases (hjar c hc).key with ⟨haccess, -⟩ | ⟨-, hauth⟩
    · exact absurd (haccess.symm.trans hname) (by decide)
    · exact hauth ▸ hgoes.2.1
  · obtain ⟨c, hc⟩ := List.exists_mem_of_ne_nil _ hheader
    obtain ⟨hmem, -, -, hsecure, hlax⟩ := Jar.mem_header.mp hc
    rw [(hjar c hmem).secure] at hsecure
    rw [(hjar c hmem).lax] at hlax
    unfold AuthEnv.Takes
    cases hprod : env.isProd <;> simp_all
  · refine List.filter_eq_nil_iff.mpr fun c hc => ?_
    simp [(hjar c hc).httpOnly]

end Browser

namespace Sample

def refreshTarget : Target := ⟨"/auth/refresh", by decide, true, true, false⟩

lemma received_login {p : Pool (AuthState × List Answer) Call}
    (hthreads : p.threads = [⟨login, .answered loginAnswer⟩]) : Received p.unwatched [(0, loginAnswer)] := by
  intro e he
  obtain rfl := List.mem_singleton.mp he
  exact ⟨Nat.zero_le _, login, by simp [Pool.unwatched, hthreads]⟩

end Sample

open Sample in
theorem browser_session_login : ∃ p, Run (recordedSystem (env Bcrypt.firstBytes) user.id)
      ⟨(⟨users, 0, [], []⟩, []), []⟩ p ∧
    AuthController.getStatus (env Bcrypt.firstBytes) false 0
      (sentToken (receivedJar [(0, loginAnswer)]) 0 refreshTarget "access_token") =
        .ok ⟨1, "ana@shop.ro", none, none, "user", 1, none, none⟩ ∧
    Accepts (env Bcrypt.firstBytes) p.shared.1.users 0 user.id
      (sentToken (receivedJar [(0, loginAnswer)]) 0 refreshTarget "refresh_token") := by
  obtain ⟨p, hrun, hnow, hsaves, hthreads⟩ := recorded_login
  have hholds : HoldsSession (env Bcrypt.firstBytes) user [(0, loginAnswer)] 0 0 :=
    ⟨_, _, _, _, _, rfl, rfl, rfl⟩
  have hlatest : ∀ e ∈ [(0, loginAnswer)].head?, e.2.concerns user.id = true := by
    rintro e ⟨⟩
    rfl
  obtain ⟨hstatus, hrefresh⟩ := browser_session (Jsonwebtoken.reference_documented _)
    Bcrypt.reference_documented rfl rfl hrun (received_login hthreads) hlatest
    (show (env Bcrypt.firstBytes).Takes refreshTarget from rfl)
  rw [hnow] at hstatus hrefresh
  rw [hsaves] at hrefresh
  exact ⟨p, hrun, (hstatus _ _).mpr ⟨rfl, ⟨0, 0, hholds, by decide⟩, rfl⟩,
    (hrefresh (by decide)).mpr ⟨⟨loginAnswer, rfl, _, rfl⟩, 0, 0, hholds, by decide⟩⟩

open Sample in
theorem tokens_confined_login : ∃ p,
    Run (authSystem (env Bcrypt.firstBytes) fun o => ∀ dto, o ≠ .updateUser user.id dto)
      ⟨⟨users, 0, [], []⟩, []⟩ p ∧ Received p [(0, loginAnswer)] ∧
    (∀ target, sentToken (receivedJar [(0, loginAnswer)]) 0 target "refresh_token" ≠ "" →
      target.path = "/auth" ∨ "/auth/".toList <+: target.path.toList) ∧
    (receivedJar [(0, loginAnswer)]).scriptable = [] := by
  obtain ⟨p, hrun, -, -, hthreads⟩ := recorded_login
  have hreceived := received_login hthreads
  obtain ⟨hpaths, -, hscripts⟩ := tokens_confined (run_unwatched hrun) hreceived
  exact ⟨p.unwatched, run_unwatched hrun, hreceived, hpaths 0, hscripts⟩

end NextLevelApi
