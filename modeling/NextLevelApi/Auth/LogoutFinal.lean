import NextLevelApi.Auth.Interleaving

/-!
# Logout under concurrency

Whether a logout is final depends on the other requests that are past their guard when it
saves: nothing between guard and save looks at the table again, so each login or refresh
among them still stores its token.
-/

namespace NextLevelApi
open ThreadPool

def requestSystem (env : AuthEnv) : System AuthState Call := authSystem env fun o => ∃ r, o = .request r

def Answer.Opens (u : ℕ) (a : Answer) : Prop := ∃ tokens, a.session? u = some tokens

def Request.Opens : Request → Prop
  | .logout _ => False
  | _ => True

def Operation.Opens : Operation → Prop
  | .request r => r.Opens
  | .updateUser _ _ => False

/-- A login or refresh of `u` that is past its guard and has not stored its token yet. -/
def Call.Opening (u : ℕ) : Call → Prop
  | ⟨o, .guarded user⟩ => o.Opens ∧ user.id = u
  | ⟨_, .updating _ _ a⟩ => a.Opens u
  | ⟨_, .loaded _ a⟩ => a.Opens u
  | _ => False

def Call.Opened (u : ℕ) : Call → Prop
  | ⟨_, .saved a⟩ => a.Opens u
  | ⟨_, .answered a⟩ => a.Opens u
  | _ => False

def AuthState.Closed (u : ℕ) (s : AuthState) : Prop :=
  ∀ row, s.users.findById u = some row → row.refreshTokenHash = none

def LoginAfter (q : Pool AuthState Call) (i : ℕ) (c : Call) : Prop :=
  (∃ email password, c.operation = .request (.login email password)) ∧
    ∀ c₀, q.threads[i]? = some c₀ → c₀.phase = .arrived

/-- A login of `u` whose guard had not run in `q` has stored its token in `r`. -/
def OpenedAfter (u : ℕ) (q r : Pool AuthState Call) : Prop :=
  ∃ i c, r.threads[i]? = some c ∧ LoginAfter q i c ∧ c.Opened u

/-- From `q` on `u` stays logged out until a login whose guard ran after `q`. -/
def LogoutFinal (env : AuthEnv) (u : ℕ) (q : Pool AuthState Call) : Prop :=
  ∀ r, Run (requestSystem env) q r → r.shared.Closed u ∨ OpenedAfter u q r

/-- The step in which a logout of `u` saves `refreshTokenHash = null`. -/
structure LogoutSaves (env : AuthEnv) (u : ℕ) (p q : Pool AuthState Call) : Prop where
  step : Step (requestSystem env) p q
  saved : ∃ (i : ℕ) (o : Operation) (entity user : User) (cookies : List Cookie), user.id = u ∧
    p.threads[i]? = some ⟨o, .loaded entity (.loggedOut user cookies)⟩ ∧
    q.threads[i]? = some ⟨o, .saved (.loggedOut user cookies)⟩

/-! ### What a call is about to write -/

def Answer.Writes (a : Answer) (id : ℕ) (hash : Option String) : Prop :=
  match a with
  | .session user _ _ _ => user.id = id ∧ hash ≠ none
  | .loggedOut user _ => user.id = id ∧ hash = none
  | .updated _ => False

/-- The call's row exists, under the email that its entity carries, and what it writes there
is what its answer says. -/
def Call.Sound (s : AuthState) : Call → Prop
  | ⟨_, .guarded user⟩ => ∃ email, s.users.Knows user.id email
  | ⟨_, .updating id dto a⟩ => (∃ email, s.users.Knows id email) ∧ dto.email = none ∧
      dto.password = none ∧ ∃ hash, dto.refreshTokenHash = some hash ∧ a.Writes id hash
  | ⟨_, .loaded entity a⟩ => s.users.Knows entity.id entity.email ∧
      a.Writes entity.id entity.refreshTokenHash
  | _ => True

section Logout

variable {env : AuthEnv} {u : ℕ} {s s' : AuthState} {c c' : Call} {p q r r' : Pool AuthState Call}

lemma prepare_writes (env : AuthEnv) (user : User) (now : ℕ) (lags : Lags) (salt : String) (r : Request) :
    (r.prepare env user now lags salt).1.email = none ∧ (r.prepare env user now lags salt).1.password = none ∧
    ∃ hash, (r.prepare env user now lags salt).1.refreshTokenHash = some hash ∧
      (r.prepare env user now lags salt).2.Writes user.id hash := by
  cases r with
  | login email password => exact ⟨rfl, rfl, _, rfl, rfl, by simp⟩
  | refresh token => exact ⟨rfl, rfl, _, rfl, rfl, by simp⟩
  | logout token => exact ⟨rfl, rfl, _, rfl, rfl, rfl⟩

lemma prepare_opens (env : AuthEnv) (user : User) (now : ℕ) (lags : Lags) (salt : String) (r : Request) :
    (r.prepare env user now lags salt).2.Opens u ↔ r.Opens ∧ user.id = u := by
  cases r <;> simp [Answer.Opens, Answer.session?, Request.Opens, Request.prepare,
    AuthService.login.answer, AuthService.refreshTokens.answer, AuthService.logout.answer]

lemma opens_writes {a : Answer} {id : ℕ} {hash : Option String} (h : a.Writes id hash) (ha : a.Opens u) :
    id = u ∧ hash ≠ none := by
  obtain ⟨tokens, htokens⟩ := ha
  cases a with
  | session user issued body cookies =>
    obtain ⟨rfl, hhash⟩ := h
    by_cases hu : user.id = u
    · exact ⟨hu, hhash⟩
    · exact absurd htokens (by simp [Answer.session?, hu])
  | loggedOut user cookies => exact absurd htokens (by simp [Answer.session?])
  | updated id => exact h.elim

lemma not_opens_writes {a : Answer} {hash : Option String} (h : a.Writes u hash) (ha : ¬a.Opens u) :
    hash = none := by
  cases a with
  | session user issued body cookies => exact absurd ⟨issued, if_pos h.1⟩ ha
  | loggedOut user cookies => exact h.2
  | updated id => exact h.elim

lemma sound_of_users (h : c.Sound s) (husers : s'.users = s.users) : c.Sound s' := by
  unfold Call.Sound at h ⊢
  rwa [husers]

lemma sound_move (h : c.Sound s) (hmove : AuthMove env s c s' c') : c'.Sound s' := by
  cases hmove with
  | accept hguard => exact ⟨_, _, guard_row hguard, rfl⟩
  | handle =>
    obtain ⟨email, hknows⟩ := h
    exact ⟨⟨email, hknows⟩, prepare_writes _ _ _ _ _ _⟩
  | load salt hload =>
    obtain ⟨-, hemail, hpassword, hash, hhash, hwrites⟩ := h
    obtain ⟨row, passwordHash, hrow, rfl⟩ := load_ok hload
    have hid : row.id = _ := (UserTable.mem_of_findById hrow).2
    refine ⟨⟨row, hid ▸ hrow, ?_⟩, ?_⟩
    · simp only [User.merge, hemail, Option.getD_none]
    · simp only [User.merge_id, hid]
      simpa only [User.merge, hhash, Option.getD_some] using hwrites
  | _ => exact trivial

lemma sound_frame {d : Call} (hc : c.Sound s) (hd : d.Sound s) (hmove : AuthMove env s c s' c') :
    d.Sound s' := by
  rcases hmove.users_cases with husers | ⟨entity, a, hphase, -, hsave⟩
  · exact sound_of_users hd husers
  · obtain ⟨o, phase⟩ := c
    obtain rfl : phase = .loaded entity a := hphase
    have hknows : ∀ {id email}, s.users.Knows id email → s'.users.Knows id email :=
      fun h => UserTable.Knows.save hsave hc.1 h
    obtain ⟨o', phase⟩ := d
    cases phase with
    | guarded user =>
      obtain ⟨email, h⟩ := hd
      exact ⟨email, hknows h⟩
    | updating id dto answer =>
      obtain ⟨⟨email, h⟩, hrest⟩ := hd
      exact ⟨⟨email, hknows h⟩, hrest⟩
    | loaded other answer => exact ⟨hknows hd.1, hd.2⟩
    | _ => exact trivial

def soundOutline (env : AuthEnv) : Outline (requestSystem env) where
  inv _ := True
  asserts s c := c.Sound s
  start := by
    rintro s c - ⟨o, ⟨r, rfl⟩, rfl⟩
    exact trivial
  ambient := by
    rintro s s' - ⟨later, -, rfl⟩
    exact ⟨trivial, fun c h => sound_of_users h rfl⟩
  move := fun _ h hmove => ⟨trivial, sound_move h hmove⟩
  frame := fun _ hc hd _ _ hmove => ⟨sound_frame hc hd hmove, trivial⟩

lemma sound_run {i : ℕ} (h : Run (requestSystem env) ⟨s, []⟩ p) (hc : p.threads[i]? = some c) :
    c.Sound p.shared :=
  ((soundOutline env).holds_run ((soundOutline env).holds_empty trivial) h).asserts hc

/-! ### A stale request opens the session again -/

lemma reopens_loaded (env : AuthEnv) {o : Operation} {entity : User} {a : Answer}
    (hsound : Call.Sound s ⟨o, .loaded entity a⟩) (hopens : a.Opens u) :
    ∃ s', Solo (requestSystem env) (s, ⟨o, .loaded entity a⟩) (s', ⟨o, .saved a⟩) ∧ ¬s'.Closed u := by
  obtain ⟨hknows, hwrites⟩ := hsound
  obtain ⟨hid, hhash⟩ := opens_writes hwrites hopens
  subst hid
  obtain ⟨users, hsave⟩ := UserTable.save_of_knows hknows s.now
  obtain ⟨row, hrow, -⟩ := hknows
  obtain ⟨stamp, hstamp⟩ := UserTable.findById_save_self hsave hrow
  refine ⟨{ s with users := users }, solo_cons (AuthMove.save (save_ok.mpr hsave)) .refl, ?_⟩
  intro hclosed
  have hnone := hclosed _ hstamp
  exact hhash hnone

lemma reopens_updating (env : AuthEnv) {o : Operation} {id : ℕ} {dto : UpdateUserDto} {a : Answer}
    (hsound : Call.Sound s ⟨o, .updating id dto a⟩) (hopens : a.Opens u) :
    ∃ s', Solo (requestSystem env) (s, ⟨o, .updating id dto a⟩) (s', ⟨o, .saved a⟩) ∧ ¬s'.Closed u := by
  obtain ⟨⟨email, row, hrow, -⟩, -, hpassword, -⟩ := show Call.Sound s ⟨o, .updating id dto a⟩ from hsound
  have hload : AuthMove env s ⟨o, .updating id dto a⟩ s ⟨o, .loaded (row.merge dto) a⟩ :=
    .load "" (load_eq hpassword hrow)
  obtain ⟨s', hsolo, hclosed⟩ := reopens_loaded env (sound_move hsound hload) hopens
  exact ⟨s', solo_cons hload hsolo, hclosed⟩

lemma opening_reopens (env : AuthEnv) (hsound : c.Sound s) (hopening : c.Opening u) :
    ∃ s' a, Solo (requestSystem env) (s, c) (s', ⟨c.operation, .saved a⟩) ∧ ¬s'.Closed u := by
  obtain ⟨o, phase⟩ := c
  cases phase with
  | guarded user =>
    cases o with
    | request r =>
      have hhandle : AuthMove env s ⟨.request r, .guarded user⟩ _ _ := .handle {} ""
      obtain ⟨s', hsolo, hclosed⟩ := reopens_updating env (sound_move hsound hhandle)
        ((prepare_opens env user s.now {} "" r).mpr hopening)
      exact ⟨s', _, solo_cons hhandle hsolo, hclosed⟩
    | updateUser id dto => exact hopening.1.elim
  | updating id dto a =>
    obtain ⟨s', hsolo, hclosed⟩ := reopens_updating env hsound hopening
    exact ⟨s', a, hsolo, hclosed⟩
  | loaded entity a =>
    obtain ⟨s', hsolo, hclosed⟩ := reopens_loaded env hsound hopening
    exact ⟨s', a, hsolo, hclosed⟩
  | _ => exact hopening.elim

/-! ### Only a later login opens it otherwise -/

lemma opened_move (hmove : AuthMove env s c s' c') (h : c.Opened u) : c'.Opened u := by
  cases hmove with
  | answer => exact h
  | _ => exact h.elim

lemma openedAfter_run (hrun : Run (requestSystem env) r r') (h : OpenedAfter u q r) :
    OpenedAfter u q r' := by
  obtain ⟨i, c, hc, ⟨hlogin, hafter⟩, hopened⟩ := h
  obtain ⟨c', hc', hlogin', hopened'⟩ := thread_stable (P := fun c =>
      (∃ email password, c.operation = .request (.login email password)) ∧ c.Opened u)
    (fun h hmove => ⟨AuthMove.operation_eq hmove ▸ h.1, opened_move hmove h.2⟩) hrun hc ⟨hlogin, hopened⟩
  exact ⟨i, c', hc', ⟨hlogin', hafter⟩, hopened'⟩

lemma arrived_of_run (hrun : Run (requestSystem env) q r) {i : ℕ} (hc : r.threads[i]? = some c)
    (harrived : c.phase = .arrived) : ∀ c₀, q.threads[i]? = some c₀ → c₀.phase = .arrived := by
  intro c₀ hc₀
  by_contra hpast
  obtain ⟨c', hc', hpast'⟩ := thread_stable (P := fun c => c.phase ≠ .arrived)
    (fun _ hmove => AuthMove.not_arrived hmove) hrun hc₀ hpast
  obtain rfl := Option.some.inj (hc.symm.trans hc')
  exact hpast' harrived

lemma opening_move (hmove : AuthMove env s c s' c') (h : c'.Opening u) : c.Opening u ∨
    ∃ r user, c = ⟨.request r, .arrived⟩ ∧
      r.Opens ∧ user.id = u ∧ r.guard env s.users s.now = .ok user := by
  cases hmove with
  | accept hguard => exact .inr ⟨_, _, rfl, h.1, h.2, hguard⟩
  | handle lags salt => exact .inl ((prepare_opens _ _ _ _ _ _).mp h)
  | load salt hload => exact .inl h
  | _ => exact h.elim

lemma login_of_guard {request : Request} {user : User} (hclosed : s.Closed user.id)
    (hopens : request.Opens) (h : request.guard env s.users s.now = .ok user) :
    ∃ email password, request = .login email password := by
  cases request with
  | login email password => exact ⟨email, password, rfl⟩
  | refresh token =>
    obtain ⟨-, c, -, hrow, hash, hhash, -⟩ := jwtRefreshGuard_ok.mp h
    have hnone := hclosed user (guard_row h)
    exact absurd (hnone.symm.trans hhash) (by simp)
  | logout token => exact hopens.elim

/-- Nothing is stored for `u`, and what is about to be comes from a login after `q`. -/
structure QuietSince (u : ℕ) (q r : Pool AuthState Call) : Prop where
  closed : r.shared.Closed u
  opening : ∀ {i : ℕ} {c : Call}, r.threads[i]? = some c → c.Opening u → LoginAfter q i c

lemma quiet_opening (hrun : Run (requestSystem env) q r) (h : QuietSince u q r)
    (hstep : Step (requestSystem env) r r') {i : ℕ} (hc' : r'.threads[i]? = some c')
    (hopening : c'.Opening u) : LoginAfter q i c' := by
  rcases hstep.thread_cases hc' with hc | ⟨-, o, ⟨request, rfl⟩, rfl⟩ | ⟨c, hc, hmove⟩
  · exact h.opening hc hopening
  · exact hopening.elim
  · rcases opening_move hmove hopening with hbefore | ⟨request, user, rfl, hopens, rfl, hguard⟩
    · obtain ⟨hlogin, hafter⟩ := h.opening hc hbefore
      exact ⟨AuthMove.operation_eq hmove ▸ hlogin, hafter⟩
    · obtain ⟨email, password, rfl⟩ := login_of_guard h.closed hopens hguard
      exact ⟨⟨email, password, AuthMove.operation_eq hmove⟩, arrived_of_run hrun hc rfl⟩

lemma closed_save {entity : User} {users : UserTable} (h : entity.id ≠ u → s.Closed u)
    (hsave : s.users.save entity s.now = some users)
    (hentity : entity.id = u → entity.refreshTokenHash = none) :
    AuthState.Closed u { s with users := users } := by
  intro row hrow
  by_cases hid : entity.id = u
  · subst hid
    rw [UserTable.findById_save hsave] at hrow
    obtain ⟨old, hold, rfl⟩ := Option.map_eq_some_iff.mp hrow
    obtain ⟨stamp, hstamp⟩ := UserTable.overwrite_eq s.now (UserTable.mem_of_findById hold).2
    rw [hstamp]
    exact hentity rfl
  · exact h hid row ((UserTable.findById_save_of_ne hsave (Ne.symm hid)).symm.trans hrow)

lemma quiet_step (hsound : ∀ {i : ℕ} {c : Call}, r.threads[i]? = some c → c.Sound r.shared)
    (hrun : Run (requestSystem env) q r) (h : QuietSince u q r) (hstep : Step (requestSystem env) r r') :
    QuietSince u q r' ∨ OpenedAfter u q r' := by
  have hopening : ∀ {i : ℕ} {c : Call}, r'.threads[i]? = some c → c.Opening u → LoginAfter q i c :=
    fun hc => quiet_opening hrun h hstep hc
  cases hstep with
  | start hstart => exact .inl ⟨h.closed, hopening⟩
  | ambient hambient =>
    obtain ⟨later, -, rfl⟩ := hambient
    exact .inl ⟨h.closed, hopening⟩
  | @move i c c' s' hc hpermits hmove =>
    rcases AuthMove.users_cases hmove with husers | ⟨entity, a, hphase, hphase', hsave⟩
    · refine .inl ⟨?_, hopening⟩
      unfold AuthState.Closed
      rw [husers]
      exact h.closed
    · obtain ⟨o, phase⟩ := c
      obtain ⟨o', phase'⟩ := c'
      obtain rfl : phase = .loaded entity a := hphase
      obtain rfl : phase' = .saved a := hphase'
      by_cases ha : a.Opens u
      · obtain ⟨hlogin, hafter⟩ := h.opening hc ha
        have hsame : o' = o := AuthMove.operation_eq hmove
        exact .inr ⟨i, _, getElem?_moved hc, ⟨hsame ▸ hlogin, hafter⟩, ha⟩
      · refine .inl ⟨?_, hopening⟩
        have hclosed := closed_save (fun _ => h.closed) hsave
          (fun hid => not_opens_writes (hid ▸ (hsound hc).2) ha)
        exact hclosed

lemma quiet_run (hsound : ∀ {r}, Run (requestSystem env) q r →
      ∀ {i : ℕ} {c : Call}, r.threads[i]? = some c → c.Sound r.shared)
    (h : QuietSince u q q) (hrun : Run (requestSystem env) q r) :
    QuietSince u q r ∨ OpenedAfter u q r := by
  induction hrun with
  | refl => exact .inl h
  | tail hrun hstep ih =>
    rcases ih with hquiet | hopened
    · exact quiet_step (hsound hrun) hrun hquiet hstep
    · exact .inr (openedAfter_run (.single hstep) hopened)

lemma closed_of_logoutSaves (hsound : ∀ {i : ℕ} {c : Call}, p.threads[i]? = some c → c.Sound p.shared)
    (h : LogoutSaves env u p q) : q.shared.Closed u := by
  obtain ⟨hstep, i, o, entity, user, cookies, rfl, hp, hq⟩ := h
  obtain ⟨hid, hnone⟩ := (hsound hp).2
  obtain ⟨sq, tq⟩ := q
  rcases hstep.thread_cases hq with hsame | ⟨hnew, -⟩ | ⟨c, hc, hmove⟩
  · exact absurd (hp.symm.trans hsame) (by simp)
  · exact absurd (hp.symm.trans hnew) (by simp)
  · obtain rfl := Option.some.inj (hp.symm.trans hc)
    cases hmove with
    | save hsave => exact closed_save (fun hne => absurd hid.symm hne) (save_ok.mp hsave) (fun _ => hnone)

lemma not_logoutFinal (hq : Run (requestSystem env) ⟨s, []⟩ q) (hmem : c ∈ q.threads)
    (hopening : c.Opening u) : ¬LogoutFinal env u q := by
  intro hfinal
  obtain ⟨i, hc⟩ := List.mem_iff_getElem?.mp hmem
  obtain ⟨s', a, hsolo, hopen⟩ := opening_reopens env (sound_run hq hc) hopening
  have hreopened := run_solo hsolo hc fun _ _ _ _ _ _ => trivial
  rcases hfinal _ hreopened with hclosed | ⟨j, c', hc', ⟨-, hafter⟩, hopened⟩
  · exact hopen hclosed
  · -- the thread that stored a token was past its guard in `q`
    rcases getElem?_move hc hc' with ⟨rfl, rfl⟩ | ⟨-, hc'⟩
    · have harrived := hafter c hc
      obtain ⟨o, phase⟩ := c
      obtain rfl : phase = .arrived := harrived
      exact hopening.elim
    · have harrived := hafter c' hc'
      obtain ⟨o, phase⟩ := c'
      obtain rfl : phase = .arrived := harrived
      exact hopened.elim

/-- A logout of `u` is final exactly when no login or refresh of `u` is between its guard and
its save at the moment the logout saves. -/
theorem logoutFinal_iff (hrun : Run (requestSystem env) ⟨s, []⟩ p) (hlogout : LogoutSaves env u p q) :
    LogoutFinal env u q ↔ ∀ c ∈ q.threads, ¬c.Opening u := by
  have hq : Run (requestSystem env) ⟨s, []⟩ q := hrun.tail hlogout.step
  constructor
  · exact fun hfinal c hmem hopening => not_logoutFinal hq hmem hopening hfinal
  · intro hnone r hr
    have hquiet : QuietSince u q q :=
      ⟨closed_of_logoutSaves (sound_run hrun) hlogout, fun hc hopening =>
        absurd hopening (hnone _ (List.mem_of_getElem? hc))⟩
    rcases quiet_run (fun hr => sound_run (hq.trans hr)) hquiet hr with hquiet | hopened
    · exact .inl hquiet.closed
    · exact .inr hopened

end Logout

namespace Sample

lemma refresh_and_logout : ∃ p q,
    Run (requestSystem (env Bcrypt.firstBytes)) ⟨signedIn Bcrypt.firstBytes, []⟩ p ∧
    LogoutSaves (env Bcrypt.firstBytes) user.id p q ∧ ∃ c ∈ q.threads, c.Opening user.id := by
  let M := requestSystem (env Bcrypt.firstBytes)
  let refresh := Request.refresh (token Bcrypt.firstBytes)
  let logout := Request.logout (token Bcrypt.firstBytes)
  let row := openUser Bcrypt.firstBytes
  let s := signedIn Bcrypt.firstBytes
  have hguard : refresh.guard (env Bcrypt.firstBytes) s.users s.now = .ok row :=
    guard_openUser Bcrypt.reference_documented
  have hstart : Run M ⟨s, []⟩ ⟨s, [Call.start (.request refresh), Call.start (.request logout)]⟩ :=
    .tail (.single (.start ⟨_, ⟨_, rfl⟩, rfl⟩)) (.start ⟨_, ⟨_, rfl⟩, rfl⟩)
  have hrefresh : Solo M (s, Call.start (.request refresh))
      ({ s with accepted := [(refresh, row)] }, ⟨.request refresh, .guarded row⟩) :=
    solo_cons (AuthMove.accept hguard) .refl
  have hlogout : Solo M ({ s with accepted := [(refresh, row)] }, Call.start (.request logout))
      ({ s with accepted := [(logout, row), (refresh, row)] }, ⟨.request logout,
        .loaded (row.merge AuthService.clearToken)
          (AuthService.logout.answer (env Bcrypt.firstBytes) row)⟩) := by
    apply solo_cons
    · exact AuthMove.accept hguard
    apply solo_cons
    · exact AuthMove.handle {} "salt"
    exact solo_cons (AuthMove.load "salt" (load_eq rfl rfl)) .refl
  have hknows : s.users.Knows row.id row.email := ⟨row, rfl, rfl⟩
  obtain ⟨users, hsave⟩ := UserTable.save_of_knows (show s.users.Knows
    (row.merge AuthService.clearToken).id (row.merge AuthService.clearToken).email from hknows) s.now
  have hrun := (hstart.trans (run_solo (i := 0) hrefresh rfl fun _ _ _ _ _ _ => trivial)).trans
    (run_solo (i := 1) hlogout rfl fun _ _ _ _ _ _ => trivial)
  refine ⟨_, _, hrun, ⟨.move (i := 1) rfl (fun _ _ _ _ => trivial) (AuthMove.save (save_ok.mpr hsave)),
    1, _, _, row, _, rfl, rfl, rfl⟩, ⟨.request refresh, .guarded row⟩, .head _, trivial, rfl⟩

end Sample

open Sample in
/-- A refresh that was past its guard opens the session again after the logout. -/
theorem logout_not_final : ∃ p q,
    Run (requestSystem (env Bcrypt.firstBytes)) ⟨signedIn Bcrypt.firstBytes, []⟩ p ∧
    LogoutSaves (env Bcrypt.firstBytes) user.id p q ∧
    ¬LogoutFinal (env Bcrypt.firstBytes) user.id q := by
  obtain ⟨p, q, hrun, hlogout, c, hmem, hopening⟩ := refresh_and_logout
  exact ⟨p, q, hrun, hlogout, not_logoutFinal (hrun.tail hlogout.step) hmem hopening⟩

open Sample in
theorem logoutFinal_iff_refresh_and_logout : ∃ p q,
    Run (requestSystem (env Bcrypt.firstBytes)) ⟨signedIn Bcrypt.firstBytes, []⟩ p ∧
    LogoutSaves (env Bcrypt.firstBytes) user.id p q ∧
    (LogoutFinal (env Bcrypt.firstBytes) user.id q ↔ ∀ c ∈ q.threads, ¬c.Opening user.id) := by
  obtain ⟨p, q, hrun, hlogout, -⟩ := refresh_and_logout
  exact ⟨p, q, hrun, hlogout, logoutFinal_iff hrun hlogout⟩

end NextLevelApi
