import NextLevelApi.Auth.LogoutFinal
import NextLevelApi.Library.Isolation

/-!
# Users do not see each other

Whatever happens to a user could have happened without the operations of all other users: when
these are taken out of a run, together with the rows of other users, then what is left is a run,
with the same answers to this user and the same row.
-/

namespace NextLevelApi
open ThreadPool Fallible

/-- The operations of the user that has row `base`: logins under the user's email, refreshes and
logouts with a token that names the user, and updates of the user's row. -/
def Operation.isOf (env : AuthEnv) (base : User) : Operation → Bool
  | .request (.login email _) => env.normalize email = base.email
  | .request (.refresh token) => (env.jwt.decode env.jwtRefreshSecret token).any (·.id = base.id)
  | .request (.logout token) => (env.jwt.decode env.jwtRefreshSecret token).any (·.id = base.id)
  | .updateUser id _ => id = base.id

/-- Updates may change anything but this user's email. -/
def KeepsEmail (base : User) (o : Operation) : Prop := ∀ dto, o = .updateUser base.id dto → dto.email = none

def UserTable.only (t : UserTable) (id : ℕ) : UserTable where
  rows := t.rows.filter (·.id = id)
  ids := t.ids.sublist (List.filter_sublist.map _)
  emails := t.emails.sublist (List.filter_sublist.map _)

/-- What concerns one user. -/
def AuthState.only (env : AuthEnv) (base : User) (s : AuthState) : AuthState where
  users := s.users.only base.id
  now := s.now
  accepted := s.accepted.filter fun e => (Operation.request e.1).isOf env base
  signed := s.signed.filter (·.2.id = base.id)

/-- Calls past their guard work on the row of the user whose operation they are. -/
def Call.Belongs (env : AuthEnv) (base : User) : Call → Prop
  | ⟨o, .guarded user⟩ => o.isOf env base = true ↔ user.id = base.id
  | ⟨o, .updating id dto _⟩ => (o.isOf env base = true ↔ id = base.id) ∧ (id = base.id → dto.email = none)
  | ⟨o, .loaded entity _⟩ => (o.isOf env base = true ↔ entity.id = base.id) ∧
      (entity.id = base.id → entity.email = base.email)
  | _ => True

section Only

variable {t t' : UserTable} {id now : ℕ} {row entity : User}

@[simp] lemma UserTable.findById_only (t : UserTable) (id : ℕ) : (t.only id).findById id = t.findById id := by
  simp [findById, only, List.find?_filter]

lemma UserTable.findByEmail_of_mem (h : row ∈ t.rows) : t.findByEmail row.email = some row := by
  obtain ⟨found, hfound⟩ : ∃ r, t.findByEmail row.email = some r :=
    Option.isSome_iff_exists.mp (List.find?_isSome.mpr ⟨row, h, by simp⟩)
  have hemail : found.email = row.email := by simpa using List.find?_some hfound
  rw [hfound, List.inj_on_of_nodup_map t.emails (List.mem_of_find?_eq_some hfound) h hemail]

lemma UserTable.Knows.findByEmail_only {email : String} (h : t.Knows id email) :
    (t.only id).findByEmail email = t.findByEmail email := by
  obtain ⟨row, hrow, rfl⟩ := h
  obtain ⟨hmem, hid⟩ := mem_of_findById hrow
  have honly : row ∈ (t.only id).rows := List.mem_filter.mpr ⟨hmem, by simpa using hid⟩
  rw [findByEmail_of_mem hmem, findByEmail_of_mem honly]

lemma UserTable.only_congr (h : t.rows.filter (·.id = id) = t'.rows.filter (·.id = id)) :
    t.only id = t'.only id := by
  simp only [only, h]

lemma UserTable.rows_only_save (hsave : t.save entity now = some t') :
    t'.rows.filter (·.id = id) = (t.rows.filter (·.id = id)).map (overwrite entity now) := by
  rw [save_rows hsave, List.filter_map]
  congr 2
  funext row
  simp

/-- A save of another row changes nothing. -/
lemma UserTable.only_save_of_ne (hsave : t.save entity now = some t') (hid : entity.id ≠ id) :
    t'.only id = t.only id := by
  apply only_congr
  rw [rows_only_save hsave]
  refine (List.map_congr_left fun row hrow => ?_).trans (List.map_id _)
  have hrowId : row.id = id := by simpa using (List.mem_filter.mp hrow).2
  exact overwrite_of_ne (hrowId ▸ hid.symm)

/-- A save of the row itself needs no other row. -/
lemma UserTable.save_only (hsave : t.save entity now = some t') (hid : entity.id = id) :
    (t.only id).save entity now = some (t'.only id) := by
  have hfree : ¬(t.only id).emailTaken entity := by
    rintro ⟨other, hother, hne, -⟩
    have hotherId : other.id = id := by simpa using (List.mem_filter.mp hother).2
    exact hne (hotherId.trans hid.symm)
  unfold UserTable.save
  rw [dif_neg hfree]
  congr 1
  simp only [only, rows_only_save hsave]

end Only

section Isolation

lemma validateUser_email {env : AuthEnv} {users : UserTable} {user : User} {email password : String}
    (h : AuthService.validateUser env users email password = .ok user) :
    user ∈ users.rows ∧ user.email = env.normalize email := by
  unfold AuthService.validateUser at h
  split at h
  · exact absurd h (by simp)
  · next row hrow =>
    split at h
    · obtain rfl := Except.ok.inj h
      exact ⟨List.mem_of_find?_eq_some hrow, by simpa using List.find?_some hrow⟩
    · exact absurd h (by simp)

variable {env : AuthEnv} {base user : User} {s s' : AuthState} {c c' : Call} {r : Request}

/-- A token that the refresh guard accepts names the user to whose row it leads. -/
lemma names_of_guard {users : UserTable} {now : ℕ} {token : String}
    (h : JwtRefreshGuard env users now token = .ok user) :
    (env.jwt.decode env.jwtRefreshSecret token).any (·.id = base.id) = true ↔ user.id = base.id := by
  obtain ⟨-, c, hverify, hrow, -⟩ := jwtRefreshGuard_ok.mp h
  have hid : user.id = c.id := (UserTable.mem_of_findById hrow).2
  simp [(Jsonwebtoken.verify_eq_some.mp hverify).1, hid]

/-- A guard leads to the row of the user whose request it is. -/
lemma isOf_iff_of_guard {users : UserTable} {now : ℕ} (hknows : users.Knows base.id base.email)
    (h : r.guard env users now = .ok user) :
    (Operation.request r).isOf env base = true ↔ user.id = base.id := by
  cases r with
  | login email password =>
    have hvalidate : AuthService.validateUser env users email password = .ok user := h
    obtain ⟨row, hrow, hrowEmail⟩ := hknows
    obtain ⟨hmem, hid⟩ := UserTable.mem_of_findById hrow
    obtain ⟨huser, hemail⟩ := validateUser_email hvalidate
    have hiff : env.normalize email = base.email ↔ user.id = base.id := by
      rw [← hemail, ← hrowEmail, ← hid]
      constructor
      · intro hsame
        rw [List.inj_on_of_nodup_map users.emails huser hmem hsame]
      · intro hsame
        rw [List.inj_on_of_nodup_map users.ids huser hmem hsame]
    simpa [Operation.isOf] using hiff
  | refresh token => exact names_of_guard h
  | logout token => exact names_of_guard h

lemma jwtRefreshGuard_only {users : UserTable} {token : String}
    (hnames : (env.jwt.decode env.jwtRefreshSecret token).any (·.id = base.id) = true) (now : ℕ) :
    JwtRefreshGuard env (users.only base.id) now token = JwtRefreshGuard env users now token := by
  unfold JwtRefreshGuard
  cases hpayload : env.payload env.jwtRefreshSecret now token with
  | error e => rfl
  | ok c =>
    obtain ⟨htoken, hverify⟩ := payload_ok.mp hpayload
    have hid : c.id = base.id := by simpa [(Jsonwebtoken.verify_eq_some.mp hverify).1] using hnames
    have hvalidate : ∀ users : UserTable, JwtRefreshStrategy.validate env users token c =
        AuthService.validateRefreshTokens env users base.id token := fun users => by
      rw [JwtRefreshStrategy.validate, if_neg htoken, hid]
    change JwtRefreshStrategy.validate env (users.only base.id) token c =
      JwtRefreshStrategy.validate env users token c
    rw [hvalidate, hvalidate, AuthService.validateRefreshTokens, AuthService.validateRefreshTokens,
      UserService.getUserById, UserService.getUserById, UserTable.findById_only]

lemma guard_only {users : UserTable} (hknows : users.Knows base.id base.email)
    (hr : (Operation.request r).isOf env base = true) (now : ℕ) :
    r.guard env (users.only base.id) now = r.guard env users now := by
  cases r with
  | login email password =>
    have hemail : env.normalize email = base.email := by simpa [Operation.isOf] using hr
    change AuthService.validateUser env _ email password = AuthService.validateUser env _ email password
    rw [AuthService.validateUser, AuthService.validateUser, hemail, hknows.findByEmail_only]
  | refresh token => exact jwtRefreshGuard_only hr now
  | logout token => exact jwtRefreshGuard_only hr now

lemma load_only {users : UserTable} (hash : String → String) (id : ℕ) (dto : UpdateUserDto) :
    UserService.updateUser.load hash (users.only id) id dto =
      UserService.updateUser.load hash users id dto := by
  rw [UserService.updateUser.load, UserService.updateUser.load, UserTable.findById_only]

lemma belongs_move (hknows : s.users.Knows base.id base.email) (hc : c.Belongs env base)
    (hmove : AuthMove env s c s' c') : s'.users.Knows base.id base.email ∧ c'.Belongs env base := by
  cases hmove with
  | accept hguard => exact ⟨hknows, isOf_iff_of_guard hknows hguard⟩
  | handle lags salt => exact ⟨hknows, hc, fun _ => (prepare_writes env _ _ lags salt _).1⟩
  | load salt hload =>
    obtain ⟨hmine, hemail⟩ := hc
    have hid := load_id hload
    refine ⟨hknows, hid ▸ hmine, fun hbase => ?_⟩
    obtain ⟨row, passwordHash, hrow, rfl⟩ := load_ok hload
    obtain ⟨known, hknown, hknownEmail⟩ := hknows
    rw [hid] at hbase
    obtain rfl := Option.some.inj (hknown.symm.trans (hbase ▸ hrow))
    simpa only [User.merge, hemail hbase, Option.getD_none] using hknownEmail
  | @save o entity a users hsave =>
    refine ⟨?_, trivial⟩
    have hsaved := save_ok.mp hsave
    obtain ⟨known, hknown, hknownEmail⟩ := hknows
    by_cases hid : entity.id = base.id
    · obtain ⟨stamp, hstamp⟩ := UserTable.findById_save_self hsaved (hid ▸ hknown)
      rw [hid] at hstamp
      exact ⟨_, hstamp, hc.2 hid⟩
    · exact ⟨known, (UserTable.findById_save_of_ne hsaved (Ne.symm hid)).trans hknown, hknownEmail⟩
  | _ => exact ⟨hknows, trivial⟩

def belongsOutline (env : AuthEnv) (base : User) : Outline (authSystem env (KeepsEmail base)) where
  inv s := s.users.Knows base.id base.email
  asserts _ c := c.Belongs env base
  start := by
    rintro s c - ⟨o, ho, rfl⟩
    cases o with
    | request r => exact trivial
    | updateUser id dto => exact ⟨decide_eq_true_iff, fun hid => ho dto (by rw [hid])⟩
  ambient := by
    rintro s s' h ⟨later, -, rfl⟩
    exact ⟨h, fun c hc => hc⟩
  move := belongs_move
  frame := fun _ _ hd _ _ _ => ⟨hd, trivial⟩

lemma save_error {users : UserTable} {entity : User} {now : ℕ} {e : Exception}
    (h : UserService.updateUser.save users entity now = .error e) :
    ∃ message, e = .error "QueryFailedError" message := by
  unfold UserService.updateUser.save at h
  split at h
  · exact ⟨_, (Except.error.inj h).symm⟩
  · exact absurd h (by simp)

lemma filter_signs (r : Request) (now : ℕ) (lags : Lags) :
    (r.signs env user now lags).filter (·.2.id = base.id) =
      if user.id = base.id then r.signs env user now lags else [] := by
  cases r <;> by_cases hid : user.id = base.id <;> simp [Request.signs, User.claims, hid]

/-- A step of one of the user's own calls, seen without the other users. -/
lemma AuthMove.own (hknows : s.users.Knows base.id base.email) (hc : c.Belongs env base)
    (hmine : c.operation.isOf env base = true) (hmove : AuthMove env s c s' c') :
    AuthMove env (s.only env base) c (s'.only env base) c' := by
  cases hmove with
  | @accept r user hguard =>
    have haccepted : ((r, user) :: s.accepted).filter (fun e => (Operation.request e.1).isOf env base) =
        (r, user) :: (s.only env base).accepted := List.filter_cons_of_pos hmine
    have hstep := AuthMove.accept (s := s.only env base) ((guard_only hknows hmine _).trans hguard)
    simpa only [AuthState.only, haccepted] using hstep
  | refuse hguard => exact .refuse ((guard_only hknows hmine _).trans hguard)
  | @handle r user lags salt =>
    have hstep : AuthMove env (s.only env base) ⟨.request r, .guarded user⟩ _ _ :=
      AuthMove.handle lags salt
    simpa only [AuthState.only, List.filter_append, filter_signs, if_pos (hc.mp hmine)] using hstep
  | @load o id dto a entity salt hload =>
    obtain rfl := hc.1.mp hmine
    exact .load salt ((load_only _ _ _).trans hload)
  | @notFound o id dto a e salt hload =>
    obtain rfl := hc.1.mp hmine
    exact .notFound salt ((load_only _ _ _).trans hload)
  | @save o entity a users hsave =>
    have hsaved := UserTable.save_only (save_ok.mp hsave) (hc.1.mp hmine)
    exact .save (s := s.only env base) (save_ok.mpr hsaved)
  | notSaved hsave =>
    obtain ⟨message, rfl⟩ := save_error hsave
    exact .unwritten
  | unread => exact .unread
  | unwritten => exact .unwritten
  | answer => exact .answer

/-- A step of another user's call changes nothing that concerns this user. -/
lemma AuthMove.others (hc : c.Belongs env base) (hmine : c.operation.isOf env base = false)
    (hmove : AuthMove env s c s' c') : s'.only env base = s.only env base := by
  have hnot : ∀ {P : Prop}, (c.operation.isOf env base = true ↔ P) → ¬P :=
    fun h hP => absurd (h.mpr hP) (by simp [hmine])
  cases hmove with
  | @accept r user hguard =>
    have haccepted : ((r, user) :: s.accepted).filter (fun e => (Operation.request e.1).isOf env base) =
        (s.only env base).accepted := List.filter_cons_of_neg (Bool.eq_false_iff.mp hmine)
    simp only [AuthState.only, haccepted]
  | handle lags salt =>
    simp only [AuthState.only, List.filter_append, filter_signs, if_neg (hnot hc), List.nil_append]
  | save hsave => simp only [AuthState.only, UserTable.only_save_of_ne (save_ok.mp hsave) (hnot hc.1)]
  | _ => rfl

theorem isolates (env : AuthEnv) (base : User) : Isolates (authSystem env (KeepsEmail base))
    (authSystem env fun o => KeepsEmail base o ∧ o.isOf env base = true) (belongsOutline env base)
    (AuthState.only env base) (·.operation.isOf env base) where
  start := by
    rintro c ⟨o, ho, rfl⟩ hmine
    refine ⟨o, ⟨ho, ?_⟩, rfl⟩
    cases o <;> exact hmine
  ambient := by
    rintro s s' ⟨later, hlater, rfl⟩
    exact ⟨later, hlater, rfl⟩
  mine_move hmove := by rw [hmove.operation_eq]
  own hknows hc hmine hmove := hmove.own hknows hc hmine
  others _ hc hmine hmove := hmove.others hc hmine
  permits := trivial

/-- In every interleaving, what is left without the operations and the rows of all other users is
an interleaving too: no other user changes a user's row, or an answer to this user, or even
delays one. -/
theorem others_invisible {users : UserTable} (hbase : users.findById base.id = some base) {start : ℕ}
    {p : Pool AuthState Call} (hrun : Run (authSystem env (KeepsEmail base)) ⟨⟨users, start, [], []⟩, []⟩ p) :
    Run (authSystem env fun o => KeepsEmail base o ∧ o.isOf env base = true)
      ⟨⟨users.only base.id, start, [], []⟩, []⟩
      ⟨p.shared.only env base, p.threads.filter (·.operation.isOf env base)⟩ :=
  (isolates env base).purge_run ((belongsOutline env base).holds_empty ⟨base, hbase, rfl⟩) hrun

end Isolation

namespace Sample

def otherUser : User := { user with id := 2, email := "dan@shop.ro" }

def twoUsers : UserTable := ⟨[user, otherUser], by decide, by decide⟩

def otherLogin : Request := .login "dan@shop.ro" "pw"

end Sample

open Sample in
theorem others_invisible_two_users : ∃ p,
    Run (authSystem (env id) (KeepsEmail user)) ⟨⟨twoUsers, 0, [], []⟩, []⟩ p ∧
    p.shared.accepted = [(otherLogin, otherUser)] ∧
    Run (authSystem (env id) fun o => KeepsEmail user o ∧ o.isOf (env id) user = true)
      ⟨⟨users, 0, [], []⟩, []⟩ ⟨⟨users, 0, [], []⟩, [Call.start login]⟩ := by
  have hguard : otherLogin.guard (env id) twoUsers 0 = .ok otherUser := rfl
  have hkeeps : ∀ r, KeepsEmail user (.request r) := fun r dto h => absurd h (by simp)
  have hstarts : Run (authSystem (env id) (KeepsEmail user)) ⟨⟨twoUsers, 0, [], []⟩, []⟩
      ⟨⟨twoUsers, 0, [], []⟩, [Call.start login, Call.start (.request otherLogin)]⟩ :=
    .tail (.single (.start ⟨_, hkeeps _, rfl⟩)) (.start ⟨_, hkeeps _, rfl⟩)
  have hrun := hstarts.tail (.move (i := 1) rfl (fun _ _ _ _ => trivial) (AuthMove.accept hguard))
  have hbase : twoUsers.findById user.id = some user := rfl
  have hpurged := others_invisible hbase hrun
  refine ⟨_, hrun, rfl, ?_⟩
  simpa [AuthState.only, UserTable.only, Operation.isOf, env, twoUsers, users, user, otherUser, otherLogin,
    login, Call.start, List.filter] using hpurged

end NextLevelApi
