import NextLevelApi.Auth.Provenance

/-!
# How soon a change counts

The handlers take the role and the tenant of a user from the access token, which says what the row
said when it was signed. A change of the row counts in every request as soon as the tokens that
were signed before it have expired, unless an operation that read the old row is still in flight.
-/

namespace NextLevelApi
open ThreadPool

/-- Updates leave the claims of the user that has row `base` as they are. -/
def KeepsClaims (base : User) (o : Operation) : Prop :=
  ∀ dto, o = .updateUser base.id dto → ∀ row : User, row.SameClaims base → (row.merge dto).SameClaims base

/-- No row that the call has read or is going to write has other claims than `base`. -/
def Call.Current (base : User) : Call → Prop
  | ⟨_, .guarded user⟩ => user.id = base.id → user.SameClaims base
  | ⟨_, .updating id dto _⟩ => id = base.id →
      ∀ row : User, row.SameClaims base → (row.merge dto).SameClaims base
  | ⟨_, .loaded entity _⟩ => entity.id = base.id → entity.SameClaims base
  | _ => True

def UserTable.Shows (users : UserTable) (base : User) : Prop :=
  ∃ row, users.findById base.id = some row ∧ row.SameClaims base

/-- The access tokens that have been signed for the user say what `base` says or were signed by the
moment `changedAt`. -/
structure CurrentSince (env : AuthEnv) (base : User) (changedAt : ℕ) (s : AuthState) : Prop where
  shows : s.users.Shows base
  signed : ∀ c, (env.jwtSecret, c) ∈ s.signed → c.id = base.id →
    c.exp ≤ changedAt / 1000 + env.accessExpiration ∨
      (c.email, c.tenantId, c.role) = (base.email, base.tenantId, base.role)

section Latency

variable {env : AuthEnv} {base : User} {changedAt : ℕ} {s s' : AuthState} {c c' : Call}

lemma UserTable.Shows.sameClaims {users : UserTable} (h : users.Shows base) {user : User}
    (hrow : users.findById user.id = some user) (hid : user.id = base.id) : user.SameClaims base := by
  obtain ⟨row, hbase, hsame⟩ := h
  obtain rfl : user = row := Option.some.inj (hrow.symm.trans (hid ▸ hbase))
  exact hsame

lemma UserTable.Shows.save {users users' : UserTable} (h : users.Shows base) {entity : User} {now : ℕ}
    (hsave : users.save entity now = some users') (hentity : entity.id = base.id → entity.SameClaims base) :
    users'.Shows base := by
  obtain ⟨row, hrow, hsame⟩ := h
  by_cases hid : entity.id = base.id
  · obtain ⟨stamp, hstamp⟩ := findById_save_self hsave (hid ▸ hrow)
    obtain ⟨-, hemail, htenant, hrole⟩ := hentity hid
    rw [hid] at hstamp
    exact ⟨_, hstamp, ⟨rfl, hemail, htenant, hrole⟩⟩
  · exact ⟨row, (findById_save_of_ne hsave (Ne.symm hid)).trans hrow, hsame⟩

lemma prepare_keepsClaims (user : User) (now : ℕ) (lags : Lags) (salt : String) (r : Request) (row : User)
    (h : row.SameClaims base) : (row.merge (r.prepare env user now lags salt).1).SameClaims base := by
  cases r <;> exact ⟨h.id, h.email, h.tenantId, h.role⟩

lemma current_load {users : UserTable} (h : users.Shows base) {o : Operation} {id : ℕ}
    {dto : UpdateUserDto} {a : Answer} (hc : Call.Current base ⟨o, .updating id dto a⟩)
    {hash : String → String} {entity : User}
    (hload : UserService.updateUser.load hash users id dto = .ok entity) :
    Call.Current base ⟨o, .loaded entity a⟩ := by
  intro hid
  have hentity := load_id hload
  obtain ⟨row, passwordHash, hrow, rfl⟩ := load_ok hload
  have hrowId := (UserTable.mem_of_findById hrow).2
  have hfound : users.findById row.id = some row := by rwa [hrowId]
  obtain ⟨hsameId, hemail, htenant, hrole⟩ := h.sameClaims hfound hid
  exact hc (hentity.symm.trans hid) { row with passwordHash := passwordHash }
    ⟨hsameId, hemail, htenant, hrole⟩

/-- What one step does to the row and to the tokens, and what its call has read after it. -/
lemma current_move (h : CurrentSince env base changedAt s) (hc : c.Current base)
    (hmove : AuthMove env s c s' c') : CurrentSince env base changedAt s' ∧ c'.Current base := by
  cases hmove with
  | accept hguard =>
    exact ⟨⟨h.shows, h.signed⟩, fun hid => h.shows.sameClaims (guard_row hguard) hid⟩
  | @handle r user lags salt =>
    refine ⟨⟨h.shows, fun claims hmem hid => ?_⟩, fun _ => prepare_keepsClaims user _ lags salt r⟩
    rcases List.mem_append.mp hmem with hnew | hold
    · obtain ⟨huser, -, signedAt, -, hsays⟩ := mem_signs hnew
      obtain ⟨-, hemail, htenant, hrole⟩ := hc (huser.trans hid)
      refine .inr ?_
      rcases hsays with ⟨-, rfl⟩ | ⟨-, rfl⟩ <;> simp only [User.claims, hemail, htenant, hrole]
    · exact h.signed claims hold hid
  | load salt hload => exact ⟨h, current_load h.shows hc hload⟩
  | save hsave => exact ⟨⟨h.shows.save (save_ok.mp hsave) hc, h.signed⟩, trivial⟩
  | _ => exact ⟨h, trivial⟩

def currentOutline (env : AuthEnv) (base : User) (changedAt : ℕ) :
    Outline (authSystem env (KeepsClaims base)) where
  inv := CurrentSince env base changedAt
  asserts _ c := c.Current base
  start := by
    rintro s c - ⟨o, ho, rfl⟩
    cases o with
    | request r => exact trivial
    | updateUser id dto =>
      rintro rfl
      exact ho dto rfl
  ambient := by
    rintro s s' h ⟨later, -, rfl⟩
    exact ⟨⟨h.shows, h.signed⟩, fun c hc => hc⟩
  move := fun h hc hmove => current_move h hc hmove
  frame := fun _ _ hd _ _ _ => ⟨hd, trivial⟩

/-- No access token that has been signed lives longer than one that is signed now. -/
def lifetimeOutline (hsecrets : env.jwtSecret ≠ env.jwtRefreshSecret) :
    Outline (authSystem env fun _ => True) where
  inv s := ∀ c, (env.jwtSecret, c) ∈ s.signed → c.exp ≤ s.now / 1000 + env.accessExpiration
  asserts _ _ := True
  start := fun _ _ => trivial
  ambient := by
    rintro s s' h ⟨later, hlater, rfl⟩
    refine ⟨fun c hc => Nat.le_trans (h c hc) ?_, fun _ _ => trivial⟩
    exact Nat.add_le_add_right (Nat.div_le_div_right hlater) _
  move := by
    intro s c s' c' h _ hmove
    refine ⟨?_, trivial⟩
    cases hmove with
    | handle lags salt =>
      intro claims hmem
      rcases List.mem_append.mp hmem with hnew | hold
      · obtain ⟨-, -, signedAt, hpast, ⟨-, rfl⟩ | ⟨hsecret, -⟩⟩ := mem_signs hnew
        · exact Nat.add_le_add_right (Nat.div_le_div_right hpast) _
        · exact absurd hsecret hsecrets
      · exact h claims hold
    | _ => exact h
  frame := fun _ _ _ _ _ _ => ⟨trivial, trivial⟩

/-- Once a user's row shows a change and no operation is in flight that read the row before, every
request shows it one lifetime of an access token later, until the next change: in whatever order
requests and other updates run, the email, the tenant and the role in the token are those of the
row. -/
theorem change_counts (hsecrets : env.jwtSecret ≠ env.jwtRefreshSecret) {users : UserTable} {start : ℕ}
    {p q : Pool AuthState Call}
    (hbefore : Run (authSystem env fun _ => True) ⟨⟨users, start, [], []⟩, []⟩ p)
    (hshows : p.shared.users.Shows base) (hflight : ∀ c ∈ p.threads, c.Current base)
    (hafter : Run (authSystem env (KeepsClaims base)) p q)
    {token : String} (hunforged : Unforged env q.shared env.jwtSecret token) {claims : Claims}
    (hguard : JwtGuard env q.shared.now token = .ok claims) (hid : claims.id = base.id)
    (hlater : p.shared.now / 1000 + env.accessExpiration ≤ q.shared.now / 1000) :
    (claims.email, claims.tenantId, claims.role) = (base.email, base.tenantId, base.role) := by
  have hlifetime := (lifetimeOutline hsecrets).holds_run
    ((lifetimeOutline hsecrets).holds_empty fun c hc => absurd hc List.not_mem_nil) hbefore
  have hstart : (currentOutline env base p.shared.now).Holds p :=
    ⟨⟨hshows, fun c hc _ => .inl (hlifetime.inv c hc)⟩,
      fun hi => hflight _ (List.mem_of_getElem? hi), fun _ _ _ => trivial⟩
  have hcurrent : CurrentSince env base p.shared.now q.shared :=
    ((currentOutline env base p.shared.now).holds_run hstart hafter).inv
  rw [jwtGuard_eq, payload_ok] at hguard
  obtain ⟨hdecode, hfresh⟩ := Jsonwebtoken.verify_eq_some.mp hguard.2
  rcases hcurrent.signed claims (hunforged claims hdecode) hid with hexp | hsays
  · omega
  · exact hsays

end Latency

namespace Sample

/-- The user after a change of the role. -/
def raised : User := { user with role := "admin" }

def raisedUsers : UserTable := ⟨[raised], by decide, by decide⟩

def raise : UpdateUserDto := { role := some .ADMIN }

lemma updateUser_raise (hash : String → String) :
    UserService.updateUser hash users 1 raise 0 = .ok raisedUsers := rfl

def raisedPool : Pool AuthState Call :=
  ⟨⟨raisedUsers, 0, [], []⟩, [⟨.updateUser 1 raise, .answered (.updated 1)⟩]⟩

lemma raise_solo : Solo (authSystem (env id) fun _ => True)
    (⟨users, 0, [], []⟩, Call.start (.updateUser 1 raise))
    (⟨raisedUsers, 0, [], []⟩, ⟨.updateUser 1 raise, .answered (.updated 1)⟩) :=
  solo_of_updateUser _ (updateUser_raise ((env id).bcrypt.hash "salt"))

lemma raise_run :
    Run (authSystem (env id) fun _ => True) ⟨⟨users, 0, [], []⟩, []⟩ raisedPool := by
  have hstart : Run (authSystem (env id) fun _ => True) ⟨⟨users, 0, [], []⟩, []⟩
      ⟨⟨users, 0, [], []⟩, [Call.start (.updateUser 1 raise)]⟩ := .single (.start ⟨_, trivial, rfl⟩)
  exact hstart.trans (run_solo (i := 0) raise_solo rfl fun _ _ _ _ _ _ => trivial)

/-- A login of this user some time later. -/
lemma raised_login (later : ℕ) : ∃ q, Run (authSystem (env id) (KeepsClaims raised)) raisedPool q ∧
    q.shared.now = later ∧ ("access", raised.claims (later / 1000) 900) ∈ q.shared.signed := by
  have hlater : Run (authSystem (env id) (KeepsClaims raised)) raisedPool
      ⟨⟨raisedUsers, later, [], []⟩, raisedPool.threads⟩ := .single (.ambient ⟨later, Nat.zero_le _, rfl⟩)
  have hkeeps : KeepsClaims raised login := fun dto h => absurd h (by simp [login])
  have hstart := hlater.tail (.start ⟨login, hkeeps, rfl⟩)
  have hguard : (Request.login "ana@shop.ro" "pw").guard (env id) raisedUsers later = .ok raised := rfl
  have hsolo : Solo (authSystem (env id) (KeepsClaims raised))
      (⟨raisedUsers, later, [], []⟩, Call.start login) (_, _) :=
    solo_cons (AuthMove.accept hguard) (solo_cons (AuthMove.handle {} "salt") .refl)
  refine ⟨_, hstart.trans (run_solo (i := 1) hsolo rfl fun _ _ _ _ _ _ => trivial), rfl, ?_⟩
  simp [Request.signs, env]

end Sample

open Sample in
theorem change_counts_raise : ∃ q, Run (authSystem (env id) (KeepsClaims raised)) raisedPool q ∧
    JwtGuard (env id) q.shared.now ((env id).jwt.sign "access" (raised.claims 900 900)) =
      .ok (raised.claims 900 900) ∧
    (raised.claims 900 900).role = "admin" := by
  obtain ⟨q, hrun, hnow, hsigned⟩ := raised_login 900000
  have hdocumented : (env id).jwt.Documented := Jsonwebtoken.reference_documented _
  have hguard : JwtGuard (env id) q.shared.now ((env id).jwt.sign "access" (raised.claims 900 900)) =
      .ok (raised.claims 900 900) := by
    rw [hnow]
    exact (jwtGuard_sign hdocumented _).trans (if_pos (by decide))
  have hunforged : Unforged (env id) q.shared (env id).jwtSecret
      ((env id).jwt.sign "access" (raised.claims 900 900)) := by
    intro c hc
    obtain rfl := Option.some.inj ((hdocumented.decode_sign _ _).symm.trans hc)
    exact hsigned
  have hsecrets : (env id).jwtSecret ≠ (env id).jwtRefreshSecret := by simp [env]
  have hlater : raisedPool.shared.now / 1000 + (env id).accessExpiration ≤ q.shared.now / 1000 := by
    rw [hnow]
    decide
  have hended : ∀ c ∈ raisedPool.threads, c.Current raised := by
    intro c hc
    obtain rfl := List.mem_singleton.mp hc
    exact trivial
  have hcounts := change_counts hsecrets raise_run ⟨raised, rfl, ⟨rfl, rfl, rfl, rfl⟩⟩ hended hrun
    hunforged hguard rfl hlater
  exact ⟨q, hrun, hguard, (Prod.mk.inj (Prod.mk.inj hcounts).2).2⟩

end NextLevelApi
