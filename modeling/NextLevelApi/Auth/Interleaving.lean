import NextLevelApi.Auth.Service
import NextLevelApi.Library.ThreadPool

/-!
# Interleaved requests

The operations on the `user` table as threads of a pool: between the guard of a request,
the signing in its handler, the read and the write of `updateUser` and its answer, any
other operation may take steps of its own.
-/

namespace NextLevelApi
open Fallible ThreadPool

/-- The `user` table and the clock. `accepted` and `signed` record which request a guard let
through, with the row that it read, and what was signed under which secret. -/
structure AuthState where
  users : UserTable
  now : ℕ
  accepted : List (Request × User)
  signed : List (String × Claims)

inductive Phase
  | arrived
  | guarded (user : User)
  | updating (id : ℕ) (dto : UpdateUserDto) (answer : Answer)
  | loaded (entity : User) (answer : Answer)
  | saved (answer : Answer)
  | answered (answer : Answer)
  | refused (e : Exception)

structure Call where
  operation : Operation
  phase : Phase

def Call.start : Operation → Call
  | .request r => ⟨.request r, .arrived⟩
  | .updateUser id dto => ⟨.updateUser id dto, .updating id dto (.updated id)⟩

namespace Request

/-- What a handler does before it calls `updateUser`: the DTO, and the answer to give later. -/
def prepare (env : AuthEnv) (user : User) (now : ℕ) (lags : Lags) (salt : String) :
    Request → UpdateUserDto × Answer
  | .login _ _ =>
    let tokens := AuthService.generateTokens env user now lags
    (AuthService.storeToken env tokens salt, AuthService.login.answer env user tokens)
  | .refresh _ =>
    let tokens := AuthService.generateTokens env user now lags
    (AuthService.storeToken env tokens salt, AuthService.refreshTokens.answer env user tokens)
  | .logout _ => (AuthService.clearToken, AuthService.logout.answer env user)

def signs (env : AuthEnv) (user : User) (now : ℕ) (lags : Lags) : Request → List (String × Claims)
  | .logout _ => []
  | _ => [(env.jwtSecret, user.claims ((now - lags.access) / 1000) env.accessExpiration),
      (env.jwtRefreshSecret, user.claims (now / 1000) env.refreshExpiration)]

lemma handler_eq (env : AuthEnv) (users : UserTable) (user : User) (m : Moments) (r : Request) :
    r.handler env users user m = do
      let users ← UserService.updateUser (env.bcrypt.hash m.salt) users user.id
        (r.prepare env user m.signAt m.lags m.salt).1 m.saveAt
      return (users, (r.prepare env user m.signAt m.lags m.salt).2) := by
  cases r <;> rfl

end Request

inductive AuthMove (env : AuthEnv) : AuthState → Call → AuthState → Call → Prop
  | accept {s : AuthState} {r : Request} {user : User} (h : r.guard env s.users s.now = .ok user) :
    AuthMove env s ⟨.request r, .arrived⟩ { s with accepted := (r, user) :: s.accepted }
      ⟨.request r, .guarded user⟩
  | refuse {s : AuthState} {r : Request} {e : Exception} (h : r.guard env s.users s.now = .error e) :
    AuthMove env s ⟨.request r, .arrived⟩ s ⟨.request r, .refused e⟩
  | handle {s : AuthState} {r : Request} {user : User} (lags : Lags) (salt : String) :
    AuthMove env s ⟨.request r, .guarded user⟩ { s with signed := r.signs env user s.now lags ++ s.signed }
      ⟨.request r, .updating user.id (r.prepare env user s.now lags salt).1
        (r.prepare env user s.now lags salt).2⟩
  | load {s : AuthState} {o : Operation} {id : ℕ} {dto : UpdateUserDto} {a : Answer} {entity : User}
      (salt : String) (h : UserService.updateUser.load (env.bcrypt.hash salt) s.users id dto = .ok entity) :
    AuthMove env s ⟨o, .updating id dto a⟩ s ⟨o, .loaded entity a⟩
  | notFound {s : AuthState} {o : Operation} {id : ℕ} {dto : UpdateUserDto} {a : Answer} {e : Exception}
      (salt : String) (h : UserService.updateUser.load (env.bcrypt.hash salt) s.users id dto = .error e) :
    AuthMove env s ⟨o, .updating id dto a⟩ s ⟨o, .refused e⟩
  | save {s : AuthState} {o : Operation} {entity : User} {a : Answer} {users : UserTable}
      (h : UserService.updateUser.save s.users entity s.now = .ok users) :
    AuthMove env s ⟨o, .loaded entity a⟩ { s with users := users } ⟨o, .saved a⟩
  | notSaved {s : AuthState} {o : Operation} {entity : User} {a : Answer} {e : Exception}
      (h : UserService.updateUser.save s.users entity s.now = .error e) :
    AuthMove env s ⟨o, .loaded entity a⟩ s ⟨o, .refused e⟩
  -- the database may fail a query at any time
  | unread {s : AuthState} {o : Operation} {id : ℕ} {dto : UpdateUserDto} {a : Answer} {message : String} :
    AuthMove env s ⟨o, .updating id dto a⟩ s ⟨o, .refused (.error "QueryFailedError" message)⟩
  | unwritten {s : AuthState} {o : Operation} {entity : User} {a : Answer} {message : String} :
    AuthMove env s ⟨o, .loaded entity a⟩ s ⟨o, .refused (.error "QueryFailedError" message)⟩
  | answer {s : AuthState} {o : Operation} {a : Answer} :
    AuthMove env s ⟨o, .saved a⟩ s ⟨o, .answered a⟩

/-- The pool of operations of the admitted kind. In between the clock may advance. -/
def authSystem (env : AuthEnv) (admits : Operation → Prop) : System AuthState Call where
  starts c := ∃ o, admits o ∧ c = Call.start o
  ambient s s' := ∃ later, s.now ≤ later ∧ s' = { s with now := later }
  move := AuthMove env

section Moves

variable {env : AuthEnv} {s s' : AuthState} {c c' : Call}

lemma AuthMove.operation_eq (h : AuthMove env s c s' c') : c'.operation = c.operation := by
  cases h <;> rfl

lemma AuthMove.not_arrived (h : AuthMove env s c s' c') : c'.phase ≠ .arrived := by
  cases h <;> simp

lemma AuthMove.users_cases (h : AuthMove env s c s' c') : s'.users = s.users ∨
    ∃ entity a, c.phase = .loaded entity a ∧ c'.phase = .saved a ∧
      s.users.save entity s.now = some s'.users := by
  cases h with
  | save h => exact .inr ⟨_, _, rfl, rfl, save_ok.mp h⟩
  | _ => exact .inl rfl

lemma solo_of_updateUser {o : Operation} {id : ℕ} {dto : UpdateUserDto} {a : Answer} {users' : UserTable}
    {salt : String} (admits : Operation → Prop)
    (h : UserService.updateUser (env.bcrypt.hash salt) s.users id dto s.now = .ok users') :
    Solo (authSystem env admits) (s, ⟨o, .updating id dto a⟩)
      ({ s with users := users' }, ⟨o, .answered a⟩) := by
  obtain ⟨entity, hload, hsave⟩ := updateUser_ok.mp h
  apply solo_cons
  · exact AuthMove.load salt hload
  apply solo_cons
  · exact AuthMove.save (save_ok.mpr hsave)
  exact solo_cons AuthMove.answer .refl

/-- A whole operation, served while the clock stands still, is a run of its call alone. -/
theorem solo_of_serve {o : Operation} {a : Answer} {users' : UserTable} {salt : String} {lags : Lags}
    (admits : Operation → Prop)
    (h : serve env s.users ⟨s.now, s.now, s.now, salt, lags⟩ o = .ok (users', a)) :
    ∃ s', s'.users = users' ∧ Solo (authSystem env admits) (s, Call.start o) (s', ⟨o, .answered a⟩) := by
  cases o with
  | request r =>
    obtain ⟨user, hguard, h⟩ := bind_eq_ok.mp h
    rw [Request.handler_eq] at h
    obtain ⟨saved, hsaved, h⟩ := bind_eq_ok.mp h
    obtain ⟨rfl, rfl⟩ := Prod.mk.inj (Except.ok.inj h)
    exact ⟨_, rfl, solo_cons (AuthMove.accept hguard) (solo_cons (AuthMove.handle lags salt)
      (solo_of_updateUser admits hsaved))⟩
  | updateUser id dto =>
    obtain ⟨saved, hsaved, h⟩ := bind_eq_ok.mp h
    obtain ⟨rfl, rfl⟩ := Prod.mk.inj (Except.ok.inj h)
    exact ⟨_, rfl, solo_of_updateUser admits hsaved⟩

end Moves

/-! ### Rows of the table -/

def UserTable.Knows (t : UserTable) (id : ℕ) (email : String) : Prop :=
  ∃ row, t.findById id = some row ∧ row.email = email

namespace UserTable

variable {t t' : UserTable} {entity : User} {now id : ℕ} {email : String}

lemma save_of_knows (h : t.Knows entity.id entity.email) (now : ℕ) :
    ∃ t', t.save entity now = some t' := by
  apply save_isSome
  rintro ⟨other, hmem, hid, hemail⟩
  obtain ⟨row, hrow, hrowEmail⟩ := h
  obtain ⟨hrowMem, hrowId⟩ := mem_of_findById hrow
  have hsame := List.inj_on_of_nodup_map t.emails hmem hrowMem (hemail.trans hrowEmail.symm)
  exact hid (hsame ▸ hrowId)

lemma Knows.save (hsave : t.save entity now = some t') (hentity : t.Knows entity.id entity.email)
    (h : t.Knows id email) : t'.Knows id email := by
  obtain ⟨row, hrow, hemail⟩ := h
  by_cases hid : id = entity.id
  · subst hid
    obtain ⟨known, hknown, hknownEmail⟩ := hentity
    obtain rfl := Option.some.inj (hrow.symm.trans hknown)
    obtain ⟨stamp, hstamp⟩ := findById_save_self hsave hrow
    exact ⟨_, hstamp, hknownEmail.symm.trans hemail⟩
  · exact ⟨row, (findById_save_of_ne hsave hid).trans hrow, hemail⟩

lemma updateUser_of_knows (hash : String → String) {dto : UpdateUserDto} (h : t.Knows id email)
    (hemail : dto.email = none) (hpassword : dto.password = none) (now : ℕ) :
    ∃ t', UserService.updateUser hash t id dto now = .ok t' ∧ t'.Knows id email := by
  obtain ⟨row, hrow, hrowEmail⟩ := show ∃ row, t.findById id = some row ∧ row.email = email from h
  have hid : row.id = id := (mem_of_findById hrow).2
  have hmerged : t.Knows (row.merge dto).id (row.merge dto).email :=
    ⟨row, hid ▸ hrow, by simp only [User.merge, hemail, Option.getD_none]⟩
  obtain ⟨t', hsave⟩ := save_of_knows hmerged now
  exact ⟨t', updateUser_ok.mpr ⟨_, load_eq hpassword hrow, hsave⟩, Knows.save hsave hmerged h⟩

end UserTable

namespace Sample

noncomputable def token (input : String → String) : String :=
  (env input).jwt.sign "refresh" (user.claims 0 604800)

noncomputable def openUser (input : String → String) : User :=
  { user with refreshTokenHash := some ((env input).bcrypt.hash "salt" (token input)) }

noncomputable def signedIn (input : String → String) : AuthState where
  users := ⟨[openUser input], by simp, by simp⟩
  now := 1000
  accepted := []
  signed := [("refresh", user.claims 0 604800)]

lemma guard_openUser {α : Type} {input : String → String} {view : String → α}
    (h : (Bcrypt.reference input).Compares view) :
    JwtRefreshGuard (env input) (signedIn input).users 1000 (token input) = .ok (openUser input) := by
  refine jwtRefreshGuard_ok.mpr ⟨Jsonwebtoken.sign_ne_empty _ _ _, user.claims 0 604800,
    ?_, rfl, _, rfl, ?_, ?_⟩
  · exact (Jsonwebtoken.verify_sign (Jsonwebtoken.reference_documented _)).trans (if_neg (by decide))
  · exact h.hash_ne_empty _ _
  · exact (h.compare_hash _ _ _).mpr rfl

end Sample

end NextLevelApi
