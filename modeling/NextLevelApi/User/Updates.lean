import NextLevelApi.Auth.Service
import NextLevelApi.Library.ThreadPool

/-!
# Concurrent updates of a user

`updateUser` reads the row in one database step and saves the whole entity in another, so
what other writers put into the row in between is written back as it was. The threads here
are calls of `updateUser`, interleaved with each other and with writers that set some
columns at once. `settled_run` says what is kept as long as no save finds a column changed
that its DTO does not name.
-/

namespace NextLevelApi
open ThreadPool

inductive Column
  | firstName
  | lastName
  | email
  | passwordHash
  | role
  | refreshTokenHash
  | tenantId
  deriving DecidableEq

abbrev Column.Value : Column → Type
  | .firstName => Option String
  | .lastName => Option String
  | .email => String
  | .passwordHash => String
  | .role => String
  | .refreshTokenHash => Option String
  | .tenantId => ℕ

def User.get (user : User) : (c : Column) → c.Value
  | .firstName => user.firstName
  | .lastName => user.lastName
  | .email => user.email
  | .passwordHash => user.passwordHash
  | .role => user.role
  | .refreshTokenHash => user.refreshTokenHash
  | .tenantId => user.tenantId

/-- New values for some columns. -/
abbrev Patch := (c : Column) → Option c.Value

def User.apply (user : User) (patch : Patch) : User :=
  { user with
    firstName := (patch .firstName).getD user.firstName
    lastName := (patch .lastName).getD user.lastName
    email := (patch .email).getD user.email
    passwordHash := (patch .passwordHash).getD user.passwordHash
    role := (patch .role).getD user.role
    refreshTokenHash := (patch .refreshTokenHash).getD user.refreshTokenHash
    tenantId := (patch .tenantId).getD user.tenantId }

/-- The columns that a DTO names, with what they are to hold. -/
def UpdateUserDto.patch (hash : String → String) (dto : UpdateUserDto) : Patch
  | .firstName => dto.firstName.map some
  | .lastName => dto.lastName.map some
  | .email => dto.email
  | .passwordHash => (dto.password.filter (· ≠ "")).map hash
  | .role => dto.role.map Role.text
  | .refreshTokenHash => dto.refreshTokenHash
  | .tenantId => dto.tenantId

lemma User.get_apply (user : User) (patch : Patch) (c : Column) :
    (user.apply patch).get c = (patch c).getD (user.get c) := by
  cases c <;> rfl

/-- What `findOne` and `merge` leave is the row with the DTO's columns in it. -/
lemma load_eq_apply {hash : String → String} {users : UserTable} {id : ℕ} {dto : UpdateUserDto}
    {entity : User} (h : UserService.updateUser.load hash users id dto = .ok entity) :
    ∃ row, users.findById id = some row ∧ entity = row.apply (dto.patch hash) := by
  unfold UserService.updateUser.load at h
  cases hrow : users.findById id with
  | none => exact absurd h (by simp [hrow])
  | some row =>
    rw [hrow] at h
    refine ⟨row, rfl, ?_⟩
    obtain rfl := Except.ok.inj h
    have hname : ∀ (name : Option String) (old : Option String), name.or old = (name.map some).getD old := by
      intro name old
      cases name <;> rfl
    cases hpassword : dto.password with
    | none => simp [User.merge, User.apply, UpdateUserDto.patch, hpassword, hname]
    | some password =>
      by_cases hempty : password = ""
      · simp [User.merge, User.apply, UpdateUserDto.patch, hpassword, hempty, hname, Option.filter_some]
      · simp [User.merge, User.apply, UpdateUserDto.patch, hpassword, hempty, hname, Option.filter_some]

/-! ### Writers -/

/-- A call of `updateUser`, or a writer that sets some columns in one step. -/
inductive Writer
  | updateUser (id : ℕ) (dto : UpdateUserDto) (hash : String → String)
  | other (id : ℕ) (patch : Patch)

namespace Writer

def id : Writer → ℕ
  | updateUser id _ _ => id
  | other id _ => id

def writes : Writer → Patch
  | updateUser _ dto hash => dto.patch hash
  | other _ patch => patch

end Writer

/-- How far a writer has come; `read` is the row that its `findOne` returned. -/
inductive WriterThread
  | started (w : Writer)
  | loaded (w : Writer) (read entity : User)
  | saved (w : Writer)
  | failed (w : Writer)

inductive WriteMove : UserTable → WriterThread → UserTable → WriterThread → Prop
  | findOne {users : UserTable} {id : ℕ} {dto : UpdateUserDto} {hash : String → String}
      {read entity : User} (hrow : users.findById id = some read)
      (h : UserService.updateUser.load hash users id dto = .ok entity) :
      WriteMove users (.started (.updateUser id dto hash)) users
        (.loaded (.updateUser id dto hash) read entity)
  | notFound {users : UserTable} {id : ℕ} {dto : UpdateUserDto} {hash : String → String} {e : Exception}
      (h : UserService.updateUser.load hash users id dto = .error e) :
      WriteMove users (.started (.updateUser id dto hash)) users (.failed (.updateUser id dto hash))
  | save {users users' : UserTable} {w : Writer} {read entity : User} {now : ℕ}
      (h : UserService.updateUser.save users entity now = .ok users') :
      WriteMove users (.loaded w read entity) users' (.saved w)
  | refused {users : UserTable} {w : Writer} {read entity : User} {now : ℕ} {e : Exception}
      (h : UserService.updateUser.save users entity now = .error e) :
      WriteMove users (.loaded w read entity) users (.failed w)
  | write {users users' : UserTable} {id : ℕ} {patch : Patch} {row : User} {now : ℕ}
      (hrow : users.findById id = some row) (h : users.save (row.apply patch) now = some users') :
      WriteMove users (.started (.other id patch)) users' (.saved (.other id patch))
  | giveUp {users : UserTable} {id : ℕ} {patch : Patch} :
      WriteMove users (.started (.other id patch)) users (.failed (.other id patch))

def userWrites : System UserTable WriterThread where
  starts t := ∃ w, t = .started w
  ambient _ _ := False
  move := WriteMove

/-- A save finds each of these columns as its `findOne` read it, unless its DTO names it. -/
def FindsUnchanged (columns : Column → Prop) (users : UserTable) : WriterThread → Prop
  | .loaded w read _ => ∀ c, columns c → w.writes c = none →
      ∀ row, users.findById w.id = some row → row.get c = read.get c
  | _ => True

/-- The runs in which every save finds the columns unchanged. -/
def undisturbedWrites (columns : Column → Prop) : System UserTable WriterThread :=
  userWrites.restrict (FindsUnchanged columns) fun _ _ _ => True

/-! ### What the column holds -/

/-- A column that no writer of the user has saved is as it was, and one that a single writer
has saved holds what that writer wrote. -/
structure OnlyNamed (u : ℕ) (original : User) (threads : List WriterThread) (row : User) (c : Column) :
    Prop where
  unnamed : (∀ w, WriterThread.saved w ∈ threads → w.id = u → w.writes c = none) → row.get c = original.get c
  named_once : ∀ (i : ℕ) (w : Writer) v, threads[i]? = some (.saved w) → w.id = u → w.writes c = some v →
    (∀ (j : ℕ) (w' : Writer), threads[j]? = some (.saved w') → w'.id = u → w'.writes c ≠ none → j = i) →
    row.get c = v

/-- The column holds what it held first, and nobody has written it, or what somebody wrote. -/
def Settled (u : ℕ) (original : User) (threads : List WriterThread) (row : User) (c : Column) : Prop :=
  (row.get c = original.get c ∧ ∀ w, WriterThread.saved w ∈ threads → w.id = u → w.writes c = none) ∨
    ∃ w, WriterThread.saved w ∈ threads ∧ w.id = u ∧ w.writes c = some (row.get c)

/-- The invariant of undisturbed runs. -/
structure Kept (columns : Column → Prop) (u : ℕ) (original : User) (p : Pool UserTable WriterThread) :
    Prop where
  merged : ∀ w read entity, WriterThread.loaded w read entity ∈ p.threads →
    entity.id = w.id ∧ ∀ c, entity.get c = (w.writes c).getD (read.get c)
  settled : ∃ row, p.shared.findById u = some row ∧ ∀ c, columns c → Settled u original p.threads row c

variable {u : ℕ} {original row : User} {threads : List WriterThread} {c : Column}

lemma Settled.onlyNamed (h : Settled u original threads row c) : OnlyNamed u original threads row c := by
  constructor
  · intro hnone
    obtain ⟨hrow, -⟩ | ⟨w, hw, hu, hwrites⟩ := h
    · exact hrow
    · exact absurd (hwrites.symm.trans (hnone w hw hu)) (by simp)
  · intro i w v hi hu hv honce
    obtain ⟨-, hnone⟩ | ⟨w', hw', hu', hwrites⟩ := h
    · exact absurd (hv.symm.trans (hnone w (List.mem_of_getElem? hi) hu)) (by simp)
    · obtain ⟨j, hj⟩ := List.mem_iff_getElem?.mp hw'
      obtain rfl := honce j w' hj hu' (by simp [hwrites])
      obtain rfl := WriterThread.saved.inj (Option.some.inj (hj.symm.trans hi))
      exact Option.some.inj (hwrites.symm.trans hv)

/-! ### Steps -/

lemma mem_set_of_ne {old new t : WriterThread} {i : ℕ} (hi : threads[i]? = some old) (ht : t ∈ threads)
    (hne : t ≠ old) : t ∈ threads.set i new := by
  obtain ⟨j, hj⟩ := List.mem_iff_getElem?.mp ht
  have hij : i ≠ j := by
    rintro rfl
    exact hne (Option.some.inj (hj.symm.trans hi))
  rw [List.mem_iff_getElem?]
  exact ⟨j, by rw [List.getElem?_set_ne hij, hj]⟩

/-- A thread that has not saved moves without saving. -/
lemma Settled.unsaved {old new : WriterThread} {i : ℕ} (h : Settled u original threads row c)
    (hi : threads[i]? = some old) (hold : ∀ w, old ≠ .saved w) (hnew : ∀ w, new ≠ .saved w) :
    Settled u original (threads.set i new) row c := by
  obtain ⟨hrow, hnone⟩ | ⟨w, hw, hu, hwrites⟩ := h
  · refine .inl ⟨hrow, fun w hw => ?_⟩
    obtain hw | hw := List.mem_or_eq_of_mem_set hw
    · exact hnone w hw
    · exact absurd hw.symm (hnew w)
  · exact .inr ⟨w, mem_set_of_ne hi hw (hold w).symm, hu, hwrites⟩

/-- A writer saves the row with its own columns in it. -/
lemma Settled.saved {old : WriterThread} {i : ℕ} {w : Writer} {row' : User}
    (h : Settled u original threads row c) (hi : threads[i]? = some old) (hold : ∀ w, old ≠ .saved w)
    (hrow' : if w.id = u then row'.get c = (w.writes c).getD (row.get c) else row' = row) :
    Settled u original (threads.set i (.saved w)) row' c := by
  have hmem : WriterThread.saved w ∈ threads.set i (.saved w) :=
    List.mem_set (List.getElem?_eq_some_iff.mp hi).1 _
  by_cases hnamed : w.id = u ∧ w.writes c ≠ none
  · obtain ⟨hid, hne⟩ := hnamed
    obtain ⟨v, hv⟩ := Option.ne_none_iff_exists'.mp hne
    rw [if_pos hid, hv, Option.getD_some] at hrow'
    exact .inr ⟨w, hmem, hid, by rw [hrow', hv]⟩
  · have hkept : row'.get c = row.get c := by
      by_cases hid : w.id = u
      · rw [if_pos hid, not_ne_iff.mp fun hne => hnamed ⟨hid, hne⟩] at hrow'
        exact hrow'
      · rw [if_neg hid] at hrow'
        rw [hrow']
    obtain ⟨hrow, hnone⟩ | ⟨w', hw', hu, hwrites⟩ := h
    · refine .inl ⟨hkept.trans hrow, fun w' hw' hu => ?_⟩
      obtain hw' | hw' := List.mem_or_eq_of_mem_set hw'
      · exact hnone w' hw' hu
      · obtain rfl := WriterThread.saved.inj hw'
        exact not_ne_iff.mp fun hne => hnamed ⟨hu, hne⟩
    · exact .inr ⟨w', mem_set_of_ne hi hw' (hold w').symm, hu, by rw [hkept, hwrites]⟩

/-- What a save of an entity does to the user's row. -/
lemma findById_saved {users users' : UserTable} {entity : User} {now : ℕ}
    (h : users.save entity now = some users') (hrow : users.findById u = some row) :
    ∃ row', users'.findById u = some row' ∧
      if entity.id = u then ∀ c, row'.get c = entity.get c else row' = row := by
  by_cases hid : entity.id = u
  · subst hid
    obtain ⟨stamp, hsaved⟩ := UserTable.findById_save_self h hrow
    refine ⟨_, hsaved, ?_⟩
    rw [if_pos rfl]
    intro c
    cases c <;> rfl
  · refine ⟨row, ?_, by rw [if_neg hid]⟩
    rw [UserTable.findById_save_of_ne h (Ne.symm hid), hrow]

variable {columns : Column → Prop} {p q : Pool UserTable WriterThread}

/-- The invariant after a save by the thread at index `i`. -/
lemma Kept.saved {i : ℕ} {old : WriterThread} {w : Writer} {entity : User} {now : ℕ} {users' : UserTable}
    (hp : Kept columns u original p) (hi : p.threads[i]? = some old) (hold : ∀ w, old ≠ .saved w)
    (hid : entity.id = w.id) (h : p.shared.save entity now = some users')
    (hmerged : ∀ c, columns c → ∀ row, p.shared.findById w.id = some row →
      entity.get c = (w.writes c).getD (row.get c)) :
    Kept columns u original ⟨users', p.threads.set i (.saved w)⟩ := by
  constructor
  · intro w' read entity' hloaded
    obtain hloaded | hloaded := List.mem_or_eq_of_mem_set hloaded
    · exact hp.merged w' read entity' hloaded
    · exact absurd hloaded (by simp)
  · obtain ⟨row, hrow, hsettled⟩ := hp.settled
    obtain ⟨row', hrow', hget⟩ := findById_saved h hrow
    refine ⟨row', hrow', fun c hc => (hsettled c hc).saved hi hold ?_⟩
    rw [hid] at hget
    by_cases hu : w.id = u
    · rw [if_pos hu] at hget ⊢
      rw [hget c, hmerged c hc row (hu ▸ hrow)]
    · rw [if_neg hu] at hget ⊢
      exact hget

/-- The invariant after a move that changes no row and saves nothing. -/
lemma Kept.unsaved {i : ℕ} {old new : WriterThread} (hp : Kept columns u original p)
    (hi : p.threads[i]? = some old) (hold : ∀ w, old ≠ .saved w) (hnew : ∀ w, new ≠ .saved w)
    (hmerged : ∀ w read entity, new = .loaded w read entity →
      entity.id = w.id ∧ ∀ c, entity.get c = (w.writes c).getD (read.get c)) :
    Kept columns u original ⟨p.shared, p.threads.set i new⟩ := by
  constructor
  · intro w read entity hloaded
    obtain hloaded | hloaded := List.mem_or_eq_of_mem_set hloaded
    · exact hp.merged w read entity hloaded
    · exact hmerged w read entity hloaded.symm
  · obtain ⟨row, hrow, hsettled⟩ := hp.settled
    exact ⟨row, hrow, fun c hc => (hsettled c hc).unsaved hi hold hnew⟩

lemma Kept.started (hp : Kept columns u original p) (w : Writer) :
    Kept columns u original ⟨p.shared, p.threads ++ [.started w]⟩ := by
  constructor
  · intro w' read entity hloaded
    obtain hloaded | hloaded := List.mem_append.mp hloaded
    · exact hp.merged w' read entity hloaded
    · exact absurd (List.mem_singleton.mp hloaded) (by simp)
  · obtain ⟨row, hrow, hsettled⟩ := hp.settled
    refine ⟨row, hrow, fun c hc => ?_⟩
    obtain ⟨hget, hnone⟩ | ⟨w', hw', hu, hwrites⟩ := hsettled c hc
    · refine .inl ⟨hget, fun w' hw' => ?_⟩
      obtain hw' | hw' := List.mem_append.mp hw'
      · exact hnone w' hw'
      · exact absurd (List.mem_singleton.mp hw') (by simp)
    · exact .inr ⟨w', List.mem_append_left _ hw', hu, hwrites⟩

theorem kept_step (hp : Kept columns u original p) (h : Step (undisturbedWrites columns) p q) :
    Kept columns u original q := by
  cases h with
  | start h =>
    obtain ⟨w, rfl⟩ := h
    exact hp.started w
  | ambient h => exact absurd h (by simp [undisturbedWrites, System.restrict, userWrites])
  | @move i t t' s' hi hpermits h =>
    obtain ⟨hunchanged, hmove⟩ := h
    cases hmove with
    | findOne hrow hload =>
      obtain ⟨row, hrow', rfl⟩ := load_eq_apply hload
      obtain rfl := Option.some.inj (hrow.symm.trans hrow')
      refine hp.unsaved hi (by simp) (by simp) ?_
      rintro _ _ _ ⟨rfl, rfl, rfl⟩
      exact ⟨(UserTable.mem_of_findById hrow).2, fun c => User.get_apply _ _ c⟩
    | notFound hload => exact hp.unsaved hi (by simp) (by simp) (by simp)
    | @save _ w read entity now hsave =>
      obtain ⟨hid, hget⟩ := hp.merged w read entity (List.mem_of_getElem? hi)
      refine hp.saved hi (by simp) hid (save_ok.mp hsave) fun c hc row hrow => ?_
      rw [hget c]
      cases hwrites : w.writes c with
      | none => exact (hunchanged c hc hwrites row hrow).symm
      | some v => rfl
    | refused hsave => exact hp.unsaved hi (by simp) (by simp) (by simp)
    | @write _ id patch row now hrow hsave =>
      have hid : (row.apply patch).id = id := (UserTable.mem_of_findById hrow).2
      refine hp.saved hi (by simp) hid hsave fun c _ row' hrow' => ?_
      obtain rfl := Option.some.inj (hrow.symm.trans hrow')
      exact User.get_apply _ _ c
    | giveUp => exact hp.unsaved hi (by simp) (by simp) (by simp)

theorem kept_run (hp : Kept columns u original p) (h : Run (undisturbedWrites columns) p q) :
    Kept columns u original q := by
  induction h with
  | refl => exact hp
  | tail _ hstep ih => exact kept_step ih hstep

theorem onlyNamed_run {users : UserTable} (hrow : users.findById u = some original)
    (h : Run (undisturbedWrites columns) ⟨users, []⟩ q) :
    ∃ row, q.shared.findById u = some row ∧ ∀ c, columns c → OnlyNamed u original q.threads row c := by
  have hstart : Kept columns u original ⟨users, []⟩ := by
    constructor
    · exact fun _ _ _ h => absurd h (by simp)
    · exact ⟨original, hrow, fun c _ => .inl ⟨rfl, fun _ h => absurd h (by simp)⟩⟩
  obtain ⟨row, hrow', hsettled⟩ := (kept_run hstart h).settled
  exact ⟨row, hrow', fun c hc => (hsettled c hc).onlyNamed⟩

/-- A save that finds a column changed writes back what it had read: the condition on the
runs cannot be dropped. -/
theorem stale_save {i : ℕ} {w : Writer} {read entity row : User} {users' : UserTable} {now : ℕ}
    (hi : p.threads[i]? = some (.loaded w read entity)) (hid : entity.id = w.id)
    (hget : entity.get c = (w.writes c).getD (read.get c)) (hunnamed : w.writes c = none)
    (hrow : p.shared.findById w.id = some row) (hchanged : row.get c ≠ read.get c)
    (hsave : p.shared.save entity now = some users')
    (hp : Settled w.id original p.threads row c)
    (honce : ∀ (j k : ℕ) (v v' : Writer), p.threads[j]? = some (.saved v) → p.threads[k]? = some (.saved v') →
      v.id = w.id → v'.id = w.id → v.writes c ≠ none → v'.writes c ≠ none → j = k) :
    ∃ row', users'.findById w.id = some row' ∧
      ¬OnlyNamed w.id original (p.threads.set i (.saved w)) row' c := by
  obtain ⟨row', hrow', hentity⟩ := findById_saved hsave hrow
  rw [if_pos hid] at hentity
  have hback : row'.get c = read.get c := by rw [hentity c, hget, hunnamed, Option.getD_none]
  refine ⟨row', hrow', fun honly => hchanged ?_⟩
  obtain ⟨horiginal, hnone⟩ | ⟨v, hv, hu, hwrites⟩ := hp
  · rw [horiginal, ← hback]
    refine (honly.unnamed fun v hv hu => ?_).symm
    obtain hv | hv := List.mem_or_eq_of_mem_set hv
    · exact hnone v hv hu
    · obtain rfl := WriterThread.saved.inj hv
      exact hunnamed
  · obtain ⟨j, hj⟩ := List.mem_iff_getElem?.mp hv
    have hij : i ≠ j := by
      rintro rfl
      exact absurd (hi.symm.trans hj) (by simp)
    rw [← hback]
    refine (honly.named_once j v _ (by rw [List.getElem?_set_ne hij, hj]) hu hwrites ?_).symm
    intro k v' hk hu' hnamed
    obtain ⟨rfl, hv'⟩ | ⟨-, hk⟩ := getElem?_move hi hk
    · obtain rfl := WriterThread.saved.inj hv'
      exact absurd hunnamed hnamed
    · exact honce k j v' v hk hj hu' hu hnamed (by simp [hwrites])

/-! ### A login and a change of the role -/

namespace Sample

/-- What a login saves. -/
def storesToken : Writer := .updateUser 1 { refreshTokenHash := some (some "$2b$10$rt") } id

def promotes : Writer := .updateUser 1 { role := some .MODERATOR } id

def loggedIn : User := { user with refreshTokenHash := some "$2b$10$rt" }

def promoted : User := { user with role := "moderator" }

def promotedUsers : UserTable := ⟨[{ promoted with updatedAt := 1 }], by decide, by decide⟩

def loggedInUsers : UserTable := ⟨[{ loggedIn with updatedAt := 2 }], by decide, by decide⟩

lemma findOne_storesToken :
    WriteMove users (.started storesToken) users (.loaded storesToken user loggedIn) := .findOne rfl rfl

lemma findOne_promotes :
    WriteMove users (.started promotes) users (.loaded promotes user promoted) := .findOne rfl rfl

lemma save_promotes (read : User) :
    WriteMove users (.loaded promotes read promoted) promotedUsers (.saved promotes) :=
  @WriteMove.save _ _ _ _ _ 1 rfl

lemma save_storesToken (read : User) :
    WriteMove promotedUsers (.loaded storesToken read loggedIn) loggedInUsers (.saved storesToken) :=
  @WriteMove.save _ _ _ _ _ 2 rfl

end Sample

open Sample in
/-- The login read the row before the promotion was saved, and its save undoes the promotion. -/
theorem login_undoes_promotion : ∃ q row, Run userWrites ⟨users, []⟩ q ∧
    q.threads = [.saved storesToken, .saved promotes] ∧ q.shared.findById user.id = some row ∧
    row.role = "user" ∧ ¬OnlyNamed user.id user q.threads row .role := by
  have hpermits : ∀ {ts : List WriterThread} {i s t}, ∀ (j : ℕ) u, j ≠ i → ts[j]? = some u →
      userWrites.permits s t u := fun _ _ _ _ => trivial
  have h1 : Step userWrites ⟨users, []⟩ ⟨users, [.started storesToken]⟩ := .start ⟨_, rfl⟩
  have h2 : Step userWrites ⟨users, [.started storesToken]⟩
      ⟨users, [.started storesToken, .started promotes]⟩ := .start ⟨_, rfl⟩
  have h3 : Step userWrites ⟨users, [.started storesToken, .started promotes]⟩
      ⟨users, [.loaded storesToken user loggedIn, .started promotes]⟩ :=
    .move (i := 0) rfl hpermits findOne_storesToken
  have h4 : Step userWrites ⟨users, [.loaded storesToken user loggedIn, .started promotes]⟩
      ⟨users, [.loaded storesToken user loggedIn, .loaded promotes user promoted]⟩ :=
    .move (i := 1) rfl hpermits findOne_promotes
  have h5 : Step userWrites ⟨users, [.loaded storesToken user loggedIn, .loaded promotes user promoted]⟩
      ⟨promotedUsers, [.loaded storesToken user loggedIn, .saved promotes]⟩ :=
    .move (i := 1) rfl hpermits (save_promotes user)
  have h6 : Step userWrites ⟨promotedUsers, [.loaded storesToken user loggedIn, .saved promotes]⟩
      ⟨loggedInUsers, [.saved storesToken, .saved promotes]⟩ :=
    .move (i := 0) rfl hpermits (save_storesToken user)
  refine ⟨_, { loggedIn with updatedAt := 2 },
    .tail (.tail (.tail (.tail (.tail (.single h1) h2) h3) h4) h5) h6, rfl, rfl, rfl, fun h => ?_⟩
  have hrole := h.named_once 1 promotes "moderator" rfl rfl rfl ?_
  · exact absurd hrole (by decide)
  · intro j w hj hu hnamed
    match j, hj with
    | 0, hj =>
      obtain rfl := WriterThread.saved.inj (Option.some.inj hj)
      exact absurd rfl hnamed
    | 1, _ => rfl

namespace Sample

/-- Both calls have read the row before either saves. Only the role is written back as it was. -/
lemma overlapping_run : Run (undisturbedWrites fun c => c ≠ .role) ⟨users, []⟩
    ⟨loggedInUsers, [.saved storesToken, .saved promotes]⟩ := by
  have hstart : Run (undisturbedWrites fun c => c ≠ .role) ⟨users, []⟩
      ⟨users, [.started storesToken, .started promotes]⟩ :=
    .tail (.single (.start ⟨_, rfl⟩)) (.start ⟨_, rfl⟩)
  have hread : Run (undisturbedWrites fun c => c ≠ .role) ⟨users, []⟩
      ⟨users, [.loaded storesToken user loggedIn, .loaded promotes user promoted]⟩ :=
    (hstart.tail (.move (i := 0) rfl (fun _ _ _ _ => ⟨trivial, trivial⟩) ⟨trivial, findOne_storesToken⟩)).tail
      (.move (i := 1) rfl (fun _ _ _ _ => ⟨trivial, trivial⟩) ⟨trivial, findOne_promotes⟩)
  have hpromotes : FindsUnchanged (fun c => c ≠ .role) users (.loaded promotes user promoted) := by
    intro c _ _ row hrow
    obtain rfl := Option.some.inj hrow
    rfl
  have hstores : FindsUnchanged (fun c => c ≠ .role) promotedUsers (.loaded storesToken user loggedIn) := by
    intro c hc _ row hrow
    obtain rfl := Option.some.inj hrow
    cases c with
    | role => exact absurd rfl hc
    | _ => rfl
  exact (hread.tail (.move (i := 1) rfl (fun _ _ _ _ => ⟨trivial, trivial⟩)
    ⟨hpromotes, save_promotes user⟩)).tail (.move (i := 0) rfl (fun _ _ _ _ => ⟨trivial, trivial⟩)
      ⟨hstores, save_storesToken user⟩)

end Sample

open Sample in
/-- Of the login and the promotion, every column but the role holds what it should. -/
theorem onlyNamed_run_overlapping : ∃ row,
    Run (undisturbedWrites fun c => c ≠ .role) ⟨users, []⟩
      ⟨loggedInUsers, [.saved storesToken, .saved promotes]⟩ ∧
    loggedInUsers.findById user.id = some row ∧ row.refreshTokenHash = some "$2b$10$rt" ∧
    ∀ c, c ≠ .role → OnlyNamed user.id user [.saved storesToken, .saved promotes] row c := by
  have huser : users.findById user.id = some user := rfl
  obtain ⟨row, hrow, honly⟩ := onlyNamed_run huser overlapping_run
  refine ⟨row, overlapping_run, hrow, ?_, honly⟩
  rw [← Option.some.inj (show _ = some row from hrow)]
  rfl

end NextLevelApi
