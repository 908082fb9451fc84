import NextLevelApi.Http
import Mathlib.Data.List.Basic
import Mathlib.Data.List.Nodup

/-!
# Users

The `user` table with its two unique columns, and the two database steps of
`UserService.updateUser`: `load` reads the row and merges the DTO into the entity, `save`
writes the entity back. The entity may be stale by then; nothing checks.
-/

namespace NextLevelApi

inductive Role
  | ADMIN
  | MODERATOR
  | USER
  deriving DecidableEq

def Role.text : Role → String
  | .ADMIN => "admin"
  | .MODERATOR => "moderator"
  | .USER => "user"

def RoleHierarchy : Role → ℕ
  | .USER => 1
  | .MODERATOR => 2
  | .ADMIN => 3

/-- `RoleHierarchy[role]` for a role read from a token: the column is a plain varchar, and
an unknown string has no rank. -/
def RoleHierarchy.lookup (role : String) : Option ℕ :=
  if role = Role.USER.text then some (RoleHierarchy .USER)
  else if role = Role.MODERATOR.text then some (RoleHierarchy .MODERATOR)
  else if role = Role.ADMIN.text then some (RoleHierarchy .ADMIN)
  else none

structure User where
  id : ℕ
  firstName : Option String
  lastName : Option String
  email : String
  passwordHash : String
  role : String
  refreshTokenHash : Option String
  tenantId : ℕ
  createdAt : ℕ
  updatedAt : ℕ
  deriving DecidableEq

/-- `UpdateUserDto`: every field may be undefined, and `refreshTokenHash` may also be null. -/
structure UpdateUserDto where
  firstName : Option String := none
  lastName : Option String := none
  email : Option String := none
  refreshTokenHash : Option (Option String) := none
  password : Option String := none
  role : Option Role := none
  tenantId : Option ℕ := none

/-- `userRepository.merge(user, dto)`: the defined fields of the DTO, `password` being no
column of the entity. -/
def User.merge (user : User) (dto : UpdateUserDto) : User :=
  { user with
    firstName := dto.firstName.or user.firstName
    lastName := dto.lastName.or user.lastName
    email := dto.email.getD user.email
    refreshTokenHash := dto.refreshTokenHash.getD user.refreshTokenHash
    role := (dto.role.map Role.text).getD user.role
    tenantId := dto.tenantId.getD user.tenantId }

@[simp] lemma User.merge_id (user : User) (dto : UpdateUserDto) : (user.merge dto).id = user.id := rfl

/-- The `user` table: the primary key and the unique constraint on `email` hold of it. -/
structure UserTable where
  rows : List User
  ids : (rows.map User.id).Nodup
  emails : (rows.map User.email).Nodup

namespace UserTable

variable {t t' : UserTable} {id : ℕ} {row : User}

def findById (t : UserTable) (id : ℕ) : Option User := t.rows.find? (·.id = id)

def findByEmail (t : UserTable) (email : String) : Option User := t.rows.find? (·.email = email)

lemma mem_of_findById (h : t.findById id = some row) : row ∈ t.rows ∧ row.id = id := by
  refine ⟨List.mem_of_find?_eq_some h, ?_⟩
  simpa using List.find?_some h

lemma findById_of_mem (h : row ∈ t.rows) : t.findById row.id = some row := by
  obtain ⟨found, hfound⟩ : ∃ r, t.findById row.id = some r :=
    Option.isSome_iff_exists.mp (List.find?_isSome.mpr ⟨row, h, by simp⟩)
  obtain ⟨hmem, hid⟩ := mem_of_findById hfound
  rw [hfound, List.inj_on_of_nodup_map t.ids hmem h hid]

lemma findById_of_findByEmail {email : String} (h : t.findByEmail email = some row) :
    t.findById row.id = some row :=
  findById_of_mem (List.mem_of_find?_eq_some h)

/-- The row that replaces `row` when `entity` is saved at time `now`: every column in which
the entity differs is written, and then `updated_at` too. -/
def overwrite (entity : User) (now : ℕ) (row : User) : User :=
  if row.id = entity.id then
    if row = entity then row else { entity with updatedAt := now }
  else row

@[simp] lemma overwrite_id (entity : User) (now : ℕ) (row : User) :
    (overwrite entity now row).id = row.id := by
  unfold overwrite
  split
  · next h => split <;> simp [h]
  · rfl

lemma overwrite_of_ne {entity : User} {now : ℕ} (h : row.id ≠ entity.id) :
    overwrite entity now row = row := by
  simp [overwrite, h]

/-- Apart from `updated_at` the written row is the entity. -/
lemma overwrite_eq {entity : User} (now : ℕ) (h : row.id = entity.id) :
    ∃ stamp, overwrite entity now row = { entity with updatedAt := stamp } := by
  unfold overwrite
  rw [if_pos h]
  split
  · next heq => exact ⟨entity.updatedAt, heq⟩
  · exact ⟨now, rfl⟩

def emailTaken (t : UserTable) (entity : User) : Prop :=
  ∃ row ∈ t.rows, row.id ≠ entity.id ∧ row.email = entity.email

instance (t : UserTable) (entity : User) : Decidable (t.emailTaken entity) :=
  inferInstanceAs (Decidable (∃ row ∈ t.rows, row.id ≠ entity.id ∧ row.email = entity.email))

lemma emails_overwrite (t : UserTable) (entity : User) (now : ℕ) (h : ¬t.emailTaken entity) :
    ((t.rows.map (overwrite entity now)).map User.email).Nodup := by
  have hids := List.Nodup.of_map _ t.ids
  rw [List.map_map]
  refine List.Nodup.map_on ?_ hids
  have hemail : ∀ r : User, r.id = entity.id → (overwrite entity now r).email = entity.email := by
    intro r hr
    obtain ⟨stamp, hstamp⟩ := overwrite_eq now hr
    rw [hstamp]
  intro a ha b hb hab
  simp only [Function.comp_apply] at hab
  by_cases hae : a.id = entity.id <;> by_cases hbe : b.id = entity.id
  · exact List.inj_on_of_nodup_map t.ids ha hb (hae.trans hbe.symm)
  · rw [hemail a hae, overwrite_of_ne hbe] at hab
    exact absurd ⟨b, hb, hbe, hab.symm⟩ h
  · rw [hemail b hbe, overwrite_of_ne hae] at hab
    exact absurd ⟨a, ha, hae, hab⟩ h
  · rw [overwrite_of_ne hae, overwrite_of_ne hbe] at hab
    exact List.inj_on_of_nodup_map t.emails ha hb hab

/-- `userRepository.save(user)` at time `now`. No row is ever deleted, so the entity's row
is still there. -/
def save (t : UserTable) (entity : User) (now : ℕ) : Option UserTable :=
  if h : t.emailTaken entity then none
  else some
    { rows := t.rows.map (overwrite entity now)
      ids := by
        rw [List.map_map, show User.id ∘ overwrite entity now = User.id from
          funext (overwrite_id entity now)]
        exact t.ids
      emails := emails_overwrite t entity now h }

lemma save_rows {entity : User} {now : ℕ} (h : t.save entity now = some t') :
    t'.rows = t.rows.map (overwrite entity now) := by
  unfold save at h
  split at h
  · exact absurd h (by simp)
  · rw [← Option.some.inj h]

lemma save_isSome {entity : User} {now : ℕ} (h : ¬t.emailTaken entity) :
    ∃ t', t.save entity now = some t' := by
  unfold save
  rw [dif_neg h]
  exact ⟨_, rfl⟩

lemma findById_save {entity : User} {now : ℕ} (h : t.save entity now = some t') (id : ℕ) :
    t'.findById id = (t.findById id).map (overwrite entity now) := by
  unfold findById
  rw [save_rows h, List.find?_map]
  congr 2
  funext row
  simp

/-- After a save the entity's row is the entity, apart from `updated_at`. -/
lemma findById_save_self {entity : User} {now : ℕ} (h : t.save entity now = some t')
    (hrow : t.findById entity.id = some row) :
    ∃ stamp, t'.findById entity.id = some { entity with updatedAt := stamp } := by
  obtain ⟨stamp, hstamp⟩ := overwrite_eq now (mem_of_findById hrow).2
  exact ⟨stamp, by rw [findById_save h, hrow, Option.map_some, hstamp]⟩

lemma findById_save_of_ne {entity : User} {now : ℕ} (h : t.save entity now = some t')
    (hid : id ≠ entity.id) : t'.findById id = t.findById id := by
  rw [findById_save h]
  cases hrow : t.findById id with
  | none => rfl
  | some row =>
    have hr : row.id ≠ entity.id := by rw [(mem_of_findById hrow).2]; exact hid
    rw [Option.map_some, overwrite_of_ne hr]

end UserTable

/-! ### UserService -/

namespace UserService

def getUserById (users : UserTable) (id : ℕ) : Option User := users.findById id

/-- The first database step of `updateUser`: read the row and merge the DTO into it.
`hash` is `bcrypt.hash(·, 10)` with the salt drawn for this call. -/
def updateUser.load (hash : String → String) (users : UserTable) (id : ℕ) (dto : UpdateUserDto) :
    Except Exception User :=
  match users.findById id with
  | none => .error (NotFoundException s!"User with id {id} not found")
  | some user =>
    let user :=
      match dto.password with
      | none => user
      -- an empty password is falsy and is not hashed
      | some password =>
        if password = "" then user else { user with passwordHash := hash password }
    .ok (user.merge dto)

def updateUser.save (users : UserTable) (entity : User) (now : ℕ) : Except Exception UserTable :=
  match users.save entity now with
  | none => .error (.error "QueryFailedError" "duplicate key value violates unique constraint")
  | some users => .ok users

/-- `updateUser` with nothing in between its two steps. -/
def updateUser (hash : String → String) (users : UserTable) (id : ℕ) (dto : UpdateUserDto)
    (now : ℕ) : Except Exception UserTable := do
  let entity ← updateUser.load hash users id dto
  updateUser.save users entity now

end UserService

end NextLevelApi
