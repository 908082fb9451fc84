import Mathlib.Data.List.Forall2
import Mathlib.Logic.Relation
import NextLevelApi.Library.DdlInverse

/-!
# Migrations

The migrations of the database, one after another on live data: versions of the program that come
with more and more of them, reverts, and whatever the program writes between.
-/

namespace NextLevelApi
open Ddl

structure Migration where
  name : String
  up : List Statement
  down : List Statement

def Migration1766349775054 : Migration where
  name := "Migration1766349775054"
  up := [
    .createEnum "tenant_erp_provider_enum" ["softone", "wme"],
    .createTable "tenant"
      [.serial "id", .required "name" .varchar, .required "erp_provider" (.enum "tenant_erp_provider_enum"),
        .nullable "erp_config_encrypted" .varchar, .stamped "created_at", .stamped "updated_at"]
      [("PK_da8c6efd67bb301e810e56ac139", .primaryKey "id")],
    .createTable "user"
      [.serial "id", .nullable "first_name" .varchar, .nullable "last_name" .varchar,
        .required "email" .varchar, .required "password_hash" .varchar, .required "role" .varchar,
        .nullable "refresh_token_hash" .text, .required "tenant_id" .integer, .stamped "created_at",
        .stamped "updated_at"]
      [("UQ_e12875dfb3b1d92d7d7c5377e22", .unique "email"),
        ("PK_cace4a159ff9f2512dd42373760", .primaryKey "id")],
    .addForeignKey "user" "FK_ae07d48a61ca20ab3586d397a71" "tenant_id" "tenant" "id"]
  down := [
    .dropConstraint "user" "FK_ae07d48a61ca20ab3586d397a71",
    .dropTable "user",
    .dropTable "tenant",
    .dropEnum "tenant_erp_provider_enum"]

def Migration1769357519893 : Migration where
  name := "Migration1769357519893"
  up := [
    .createTable "receipt"
      [.serial "id", .nullable "receipt_number" .varchar, .required "receipt_date" .date,
        .required "supplier_name" .varchar, .nullable "supplier_tax_id" .varchar,
        .required "total_amount" (.numeric 12 2), .stamped "created_at", .stamped "updated_at"]
      [("PK_b4b9ec7d164235fbba023da9832", .primaryKey "id")],
    .createTable "receipt_item" [.serial "id", .required "receipt_id" .integer]
      [("PK_f83b5790116dde891f8176d79d4", .primaryKey "id")],
    .addForeignKey "receipt_item" "FK_af93b7dae4cba8a37654272490d" "receipt_id" "receipt" "id"]
  down := [
    .dropConstraint "receipt_item" "FK_af93b7dae4cba8a37654272490d",
    .dropTable "receipt_item",
    .dropTable "receipt"]

def Migration1769523612589 : Migration where
  name := "Migration1769523612589"
  up := [
    .addColumn "receipt_item" (.required "category_id" .integer),
    .addColumn "receipt_item" (.required "total_price" (.numeric 12 2)),
    .addColumn "receipt_item" (.required "category_classification_confidence" .integer)]
  down := [
    .dropColumn "receipt_item" "category_classification_confidence",
    .dropColumn "receipt_item" "total_price",
    .dropColumn "receipt_item" "category_id"]

def Migration1769523803405 : Migration where
  name := "Migration1769523803405"
  up := [.addColumn "receipt_item" (.required "name" .varchar)]
  down := [.dropColumn "receipt_item" "name"]

def Migration1769524755485 : Migration where
  name := "Migration1769524755485"
  up := [
    .addColumn "receipt_item" (.required "item_price" (.numeric 12 2)),
    .addColumn "receipt_item" (.required "quantity" .integer)]
  down := [.dropColumn "receipt_item" "quantity", .dropColumn "receipt_item" "item_price"]

def Migration1769767651243 : Migration where
  name := "Migration1769767651243"
  up := [
    .addColumn "receipt_item" (.stamped "created_at"),
    .addColumn "receipt_item" (.stamped "updated_at")]
  down := [.dropColumn "receipt_item" "updated_at", .dropColumn "receipt_item" "created_at"]

def Migration1770093102405 : Migration where
  name := "Migration1770093102405"
  up := [
    .addColumn "receipt" (.required "s3_key" .varchar),
    .addColumn "receipt" (.required "use_id" .integer)]
  down := [.dropColumn "receipt" "use_id", .dropColumn "receipt" "s3_key"]

def Migration1770093126257 : Migration where
  name := "Migration1770093126257"
  up := [.renameColumn "receipt" "use_id" "user_id"]
  down := [.renameColumn "receipt" "user_id" "use_id"]

/-- The migrations in the order of their timestamps. -/
def migrations : List Migration := [Migration1766349775054, Migration1769357519893, Migration1769523612589,
  Migration1769523803405, Migration1769524755485, Migration1769767651243, Migration1770093102405,
  Migration1770093126257]

/-- The migrations from number `a` on and before number `b`. -/
def between (a b : ℕ) : List Migration := (migrations.drop a).take (b - a)

def upgrade (a b : ℕ) : List Statement := (between a b).flatMap Migration.up

/-- What reverting those migrations, the last one first, executes. -/
def downgrade (a b : ℕ) : List Statement := (between a b).reverse.flatMap Migration.down

/-- The tables after the first migrations. -/
def schemaAt (stage : ℕ) : Option (Database Unit) := execAll noValues (upgrade 0 stage) ⟨[], []⟩

/-! ### Entities -/

inductive Decorator
  | PrimaryGeneratedColumn (name : String)
  | Column (name : String) (type : SqlType) (nullable unique : Bool)
  | CreateDateColumn (name : String)
  | UpdateDateColumn (name : String)
  /-- `@ManyToOne` with its `@JoinColumn` -/
  | ManyToOne (joinColumn entity : String)

def Decorator.column : Decorator → List Ddl.Column
  | .PrimaryGeneratedColumn name => [.serial name]
  | .Column name type nullable _ => [⟨name, type, !nullable, none⟩]
  | .CreateDateColumn name => [.stamped name]
  | .UpdateDateColumn name => [.stamped name]
  | .ManyToOne _ _ => []

def Decorator.rule : Decorator → List Rule
  | .PrimaryGeneratedColumn name => [.primaryKey name]
  | .Column name _ _ unique => if unique then [.unique name] else []
  | .ManyToOne joinColumn entity => [.foreignKey joinColumn entity "id"]
  | _ => []

structure Entity where
  name : String
  decorators : List Decorator

def Entity.columns (e : Entity) : List Ddl.Column := e.decorators.flatMap Decorator.column

def Entity.rules (e : Entity) : List Rule := e.decorators.flatMap Decorator.rule

def Tenant.entity : Entity where
  name := "tenant"
  decorators := [
    .PrimaryGeneratedColumn "id",
    .Column "name" .varchar false false,
    .Column "erp_provider" (.enum "tenant_erp_provider_enum") false false,
    .Column "erp_config_encrypted" .varchar true false,
    .CreateDateColumn "created_at",
    .UpdateDateColumn "updated_at"]

def User.entity : Entity where
  name := "user"
  decorators := [
    .PrimaryGeneratedColumn "id",
    .Column "first_name" .varchar true false,
    .Column "last_name" .varchar true false,
    .Column "email" .varchar false true,
    .Column "password_hash" .varchar false false,
    .Column "role" .varchar false false,
    .Column "refresh_token_hash" .text true false,
    .Column "tenant_id" .integer false false,
    .ManyToOne "tenant_id" "tenant",
    .CreateDateColumn "created_at",
    .UpdateDateColumn "updated_at"]

def Receipt.entity : Entity where
  name := "receipt"
  decorators := [
    .PrimaryGeneratedColumn "id",
    .Column "receipt_number" .varchar true false,
    .Column "receipt_date" .date false false,
    .Column "supplier_name" .varchar false false,
    .Column "supplier_tax_id" .varchar true false,
    .Column "total_amount" (.numeric 12 2) false false,
    .Column "s3_key" .varchar false false,
    .Column "user_id" .integer false false,
    .CreateDateColumn "created_at",
    .UpdateDateColumn "updated_at"]

def ReceiptItem.entity : Entity where
  name := "receipt_item"
  decorators := [
    .PrimaryGeneratedColumn "id",
    .Column "name" .varchar false false,
    .Column "category_id" .integer false false,
    .Column "total_price" (.numeric 12 2) false false,
    .Column "item_price" (.numeric 12 2) false false,
    .Column "quantity" .integer false false,
    .Column "category_classification_confidence" .integer false false,
    .Column "receipt_id" .integer false false,
    .ManyToOne "receipt_id" "receipt",
    .CreateDateColumn "created_at",
    .UpdateDateColumn "updated_at"]

def entities : List Entity := [Tenant.entity, User.entity, Receipt.entity, ReceiptItem.entity]

def ErpType.labels : List String := ["softone", "wme"]

/-- The table that an entity is read from and written to. -/
def Entity.Describes {V : Type} (e : Entity) (t : Table V) : Prop :=
  t.name = e.name ∧ t.columns.Perm e.columns ∧ (t.constraints.map Prod.snd).Perm e.rules

instance {V : Type} (e : Entity) (t : Table V) : Decidable (e.Describes t) :=
  inferInstanceAs (Decidable (_ ∧ _ ∧ _))

/-- The table has what the program reads: the columns of the entity, no null where the entity has
none, and rows that the foreign keys find. -/
def Entity.Holds {V : Type} (db : Database V) (e : Entity) (t : Table V) : Prop :=
  e.Describes t ∧ ∀ row ∈ t.rows, (∀ c ∈ e.columns, c.notNull = true → row c.name ≠ none) ∧
    ∀ joinColumn entity, .ManyToOne joinColumn entity ∈ e.decorators →
      db.Finds (row joinColumn) entity "id"

/-! ### Deployments -/

section Deployments

variable {V : Type} [DecidableEq V]

/-- A database with the number of migrations that its table `migrations` lists. -/
structure Deployed (V : Type) where
  stage : ℕ
  db : Database V

/-- A run or a revert is one transaction; one that fails leaves everything as it was. -/
inductive Deployed.Step : Deployed V → Deployed V → Prop
  /-- `migration:run` of a version that comes with the first `count` migrations -/
  | run {s : Deployed V} {count : ℕ} {fill : Default → Row V → V} {db : Database V} :
    count ≤ migrations.length → execAll fill (upgrade s.stage count) s.db = some db →
      Step s ⟨max s.stage count, db⟩
  /-- `migration:revert` -/
  | revert {stage : ℕ} {fill : Default → Row V → V} {db db' : Database V} :
    execAll fill (downgrade stage (stage + 1)) db = some db' → Step ⟨stage + 1, db⟩ ⟨stage, db'⟩
  /-- rows inserted, updated or deleted -/
  | write {stage : ℕ} {db db' : Database V} :
    db'.schema = db.schema → db'.Valid → Step ⟨stage, db⟩ ⟨stage, db'⟩

def Deployed.Reached (s : Deployed V) : Prop := Relation.ReflTransGen Step ⟨0, ⟨[], []⟩⟩ s

structure Deployed.Kept (s : Deployed V) : Prop where
  stage_le : s.stage ≤ migrations.length
  valid : s.db.Valid
  schema : schemaAt s.stage = some s.db.schema

variable {s s' : Deployed V} {fill fill' : Default → Row V → V} {db db' : Database V} {a b c count : ℕ}

lemma between_append (hab : a ≤ b) (hbc : b ≤ c) : between a c = between a b ++ between b c := by
  have hlength : c - a = (b - a) + (c - b) := by omega
  unfold between
  rw [hlength, List.take_add, List.drop_drop, Nat.add_sub_cancel' hab]

lemma upgrade_append (hab : a ≤ b) (hbc : b ≤ c) : upgrade a c = upgrade a b ++ upgrade b c := by
  rw [upgrade, between_append hab hbc, List.flatMap_append]
  rfl

lemma upgrade_eq_nil (h : b ≤ a) : upgrade a b = [] := by
  rw [upgrade, between, Nat.sub_eq_zero_of_le h]
  rfl

lemma exists_schemaAt (hab : a ≤ b) {d' : Database Unit} (h : schemaAt b = some d') :
    ∃ d, schemaAt a = some d ∧ execAll noValues (upgrade a b) d = some d' := by
  unfold schemaAt at h ⊢
  rw [upgrade_append (Nat.zero_le a) hab, execAll_append] at h
  exact Option.bind_eq_some_iff.mp h

lemma schemaAt_upgrade (hab : a ≤ b) {d : Database Unit} (h : schemaAt a = some d) :
    schemaAt b = execAll noValues (upgrade a b) d := by
  unfold schemaAt at h ⊢
  rw [upgrade_append (Nat.zero_le a) hab, execAll_append, h]
  rfl

/-- Every migration is taken back statement by statement. -/
lemma down_inverse : ∀ m ∈ migrations, m.up.map Statement.inverse = m.down.reverse.map some := by
  decide

lemma downgrade_inverse (a b : ℕ) :
    List.Forall₂ (fun s s' => Statement.inverse s = some s') (upgrade a b) (downgrade a b).reverse := by
  have hall : ∀ ms : List Migration, (∀ m ∈ ms, m ∈ migrations) →
      List.Forall₂ (fun s s' => Statement.inverse s = some s') (ms.flatMap Migration.up)
        (ms.reverse.flatMap Migration.down).reverse := by
    intro ms hms
    induction ms with
    | nil => exact .nil
    | cons m ms ih =>
      have hfirst : List.Forall₂ (fun s s' => Statement.inverse s = some s') m.up m.down.reverse := by
        have hdown := down_inverse m (hms m List.mem_cons_self)
        rw [← List.forall₂_eq_eq_eq, List.forall₂_map_left_iff, List.forall₂_map_right_iff] at hdown
        exact hdown
      have hrest := ih fun m' hm' => hms m' (List.mem_cons_of_mem m hm')
      rw [List.flatMap_cons, List.reverse_cons, List.flatMap_append, List.reverse_append]
      simpa using List.rel_append hfirst hrest
  exact hall _ fun m hm => List.mem_of_mem_drop (List.mem_of_mem_take hm)

lemma downgrade_schema (hab : a ≤ b) {d' : Database Unit} (h : schemaAt b = some d') :
    ∃ d, schemaAt a = some d ∧ execAll noValues (downgrade a b) d' = some d := by
  obtain ⟨d, hd, hrun⟩ := exists_schemaAt hab h
  have hvalid : d.Valid := valid_empty.execAll hd
  have hback : execAll noValues (downgrade a b).reverse.reverse d' = some d :=
    execAll_inverse hvalid hrun (downgrade_inverse a b)
  rw [List.reverse_reverse] at hback
  exact ⟨d, hd, hback⟩

lemma Deployed.Kept.step (h : s.Kept) (hstep : Step s s') : s'.Kept := by
  cases hstep with
  | @run _ count fill db hcount hrun =>
    refine ⟨Nat.max_le.mpr ⟨h.stage_le, hcount⟩, h.valid.execAll hrun, ?_⟩
    rcases Nat.le_total s.stage count with hle | hle
    · rw [Nat.max_eq_right hle, schemaAt_upgrade hle h.schema]
      exact execAll_schema hrun
    · rw [upgrade_eq_nil hle] at hrun
      obtain rfl := Option.some.inj hrun
      rw [Nat.max_eq_left hle]
      exact h.schema
  | @revert stage fill db db' hrevert =>
    refine ⟨Nat.le_of_succ_le h.stage_le, h.valid.execAll hrevert, ?_⟩
    obtain ⟨d, hd, hback⟩ := downgrade_schema (Nat.le_succ stage) h.schema
    rw [execAll_schema hrevert] at hback
    rw [hd, hback]
  | write hschema hvalid => exact ⟨h.stage_le, hvalid, hschema ▸ h.schema⟩

lemma Deployed.Kept.run (h : s.Kept) (hrun : Relation.ReflTransGen Step s s') : s'.Kept := by
  induction hrun with
  | refl => exact h
  | tail _ hstep ih => exact ih.step hstep

lemma Deployed.Reached.kept (h : s.Reached) : s.Kept :=
  Kept.run ⟨Nat.zero_le _, valid_empty, rfl⟩ h

/-! ### What the program finds -/

lemma schema_entities : ∀ d ∈ schemaAt 8, d.enums = [("tenant_erp_provider_enum", ErpType.labels)] ∧
    List.Forall₂ Entity.Describes entities d.tables := by
  decide

omit [DecidableEq V] in
lemma describes_schema {e : Entity} {t : Table V} : e.Describes t.schema ↔ e.Describes t := .rfl

omit [DecidableEq V] in
lemma Entity.Describes.holds {e : Entity} {t : Table V} (h : e.Describes t) (hvalid : db.Valid)
    (ht : t ∈ db.tables) : e.Holds db t := by
  obtain ⟨hname, hcolumns, hrules⟩ := h
  refine ⟨⟨hname, hcolumns, hrules⟩, fun row hrow => ⟨fun c hc hnull => ?_, fun column entity hmany => ?_⟩⟩
  · exact (hvalid.sound t ht).filled row hrow c (hcolumns.mem_iff.mpr hc) hnull
  · have hrule : Rule.foreignKey column entity "id" ∈ e.rules :=
      List.mem_flatMap.mpr ⟨_, hmany, List.mem_singleton_self _⟩
    obtain ⟨k, hk, hkey⟩ := List.mem_map.mp (hrules.mem_iff.mpr hrule)
    have hfound := hvalid.finds t ht k hk entity "id" (by rw [hkey]; rfl) row hrow
    rwa [hkey] at hfound

/-- Whatever has been deployed, reverted and written, a database with all migrations has the tables
of the entities and no others, and its rows are what the entities say. -/
theorem entities_hold (h : s.Reached) (hstage : s.stage = migrations.length) :
    s.db.enums = [("tenant_erp_provider_enum", ErpType.labels)] ∧
      List.Forall₂ (Entity.Holds s.db) entities s.db.tables := by
  have hschema := h.kept.schema
  rw [hstage] at hschema
  obtain ⟨henums, htables⟩ := schema_entities _ hschema
  refine ⟨henums, ?_⟩
  have hmapped : List.Forall₂ Entity.Describes entities (s.db.tables.map Table.schema) := htables
  have hdescribes := (List.forall₂_map_right_iff.mp hmapped).flip
  have hmem := (List.forall₂_and_left s.db.tables entities).mpr ⟨fun _ ht => ht, hdescribes⟩
  exact (hmem.imp fun t e ht => (describes_schema.mp ht.2).holds h.kept.valid ht.1).flip

/-! ### Rows -/

def Row.ofCells (cells : List (String × V)) : Row V := fun name => cells.lookup name

instance (db : Database V) (value : Option V) (table column : String) :
    Decidable (db.Finds value table column) :=
  inferInstanceAs (Decidable (_ ∨ _))

/-- A row with these cells can be inserted. -/
def Takes (db : Database V) (t : Table V) (cells : List (String × V)) : Prop :=
  (∀ p ∈ cells, t.Has p.1) ∧ (∀ c ∈ t.columns, c.notNull = true → cells.lookup c.name ≠ none) ∧
    ∀ k ∈ t.constraints, ∀ r ∈ k.2.refersTo, db.Finds (cells.lookup k.2.column) r.1 r.2

instance (db : Database V) (t : Table V) (cells : List (String × V)) : Decidable (Takes db t cells) :=
  inferInstanceAs (Decidable (_ ∧ _ ∧ _))

def Database.insert (table : String) (cells : List (String × V)) (db : Database V) : Database V :=
  db.map (Table.only table (Table.insert (Row.ofCells cells)))

variable {cells : List (String × V)} {table : String}

lemma Deployed.Reached.insert {stage : ℕ} (h : Deployed.Reached ⟨stage, db⟩)
    (htakes : ∀ t ∈ db.tables, t.name = table → Takes db t cells) :
    Deployed.Reached ⟨stage, Database.insert table cells db⟩ := by
  have hinserted : (Database.insert table cells db).Valid := by
    refine h.kept.valid.insert (fun t ht hname name hhas => ?_) (fun t ht hname => (htakes t ht hname).2.1)
      fun t ht hname k hk references target hrefers => (htakes t ht hname).2.2 k hk _ hrefers
    refine List.lookup_eq_none_iff.mpr fun p hp => ?_
    have hne : name ≠ p.1 := fun heq => hhas (heq ▸ (htakes t ht hname).1 p hp)
    simpa using hne
  have hschemas : ∀ t : Table V,
      (Table.only table (Table.insert (Row.ofCells cells)) t).schema = t.schema :=
    only_keeps Table.schema fun _ => rfl
  have hsame : (Database.insert table cells db).schema = db.schema := by
    simp only [Database.insert, Database.schema, Database.map, List.map_map, Function.comp_def, hschemas]
  exact h.tail (.write hsame hinserted)

omit [DecidableEq V] in
lemma not_empty_insert (h : table ∈ db.tables.map Table.name) :
    ¬(Database.insert table cells db).Empty table := by
  obtain ⟨t, ht, hname⟩ := List.mem_map.mp h
  intro hempty
  have hsame : ∀ t : Table V, (Table.only table (Table.insert (Row.ofCells cells)) t).name = t.name :=
    only_keeps Table.name fun _ => rfl
  have hnone := hempty _ (List.mem_map_of_mem ht) ((hsame t).trans hname)
  rw [Table.only, if_pos hname] at hnone
  exact absurd hnone (List.append_ne_nil_of_right_ne_nil _ (by simp))

namespace Sample

def defaults : Default → Row String → String := fun _ _ => "1"

def tenantCells : List (String × String) := [("id", "1"), ("name", "Shop"), ("erp_provider", "wme"),
  ("created_at", "1"), ("updated_at", "1")]

def userCells : List (String × String) := [("id", "1"), ("email", "a@b.ro"), ("password_hash", "2"),
  ("role", "user"), ("tenant_id", "1"), ("created_at", "1"), ("updated_at", "1")]

lemma takes_tenant : ∀ db ∈ execAll defaults (upgrade 0 2) ⟨[], []⟩, ∀ t ∈ db.tables, t.name = "tenant" →
    Takes db t tenantCells := by
  decide

lemma takes_user : ∀ db ∈ execAll defaults (upgrade 0 2) ⟨[], []⟩,
    ∀ db' ∈ execAll defaults (upgrade 2 8) (Database.insert "tenant" tenantCells db),
      (∀ t ∈ db'.tables, t.name = "user" → Takes db' t userCells) ∧
        "user" ∈ db'.tables.map Table.name := by
  decide

end Sample

open Sample in
/-- A tenant, the later migrations, and a user of the tenant. -/
theorem entities_hold_migrated : ∃ db : Database String, Deployed.Reached ⟨8, db⟩ ∧
    ¬db.Empty "user" ∧ List.Forall₂ (Entity.Holds db) entities db.tables := by
  obtain ⟨db, hdb⟩ : ∃ db, execAll defaults (upgrade 0 2) ⟨[], []⟩ = some db :=
    Option.isSome_iff_exists.mp (by decide)
  have hfirst : Deployed.Reached ⟨2, db⟩ := .single (.run (by decide) hdb)
  obtain ⟨db', hdb'⟩ : ∃ db', execAll defaults (upgrade 2 8) (Database.insert "tenant" tenantCells db) =
      some db' := by
    have hruns : ∀ db ∈ execAll defaults (upgrade 0 2) ⟨[], []⟩,
        (execAll defaults (upgrade 2 8) (Database.insert "tenant" tenantCells db)).isSome := by
      decide
    exact Option.isSome_iff_exists.mp (hruns db hdb)
  have hsecond : Deployed.Reached ⟨8, db'⟩ :=
    (hfirst.insert (takes_tenant db hdb)).tail (.run (Nat.le_refl 8) hdb')
  obtain ⟨htakes, huser⟩ := takes_user db hdb db' hdb'
  have hreached := hsecond.insert htakes
  exact ⟨_, hreached, not_empty_insert huser, (entities_hold hreached rfl).2⟩

/-! ### What a version can be deployed on -/

lemma asked : ∀ k ∈ List.range 9, ∀ st ∈ upgrade k 8, ∀ table ∈ st.asks,
    (∀ d ∈ schemaAt k, table ∉ d.tables.map Table.name) ∨
      (2 ≤ k ∧ k ≤ 6) ∧ (table = "receipt" ∨ table = "receipt_item") := by
  decide

def itemsKey : String × Rule :=
  ("FK_af93b7dae4cba8a37654272490d", .foreignKey "receipt_id" "receipt" "id")

set_option synthInstance.maxSize 400 in
lemma items_key : ∀ k ∈ List.range 9, ∀ d ∈ schemaAt k, ∀ t ∈ d.tables, t.name = "receipt_item" →
    itemsKey ∈ t.constraints := by
  decide

lemma items_column : ∀ k ∈ List.range 9, ∀ d ∈ schemaAt k, ∀ t ∈ d.tables, t.name = "receipt_item" →
    Column.required "receipt_id" .integer ∈ t.columns := by
  decide

lemma no_drops : ∀ k ∈ List.range 9, ∀ st ∈ upgrade k 8, st.inverse ≠ none := by
  decide

lemma adds_key : ∀ k ∈ List.range 7, .addColumn "receipt" (.required "s3_key" .varchar) ∈ upgrade k 8 := by
  decide

/-- The pending migrations can be run exactly if there is no receipt or none of them adds a column
that every receipt or every line has to have. -/
theorem pending_applies_iff (fill : Default → Row V → V) (h : s.Reached) :
    (∃ db, execAll fill (upgrade s.stage migrations.length) s.db = some db) ↔
      (2 ≤ s.stage → s.stage ≤ 6 → s.db.Empty "receipt") := by
  obtain ⟨hle, hvalid, hschema⟩ := h.kept
  have hrange : s.stage ∈ List.range 9 := List.mem_range.mpr (Nat.lt_succ_of_le hle)
  constructor
  · rintro ⟨db, hrun⟩ - hstage
    have hdrop : ∀ name, .dropTable name ∉ upgrade s.stage 8 := fun name hmem =>
      no_drops _ hrange _ hmem rfl
    exact empty_of_execAll hrun hdrop (adds_key _ (List.mem_range.mpr (Nat.lt_succ_of_le hstage))) rfl rfl
  · intro hempty
    obtain ⟨d, hd⟩ : ∃ d, schemaAt migrations.length = some d := Option.isSome_iff_exists.mp (by decide)
    rw [schemaAt_upgrade hle hschema] at hd
    have hblank : ∀ st ∈ upgrade s.stage 8, ∀ table, st.asks = some table → s.db.Empty table := by
      intro st hst table hasks
      rcases asked _ hrange st hst table hasks with hnone | ⟨⟨hlow, hhigh⟩, rfl | rfl⟩
      · intro t ht hname
        exact absurd (List.mem_map.mpr ⟨t.schema, List.mem_map_of_mem ht, hname⟩) (hnone _ hschema)
      · exact hempty hlow hhigh
      · intro t ht hname
        exact hvalid.empty_of_refers (hempty hlow hhigh) ht
          (items_key _ hrange _ hschema t.schema (List.mem_map_of_mem ht) hname)
          (items_column _ hrange _ hschema t.schema (List.mem_map_of_mem ht) hname) rfl rfl
    obtain ⟨db, hrun, -⟩ : ∃ db, execAll fill (upgrade s.stage migrations.length) s.db = some db ∧
        db.schema = d := execAll_of_empty hd hblank
    exact ⟨db, hrun⟩

namespace Sample

/-- A receipt of the second version. -/
def receiptCells : List (String × String) := [("id", "1"), ("receipt_date", "2026-02-03"),
  ("supplier_name", "Shop"), ("total_amount", "9.90"), ("created_at", "1"), ("updated_at", "1")]

lemma takes_receipt : ∀ db ∈ execAll defaults (upgrade 0 2) ⟨[], []⟩,
    (∀ t ∈ db.tables, t.name = "receipt" → Takes db t receiptCells) ∧
      "receipt" ∈ db.tables.map Table.name ∧
      (execAll defaults (upgrade 2 6) (Database.insert "receipt" receiptCells db)).isSome := by
  decide

lemma first_receipt : ∃ db : Database String, Deployed.Reached ⟨2, db⟩ ∧ ¬db.Empty "receipt" ∧
    (execAll defaults (upgrade 2 6) db).isSome := by
  obtain ⟨db, hdb⟩ : ∃ db, execAll defaults (upgrade 0 2) ⟨[], []⟩ = some db :=
    Option.isSome_iff_exists.mp (by decide)
  have hreached : Deployed.Reached ⟨2, db⟩ := .single (.run (by decide) hdb)
  obtain ⟨htakes, hreceipt, hruns⟩ := takes_receipt db hdb
  exact ⟨_, hreached.insert htakes, not_empty_insert hreceipt, hruns⟩

end Sample

theorem pending_applies_iff_receipt : ∃ db : Database String, Deployed.Reached ⟨2, db⟩ ∧
    ¬∃ db', execAll Sample.defaults (upgrade 2 8) db = some db' := by
  obtain ⟨db, hreached, hrows, -⟩ := Sample.first_receipt
  refine ⟨db, hreached, fun hrun => hrows ?_⟩
  exact (pending_applies_iff Sample.defaults hreached).mp hrun (Nat.le_refl 2) (Nat.le_add_right 2 4)

/-! ### Reverts -/

lemma downgrade_asks (a b : ℕ) : ∀ st ∈ downgrade a b, st.asks = none := by
  have hall : ∀ m ∈ migrations, ∀ st ∈ m.down, st.asks = none := by decide
  intro st hst
  obtain ⟨m, hm, hst⟩ := List.mem_flatMap.mp hst
  exact hall m (List.mem_of_mem_drop (List.mem_of_mem_take (List.mem_reverse.mp hm))) st hst

/-- Reverts never fail, whatever has been written, and right after a run they restore the data as
well: every table is again what it was, row by row. -/
theorem migrations_reversible (fill fill' : Default → Row V → V) (h : s.Reached) :
    (∀ a ≤ s.stage, ∃ db, execAll fill (downgrade a s.stage) s.db = some db ∧
      schemaAt a = some db.schema) ∧
    ∀ count db, execAll fill (upgrade s.stage count) s.db = some db →
      execAll fill' (downgrade s.stage count) db = some s.db := by
  obtain ⟨hle, hvalid, hschema⟩ := h.kept
  constructor
  · intro a ha
    obtain ⟨d, hd, hback⟩ := downgrade_schema ha hschema
    have hblank : ∀ st ∈ downgrade a s.stage, ∀ table, st.asks = some table → s.db.Empty table := by
      intro st hst table hasks
      exact absurd ((downgrade_asks a s.stage st hst).symm.trans hasks) (by simp)
    obtain ⟨db, hrun, rfl⟩ : ∃ db, execAll fill (downgrade a s.stage) s.db = some db ∧ db.schema = d :=
      execAll_of_empty hback hblank
    exact ⟨db, hrun, hd⟩
  · intro count db hrun
    have hback : execAll fill' (downgrade s.stage count).reverse.reverse db = some s.db :=
      execAll_inverse hvalid hrun (downgrade_inverse s.stage count)
    rwa [List.reverse_reverse] at hback

open Sample in
/-- With a receipt in the table: four migrations more and back again, and one migration back. -/
theorem migrations_reversible_receipt : ∃ db later earlier : Database String,
    Deployed.Reached ⟨2, db⟩ ∧ ¬db.Empty "receipt" ∧ execAll defaults (upgrade 2 6) db = some later ∧
      execAll defaults (downgrade 2 6) later = some db ∧
      execAll defaults (downgrade 1 2) db = some earlier := by
  obtain ⟨db, hreached, hrows, hruns⟩ := first_receipt
  obtain ⟨later, hlater⟩ := Option.isSome_iff_exists.mp hruns
  obtain ⟨hback, hagain⟩ := migrations_reversible defaults defaults hreached
  obtain ⟨earlier, hearlier, -⟩ := hback 1 (Nat.le_succ 1)
  exact ⟨db, later, earlier, hreached, hrows, hlater, hagain 6 later hlater, hearlier⟩

end Deployments

end NextLevelApi
