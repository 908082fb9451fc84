import Mathlib.Data.List.Basic
import Mathlib.Logic.Function.Basic

/-!
# Data definition statements

The part of the data definition language of PostgreSQL that changes tables one column or
constraint at a time, over databases with their rows. What statements do to the tables does not
depend on the rows, but some of them wait for a table that is empty.
-/

namespace Ddl

inductive SqlType
  | integer
  | varchar
  | text
  | date
  | timestamp
  | numeric (precision scale : ℕ)
  | enum (name : String)
  deriving DecidableEq

inductive Default
  | now
  | nextval
  deriving DecidableEq

structure Column where
  name : String
  type : SqlType
  notNull : Bool
  default : Option Default
  deriving DecidableEq

/-- `name SERIAL NOT NULL` -/
def Column.serial (name : String) : Column := ⟨name, .integer, true, some .nextval⟩

/-- `name type NOT NULL` -/
def Column.required (name : String) (type : SqlType) : Column := ⟨name, type, true, none⟩

/-- `name type` -/
def Column.nullable (name : String) (type : SqlType) : Column := ⟨name, type, false, none⟩

/-- `name TIMESTAMP NOT NULL DEFAULT now()` -/
def Column.stamped (name : String) : Column := ⟨name, .timestamp, true, some .now⟩

/-- A table constraint over one column. -/
inductive Rule
  | primaryKey (column : String)
  | unique (column : String)
  | foreignKey (column table target : String)
  deriving DecidableEq

def Rule.column : Rule → String
  | .primaryKey column => column
  | .unique column => column
  | .foreignKey column _ _ => column

/-- The table and the column that a foreign key refers to. -/
def Rule.refersTo : Rule → Option (String × String)
  | .foreignKey _ table target => some (table, target)
  | _ => none

/-- The values of a row, null being none. -/
abbrev Row (V : Type) := String → Option V

@[ext]
structure Table (V : Type) where
  name : String
  columns : List Column
  constraints : List (String × Rule)
  rows : List (Row V)

structure Database (V : Type) where
  enums : List (String × List String)
  tables : List (Table V)

inductive Statement
  | createEnum (name : String) (labels : List String)
  | dropEnum (name : String)
  | createTable (name : String) (columns : List Column) (constraints : List (String × Rule))
  | dropTable (name : String)
  | addForeignKey (table name column references target : String)
  | dropConstraint (table name : String)
  | addColumn (table : String) (column : Column)
  | dropColumn (table column : String)
  | renameColumn (table old new : String)
  deriving DecidableEq

variable {V : Type}

abbrev Table.Has (t : Table V) (column : String) : Prop := column ∈ t.columns.map Column.name

def Database.names (db : Database V) : List String :=
  db.enums.map Prod.fst ++ db.tables.map Table.name

/-- The types that a column may have. -/
def Database.Knows (db : Database V) : SqlType → Prop
  | .enum name => name ∈ db.enums.map Prod.fst
  | _ => True

/-- A column that foreign keys may refer to. -/
def Database.Keyed (db : Database V) (table column : String) : Prop :=
  ∃ t ∈ db.tables, t.name = table ∧ ∃ k ∈ t.constraints, k.2 = .primaryKey column ∨ k.2 = .unique column

/-- A column that no foreign key refers to. -/
def Database.Free (db : Database V) (table column : String) : Prop :=
  ∀ t ∈ db.tables, ∀ k ∈ t.constraints, k.2.refersTo ≠ some (table, column)

/-! ### Statements -/

/-- What the tables have to be for the statement. -/
def Statement.Fits (db : Database V) : Statement → Prop
  | .createEnum name _ => name ∉ db.names
  | .dropEnum name =>
    name ∈ db.enums.map Prod.fst ∧ ∀ t ∈ db.tables, ∀ c ∈ t.columns, c.type ≠ .enum name
  | .createTable name columns constraints =>
    name ∉ db.names ∧ (columns.map Column.name).Nodup ∧ (∀ c ∈ columns, db.Knows c.type) ∧
      (constraints.map Prod.fst).Nodup ∧
      ∀ k ∈ constraints, k.2.column ∈ columns.map Column.name ∧ k.2.refersTo = none
  | .dropTable name =>
    name ∈ db.tables.map Table.name ∧
      ∀ t ∈ db.tables, t.name ≠ name → ∀ k ∈ t.constraints, k.2.refersTo.map Prod.fst ≠ some name
  | .addForeignKey table name column references target =>
    table ∈ db.tables.map Table.name ∧ db.Keyed references target ∧
      ∀ t ∈ db.tables, t.name = table → name ∉ t.constraints.map Prod.fst ∧ t.Has column
  | .dropConstraint table name =>
    ∃ t ∈ db.tables, t.name = table ∧ ∃ k ∈ t.constraints, k.1 = name ∧
      (k.2.refersTo ≠ none ∨ db.Free table k.2.column)
  | .addColumn table column =>
    table ∈ db.tables.map Table.name ∧ db.Knows column.type ∧
      ∀ t ∈ db.tables, t.name = table → ¬t.Has column.name
  | .dropColumn table column =>
    (∃ t ∈ db.tables, t.name = table ∧ t.Has column) ∧ db.Free table column
  | .renameColumn table old new =>
    (∃ t ∈ db.tables, t.name = table ∧ t.Has old) ∧ ∀ t ∈ db.tables, t.name = table → ¬t.Has new

/-- What the rows have to be for the statement. -/
def Statement.RowsFit (db : Database V) : Statement → Prop
  | .addForeignKey table _ column references target =>
    ∀ t ∈ db.tables, t.name = table → ∀ row ∈ t.rows, row column = none ∨
      ∃ u ∈ db.tables, u.name = references ∧ ∃ r ∈ u.rows, r target = row column
  | .addColumn table column =>
    column.notNull = true → column.default = none → ∀ t ∈ db.tables, t.name = table → t.rows = []
  | _ => True

def Database.map (F : Table V → Table V) (db : Database V) : Database V :=
  { db with tables := db.tables.map F }

def Table.only (table : String) (f : Table V → Table V) (t : Table V) : Table V :=
  if t.name = table then f t else t

def renamed (old new name : String) : String := if name = old then new else name

def Rule.rename (old new : String) : Rule → Rule
  | .primaryKey column => .primaryKey (renamed old new column)
  | .unique column => .unique (renamed old new column)
  | .foreignKey column table target => .foreignKey (renamed old new column) table target

/-- A foreign key after a column of the table that it refers to has been renamed. -/
def Rule.retarget (table old new : String) : Rule → Rule
  | .foreignKey column references target =>
    .foreignKey column references (if references = table then renamed old new target else target)
  | k => k

def Row.rename (old new : String) (row : Row V) : Row V :=
  fun name => if name = new then row old else if name = old then none else row name

def Table.rename (old new : String) (t : Table V) : Table V where
  name := t.name
  columns := t.columns.map fun c => { c with name := renamed old new c.name }
  constraints := t.constraints.map fun k => (k.1, k.2.rename old new)
  rows := t.rows.map (Row.rename old new)

def Table.retarget (table old new : String) (t : Table V) : Table V :=
  { t with constraints := t.constraints.map fun k => (k.1, k.2.retarget table old new) }

def Table.addConstraint (name : String) (k : Rule) (t : Table V) : Table V :=
  { t with constraints := t.constraints ++ [(name, k)] }

def Table.dropConstraint (name : String) (t : Table V) : Table V :=
  { t with constraints := t.constraints.filter (·.1 ≠ name) }

def Table.dropColumn (column : String) (t : Table V) : Table V where
  name := t.name
  columns := t.columns.filter (·.name ≠ column)
  constraints := t.constraints.filter (·.2.column ≠ column)
  rows := t.rows.map fun row => Function.update row column none

section Exec

-- what a default is worth in a row
variable (fill : Default → Row V → V)

def Table.addColumn (column : Column) (t : Table V) : Table V :=
  { t with
    columns := t.columns ++ [column]
    rows := t.rows.map fun row => Function.update row column.name (column.default.map (fill · row)) }

def Statement.effect (db : Database V) : Statement → Database V
  | .createEnum name labels => { db with enums := db.enums ++ [(name, labels)] }
  | .dropEnum name => { db with enums := db.enums.filter (·.1 ≠ name) }
  | .createTable name columns constraints =>
    { db with tables := db.tables ++ [⟨name, columns, constraints, []⟩] }
  | .dropTable name => { db with tables := db.tables.filter (·.name ≠ name) }
  | .addForeignKey table name column references target =>
    db.map (Table.only table (Table.addConstraint name (.foreignKey column references target)))
  | .dropConstraint table name => db.map (Table.only table (Table.dropConstraint name))
  | .addColumn table column => db.map (Table.only table (Table.addColumn fill column))
  | .dropColumn table column => db.map (Table.only table (Table.dropColumn column))
  | .renameColumn table old new =>
    db.map fun t => (Table.only table (Table.rename old new) t).retarget table old new

variable [DecidableEq V]

instance (db : Database V) (type : SqlType) : Decidable (db.Knows type) := by
  cases type <;> unfold Database.Knows <;> infer_instance

instance (db : Database V) (table column : String) : Decidable (db.Keyed table column) := by
  unfold Database.Keyed
  infer_instance

instance (db : Database V) (table column : String) : Decidable (db.Free table column) := by
  unfold Database.Free
  infer_instance

instance (db : Database V) (s : Statement) : Decidable (s.Fits db) := by
  cases s <;> unfold Statement.Fits <;> infer_instance

instance (db : Database V) (s : Statement) : Decidable (s.RowsFit db) := by
  cases s <;> unfold Statement.RowsFit <;> infer_instance

/-- A statement that fails leaves nothing. -/
def Statement.exec (s : Statement) (db : Database V) : Option (Database V) :=
  if s.Fits db ∧ s.RowsFit db then some (s.effect fill db) else none

/-- Statements in a transaction. -/
def execAll (statements : List Statement) (db : Database V) : Option (Database V) :=
  statements.foldlM (fun db s => s.exec fill db) db

lemma execAll_append (first second : List Statement) (db : Database V) :
    execAll fill (first ++ second) db = (execAll fill first db).bind (execAll fill second) :=
  List.foldlM_append

end Exec

/-! ### Tables without their rows -/

section Schema

variable {fill : Default → Row V → V} {s : Statement} {db : Database V} {table : String}

def Table.schema (t : Table V) : Table Unit := ⟨t.name, t.columns, t.constraints, []⟩

def Database.schema (db : Database V) : Database Unit := ⟨db.enums, db.tables.map Table.schema⟩

/-- The defaults of a database without values. -/
def noValues : Default → Row Unit → Unit := fun _ _ => ()

@[simp] lemma schema_name (t : Table V) : t.schema.name = t.name := rfl

@[simp] lemma schema_columns (t : Table V) : t.schema.columns = t.columns := rfl

@[simp] lemma schema_constraints (t : Table V) : t.schema.constraints = t.constraints := rfl

@[simp] lemma schema_tables : db.schema.tables = db.tables.map Table.schema := rfl

@[simp] lemma schema_enums : db.schema.enums = db.enums := rfl

@[simp] lemma names_schema : db.schema.names = db.names := by
  simp [Database.names, Function.comp_def]

@[simp] lemma knows_schema {type : SqlType} : db.schema.Knows type ↔ db.Knows type := by
  cases type <;> exact .rfl

lemma fits_schema : s.Fits db.schema ↔ s.Fits db := by
  cases s <;> simp [Statement.Fits, Database.Keyed, Database.Free, Table.Has]

lemma only_schema {f : Table Unit → Table Unit} {g : Table V → Table V}
    (h : ∀ t : Table V, f t.schema = (g t).schema) (t : Table V) :
    Table.only table f t.schema = (Table.only table g t).schema := by
  unfold Table.only
  rw [schema_name, h]
  split <;> rfl

lemma map_schema {F : Table Unit → Table Unit} {G : Table V → Table V}
    (h : ∀ t : Table V, F t.schema = (G t).schema) : db.schema.map F = (db.map G).schema := by
  simp only [Database.schema, Database.map, List.map_map, Function.comp_def, h]

lemma effect_schema (s : Statement) (db : Database V) :
    s.effect noValues db.schema = (s.effect fill db).schema := by
  cases s with
  | createEnum name labels => rfl
  | dropEnum name => rfl
  | createTable name columns constraints =>
    simp [Statement.effect, Database.schema, Table.schema]
  | dropTable name =>
    simp only [Statement.effect, Database.schema, List.filter_map]
    rfl
  | renameColumn table old new =>
    apply map_schema
    intro t
    have hrename : ∀ t : Table V, Table.rename old new t.schema = (Table.rename old new t).schema :=
      fun _ => rfl
    rw [only_schema hrename]
    rfl
  | _ =>
    apply map_schema
    exact only_schema fun _ => rfl

lemma rowsFit_schema (s : Statement) (db : Database V) : s.RowsFit db.schema := by
  cases s <;> simp [Statement.RowsFit, Table.schema]

variable [DecidableEq V] {db' : Database V}

lemma exec_eq_some : s.exec fill db = some db' ↔ s.Fits db ∧ s.RowsFit db ∧ s.effect fill db = db' := by
  unfold Statement.exec
  split
  · next h => simp [h]
  · next h =>
    refine iff_of_false (by simp) ?_
    rintro ⟨hfits, hrows, -⟩
    exact h ⟨hfits, hrows⟩

/-- What a statement does to the tables does not depend on the rows. -/
theorem exec_schema (h : s.exec fill db = some db') :
    s.exec noValues db.schema = some db'.schema := by
  obtain ⟨hfits, -, rfl⟩ := exec_eq_some.mp h
  exact exec_eq_some.mpr ⟨fits_schema.mpr hfits, rowsFit_schema s db, effect_schema s db⟩

lemma exec_of_schema {d : Database Unit} (h : s.exec noValues db.schema = some d)
    (hrows : s.RowsFit db) :
    ∃ db', s.exec fill db = some db' ∧ db'.schema = d := by
  obtain ⟨hfits, -, rfl⟩ := exec_eq_some.mp h
  exact ⟨_, exec_eq_some.mpr ⟨fits_schema.mp hfits, hrows, rfl⟩, (effect_schema s db).symm⟩

theorem execAll_schema {statements : List Statement} (h : execAll fill statements db = some db') :
    execAll noValues statements db.schema = some db'.schema := by
  induction statements generalizing db with
  | nil =>
    obtain rfl := Option.some.inj h
    rfl
  | cons s statements ih =>
    obtain ⟨d, hd, h⟩ := Option.bind_eq_some_iff.mp h
    exact Option.bind_eq_some_iff.mpr ⟨d.schema, exec_schema hd, ih h⟩

end Schema

/-! ### Statements that wait for an empty table -/

section Empty

variable {fill : Default → Row V → V} {s : Statement} {db : Database V} {table : String}
  {column : Column}

def Database.Empty (db : Database V) (table : String) : Prop :=
  ∀ t ∈ db.tables, t.name = table → t.rows = []

/-- The table whose rows can be in the way of the statement. -/
def Statement.asks : Statement → Option String
  | .addForeignKey table _ _ _ _ => some table
  | .addColumn table column => if column.notNull = true ∧ column.default = none then some table else none
  | _ => none

lemma rowsFit_of_empty (h : ∀ table, s.asks = some table → db.Empty table) : s.RowsFit db := by
  cases s with
  | addForeignKey table name column references target =>
    intro t ht hname row hrow
    rw [h table rfl t ht hname] at hrow
    exact absurd hrow List.not_mem_nil
  | addColumn table column =>
    intro hnull hdefault
    exact h table (if_pos ⟨hnull, hdefault⟩)
  | _ => trivial

lemma empty_map {F : Table V → Table V} (hname : ∀ t, (F t).name = t.name)
    (hrows : ∀ t, (F t).rows = [] ↔ t.rows = []) : (db.map F).Empty table ↔ db.Empty table := by
  simp only [Database.Empty, Database.map, List.forall_mem_map, hname, hrows]

lemma only_keeps {α : Type} (field : Table V → α) {f : Table V → Table V}
    (hf : ∀ t, field (f t) = field t) (t : Table V) : field (Table.only table f t) = field t := by
  unfold Table.only
  split
  · exact hf t
  · rfl

lemma only_rows {f : Table V → Table V} (hf : ∀ t, (f t).rows = [] ↔ t.rows = []) (t : Table V) :
    (Table.only table f t).rows = [] ↔ t.rows = [] := by
  unfold Table.only
  split
  · exact hf t
  · exact .rfl

/-- No statement but `DROP TABLE` takes rows away, and none adds any. -/
lemma empty_effect (hdrop : ∀ name, s ≠ .dropTable name) :
    (s.effect fill db).Empty table ↔ db.Empty table := by
  have hsame : ∀ t : Table V, t.rows = [] ↔ t.rows = [] := fun _ => .rfl
  have hmapped : ∀ (g : Row V → Row V) (t : Table V), t.rows.map g = [] ↔ t.rows = [] :=
    fun g t => List.map_eq_nil_iff
  cases s with
  | createEnum name labels => exact .rfl
  | dropEnum name => exact .rfl
  | dropTable name => exact absurd rfl (hdrop name)
  | createTable name columns constraints =>
    simp only [Database.Empty, Statement.effect, List.mem_append, List.mem_singleton]
    constructor
    · exact fun h t ht => h t (.inl ht)
    · rintro h t (ht | rfl)
      · exact h t ht
      · exact fun _ => rfl
  | addForeignKey table name column references target =>
    exact empty_map (only_keeps Table.name fun _ => rfl) (only_rows hsame)
  | dropConstraint table name => exact empty_map (only_keeps Table.name fun _ => rfl) (only_rows hsame)
  | addColumn table column => exact empty_map (only_keeps Table.name fun _ => rfl) (only_rows (hmapped _))
  | dropColumn table column => exact empty_map (only_keeps Table.name fun _ => rfl) (only_rows (hmapped _))
  | renameColumn table old new =>
    have hname : ∀ t : Table V, (Table.rename old new t).name = t.name := fun _ => rfl
    exact empty_map (only_keeps Table.name hname) (only_rows (hmapped _))

lemma Database.Empty.effect (h : db.Empty table) : (s.effect fill db).Empty table := by
  by_cases hdrop : ∃ name, s = .dropTable name
  · obtain ⟨name, rfl⟩ := hdrop
    exact fun t ht => h t (List.mem_of_mem_filter ht)
  · exact (empty_effect fun name hs => hdrop ⟨name, hs⟩).mpr h

variable [DecidableEq V] {statements : List Statement} {db' : Database V} {d : Database Unit}

/-- Over empty tables statements do what they do without rows. -/
theorem execAll_of_empty (h : execAll noValues statements db.schema = some d)
    (hempty : ∀ s ∈ statements, ∀ table, s.asks = some table → db.Empty table) :
    ∃ db', execAll fill statements db = some db' ∧ db'.schema = d := by
  induction statements generalizing db with
  | nil =>
    obtain rfl := Option.some.inj h
    exact ⟨db, rfl, rfl⟩
  | cons s statements ih =>
    obtain ⟨d₁, hd₁, h⟩ := Option.bind_eq_some_iff.mp h
    obtain ⟨db₁, hdb₁, rfl⟩ := exec_of_schema hd₁ (rowsFit_of_empty (hempty s List.mem_cons_self))
    obtain ⟨-, -, heffect⟩ := exec_eq_some.mp hdb₁
    have hstill : ∀ s' ∈ statements, ∀ table, s'.asks = some table → db₁.Empty table := by
      intro s' hs' table hasks
      rw [← heffect]
      exact (hempty s' (List.mem_cons_of_mem s hs') table hasks).effect
    obtain ⟨db', hdb', hschema⟩ := ih h hstill
    exact ⟨db', Option.bind_eq_some_iff.mpr ⟨db₁, hdb₁, hdb'⟩, hschema⟩

/-- A column that has to have a value and has no default is only added to an empty table. -/
theorem empty_of_execAll (h : execAll fill statements db = some db')
    (hdrop : ∀ name, .dropTable name ∉ statements) (hadds : .addColumn table column ∈ statements)
    (hnull : column.notNull = true) (hdefault : column.default = none) : db.Empty table := by
  induction statements generalizing db with
  | nil => exact absurd hadds List.not_mem_nil
  | cons s statements ih =>
    obtain ⟨d, hd, h⟩ := Option.bind_eq_some_iff.mp h
    obtain ⟨-, hrows, rfl⟩ := exec_eq_some.mp hd
    rcases List.mem_cons.mp hadds with rfl | hadds
    · exact hrows hnull hdefault
    · have hlater := ih h (fun name hmem => hdrop name (List.mem_cons_of_mem s hmem)) hadds
      exact (empty_effect fun name hs => hdrop name (hs ▸ List.mem_cons_self)).mp hlater

end Empty

end Ddl
