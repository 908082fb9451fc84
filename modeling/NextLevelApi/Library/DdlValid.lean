import NextLevelApi.Library.Ddl

/-!
# Valid databases

Foreign keys that find what they refer to, no nulls where there may be none and no values outside of
the columns: every data definition statement that succeeds keeps this.
-/

namespace Ddl

variable {V : Type} {fill : Default → Row V → V} {s : Statement} {db : Database V} {t : Table V}
  {table column target old new name : String} {row : Row V}

/-- A table by itself: constraints over its own columns, no values outside of them and no nulls
where there may be none. -/
structure Table.Sound (t : Table V) : Prop where
  own : ∀ k ∈ t.constraints, t.Has k.2.column
  blank : ∀ row ∈ t.rows, ∀ name, ¬t.Has name → row name = none
  filled : ∀ row ∈ t.rows, ∀ c ∈ t.columns, c.notNull = true → row c.name ≠ none

/-- The value is null or stands in a row of the table. -/
def Database.Finds (db : Database V) (value : Option V) (table column : String) : Prop :=
  value = none ∨ ∃ u ∈ db.tables, u.name = table ∧ ∃ r ∈ u.rows, r column = value

/-- What the server keeps of a database, as far as the statements rest on it. -/
structure Database.Valid (db : Database V) : Prop where
  sound : ∀ t ∈ db.tables, t.Sound
  known : ∀ t ∈ db.tables, ∀ c ∈ t.columns, db.Knows c.type
  refers : ∀ t ∈ db.tables, ∀ k ∈ t.constraints, ∀ table target, k.2.refersTo = some (table, target) →
    ∃ u ∈ db.tables, u.name = table ∧ u.Has target
  finds : ∀ t ∈ db.tables, ∀ k ∈ t.constraints, ∀ table target, k.2.refersTo = some (table, target) →
    ∀ row ∈ t.rows, db.Finds (row k.2.column) table target

lemma valid_empty : (⟨[], []⟩ : Database V).Valid where
  sound := by simp
  known := by simp
  refers := by simp
  finds := by simp

/-- A foreign key that refers to no value in a table without rows has none in its own. -/
lemma Database.Valid.empty_of_refers (hvalid : db.Valid) (hempty : db.Empty table)
    {key : String} (ht : t ∈ db.tables) (hk : (key, .foreignKey column table target) ∈ t.constraints)
    {c : Column} (hc : c ∈ t.columns) (hname : c.name = column) (hnull : c.notNull = true) :
    t.rows = [] := by
  by_contra hrows
  obtain ⟨row, hrow⟩ := List.exists_mem_of_ne_nil _ hrows
  rcases hvalid.finds t ht _ hk table target rfl row hrow with hnone | ⟨u, hu, huname, r, hr, -⟩
  · exact (hvalid.sound t ht).filled row hrow c hc hnull (hname ▸ hnone)
  · rw [hempty u hu huname] at hr
    exact absurd hr List.not_mem_nil

/-- A table `t'` that has the columns of `t` that are kept, under new names, and no new foreign keys. -/
structure Carries (ρ : String → String → String) (Kept : String → String → Prop) (t t' : Table V) :
    Prop where
  name : t'.name = t.name
  sound : t'.Sound
  has : ∀ column, t.Has column → Kept t.name column → t'.Has (ρ t.name column)
  rows : ∃ g : Row V → Row V, t'.rows = t.rows.map g ∧
    ∀ row column, t.Has column → Kept t.name column → g row (ρ t.name column) = row column
  rules : ∀ k ∈ t'.constraints, ∀ table target, k.2.refersTo = some (table, target) →
    ∃ k' ∈ t.constraints, ∃ target', k'.2.refersTo = some (table, target') ∧ target = ρ table target' ∧
      k.2.column = ρ t.name k'.2.column ∧ Kept table target' ∧ Kept t.name k'.2.column

lemma Carries.refl (h : t.Sound) {Kept : String → String → Prop}
    (hkept : ∀ k ∈ t.constraints, Kept t.name k.2.column ∧
      ∀ table target, k.2.refersTo = some (table, target) → Kept table target) :
    Carries (fun _ column => column) Kept t t where
  name := rfl
  sound := h
  has _ hhas _ := hhas
  rows := ⟨id, (List.map_id _).symm, fun _ _ _ _ => rfl⟩
  rules k hk table target hrefers :=
    ⟨k, hk, target, hrefers, rfl, rfl, (hkept k hk).2 table target hrefers, (hkept k hk).1⟩

lemma Database.Valid.map (hvalid : db.Valid) {ρ : String → String → String}
    {Kept : String → String → Prop} {F : Table V → Table V}
    (hcarries : ∀ t ∈ db.tables, Carries ρ Kept t (F t))
    (hknown : ∀ t ∈ db.tables, ∀ c ∈ (F t).columns, db.Knows c.type) : (db.map F).Valid where
  sound := List.forall_mem_map.mpr fun t ht => (hcarries t ht).sound
  known := List.forall_mem_map.mpr hknown
  refers := by
    refine List.forall_mem_map.mpr fun t ht k hk table target hrefers => ?_
    obtain ⟨k', hk', target', hrefers', rfl, -, hkept, -⟩ := (hcarries t ht).rules k hk table target hrefers
    obtain ⟨u, hu, huname, hhas⟩ := hvalid.refers t ht k' hk' table target' hrefers'
    subst huname
    exact ⟨F u, List.mem_map_of_mem hu, (hcarries u hu).name, (hcarries u hu).has target' hhas hkept⟩
  finds := by
    refine List.forall_mem_map.mpr fun t ht k hk table target hrefers row hrow => ?_
    obtain ⟨k', hk', target', hrefers', rfl, hcolumn, hkept, hkept'⟩ :=
      (hcarries t ht).rules k hk table target hrefers
    obtain ⟨g, hrows, hcell⟩ := (hcarries t ht).rows
    rw [hrows] at hrow
    obtain ⟨row₀, hrow₀, rfl⟩ := List.mem_map.mp hrow
    rw [hcolumn, hcell row₀ _ ((hvalid.sound t ht).own k' hk') hkept']
    by_cases hnone : row₀ k'.2.column = none
    · exact .inl hnone
    · obtain ⟨u, hu, rfl, r, hr, hvalue⟩ :=
        (hvalid.finds t ht k' hk' table target' hrefers' row₀ hrow₀).resolve_left hnone
      -- a value that is found is none of a column that the table has not
      have hhas : u.Has target' := by
        by_contra hhas
        exact hnone (hvalue ▸ (hvalid.sound u hu).blank r hr target' hhas)
      obtain ⟨g', hrows', hcell'⟩ := (hcarries u hu).rows
      refine .inr ⟨F u, List.mem_map_of_mem hu, (hcarries u hu).name, g' r, ?_, ?_⟩
      · rw [hrows']
        exact List.mem_map_of_mem hr
      · rw [hcell' r target' hhas hkept, hvalue]

/-! ### What the statements keep -/

@[simp] lemma refersTo_rename (k : Rule) : (k.rename old new).refersTo = k.refersTo := by
  cases k <;> rfl

@[simp] lemma column_rename (k : Rule) : (k.rename old new).column = renamed old new k.column := by
  cases k <;> rfl

@[simp] lemma column_retarget (k : Rule) : (k.retarget table old new).column = k.column := by
  cases k <;> rfl

lemma refersTo_retarget {k : Rule} {references : String}
    (h : (k.retarget table old new).refersTo = some (references, target)) :
    ∃ target', k.refersTo = some (references, target') ∧
      target = if references = table then renamed old new target' else target' := by
  cases k with
  | foreignKey column references' target' =>
    obtain ⟨rfl, rfl⟩ := Prod.mk.inj (Option.some.inj h)
    exact ⟨target', rfl, rfl⟩
  | _ => exact absurd h (by simp [Rule.retarget, Rule.refersTo])

lemma has_rename {c : String} (h : t.Has c) : (t.rename old new).Has (renamed old new c) := by
  obtain ⟨column, hcolumn, rfl⟩ := List.mem_map.mp h
  exact List.mem_map.mpr ⟨_, List.mem_map_of_mem hcolumn, rfl⟩

lemma Row.rename_renamed {c : String} (hc : c ≠ new) :
    Row.rename old new row (renamed old new c) = row c := by
  unfold Row.rename renamed
  grind

lemma sound_addConstraint (h : t.Sound) {k : Rule} (hk : t.Has k.column) :
    (t.addConstraint name k).Sound where
  own k' hk' := by
    rcases List.mem_append.mp hk' with hk' | hk'
    · exact h.own k' hk'
    · obtain rfl := List.mem_singleton.mp hk'
      exact hk
  blank := h.blank
  filled := h.filled

lemma sound_dropConstraint (h : t.Sound) : (t.dropConstraint name).Sound where
  own k hk := h.own k (List.mem_of_mem_filter hk)
  blank := h.blank
  filled := h.filled

lemma has_addColumn {c : Column} {name : String} :
    (t.addColumn fill c).Has name ↔ t.Has name ∨ name = c.name := by
  simp [Table.addColumn, Table.Has]

lemma sound_addColumn (h : t.Sound) {c : Column} (hnew : ¬t.Has c.name)
    (hrows : c.notNull = true → c.default = none → t.rows = []) : (t.addColumn fill c).Sound where
  own k hk := has_addColumn.mpr (.inl (h.own k hk))
  blank row hrow name hname := by
    obtain ⟨row₀, hrow₀, rfl⟩ := List.mem_map.mp hrow
    rw [has_addColumn, not_or] at hname
    rw [Function.update_of_ne hname.2]
    exact h.blank row₀ hrow₀ name hname.1
  filled row hrow c' hc' hnull := by
    obtain ⟨row₀, hrow₀, rfl⟩ := List.mem_map.mp hrow
    rcases List.mem_append.mp hc' with hc' | hc'
    · have hne : c'.name ≠ c.name := fun heq => hnew (heq ▸ List.mem_map_of_mem hc')
      rw [Function.update_of_ne hne]
      exact h.filled row₀ hrow₀ c' hc' hnull
    · obtain rfl := List.mem_singleton.mp hc'
      rw [Function.update_self]
      intro hnone
      rw [hrows hnull (Option.map_eq_none_iff.mp hnone)] at hrow₀
      exact absurd hrow₀ List.not_mem_nil

lemma has_dropColumn : (t.dropColumn column).Has name ↔ t.Has name ∧ name ≠ column := by
  simp only [Table.dropColumn, Table.Has, List.mem_map, List.mem_filter, decide_eq_true_eq]
  grind

lemma sound_dropColumn (h : t.Sound) : (t.dropColumn column).Sound where
  own k hk := by
    obtain ⟨hk, hne⟩ := List.mem_filter.mp hk
    exact has_dropColumn.mpr ⟨h.own k hk, of_decide_eq_true hne⟩
  blank row hrow name hname := by
    obtain ⟨row₀, hrow₀, rfl⟩ := List.mem_map.mp hrow
    by_cases hne : name = column
    · rw [hne, Function.update_self]
    · rw [Function.update_of_ne hne]
      exact h.blank row₀ hrow₀ name fun hhas => hname (has_dropColumn.mpr ⟨hhas, hne⟩)
  filled row hrow c hc hnull := by
    obtain ⟨row₀, hrow₀, rfl⟩ := List.mem_map.mp hrow
    obtain ⟨hc, hne⟩ := List.mem_filter.mp hc
    rw [Function.update_of_ne (of_decide_eq_true hne)]
    exact h.filled row₀ hrow₀ c hc hnull

lemma sound_rename (h : t.Sound) (hnew : ¬t.Has new) : (t.rename old new).Sound where
  own := by
    refine List.forall_mem_map.mpr fun k hk => ?_
    rw [column_rename]
    exact has_rename (h.own k hk)
  blank := by
    refine List.forall_mem_map.mpr fun row hrow name hname => ?_
    have hblank : ∀ c, renamed old new c = name → row c = none := by
      rintro c rfl
      exact h.blank row hrow c fun hhas => hname (has_rename hhas)
    unfold Row.rename
    split
    · next hname => exact hblank old (hname ▸ if_pos rfl)
    · split
      · rfl
      · next hold => exact hblank name (if_neg hold)
  filled := by
    refine List.forall_mem_map.mpr fun row hrow => List.forall_mem_map.mpr fun c hc hnull => ?_
    have hne : c.name ≠ new := fun heq => hnew (heq ▸ List.mem_map_of_mem hc)
    rw [Row.rename_renamed hne]
    exact h.filled row hrow c hc hnull

/-- A statement that goes over the tables, one by one, keeps the database valid. -/
lemma Database.Valid.map_only (hvalid : db.Valid) (Kept : String → String → Prop)
    {f : Table V → Table V}
    (hkept : ∀ t ∈ db.tables, ∀ k ∈ t.constraints, (t.name ≠ table → Kept t.name k.2.column) ∧
      ∀ table target, k.2.refersTo = some (table, target) → Kept table target)
    (hcarries : ∀ t ∈ db.tables, t.name = table → Carries (fun _ c => c) Kept t (f t))
    (hknown : ∀ t ∈ db.tables, t.name = table → ∀ c ∈ (f t).columns, db.Knows c.type) :
    (db.map (Table.only table f)).Valid := by
  have hall : ∀ t ∈ db.tables, Carries (fun _ c => c) Kept t (Table.only table f t) := by
    intro t ht
    unfold Table.only
    split
    · next hname => exact hcarries t ht hname
    · next hname =>
      exact .refl (hvalid.sound t ht) fun k hk => ⟨(hkept t ht k hk).1 hname, (hkept t ht k hk).2⟩
  refine hvalid.map hall fun t ht => ?_
  unfold Table.only
  split
  · next hname => exact hknown t ht hname
  · exact hvalid.known t ht

lemma carries_dropConstraint (h : t.Sound) :
    Carries (fun _ c => c) (fun _ _ => True) t (t.dropConstraint name) where
  name := rfl
  sound := sound_dropConstraint h
  has _ hhas _ := hhas
  rows := ⟨id, (List.map_id _).symm, fun _ _ _ _ => rfl⟩
  rules k hk _ target hrefers :=
    ⟨k, List.mem_of_mem_filter hk, target, hrefers, rfl, rfl, trivial, trivial⟩

lemma carries_addColumn (h : t.Sound) {c : Column} (hnew : ¬t.Has c.name)
    (hrows : c.notNull = true → c.default = none → t.rows = []) :
    Carries (fun _ c => c) (fun _ _ => True) t (t.addColumn fill c) where
  name := rfl
  sound := sound_addColumn h hnew hrows
  has _ hhas _ := has_addColumn.mpr (.inl hhas)
  rows := by
    refine ⟨_, rfl, fun row name hhas _ => ?_⟩
    have hne : name ≠ c.name := fun heq => hnew (heq ▸ hhas)
    exact Function.update_of_ne hne _ _
  rules k hk _ target hrefers := ⟨k, hk, target, hrefers, rfl, rfl, trivial, trivial⟩

lemma carries_dropColumn (h : t.Sound)
    (hfree : ∀ k ∈ t.constraints, k.2.refersTo ≠ some (t.name, column)) :
    Carries (fun _ c => c) (fun table c => table = t.name → c ≠ column) t (t.dropColumn column) where
  name := rfl
  sound := sound_dropColumn h
  has _ hhas hkept := has_dropColumn.mpr ⟨hhas, hkept rfl⟩
  rows := ⟨_, rfl, fun _ _ _ hkept => Function.update_of_ne (hkept rfl) _ _⟩
  rules k hk table target hrefers := by
    obtain ⟨hmem, hne⟩ := List.mem_filter.mp hk
    refine ⟨k, hmem, target, hrefers, rfl, rfl, ?_, fun _ => of_decide_eq_true hne⟩
    rintro rfl rfl
    exact hfree k hmem hrefers

lemma carries_rename (h : t.Sound) (hnew : t.name = table → ¬t.Has new) :
    Carries (fun references c => if references = table then renamed old new c else c) (fun _ _ => True) t
      ((Table.only table (Table.rename old new) t).retarget table old new) := by
  unfold Table.only
  split
  · next hname =>
    have hne : ∀ c, t.Has c → c ≠ new := fun c hhas heq => hnew hname (heq ▸ hhas)
    constructor
    case name => rfl
    case sound =>
      have hsound : (t.rename old new).Sound := sound_rename h (hnew hname)
      obtain ⟨hown, hblank, hfilled⟩ := hsound
      refine ⟨List.forall_mem_map.mpr fun k hk => ?_, hblank, hfilled⟩
      rw [column_retarget]
      exact hown k hk
    case has =>
      intro c hhas _
      rw [if_pos hname]
      exact has_rename hhas
    case rows =>
      refine ⟨_, rfl, fun row c hhas _ => ?_⟩
      rw [if_pos hname]
      exact Row.rename_renamed (hne c hhas)
    case rules =>
      refine List.forall_mem_map.mpr (List.forall_mem_map.mpr fun k hk references target hrefers => ?_)
      obtain ⟨target', hrefers', htarget⟩ := refersTo_retarget hrefers
      rw [refersTo_rename] at hrefers'
      refine ⟨k, hk, target', hrefers', htarget, ?_, trivial, trivial⟩
      rw [if_pos hname, column_retarget, column_rename]
  · next hname =>
    constructor
    case name => rfl
    case sound =>
      refine ⟨List.forall_mem_map.mpr fun k hk => ?_, h.blank, h.filled⟩
      rw [column_retarget]
      exact h.own k hk
    case has =>
      intro c hhas _
      rw [if_neg hname]
      exact hhas
    case rows =>
      refine ⟨id, (List.map_id _).symm, fun row c _ _ => ?_⟩
      rw [if_neg hname]
      rfl
    case rules =>
      refine List.forall_mem_map.mpr fun k hk references target hrefers => ?_
      obtain ⟨target', hrefers', htarget⟩ := refersTo_retarget hrefers
      refine ⟨k, hk, target', hrefers', htarget, ?_, trivial, trivial⟩
      rw [if_neg hname, column_retarget]

lemma Database.Finds.mono {db' : Database V} (hsub : ∀ t ∈ db.tables, t ∈ db'.tables) {value : Option V}
    (h : db.Finds value table target) : db'.Finds value table target :=
  h.imp_right fun ⟨u, hu, hfound⟩ => ⟨u, hsub u hu, hfound⟩

/-- Where tables keep their names and their rows, what has been found is found again. -/
lemma Database.Finds.map {F : Table V → Table V} (hname : ∀ t, (F t).name = t.name)
    (hrows : ∀ t, ∀ r ∈ t.rows, r ∈ (F t).rows) {value : Option V} (h : db.Finds value table target) :
    (db.map F).Finds value table target := by
  rcases h with hnone | ⟨u, hu, huname, r, hr, hvalue⟩
  · exact .inl hnone
  · exact .inr ⟨F u, List.mem_map_of_mem hu, (hname u).trans huname, r, hrows u r hr, hvalue⟩

/-- Where tables keep their names and their columns, a column that is there stays. -/
lemma exists_has_map {F : Table V → Table V} (hname : ∀ t, (F t).name = t.name)
    (hcolumns : ∀ t, (F t).columns = t.columns) (h : ∃ u ∈ db.tables, u.name = table ∧ u.Has target) :
    ∃ u ∈ (db.map F).tables, u.name = table ∧ u.Has target := by
  obtain ⟨u, hu, huname, hhas⟩ := h
  refine ⟨F u, List.mem_map_of_mem hu, (hname u).trans huname, ?_⟩
  rwa [Table.Has, hcolumns]

lemma Database.Valid.known_map (hvalid : db.Valid) {F : Table V → Table V}
    (hcolumns : ∀ t, (F t).columns = t.columns) :
    ∀ t ∈ (db.map F).tables, ∀ c ∈ t.columns, (db.map F).Knows c.type := by
  refine List.forall_mem_map.mpr fun t ht c hc => hvalid.known t ht c ?_
  rwa [hcolumns] at hc

lemma Database.Knows.mono {db' : Database V} {type : SqlType}
    (hsub : ∀ e ∈ db.enums, type = .enum e.1 → e ∈ db'.enums) (h : db.Knows type) : db'.Knows type := by
  cases type with
  | enum name =>
    obtain ⟨e, he, rfl⟩ := List.mem_map.mp h
    exact List.mem_map_of_mem (hsub e he rfl)
  | _ => trivial

/-! ### Statement by statement -/

section Statements

variable (hvalid : db.Valid)
include hvalid

lemma Database.Valid.createEnum {labels : List String} :
    (Statement.effect fill db (.createEnum name labels)).Valid where
  sound := hvalid.sound
  known t ht c hc := (hvalid.known t ht c hc).mono fun _ he _ => List.mem_append_left _ he
  refers := hvalid.refers
  finds := hvalid.finds

lemma Database.Valid.dropEnum (hfits : Statement.Fits db (.dropEnum name)) :
    (Statement.effect fill db (.dropEnum name)).Valid where
  sound := hvalid.sound
  known t ht c hc := by
    refine (hvalid.known t ht c hc).mono fun e he htype => List.mem_filter.mpr ⟨he, ?_⟩
    refine decide_eq_true fun hname => ?_
    exact hfits.2 t ht c hc (hname ▸ htype)
  refers := hvalid.refers
  finds := hvalid.finds

lemma Database.Valid.createTable {columns : List Column} {constraints : List (String × Rule)}
    (hfits : Statement.Fits db (.createTable name columns constraints)) :
    (Statement.effect fill db (.createTable name columns constraints)).Valid := by
  obtain ⟨-, -, hknown, -, hconstraints⟩ := hfits
  have hnew : ∀ t, t ∈ (Statement.effect fill db (.createTable name columns constraints)).tables ↔
      t ∈ db.tables ∨ t = ⟨name, columns, constraints, []⟩ := fun t => by simp [Statement.effect]
  have hsub : ∀ t ∈ db.tables, t ∈ (Statement.effect fill db
      (.createTable name columns constraints)).tables := fun t ht => (hnew t).mpr (.inl ht)
  constructor
  case sound =>
    intro t ht
    rcases (hnew t).mp ht with ht | rfl
    · exact hvalid.sound t ht
    · exact ⟨fun k hk => (hconstraints k hk).1, by simp, by simp⟩
  case known =>
    intro t ht
    rcases (hnew t).mp ht with ht | rfl
    · exact hvalid.known t ht
    · exact hknown
  case refers =>
    intro t ht k hk table target hrefers
    rcases (hnew t).mp ht with ht | rfl
    · obtain ⟨u, hu, hcolumn⟩ := hvalid.refers t ht k hk table target hrefers
      exact ⟨u, hsub u hu, hcolumn⟩
    · exact absurd (hrefers.symm.trans (hconstraints k hk).2) (by simp)
  case finds =>
    intro t ht k hk table target hrefers row hrow
    rcases (hnew t).mp ht with ht | rfl
    · exact (hvalid.finds t ht k hk table target hrefers row hrow).mono hsub
    · exact absurd hrow List.not_mem_nil

lemma Database.Valid.dropTable (hfits : Statement.Fits db (.dropTable name)) :
    (Statement.effect fill db (.dropTable name)).Valid := by
  have hmem : ∀ t ∈ (Statement.effect fill db (.dropTable name)).tables, t ∈ db.tables ∧ t.name ≠ name :=
    fun t ht => (List.mem_filter.mp ht).imp_right of_decide_eq_true
  have hstays : ∀ t ∈ db.tables, t.name ≠ name → t ∈ (Statement.effect fill db (.dropTable name)).tables :=
    fun t ht hne => List.mem_filter.mpr ⟨ht, decide_eq_true hne⟩
  have hother : ∀ t ∈ db.tables, t.name ≠ name → ∀ k ∈ t.constraints, ∀ table target,
      k.2.refersTo = some (table, target) → table ≠ name := by
    rintro t ht hne k hk table target hrefers rfl
    exact hfits.2 t ht hne k hk (by rw [hrefers]; rfl)
  constructor
  case sound => exact fun t ht => hvalid.sound t (hmem t ht).1
  case known => exact fun t ht => hvalid.known t (hmem t ht).1
  case refers =>
    intro t ht k hk table target hrefers
    obtain ⟨ht, hne⟩ := hmem t ht
    obtain ⟨u, hu, rfl, hhas⟩ := hvalid.refers t ht k hk table target hrefers
    exact ⟨u, hstays u hu (hother t ht hne k hk _ target hrefers), rfl, hhas⟩
  case finds =>
    intro t ht k hk table target hrefers row hrow
    obtain ⟨ht, hne⟩ := hmem t ht
    rcases hvalid.finds t ht k hk table target hrefers row hrow with hnone | ⟨u, hu, rfl, hfound⟩
    · exact .inl hnone
    · exact .inr ⟨u, hstays u hu (hother t ht hne k hk _ target hrefers), rfl, hfound⟩

lemma Database.Valid.addForeignKey {references : String}
    (hfits : Statement.Fits db (.addForeignKey table name column references target))
    (hrows : Statement.RowsFit db (.addForeignKey table name column references target)) :
    (Statement.effect fill db (.addForeignKey table name column references target)).Valid := by
  obtain ⟨-, ⟨v, hv, hvname, key, hkey, hkeyed⟩, hown⟩ := hfits
  let k₀ : Rule := .foreignKey column references target
  let F : Table V → Table V := Table.only table (Table.addConstraint name k₀)
  -- the tables are the same but for their constraints
  have hname : ∀ t, (F t).name = t.name := only_keeps Table.name fun _ => rfl
  have hcolumns : ∀ t, (F t).columns = t.columns := only_keeps Table.columns fun _ => rfl
  have hsame : ∀ t, (F t).rows = t.rows := only_keeps Table.rows fun _ => rfl
  have hconstraints : ∀ t, ∀ k ∈ (F t).constraints, k ∈ t.constraints ∨ t.name = table ∧ k.2 = k₀ := by
    intro t k hk
    by_cases hname : t.name = table
    · simp only [F, Table.only, if_pos hname, Table.addConstraint, List.mem_append, List.mem_singleton] at hk
      rcases hk with hk | rfl
      · exact .inl hk
      · exact .inr ⟨hname, rfl⟩
    · simp only [F, Table.only, if_neg hname] at hk
      exact .inl hk
  have hstays : ∀ t, ∀ r ∈ t.rows, r ∈ (F t).rows := fun t r hr => (hsame t).symm ▸ hr
  constructor
  case sound =>
    refine List.forall_mem_map.mpr fun t ht => ?_
    unfold Table.only
    split
    · next hname => exact sound_addConstraint (hvalid.sound t ht) (hown t ht hname).2
    · exact hvalid.sound t ht
  case known => exact hvalid.known_map hcolumns
  case refers =>
    refine List.forall_mem_map.mpr fun t ht k hk references' target' hrefers => ?_
    apply exists_has_map hname hcolumns
    rcases hconstraints t k hk with hk | ⟨-, hk⟩
    · exact hvalid.refers t ht k hk references' target' hrefers
    · rw [hk] at hrefers
      obtain ⟨rfl, rfl⟩ := Prod.mk.inj (Option.some.inj hrefers)
      have hcolumn := (hvalid.sound v hv).own key hkey
      refine ⟨v, hv, hvname, ?_⟩
      rcases hkeyed with hkeyed | hkeyed <;> rwa [hkeyed] at hcolumn
  case finds =>
    refine List.forall_mem_map.mpr fun t ht k hk references' target' hrefers row hrow => ?_
    apply Database.Finds.map hname hstays
    rw [hsame] at hrow
    rcases hconstraints t k hk with hk | ⟨hname, hk⟩
    · exact hvalid.finds t ht k hk references' target' hrefers row hrow
    · rw [hk] at hrefers ⊢
      obtain ⟨rfl, rfl⟩ := Prod.mk.inj (Option.some.inj hrefers)
      exact hrows t ht hname row hrow

lemma Database.Valid.dropConstraint : (Statement.effect fill db (.dropConstraint table name)).Valid :=
  hvalid.map_only (fun _ _ => True) (fun _ _ _ _ => ⟨fun _ => trivial, fun _ _ _ => trivial⟩)
    (fun t ht _ => carries_dropConstraint (hvalid.sound t ht)) fun t ht _ => hvalid.known t ht

lemma Database.Valid.addColumn {c : Column} (hfits : Statement.Fits db (.addColumn table c))
    (hrows : Statement.RowsFit db (.addColumn table c)) :
    (Statement.effect fill db (.addColumn table c)).Valid := by
  obtain ⟨-, hknows, hnew⟩ := hfits
  refine hvalid.map_only (fun _ _ => True) (fun _ _ _ _ => ⟨fun _ => trivial, fun _ _ _ => trivial⟩)
    (fun t ht hname => ?_) fun t ht _ c' hc' => ?_
  · exact carries_addColumn (hvalid.sound t ht) (hnew t ht hname)
      fun hnull hdefault => hrows hnull hdefault t ht hname
  · rcases List.mem_append.mp hc' with hc' | hc'
    · exact hvalid.known t ht c' hc'
    · obtain rfl := List.mem_singleton.mp hc'
      exact hknows

lemma Database.Valid.dropColumn (hfits : Statement.Fits db (.dropColumn table column)) :
    (Statement.effect fill db (.dropColumn table column)).Valid := by
  obtain ⟨-, hfree⟩ := hfits
  have hkept : ∀ t ∈ db.tables, ∀ k ∈ t.constraints,
      (t.name ≠ table → t.name = table → k.2.column ≠ column) ∧
      ∀ references target, k.2.refersTo = some (references, target) → references = table →
        target ≠ column := by
    refine fun t ht k hk => ⟨fun hne hname => absurd hname hne, ?_⟩
    rintro references target hrefers rfl rfl
    exact hfree t ht k hk hrefers
  refine hvalid.map_only (fun references c => references = table → c ≠ column) hkept
    (fun t ht hname => ?_) fun t ht _ c hc => ?_
  · subst hname
    exact carries_dropColumn (hvalid.sound t ht) (hfree t ht)
  · exact hvalid.known t ht c (List.mem_of_mem_filter hc)

lemma Database.Valid.renameColumn (hfits : Statement.Fits db (.renameColumn table old new)) :
    (Statement.effect fill db (.renameColumn table old new)).Valid := by
  refine hvalid.map (fun t ht => carries_rename (hvalid.sound t ht) (hfits.2 t ht)) fun t ht => ?_
  unfold Table.only
  split
  · exact List.forall_mem_map.mpr (hvalid.known t ht)
  · exact hvalid.known t ht

/-- Every statement keeps a database valid. -/
lemma Database.Valid.effect (hfits : s.Fits db) (hrows : s.RowsFit db) : (s.effect fill db).Valid := by
  cases s with
  | createEnum name labels => exact hvalid.createEnum
  | dropEnum name => exact hvalid.dropEnum hfits
  | createTable name columns constraints => exact hvalid.createTable hfits
  | dropTable name => exact hvalid.dropTable hfits
  | addForeignKey table name column references target => exact hvalid.addForeignKey hfits hrows
  | dropConstraint table name => exact hvalid.dropConstraint
  | addColumn table column => exact hvalid.addColumn hfits hrows
  | dropColumn table column => exact hvalid.dropColumn hfits
  | renameColumn table old new => exact hvalid.renameColumn hfits

end Statements

def Table.insert (row : Row V) (t : Table V) : Table V := { t with rows := t.rows ++ [row] }

/-- `INSERT` of a row that the constraints let through. -/
lemma Database.Valid.insert (hvalid : db.Valid)
    (hblank : ∀ t ∈ db.tables, t.name = table → ∀ name, ¬t.Has name → row name = none)
    (hfilled : ∀ t ∈ db.tables, t.name = table → ∀ c ∈ t.columns, c.notNull = true → row c.name ≠ none)
    (hfinds : ∀ t ∈ db.tables, t.name = table → ∀ k ∈ t.constraints, ∀ references target,
      k.2.refersTo = some (references, target) → db.Finds (row k.2.column) references target) :
    (db.map (Table.only table (Table.insert row))).Valid := by
  let F : Table V → Table V := Table.only table (Table.insert row)
  have hname : ∀ t, (F t).name = t.name := only_keeps Table.name fun _ => rfl
  have hcolumns : ∀ t, (F t).columns = t.columns := only_keeps Table.columns fun _ => rfl
  have hconstraints : ∀ t, (F t).constraints = t.constraints := only_keeps Table.constraints fun _ => rfl
  have hrows : ∀ t, ∀ r ∈ (F t).rows, r ∈ t.rows ∨ t.name = table ∧ r = row := by
    intro t r hr
    by_cases hname : t.name = table
    · simp only [F, Table.only, if_pos hname, Table.insert, List.mem_append, List.mem_singleton] at hr
      exact hr.imp_right fun hr => ⟨hname, hr⟩
    · simp only [F, Table.only, if_neg hname] at hr
      exact .inl hr
  have hstays : ∀ t, ∀ r ∈ t.rows, r ∈ (F t).rows := by
    intro t r hr
    by_cases hname : t.name = table
    · simp only [F, Table.only, if_pos hname]
      exact List.mem_append_left _ hr
    · simp only [F, Table.only, if_neg hname]
      exact hr
  constructor
  case sound =>
    refine List.forall_mem_map.mpr fun t ht =>
      ⟨fun k hk => ?_, fun r hr name hhas => ?_, fun r hr c hc hnull => ?_⟩
    · rw [hconstraints] at hk
      rw [Table.Has, hcolumns]
      exact (hvalid.sound t ht).own k hk
    · rw [Table.Has, hcolumns] at hhas
      rcases hrows t r hr with hr | ⟨htable, rfl⟩
      · exact (hvalid.sound t ht).blank r hr name hhas
      · exact hblank t ht htable name hhas
    · rw [hcolumns] at hc
      rcases hrows t r hr with hr | ⟨htable, rfl⟩
      · exact (hvalid.sound t ht).filled r hr c hc hnull
      · exact hfilled t ht htable c hc hnull
  case known => exact hvalid.known_map hcolumns
  case refers =>
    refine List.forall_mem_map.mpr fun t ht k hk references target hrefers => ?_
    rw [hconstraints] at hk
    exact exists_has_map hname hcolumns (hvalid.refers t ht k hk references target hrefers)
  case finds =>
    refine List.forall_mem_map.mpr fun t ht k hk references target hrefers r hr => ?_
    apply Database.Finds.map hname hstays
    rw [hconstraints] at hk
    rcases hrows t r hr with hr | ⟨htable, rfl⟩
    · exact hvalid.finds t ht k hk references target hrefers r hr
    · exact hfinds t ht htable k hk references target hrefers

variable [DecidableEq V] {db' : Database V} {statements : List Statement}

theorem Database.Valid.exec (hvalid : db.Valid) (h : s.exec fill db = some db') : db'.Valid := by
  obtain ⟨hfits, hrows, rfl⟩ := exec_eq_some.mp h
  exact hvalid.effect hfits hrows

theorem Database.Valid.execAll (hvalid : db.Valid) (h : execAll fill statements db = some db') :
    db'.Valid := by
  induction statements generalizing db with
  | nil =>
    obtain rfl := Option.some.inj h
    exact hvalid
  | cons s statements ih =>
    obtain ⟨d, hd, h⟩ := Option.bind_eq_some_iff.mp h
    exact ih (hvalid.exec hd) h

end Ddl
