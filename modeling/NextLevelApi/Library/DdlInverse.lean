import NextLevelApi.Library.DdlValid

/-!
# Statements that take statements back

What a statement has added, one statement takes away again: the database is as it was, with the
rows and the order of its columns.
-/

namespace Ddl

variable {V : Type}

/-- The statement that takes the statement back. One that drops something cannot be taken back. -/
def Statement.inverse : Statement → Option Statement
  | .createEnum name _ => some (.dropEnum name)
  | .createTable name _ _ => some (.dropTable name)
  | .addForeignKey table name _ _ _ => some (.dropConstraint table name)
  | .addColumn table column => some (.dropColumn table column.name)
  | .renameColumn table old new => some (.renameColumn table new old)
  | _ => none

variable {fill fill' : Default → Row V → V} {s s' : Statement} {db : Database V} {t : Table V}
  {table name old new : String}

lemma filter_append_of_fresh {α : Type} {p : α → Bool} {l : List α} {a : α} (hl : ∀ x ∈ l, p x = true)
    (ha : p a = false) : (l ++ [a]).filter p = l := by
  rw [List.filter_append, List.filter_eq_self.mpr hl, List.filter_singleton, ha]
  exact List.append_nil l

lemma map_map_of_inverse {α : Type} {l : List α} {f g : α → α} (h : ∀ x ∈ l, g (f x) = x) :
    (l.map f).map g = l := by
  rw [List.map_map]
  exact (List.map_congr_left h).trans (List.map_id l)

lemma map_map_eq_self {F G : Table V → Table V} (h : ∀ t ∈ db.tables, G (F t) = t) :
    (db.map F).map G = db := by
  have htables : (db.tables.map F).map G = db.tables := map_map_of_inverse h
  exact congrArg (fun tables => (⟨db.enums, tables⟩ : Database V)) htables

lemma only_only {f g : Table V → Table V} (hname : (f t).name = t.name)
    (h : t.name = table → g (f t) = t) : Table.only table g (Table.only table f t) = t := by
  unfold Table.only
  split
  · next htable => rw [if_pos (hname.trans htable), h htable]
  · rfl

lemma dropConstraint_addConstraint {k : Rule} (hfresh : name ∉ t.constraints.map Prod.fst) :
    (t.addConstraint name k).dropConstraint name = t := by
  have hconstraints : (t.constraints ++ [(name, k)]).filter (·.1 ≠ name) = t.constraints := by
    refine filter_append_of_fresh (fun x hx => decide_eq_true ?_) (decide_eq_false (not_not.mpr rfl))
    rintro rfl
    exact hfresh (List.mem_map_of_mem hx)
  exact Table.ext rfl rfl hconstraints rfl

lemma dropColumn_addColumn {c : Column} (h : t.Sound) (hfresh : ¬t.Has c.name) :
    (t.addColumn fill c).dropColumn c.name = t := by
  have hcolumns : (t.columns ++ [c]).filter (·.name ≠ c.name) = t.columns := by
    refine filter_append_of_fresh (fun x hx => decide_eq_true ?_) (decide_eq_false (not_not.mpr rfl))
    exact fun heq => hfresh (heq ▸ List.mem_map_of_mem hx)
  have hconstraints : t.constraints.filter (·.2.column ≠ c.name) = t.constraints :=
    List.filter_eq_self.mpr fun k hk => decide_eq_true fun heq => hfresh (heq ▸ h.own k hk)
  have hrows : ((t.addColumn fill c).rows.map fun row => Function.update row c.name none) = t.rows := by
    refine map_map_of_inverse fun row hrow => ?_
    rw [Function.update_idem]
    exact Function.update_eq_self_iff.mpr (h.blank row hrow c.name hfresh).symm
  exact Table.ext rfl hcolumns hconstraints hrows

lemma renamed_renamed {c : String} (hc : c ≠ new) : renamed new old (renamed old new c) = c := by
  unfold renamed
  grind

lemma Row.rename_rename {row : Row V} (hnew : row new = none) :
    Row.rename new old (Row.rename old new row) = row := by
  funext c
  unfold Row.rename
  grind

lemma retarget_retarget {k : Rule} (hnew : k.refersTo ≠ some (table, new)) :
    (k.retarget table old new).retarget table new old = k := by
  cases k with
  | foreignKey column references target =>
    by_cases hreferences : references = table
    · subst hreferences
      have hne : target ≠ new := fun heq => hnew (heq ▸ rfl)
      simp only [Rule.retarget, if_true, renamed_renamed hne]
    · simp only [Rule.retarget, if_neg hreferences]
  | _ => rfl

lemma rename_retarget (k : Rule) (a b : String) :
    (k.retarget table old new).rename a b = (k.rename a b).retarget table old new := by
  cases k <;> rfl

lemma rename_rename {k : Rule} (hnew : k.column ≠ new) : (k.rename old new).rename new old = k := by
  cases k with
  | primaryKey column => exact congrArg Rule.primaryKey (renamed_renamed hnew)
  | unique column => exact congrArg Rule.unique (renamed_renamed hnew)
  | foreignKey column references target =>
    exact congrArg (Rule.foreignKey · references target) (renamed_renamed hnew)

lemma renameColumn_renameColumn (h : t.Sound) (hnew : t.name = table → ¬t.Has new)
    (hrefers : ∀ k ∈ t.constraints, k.2.refersTo ≠ some (table, new)) :
    (Table.only table (Table.rename new old)
      ((Table.only table (Table.rename old new) t).retarget table old new)).retarget table new old = t := by
  by_cases hname : t.name = table
  · have hne : ∀ c, t.Has c → c ≠ new := fun c hhas heq => hnew hname (heq ▸ hhas)
    have hcolumns : (t.columns.map fun c => { c with name := renamed old new c.name }).map
        (fun c => { c with name := renamed new old c.name }) = t.columns :=
      map_map_of_inverse fun c hc =>
        congrArg (fun name => ({ c with name := name } : Column))
          (renamed_renamed (hne c.name (List.mem_map_of_mem hc)))
    have hconstraints : ((((t.constraints.map fun k => (k.1, k.2.rename old new)).map
        fun k => (k.1, k.2.retarget table old new)).map fun k => (k.1, k.2.rename new old)).map
        fun k => (k.1, k.2.retarget table new old)) = t.constraints := by
      rw [List.map_map, List.map_map]
      refine map_map_of_inverse fun k hk => ?_
      refine congrArg (Prod.mk k.1) ?_
      change ((((k.2.rename old new).retarget table old new).rename new old).retarget table new old) = k.2
      rw [rename_retarget, rename_rename (hne _ (h.own k hk)), retarget_retarget (hrefers k hk)]
    have hrows : (t.rows.map (Row.rename old new)).map (Row.rename new old) = t.rows :=
      map_map_of_inverse fun row hrow => Row.rename_rename (h.blank row hrow new (hnew hname))
    have hname' : ((t.rename old new).retarget table old new).name = table := hname
    rw [Table.only, Table.only, if_pos hname, if_pos hname']
    exact Table.ext rfl hcolumns hconstraints hrows
  · have hname' : (t.retarget table old new).name ≠ table := hname
    rw [Table.only, Table.only, if_neg hname, if_neg hname']
    exact Table.ext rfl rfl (map_map_of_inverse fun k hk =>
      congrArg (Prod.mk k.1) (retarget_retarget (hrefers k hk))) rfl

/-- The statement finds the database as `db'` left it, and gives `db`. -/
structure Restores (fill : Default → Row V → V) (db db' : Database V) (s : Statement) : Prop where
  fits : s.Fits db'
  rowsFit : s.RowsFit db'
  effect : s.effect fill db' = db

section Statements

variable (hvalid : db.Valid)
include hvalid

lemma restores_createEnum {labels : List String} (hfits : Statement.Fits db (.createEnum name labels)) :
    Restores fill' db (Statement.effect fill db (.createEnum name labels)) (.dropEnum name) := by
  have hfresh : name ∉ db.enums.map Prod.fst := fun hmem => hfits (List.mem_append_left _ hmem)
  refine ⟨⟨?_, fun t ht c hc htype => ?_⟩, trivial, ?_⟩
  · simp [Statement.effect]
  · have hknown := hvalid.known t ht c hc
    rw [htype] at hknown
    exact hfresh hknown
  · have henums : (db.enums ++ [(name, labels)]).filter (·.1 ≠ name) = db.enums := by
      refine filter_append_of_fresh (fun e he => decide_eq_true ?_) (decide_eq_false (not_not.mpr rfl))
      exact fun heq => hfresh (heq ▸ List.mem_map_of_mem he)
    exact congrArg (fun enums => (⟨enums, db.tables⟩ : Database V)) henums

lemma restores_createTable {columns : List Column} {constraints : List (String × Rule)}
    (hfits : Statement.Fits db (.createTable name columns constraints)) :
    Restores fill' db (Statement.effect fill db (.createTable name columns constraints))
      (.dropTable name) := by
  have hfresh : name ∉ db.tables.map Table.name := fun hmem => hfits.1 (List.mem_append_right _ hmem)
  refine ⟨⟨?_, fun t ht hne k hk hrefers => ?_⟩, trivial, ?_⟩
  · simp [Statement.effect]
  · have hmem : t ∈ db.tables := by
      refine (List.mem_append.mp ht).resolve_right fun ht => hne ?_
      rw [List.mem_singleton.mp ht]
    obtain ⟨⟨table, target⟩, hrefers, hname⟩ := Option.map_eq_some_iff.mp hrefers
    obtain ⟨u, hu, huname, -⟩ := hvalid.refers t hmem k hk table target hrefers
    exact hfresh (List.mem_map.mpr ⟨u, hu, huname.trans hname⟩)
  · have htables : (db.tables ++ [(⟨name, columns, constraints, []⟩ : Table V)]).filter (·.name ≠ name) =
        db.tables := by
      refine filter_append_of_fresh (fun t ht => decide_eq_true ?_) (decide_eq_false (not_not.mpr rfl))
      exact fun heq => hfresh (heq ▸ List.mem_map_of_mem ht)
    exact congrArg (fun tables => (⟨db.enums, tables⟩ : Database V)) htables

omit hvalid in
lemma restores_addForeignKey {column references target : String}
    (hfits : Statement.Fits db (.addForeignKey table name column references target)) :
    Restores fill' db (Statement.effect fill db (.addForeignKey table name column references target))
      (.dropConstraint table name) := by
  obtain ⟨htable, -, hfresh⟩ := hfits
  refine ⟨?_, trivial, map_map_eq_self fun t ht => ?_⟩
  · obtain ⟨t, ht, hname⟩ := List.mem_map.mp htable
    refine ⟨_, List.mem_map_of_mem ht, ?_⟩
    rw [Table.only, if_pos hname]
    exact ⟨hname, _, List.mem_append_right _ List.mem_cons_self, rfl, .inl (by simp [Rule.refersTo])⟩
  · exact only_only rfl fun hname => dropConstraint_addConstraint (hfresh t ht hname).1

lemma restores_addColumn {column : Column} (hfits : Statement.Fits db (.addColumn table column)) :
    Restores fill' db (Statement.effect fill db (.addColumn table column))
      (.dropColumn table column.name) := by
  obtain ⟨htable, -, hfresh⟩ := hfits
  refine ⟨⟨?_, ?_⟩, trivial, map_map_eq_self fun t ht => ?_⟩
  · obtain ⟨t, ht, hname⟩ := List.mem_map.mp htable
    refine ⟨_, List.mem_map_of_mem ht, ?_⟩
    rw [Table.only, if_pos hname]
    exact ⟨hname, has_addColumn.mpr (.inr rfl)⟩
  · refine List.forall_mem_map.mpr fun t ht k hk hrefers => ?_
    have hk : k ∈ t.constraints := by
      unfold Table.only at hk
      split at hk <;> exact hk
    obtain ⟨u, hu, huname, hhas⟩ := hvalid.refers t ht k hk table column.name hrefers
    exact hfresh u hu huname hhas
  · exact only_only rfl fun hname => dropColumn_addColumn (hvalid.sound t ht) (hfresh t ht hname)

lemma restores_renameColumn (hfits : Statement.Fits db (.renameColumn table old new)) :
    Restores fill' db (Statement.effect fill db (.renameColumn table old new))
      (.renameColumn table new old) := by
  obtain ⟨⟨t, ht, hname, hold⟩, hfresh⟩ := hfits
  refine ⟨⟨⟨_, List.mem_map_of_mem ht, ?_⟩, ?_⟩, trivial, map_map_eq_self fun t ht => ?_⟩
  · rw [Table.only, if_pos hname]
    have hhas : (t.rename old new).Has (renamed old new old) := has_rename hold
    rw [renamed, if_pos rfl] at hhas
    exact ⟨hname, hhas⟩
  · refine List.forall_mem_map.mpr fun u hu huname hhas => ?_
    have huname : u.name = table := by
      rw [← huname]
      unfold Table.only
      split <;> rfl
    rw [Table.only, if_pos huname] at hhas
    obtain ⟨c', hc', hback⟩ := List.mem_map.mp hhas
    obtain ⟨c, hc, rfl⟩ := List.mem_map.mp hc'
    -- no column is called `old` unless `new` is the same name
    unfold renamed at hback
    dsimp only at hback
    split at hback
    · exact hfresh t ht hname (hback ▸ hold)
    · next hne => exact hne hback
  · exact renameColumn_renameColumn (hvalid.sound t ht) (hfresh t ht) fun k hk hrefers => by
      obtain ⟨u, hu, huname, hhas⟩ := hvalid.refers t ht k hk table new hrefers
      exact hfresh u hu huname hhas

lemma restores_inverse (hfits : s.Fits db) (hs : s.inverse = some s') :
    Restores fill' db (s.effect fill db) s' := by
  cases s with
  | createEnum name labels =>
    obtain rfl := Option.some.inj hs
    exact restores_createEnum hvalid hfits
  | createTable name columns constraints =>
    obtain rfl := Option.some.inj hs
    exact restores_createTable hvalid hfits
  | addForeignKey table name column references target =>
    obtain rfl := Option.some.inj hs
    exact restores_addForeignKey hfits
  | addColumn table column =>
    obtain rfl := Option.some.inj hs
    exact restores_addColumn hvalid hfits
  | renameColumn table old new =>
    obtain rfl := Option.some.inj hs
    exact restores_renameColumn hvalid hfits
  | _ => exact absurd hs (by simp [Statement.inverse])

end Statements

variable [DecidableEq V] {db' : Database V} {statements inverses : List Statement}

/-- A statement of a valid database is taken back by its inverse, rows included. -/
theorem exec_inverse (hvalid : db.Valid) (h : s.exec fill db = some db') (hs : s.inverse = some s') :
    s'.exec fill' db' = some db := by
  obtain ⟨hfits, -, rfl⟩ := exec_eq_some.mp h
  have hrestores : Restores fill' db (s.effect fill db) s' := restores_inverse hvalid hfits hs
  exact exec_eq_some.mpr ⟨hrestores.fits, hrestores.rowsFit, hrestores.effect⟩

/-- Statements are taken back by their inverses in the opposite order. -/
theorem execAll_inverse (hvalid : db.Valid) (h : execAll fill statements db = some db')
    (hs : List.Forall₂ (fun s s' => s.inverse = some s') statements inverses) :
    execAll fill' inverses.reverse db' = some db := by
  induction hs generalizing db with
  | nil =>
    obtain rfl := Option.some.inj h
    rfl
  | @cons s s' statements inverses hs _ ih =>
    obtain ⟨d, hd, h⟩ := Option.bind_eq_some_iff.mp h
    have hback := ih (hvalid.exec hd) h
    unfold execAll at hback ⊢
    rw [List.reverse_cons, List.foldlM_append, hback]
    have hlast : s'.exec fill' d = some db := exec_inverse hvalid hd hs
    exact Option.bind_eq_some_iff.mpr ⟨d, rfl, Option.bind_eq_some_iff.mpr ⟨db, hlast, rfl⟩⟩

end Ddl
