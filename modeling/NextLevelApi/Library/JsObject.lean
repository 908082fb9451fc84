import Mathlib.Data.List.Nodup
import Mathlib.Data.List.Sort
import NextLevelApi.Library.JsNumber

/-!
# Plain objects as dictionaries

An object literal `{}` used as a dictionary of numbers: its own properties in the order of
their creation, and the ones that it inherits from `Object.prototype`, which `in` finds and
`+=` reads. What is inherited is never a number, and adding one to it makes a text.
-/

open JsNumber

inductive JsValue
  | number (x : JsNumber)
  | text (s : String)
  deriving DecidableEq

namespace JsValue

def toNumber (A : Arithmetic) : JsValue → JsNumber
  | .number x => x
  | .text s => ofText A s

/-- `v + x` -/
def plus (A : Arithmetic) : JsValue → JsNumber → JsValue
  | .number x, y => .number (JsNumber.add A x y)
  | .text s, y => .text (s ++ A.toText y)

end JsValue

structure JsObject where
  props : List (String × JsValue)
  nodup : (props.map Prod.fst).Nodup

namespace JsObject

/-- The functions of `Object.prototype`. -/
def inheritedFunctions : List String :=
  ["constructor", "__defineGetter__", "__defineSetter__", "hasOwnProperty", "__lookupGetter__",
    "__lookupSetter__", "isPrototypeOf", "propertyIsEnumerable", "toString", "valueOf", "toLocaleString"]

/-- What an inherited property is as text; `__proto__` is an object, all others are functions. -/
def inherited (key : String) : Option String :=
  if key = "__proto__" then some "[object Object]"
  else if key = "constructor" then some "function Object() \x7b [native code] \x7d"
  else if key ∈ inheritedFunctions then some ("function " ++ key ++ "() \x7b [native code] \x7d")
  else none

def empty : JsObject := ⟨[], List.nodup_nil⟩

def own (d : JsObject) (key : String) : Option JsValue := d.props.lookup key

/-- `d[key]` -/
def get (d : JsObject) (key : String) : Option JsValue := (d.own key).or ((inherited key).map .text)

/-- `key in d` -/
def has (d : JsObject) (key : String) : Bool := (d.get key).isSome

def setOwn (key : String) (v : JsValue) : List (String × JsValue) → List (String × JsValue)
  | [] => [(key, v)]
  | p :: ps => if p.1 = key then (key, v) :: ps else p :: setOwn key v ps

lemma keys_setOwn (key : String) (v : JsValue) (ps : List (String × JsValue)) :
    (setOwn key v ps).map Prod.fst =
      if key ∈ ps.map Prod.fst then ps.map Prod.fst else ps.map Prod.fst ++ [key] := by
  induction ps with
  | nil => simp [setOwn]
  | cons p ps ih =>
    by_cases hp : p.1 = key
    · simp [setOwn, hp]
    · simp only [setOwn, if_neg hp, List.map_cons, ih, List.mem_cons, Ne.symm hp, false_or]
      split_ifs <;> rfl

lemma lookup_cons (a : String) (w : JsValue) (ps : List (String × JsValue)) (k : String) :
    ((a, w) :: ps).lookup k = if k = a then some w else ps.lookup k := by
  rw [List.lookup_cons]
  by_cases h : k = a
  · simp [h]
  · rw [beq_eq_false_iff_ne.mpr h, if_neg h]

lemma lookup_setOwn (key : String) (v : JsValue) (ps : List (String × JsValue)) (k : String) :
    (setOwn key v ps).lookup k = if k = key then some v else ps.lookup k := by
  induction ps with
  | nil => exact lookup_cons key v [] k
  | cons p ps ih =>
    obtain ⟨a, w⟩ := p
    by_cases ha : a = key
    · by_cases hk : k = key <;> simp [setOwn, lookup_cons, ha, hk]
    · by_cases hka : k = a
      · have hk : k ≠ key := fun h => ha (hka ▸ h)
        simp [setOwn, ha, hka]
      · simp [setOwn, lookup_cons, ha, hka, ih]

/-- `d[key] = v`. The setter of `__proto__` takes no notice of a value that is not an object. -/
def set (d : JsObject) (key : String) (v : JsValue) : JsObject :=
  if key = "__proto__" then d
  else
    { props := setOwn key v d.props
      nodup := by
        rw [keys_setOwn]
        split_ifs with h
        · exact d.nodup
        · rw [← List.concat_eq_append]
          exact d.nodup.concat h }

lemma own_set {key : String} (hkey : key ≠ "__proto__") (d : JsObject) (v : JsValue) (k : String) :
    (d.set key v).own k = if k = key then some v else d.own k := by
  rw [set, if_neg hkey]
  exact lookup_setOwn key v d.props k

/-- `d[key] += x` -/
def plusAssign (A : Arithmetic) (d : JsObject) (key : String) (x : JsNumber) : JsObject :=
  match d.get key with
  | some v => d.set key (v.plus A x)
  | none => d.set key (.number .nan)

/-! ### Entries -/

/-- A key that is an array index. -/
def arrayIndex? (key : String) : Option ℕ :=
  (natural? 10 key.toList).filter fun n => n < 4294967295 ∧ Nat.toDigits 10 n = key.toList

/-- `Object.entries(d)`: the array indexes in their order come first. -/
def entries (d : JsObject) : List (String × JsValue) :=
  (d.props.filter fun p => (arrayIndex? p.1).isSome).insertionSort
      (fun p q => (arrayIndex? p.1).getD 0 ≤ (arrayIndex? q.1).getD 0) ++
    d.props.filter fun p => !(arrayIndex? p.1).isSome

lemma entries_perm (d : JsObject) : d.entries.Perm d.props := by
  unfold entries
  exact ((List.perm_insertionSort _ _).append_right _).trans (List.filter_append_perm _ _)

lemma mem_entries {d : JsObject} {key : String} {v : JsValue} :
    (key, v) ∈ d.entries ↔ d.own key = some v := by
  have hall : ∀ ps : List (String × JsValue), (ps.map Prod.fst).Nodup →
      ((key, v) ∈ ps ↔ ps.lookup key = some v) := by
    intro ps hps
    induction ps with
    | nil => simp
    | cons p ps ih =>
      obtain ⟨a, w⟩ := p
      obtain ⟨ha, hps⟩ := List.nodup_cons.mp hps
      by_cases hkey : key = a
      · have hnot : (a, v) ∉ ps := fun h => ha (List.mem_map.mpr ⟨_, h, rfl⟩)
        simp [hkey, hnot, eq_comm]
      · simp [lookup_cons, hkey, ih hps]
  rw [d.entries_perm.mem_iff]
  exact hall d.props d.nodup

lemma nodup_entries (d : JsObject) : (d.entries.map Prod.fst).Nodup :=
  (d.entries_perm.map Prod.fst).nodup_iff.mpr d.nodup

/-! ### Inherited properties -/

/-- An own text that begins with the source of a function. -/
def IsFunctionText (v : JsValue) : Prop := ∃ cs, v = .text (String.ofList ('f' :: cs))

lemma IsFunctionText.toNumber {A : Arithmetic} {v : JsValue} (h : IsFunctionText v) :
    v.toNumber A = .nan := by
  obtain ⟨cs, rfl⟩ := h
  exact ofText_cons (by decide) (by decide) (by decide) A cs

lemma IsFunctionText.plus {A : Arithmetic} {v : JsValue} (h : IsFunctionText v) (x : JsNumber) :
    IsFunctionText (v.plus A x) := by
  obtain ⟨cs, rfl⟩ := h
  refine ⟨cs ++ (A.toText x).toList, ?_⟩
  rw [JsValue.plus, ← List.cons_append, String.ofList_append, String.ofList_toList]

lemma inherited_function {key : String} (hkey : key ∈ inheritedFunctions) :
    ∃ s, inherited key = some s ∧ IsFunctionText (.text s) := by
  have hproto : key ≠ "__proto__" := by
    rintro rfl
    exact absurd hkey (by decide)
  by_cases hconstructor : key = "constructor"
  · refine ⟨_, by rw [inherited, if_neg hproto, if_pos hconstructor],
      "unction Object() \x7b [native code] \x7d".toList, ?_⟩
    congr 1
  · refine ⟨_, by rw [inherited, if_neg hproto, if_neg hconstructor, if_pos hkey],
      "unction ".toList ++ (key.toList ++ "() \x7b [native code] \x7d".toList), ?_⟩
    congr 1
    apply String.toList_injective
    simp

lemma inherited_eq_none {key : String} (hkey : key ∉ inheritedFunctions) (hproto : key ≠ "__proto__") :
    inherited key = none := by
  have hconstructor : key ≠ "constructor" := by
    rintro rfl
    exact hkey (by decide)
  rw [inherited, if_neg hproto, if_neg hconstructor, if_neg hkey]

/-! ### The order of the entries -/

/-- Where a key stands among the entries, the keys having been created in the order of `created`. -/
def position (created : List String) (key : String) : ℕ :=
  (arrayIndex? key).getD (4294967295 + created.idxOf key)

lemma arrayIndex?_eq_some {key : String} {n : ℕ} (h : arrayIndex? key = some n) :
    n < 4294967295 ∧ Nat.toDigits 10 n = key.toList := by
  obtain ⟨-, hn⟩ := Option.filter_eq_some_iff.mp h
  simpa using hn

/-- Keys of one position are one key. -/
lemma arrayIndex?_inj {a b : String} {n : ℕ} (ha : arrayIndex? a = some n) (hb : arrayIndex? b = some n) :
    a = b :=
  String.toList_injective ((arrayIndex?_eq_some ha).2.symm.trans (arrayIndex?_eq_some hb).2)

lemma position_index {created : List String} {key : String} {n : ℕ} (h : arrayIndex? key = some n) :
    position created key = n := by rw [position, h, Option.getD_some]

lemma position_name {created : List String} {key : String} (h : arrayIndex? key = none) :
    position created key = 4294967295 + created.idxOf key := by rw [position, h, Option.getD_none]

/-- The entries stand in the order of their positions. -/
theorem entries_pairwise {d : JsObject} {created : List String}
    (h : (d.props.map Prod.fst).Pairwise fun a b => created.idxOf a < created.idxOf b) :
    (d.entries.map Prod.fst).Pairwise fun a b => position created a < position created b := by
  rw [List.pairwise_map, entries, List.pairwise_append]
  refine ⟨?_, ?_, ?_⟩
  · -- sorted by the index, and no two keys have the same
    let le := fun p q : String × JsValue => (arrayIndex? p.1).getD 0 ≤ (arrayIndex? q.1).getD 0
    have htotal : Std.Total le := ⟨fun p q => Nat.le_total _ _⟩
    have htrans : IsTrans (String × JsValue) le := ⟨fun p q r hpq hqr => Nat.le_trans hpq hqr⟩
    let indexes := d.props.filter fun p => (arrayIndex? p.1).isSome
    have hperm : (indexes.insertionSort le).Perm indexes := List.perm_insertionSort le indexes
    have hnodup : (indexes.insertionSort le).Pairwise fun p q => p.1 ≠ q.1 :=
      (hperm.pairwise_iff fun h => h.symm).mpr
        ((List.pairwise_map.mp d.nodup).sublist List.filter_sublist)
    refine ((List.pairwise_insertionSort le indexes).and hnodup).imp_of_mem ?_
    rintro p q hp hq ⟨hle, hne⟩
    obtain ⟨m, hm⟩ := Option.isSome_iff_exists.mp (List.mem_filter.mp (hperm.mem_iff.mp hp)).2
    obtain ⟨n, hn⟩ := Option.isSome_iff_exists.mp (List.mem_filter.mp (hperm.mem_iff.mp hq)).2
    have hmn : m ≠ n := by
      rintro rfl
      exact hne (arrayIndex?_inj hm hn)
    simp only [le, hm, hn, Option.getD_some] at hle
    rw [position_index hm, position_index hn]
    exact Nat.lt_of_le_of_ne hle hmn
  · refine ((List.pairwise_map.mp h).sublist List.filter_sublist).imp_of_mem ?_
    intro p q hp hq hlt
    have hname : ∀ r ∈ d.props.filter fun p => !(arrayIndex? p.1).isSome, arrayIndex? r.1 = none := by
      intro r hr
      simpa using (List.mem_filter.mp hr).2
    rw [position_name (hname p hp), position_name (hname q hq)]
    exact Nat.add_lt_add_left hlt _
  · intro p hp q hq
    have hp' := (List.perm_insertionSort _ _).mem_iff.mp hp
    obtain ⟨m, hm⟩ := Option.isSome_iff_exists.mp (List.mem_filter.mp hp').2
    have hq' : arrayIndex? q.1 = none := by simpa using (List.mem_filter.mp hq).2
    rw [position_index hm, position_name hq']
    exact Nat.lt_add_right _ (arrayIndex?_eq_some hm).1

/-- Two lists of entries with the same elements, each in the order of the positions, are equal. -/
theorem eq_of_positions {α : Type} {created : List String} (key : α → String) {xs ys : List α}
    (hxs : xs.Pairwise fun a b => position created (key a) < position created (key b))
    (hys : ys.Pairwise fun a b => position created (key a) < position created (key b))
    (h : ∀ a, a ∈ xs ↔ a ∈ ys) : xs = ys := by
  let before := fun a b : α => position created (key a) < position created (key b)
  have hirrefl : Std.Irrefl before := ⟨fun a => Nat.lt_irrefl _⟩
  have hantisymm : Std.Antisymm before := ⟨fun a b hab hba => absurd hab (Nat.lt_asymm hba)⟩
  exact List.Pairwise.eq_of_mem_iff hxs hys h

end JsObject
