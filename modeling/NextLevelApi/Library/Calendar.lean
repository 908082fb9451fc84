import Mathlib.Algebra.Ring.Nat
import Mathlib.Data.Int.Order.Basic
import Mathlib.Order.Monotone.Basic
import NextLevelApi.Library.JsonText

/-!
# The Gregorian calendar

Dates and the days since 1 January 1970 that they stand for, by years before and after. Each
day is one date (`Date.ofDays_toDays`, `Date.toDays_ofDays`), and a date is read back from its
text `YYYY-MM-DD`.
-/

namespace Calendar
open JsonText

/-! ### Years -/

def IsLeap (year : ℤ) : Prop := year % 4 = 0 ∧ (year % 100 ≠ 0 ∨ year % 400 = 0)

instance (year : ℤ) : Decidable (IsLeap year) := inferInstanceAs (Decidable (_ ∧ _))

/-- The number of the first day of a year. -/
def yearStart (year : ℤ) : ℤ :=
  365 * (year - 1970) + (year - 1969) / 4 - (year - 1901) / 100 + (year - 1601) / 400

def monthLengths (year : ℤ) : List ℕ :=
  [31, if IsLeap year then 29 else 28, 31, 30, 31, 30, 31, 31, 30, 31, 30, 31]

/-- The year of a day. A year has 365.2425 days on average, which tells it up to one. -/
def yearOf (d : ℤ) : ℤ :=
  let year := 1970 + 400 * d / 146097
  if d < yearStart year then year - 1 else if yearStart (year + 1) ≤ d then year + 1 else year

lemma yearStart_succ (year : ℤ) : yearStart (year + 1) = yearStart year + (monthLengths year).sum := by
  unfold yearStart monthLengths
  by_cases h : IsLeap year
  · simp only [h, if_true, List.sum_cons, List.sum_nil]
    unfold IsLeap at h
    omega
  · simp only [h, if_false, List.sum_cons, List.sum_nil]
    unfold IsLeap at h
    omega

lemma yearStart_lt_succ (year : ℤ) : yearStart year < yearStart (year + 1) := by
  unfold yearStart
  omega

lemma yearStart_lt_iff {year year' : ℤ} : yearStart year < yearStart year' ↔ year < year' :=
  (strictMono_int_of_lt_succ yearStart_lt_succ).lt_iff_lt

lemma yearOf_spec (d : ℤ) : yearStart (yearOf d) ≤ d ∧ d < yearStart (yearOf d + 1) := by
  unfold yearOf
  dsimp only
  generalize hyear : 1970 + 400 * d / 146097 = year
  -- counted in average years, a year starts less than a year too early or too late
  have hlower : 400 * yearStart (year - 1) ≤ 146097 * (year - 1970) := by
    unfold yearStart
    omega
  have hupper : 146097 * (year - 1969) ≤ 400 * yearStart (year + 2) := by
    unfold yearStart
    omega
  split_ifs with hbefore hafter
  · rw [Int.sub_add_cancel]
    omega
  · have htwo : year + 1 + 1 = year + 2 := by omega
    rw [htwo]
    omega
  · omega

lemma yearOf_eq {d year : ℤ} (h : yearStart year ≤ d) (h' : d < yearStart (year + 1)) : yearOf d = year := by
  obtain ⟨hle, hlt⟩ := yearOf_spec d
  have hupper : yearOf d < year + 1 := yearStart_lt_iff.mp (hle.trans_lt h')
  have hlower : year < yearOf d + 1 := yearStart_lt_iff.mp (h.trans_lt hlt)
  omega

/-! ### Months -/

/-- Where day `d`, counted from 0, falls in months of these lengths: month and day, from 0 on. -/
def locate : List ℕ → ℕ → ℕ × ℕ
  | [], d => (0, d)
  | length :: lengths, d =>
    if d < length then (0, d)
    else ((locate lengths (d - length)).1 + 1, (locate lengths (d - length)).2)

lemma locate_spec {lengths : List ℕ} {d : ℕ} (h : d < lengths.sum) :
    (locate lengths d).1 < lengths.length ∧ (locate lengths d).2 < lengths.getD (locate lengths d).1 0 ∧
      (lengths.take (locate lengths d).1).sum + (locate lengths d).2 = d := by
  induction lengths generalizing d with
  | nil => simp at h
  | cons length lengths ih =>
    unfold locate
    by_cases hd : d < length
    · rw [if_pos hd]
      simpa using hd
    · rw [if_neg hd]
      rw [List.sum_cons] at h
      obtain ⟨hmonth, hday, hsum⟩ := ih (d := d - length) (by omega)
      refine ⟨by simpa using hmonth, by simpa using hday, ?_⟩
      rw [List.take_succ_cons, List.sum_cons]
      omega

lemma locate_eq {lengths : List ℕ} {month day : ℕ} (h : day < lengths.getD month 0) :
    locate lengths ((lengths.take month).sum + day) = (month, day) := by
  induction lengths generalizing month with
  | nil => simp at h
  | cons length lengths ih =>
    cases month with
    | zero =>
      rw [List.getD_cons_zero] at h
      simp [locate, h]
    | succ month =>
      rw [List.getD_cons_succ] at h
      rw [List.take_succ_cons, List.sum_cons, Nat.add_assoc, locate, if_neg (by omega),
        Nat.add_sub_cancel_left, ih h]

lemma sum_take_add_lt {lengths : List ℕ} {month day : ℕ} (h : day < lengths.getD month 0) :
    (lengths.take month).sum + day < lengths.sum := by
  induction lengths generalizing month with
  | nil => simp at h
  | cons length lengths ih =>
    cases month with
    | zero =>
      rw [List.getD_cons_zero] at h
      simp only [List.take_zero, List.sum_nil, List.sum_cons]
      omega
    | succ month =>
      rw [List.getD_cons_succ] at h
      have htail := ih h
      simp only [List.take_succ_cons, List.sum_cons]
      omega

/-! ### Dates -/

def monthLength (year : ℤ) (month : ℕ) : ℕ := (monthLengths year).getD (month - 1) 0

@[ext]
structure Date where
  year : ℤ
  month : ℕ
  day : ℕ
  month_mem : 1 ≤ month ∧ month ≤ 12
  day_mem : 1 ≤ day ∧ day ≤ monthLength year month
  deriving DecidableEq

namespace Date

def toDays (date : Date) : ℤ :=
  yearStart date.year + (((monthLengths date.year).take (date.month - 1)).sum + (date.day - 1) : ℕ)

lemma dayOfYear_lt (d : ℤ) : (d - yearStart (yearOf d)).toNat < (monthLengths (yearOf d)).sum := by
  have hspec := yearOf_spec d
  rw [yearStart_succ] at hspec
  omega

def ofDays (d : ℤ) : Date where
  year := yearOf d
  month := (locate (monthLengths (yearOf d)) (d - yearStart (yearOf d)).toNat).1 + 1
  day := (locate (monthLengths (yearOf d)) (d - yearStart (yearOf d)).toNat).2 + 1
  month_mem := by
    have hmonth := (locate_spec (dayOfYear_lt d)).1
    simp only [monthLengths, List.length_cons, List.length_nil] at hmonth ⊢
    omega
  day_mem := ⟨by omega, (locate_spec (dayOfYear_lt d)).2.1⟩

@[simp] theorem toDays_ofDays (d : ℤ) : (ofDays d).toDays = d := by
  have hsum := (locate_spec (dayOfYear_lt d)).2.2
  have hyear := (yearOf_spec d).1
  simp only [toDays, ofDays, Nat.add_sub_cancel, hsum]
  omega

lemma day_lt (date : Date) : date.day - 1 < (monthLengths date.year).getD (date.month - 1) 0 := by
  have hday := date.day_mem
  unfold monthLength at hday
  omega

lemma yearOf_toDays (date : Date) : yearOf date.toDays = date.year := by
  have hlt := sum_take_add_lt date.day_lt
  apply yearOf_eq
  · unfold toDays
    omega
  · rw [yearStart_succ]
    unfold toDays
    omega

@[simp] theorem ofDays_toDays (date : Date) : ofDays date.toDays = date := by
  have hdays : (date.toDays - yearStart date.year).toNat =
      ((monthLengths date.year).take (date.month - 1)).sum + (date.day - 1) := by
    unfold toDays
    omega
  have hplace : locate (monthLengths (yearOf date.toDays))
      (date.toDays - yearStart (yearOf date.toDays)).toNat = (date.month - 1, date.day - 1) := by
    rw [yearOf_toDays, hdays, locate_eq date.day_lt]
  have hmonth := date.month_mem
  have hday := date.day_mem
  ext
  · exact yearOf_toDays date
  · simp only [ofDays, hplace]
    omega
  · simp only [ofDays, hplace]
    omega

theorem ofDays_eq_iff {d : ℤ} {date : Date} : ofDays d = date ↔ d = date.toDays := by
  constructor
  · rintro rfl
    exact (toDays_ofDays d).symm
  · rintro rfl
    exact ofDays_toDays date

end Date

/-! ### Texts -/

/-- `String(n).padStart(width, '0')` -/
def padded (width n : ℕ) : List Char := (number n).leftpad width '0'

/-- A number of `width` digits at the front of a text, and what follows it. -/
def field (width : ℕ) (text : List Char) : Option (ℕ × List Char) :=
  if (text.take width).length = width ∧ (text.take width).all Char.isDigit then
    some (Nat.ofDigitChars 10 (text.take width) 0, text.drop width)
  else none

def literal (c : Char) : List Char → Option (List Char)
  | [] => none
  | c' :: text => if c' = c then some text else none

@[simp] lemma literal_cons (c : Char) (text : List Char) : literal c (c :: text) = some text := if_pos rfl

lemma length_number_le_iff {width n : ℕ} (hwidth : 0 < width) :
    (number n).length ≤ width ↔ n < 10 ^ width := Nat.length_toDigits_le_iff (by omega) hwidth

lemma length_padded {width n : ℕ} (hwidth : 0 < width) (h : n < 10 ^ width) :
    (padded width n).length = width := by
  rw [padded, List.length_leftpad, Nat.max_eq_left ((length_number_le_iff hwidth).mpr h)]

lemma isDigit_of_mem_padded {width n : ℕ} {c : Char} (h : c ∈ padded width n) : c.isDigit = true := by
  obtain h | h := List.mem_append.mp h
  · rw [List.eq_of_mem_replicate h]
    rfl
  · exact isDigit_of_mem_number h

lemma ofDigitChars_padded (width n : ℕ) : Nat.ofDigitChars 10 (padded width n) 0 = n := by
  rw [padded, List.leftpad, Nat.ofDigitChars_append, Nat.ofDigitChars_replicate_zero, Nat.mul_zero]
  exact Nat.ofDigitChars_ten_toDigits

lemma field_padded {width n : ℕ} (hwidth : 0 < width) (h : n < 10 ^ width) (text : List Char) :
    field width (padded width n ++ text) = some (n, text) := by
  have hlength := length_padded hwidth h
  rw [field, List.take_left' hlength, List.drop_left' hlength, ofDigitChars_padded]
  refine if_pos ⟨hlength, ?_⟩
  exact List.all_eq_true.mpr fun _ => isDigit_of_mem_padded

namespace Date

def text (date : Date) : List Char :=
  padded 4 date.year.toNat ++ '-' :: (padded 2 date.month ++ '-' :: padded 2 date.day)

/-- A date `YYYY-MM-DD` at the front of a text, and what follows it. -/
def read (text : List Char) : Option (Date × List Char) := do
  let (year, text) ← field 4 text
  let text ← literal '-' text
  let (month, text) ← field 2 text
  let text ← literal '-' text
  let (day, text) ← field 2 text
  if h : (1 ≤ month ∧ month ≤ 12) ∧ 1 ≤ day ∧ day ≤ monthLength year month then
    some (⟨year, month, day, h.1, h.2⟩, text)
  else none

lemma day_le (date : Date) : date.day ≤ 31 := by
  have hday := date.day_mem.2
  unfold monthLength at hday
  rw [List.getD_eq_getElem?_getD] at hday
  cases hlength : (monthLengths date.year)[date.month - 1]? with
  | none =>
    rw [hlength, Option.getD_none] at hday
    omega
  | some length =>
    rw [hlength, Option.getD_some] at hday
    have hmem := List.mem_of_getElem? hlength
    simp only [monthLengths, List.mem_cons, List.not_mem_nil, or_false] at hmem
    split_ifs at hmem <;> omega

/-- A date of four digits in its year is read back from its text. -/
theorem read_text {date : Date} (hyear : 0 ≤ date.year ∧ date.year < 10000) (rest : List Char) :
    read (date.text ++ rest) = some (date, rest) := by
  have hmonth := date.month_mem
  have hday := date.day_le
  have hyears : (date.year.toNat : ℤ) = date.year := Int.toNat_of_nonneg hyear.1
  simp only [read, text, List.append_assoc, List.cons_append, Option.bind_eq_bind]
  rw [field_padded (by omega) (by omega)]
  simp only [Option.bind_some, literal_cons]
  rw [field_padded (by omega) (by omega)]
  simp only [Option.bind_some, literal_cons]
  rw [field_padded (by omega) (by omega)]
  simp only [Option.bind_some, hyears]
  rw [dif_pos ⟨date.month_mem, date.day_mem⟩]

lemma length_text (date : Date) : date.text.length = 10 ↔ date.year < 10000 := by
  have hmonth_le := date.month_mem
  have hday_le := date.day_le
  have hmonth := @length_padded 2 date.month (by omega) (by omega)
  have hday := @length_padded 2 date.day (by omega) (by omega)
  have hyear := @length_number_le_iff 4 date.year.toNat (by omega)
  rw [text, List.length_append, List.length_cons, List.length_append, List.length_cons, hmonth, hday, padded,
    List.length_leftpad]
  omega

/-- No two dates from the year 0 on have one text. -/
theorem text_inj {date date' : Date} (hyear : 0 ≤ date.year) (hyear' : 0 ≤ date'.year)
    (h : date.text = date'.text) (hlt : date.year < 10000) : date = date' := by
  have hlt' : date'.year < 10000 := by rw [← length_text, ← h, length_text]; exact hlt
  have hread := read_text ⟨hyear, hlt⟩ []
  rw [h, read_text ⟨hyear', hlt'⟩] at hread
  exact (Prod.mk.inj (Option.some.inj hread)).1.symm

end Date

end Calendar
