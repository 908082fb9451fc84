import Mathlib.Algebra.Order.Floor.Ring
import Mathlib.Algebra.Order.Ring.Abs
import Mathlib.Data.List.DropRight
import Mathlib.Data.List.Induction
import Mathlib.Data.Rat.Floor
import Mathlib.Algebra.BigOperators.Group.List.Basic
import Mathlib.Tactic.Ring

/-!
# JavaScript numbers

NaN, the infinities and the finite numbers, whose values are exact. How a value is rounded
to a number is a parameter: `binary64` is what an engine does, and under `exact` every
rational is a number. `ofText` is `Number(s)` on a string; `Numeral` are the texts that it
reads as plain decimals.
-/

inductive JsNumber
  | nan
  | infinity (negative : Bool)
  | finite (x : ℚ)
  deriving DecidableEq

namespace JsNumber

/-- How values are rounded to numbers, and how numbers are written as text. -/
structure Arithmetic where
  round : ℚ → JsNumber
  toText : JsNumber → String
  round_ne_nan : ∀ x, round x ≠ nan

/-! ### Arithmetic -/

def add (A : Arithmetic) : JsNumber → JsNumber → JsNumber
  | .nan, _ => .nan
  | _, .nan => .nan
  | .infinity a, .infinity b => if a = b then .infinity a else .nan
  | .infinity a, .finite _ => .infinity a
  | .finite _, .infinity b => .infinity b
  | .finite x, .finite y => A.round (x + y)

def neg : JsNumber → JsNumber
  | .nan => .nan
  | .infinity negative => .infinity !negative
  | .finite x => .finite (-x)

/-- `Math.round(x)`, halves up. -/
def mathRound : JsNumber → JsNumber
  | .finite x => .finite ⌊x + 1 / 2⌋
  | x => x

/-- `parseFloat(x.toFixed(2))`: from 10^21 on `toFixed` writes the number itself. -/
def toFixed2 (A : Arithmetic) : JsNumber → JsNumber
  | .finite x =>
    if |x| < 1000000000000000000000 then
      A.round ((if x < 0 then -1 else 1) * (⌊|x| * 100 + 1 / 2⌋ / 100))
    else .finite x
  | x => x

def exact (toText : JsNumber → String) : Arithmetic where
  round := finite
  toText := toText
  round_ne_nan _ := by simp

/-- The value to the nearest integer, a half to the even one. -/
def nearestEven (q : ℚ) : ℤ :=
  let n := ⌊q⌋
  if q - n < 1 / 2 then n
  else if 1 / 2 < q - n then n + 1
  else if n % 2 = 0 then n else n + 1

/-- The exponent of the leading binary digit. -/
def exponent (x : ℚ) : ℤ :=
  let e := (Nat.log2 x.num.natAbs : ℤ) - Nat.log2 x.den
  if (2 : ℚ) ^ e ≤ |x| then e else e - 1

/-- IEEE 754 double precision. -/
def binary64 (toText : JsNumber → String) : Arithmetic where
  round x :=
    if x = 0 then .finite 0
    else
      let quantum := (2 : ℚ) ^ max (exponent x - 52) (-1074)
      let y := nearestEven (x / quantum) * quantum
      if 2 ^ 1024 ≤ |y| then .infinity (x < 0) else .finite y
  toText := toText
  round_ne_nan x := by
    dsimp only
    split_ifs <;> simp

example : (binary64 fun _ => "").round (1 / 10) = .finite (3602879701896397 / 36028797018963968) := by
  decide +kernel

@[simp] lemma exact_round (toText : JsNumber → String) (x : ℚ) : (exact toText).round x = .finite x := rfl

lemma mathRound_eq_nan {x : JsNumber} : mathRound x = .nan ↔ x = .nan := by
  cases x <;> simp [mathRound]

lemma toFixed2_eq_nan {A : Arithmetic} {x : JsNumber} : toFixed2 A x = .nan ↔ x = .nan := by
  cases x with
  | nan => rfl
  | infinity negative => simp [toFixed2]
  | finite x =>
    simp only [toFixed2]
    split_ifs <;> simp [A.round_ne_nan]

/-- Infinities of different signs. -/
def Opposite : JsNumber → JsNumber → Prop
  | .infinity a, .infinity b => a ≠ b
  | _, _ => False

lemma add_eq_nan {A : Arithmetic} {x y : JsNumber} :
    add A x y = .nan ↔ x = .nan ∨ y = .nan ∨ Opposite x y := by
  cases x <;> cases y <;> simp [add, Opposite, A.round_ne_nan]

/-! ### Totals -/

/-- The first number, and the others added to it one after the other. -/
def total (A : Arithmetic) : List JsNumber → JsNumber
  | [] => .finite 0
  | x :: xs => xs.foldl (add A) x

lemma total_concat {A : Arithmetic} {xs : List JsNumber} (h : xs ≠ []) (x : JsNumber) :
    total A (xs ++ [x]) = add A (total A xs) x := by
  cases xs with
  | nil => exact absurd rfl h
  | cons y ys => simp [total]

/-- Some infinity is added to the total of the others before it, which is the opposite one. -/
def Clash (A : Arithmetic) (xs : List JsNumber) : Prop :=
  ∃ before x after, xs = before ++ x :: after ∧ Opposite (total A before) x

lemma clash_concat {A : Arithmetic} {xs : List JsNumber} {x : JsNumber} :
    Clash A (xs ++ [x]) ↔ Clash A xs ∨ Opposite (total A xs) x := by
  constructor
  · rintro ⟨before, y, after, hsplit, hopposite⟩
    induction after using List.reverseRecOn with
    | nil =>
      obtain ⟨rfl, hy⟩ := List.append_inj' hsplit rfl
      obtain rfl := List.singleton_inj.mp hy
      exact .inr hopposite
    | append_singleton after z _ =>
      rw [← List.cons_append, ← List.append_assoc] at hsplit
      obtain ⟨rfl, -⟩ := List.append_inj' hsplit rfl
      exact .inl ⟨before, y, after, rfl, hopposite⟩
  · rintro (⟨before, y, after, rfl, hopposite⟩ | hopposite)
    · exact ⟨before, y, after ++ [x], by simp, hopposite⟩
    · exact ⟨xs, x, [], rfl, hopposite⟩

/-- A total is NaN when one of the numbers is, or when infinities clash. -/
theorem total_eq_nan {A : Arithmetic} (xs : List JsNumber) :
    total A xs = .nan ↔ .nan ∈ xs ∨ Clash A xs := by
  induction xs using List.reverseRecOn with
  | nil => simp [total, Clash]
  | append_singleton xs x ih =>
    rw [clash_concat]
    by_cases hxs : xs = []
    · simp [hxs, total, Clash, Opposite, eq_comm]
    · rw [total_concat hxs, add_eq_nan, ih, List.mem_append, List.mem_singleton, eq_comm (a := x)]
      tauto

theorem total_exact {toText : JsNumber → String} (vs : List ℚ) :
    total (exact toText) (vs.map .finite) = .finite vs.sum := by
  induction vs using List.reverseRecOn with
  | nil => rfl
  | append_singleton vs v ih =>
    by_cases hvs : vs = []
    · simp [hvs, total]
    · rw [List.map_append, List.map_singleton, total_concat (by simpa using hvs), ih]
      simp [add]

/-! ### Numbers from text -/

/-- White space and line ends. -/
def isSpace (c : Char) : Bool :=
  c.toNat ∈ [9, 10, 11, 12, 13, 32, 0xA0, 0x1680, 0x2028, 0x2029, 0x202F, 0x205F, 0x3000, 0xFEFF] ∨
    0x2000 ≤ c.toNat ∧ c.toNat ≤ 0x200A

def trim (cs : List Char) : List Char := (cs.dropWhile isSpace).rdropWhile isSpace

def digit? (base : ℕ) (c : Char) : Option ℕ :=
  let value :=
    if '0' ≤ c ∧ c ≤ '9' then some (c.toNat - 48)
    else if 'a' ≤ c ∧ c ≤ 'f' then some (c.toNat - 87)
    else if 'A' ≤ c ∧ c ≤ 'F' then some (c.toNat - 55)
    else none
  value.filter (· < base)

def ofDigits (base : ℕ) (ds : List ℕ) : ℕ := ds.foldl (fun n d => n * base + d) 0

/-- One digit or more. -/
def natural? (base : ℕ) (cs : List Char) : Option ℕ :=
  if cs = [] then none else (cs.mapM (digit? base)).map (ofDigits base)

/-- What follows the digits: nothing, or `e` and an integer. -/
def exponentPart? : List Char → Option ℤ
  | [] => some 0
  | _ :: '-' :: cs => (natural? 10 cs).map fun n => -(n : ℤ)
  | _ :: '+' :: cs => (natural? 10 cs).map fun n => (n : ℤ)
  | _ :: cs => (natural? 10 cs).map fun n => (n : ℤ)

def decimal? (cs : List Char) : Option ℚ := do
  let mantissa := cs.takeWhile fun c => c ≠ 'e' ∧ c ≠ 'E'
  let whole := mantissa.takeWhile (· ≠ '.')
  let fraction := (mantissa.dropWhile (· ≠ '.')).drop 1
  let n ← natural? 10 (whole ++ fraction)
  let e ← exponentPart? (cs.dropWhile fun c => c ≠ 'e' ∧ c ≠ 'E')
  return n / 10 ^ fraction.length * 10 ^ e

def unsigned? (A : Arithmetic) (cs : List Char) : Option JsNumber :=
  if cs = "Infinity".toList then some (.infinity false) else (decimal? cs).map A.round

def signed? (A : Arithmetic) : List Char → Option JsNumber
  | '-' :: cs => (unsigned? A cs).map neg
  | '+' :: cs => unsigned? A cs
  | cs => unsigned? A cs

/-- The base that a prefix such as `0x` stands for. -/
def radix? : List Char → Option (ℕ × List Char)
  | '0' :: c :: cs =>
    if c = 'x' ∨ c = 'X' then some (16, cs)
    else if c = 'o' ∨ c = 'O' then some (8, cs)
    else if c = 'b' ∨ c = 'B' then some (2, cs)
    else none
  | _ => none

/-- `Number(s)` -/
def ofText (A : Arithmetic) (s : String) : JsNumber :=
  let cs := trim s.toList
  if cs = [] then .finite 0
  else
    match radix? cs with
    | some (base, digits) => (natural? base digits).elim .nan fun n => A.round n
    | none => (signed? A cs).getD .nan

/-- `s.replace(',', '.')`, which replaces the first comma. -/
def replaceComma : List Char → List Char
  | [] => []
  | c :: cs => if c = ',' then '.' :: cs else c :: replaceComma cs

example : [" -1,5 ", "", "0x1F", "1e-2", "1.234,56", "Infinity"].map (fun s =>
    ofText (exact fun _ => "") (String.ofList (replaceComma s.toList))) =
    [.finite (-3 / 2), .finite 0, .finite 31, .finite (1 / 100), .nan, .infinity false] := by
  decide +kernel

lemma trim_cons {c : Char} (hc : isSpace c = false) (cs : List Char) :
    ∃ rest, trim (c :: cs) = c :: rest := by
  have hdrop : (c :: cs).dropWhile isSpace = c :: cs := by simp [hc]
  have hprefix : (c :: cs).rdropWhile isSpace <+: c :: cs := List.rdropWhile_prefix _ _
  have hne : (c :: cs).rdropWhile isSpace ≠ [] := by
    rw [ne_eq, List.rdropWhile_eq_nil_iff]
    exact fun h => absurd (h c (by simp)) (by simp [hc])
  rw [trim, hdrop]
  cases h : (c :: cs).rdropWhile isSpace with
  | nil => exact absurd h hne
  | cons a rest =>
    rw [h] at hprefix
    exact ⟨rest, by rw [(List.cons_prefix_cons.mp hprefix).1]⟩

/-- What begins with such a letter is no number. -/
theorem ofText_cons {c : Char} (hspace : isSpace c = false) (hdigit : digit? 10 c = none)
    (hc : c ∉ "+-.eEI".toList) (A : Arithmetic) (cs : List Char) :
    ofText A (String.ofList (c :: cs)) = .nan := by
  obtain ⟨hplus, hminus, hpoint, hlower, hupper, hinfinity⟩ : c ≠ '+' ∧ c ≠ '-' ∧ c ≠ '.' ∧ c ≠ 'e' ∧
      c ≠ 'E' ∧ c ≠ 'I' := by simpa using hc
  have hzero : c ≠ '0' := by
    rintro rfl
    exact absurd hdigit (by decide)
  obtain ⟨rest, htrim⟩ := trim_cons hspace cs
  have hdecimal : decimal? (c :: rest) = none := by
    simp [decimal?, natural?, hdigit, hpoint, hlower, hupper]
  have hunsigned : unsigned? A (c :: rest) = none := by
    rw [unsigned?, if_neg (by simp [hinfinity]), hdecimal]
    rfl
  have hradix : radix? (c :: rest) = none := by
    unfold radix?
    split
    · simp_all
    · rfl
  have hsigned : signed? A (c :: rest) = none := by
    unfold signed?
    split
    · simp_all
    · simp_all
    · exact hunsigned
  rw [ofText, String.toList_ofList, htrim]
  simp [hradix, hsigned]

/-! ### Plain decimals -/

/-- A decimal numeral with an optional minus sign and at most one separator, comma or point. -/
structure Numeral where
  negative : Bool
  whole : List (Fin 10)
  fraction : Option (Bool × List (Fin 10))
  nonempty : whole ++ fraction.elim [] Prod.snd ≠ []

def digitChar (d : Fin 10) : Char := Char.ofNat (48 + d)

namespace Numeral

def fractionDigits (n : Numeral) : List (Fin 10) := n.fraction.elim [] Prod.snd

/-- The numeral with each of its separators written as `comma` or a point. -/
def chars (comma : Char) (n : Numeral) : List Char :=
  (if n.negative then ['-'] else []) ++ n.whole.map digitChar ++
    n.fraction.elim [] fun (isComma, ds) => (if isComma then comma else '.') :: ds.map digitChar

def text (n : Numeral) : String := String.ofList (n.chars ',')

def magnitude (n : Numeral) : ℚ :=
  ofDigits 10 ((n.whole ++ n.fractionDigits).map Fin.val) / 10 ^ n.fractionDigits.length

def value (n : Numeral) : ℚ := if n.negative then -n.magnitude else n.magnitude

end Numeral

lemma digit?_digitChar (d : Fin 10) : digit? 10 (digitChar d) = some d.val := by
  revert d
  decide

/-- Characters that no digit is. -/
lemma digitChar_ne (d : Fin 10) {c : Char} (hc : digit? 10 c = none) : digitChar d ≠ c := by
  intro h
  rw [← h, digit?_digitChar] at hc
  exact absurd hc (by simp)

lemma natural?_digitChar {ds : List (Fin 10)} (h : ds ≠ []) :
    natural? 10 (ds.map digitChar) = some (ofDigits 10 (ds.map Fin.val)) := by
  have hall : ∀ ds : List (Fin 10), (ds.map digitChar).mapM (digit? 10) = some (ds.map Fin.val) := by
    intro ds
    induction ds with
    | nil => rfl
    | cons d ds ih =>
      rw [List.map_cons, List.mapM_cons, digit?_digitChar, ih]
      rfl
  rw [natural?, if_neg (by simpa using h), hall]
  rfl

lemma ne_of_mem_digits {ds : List (Fin 10)} {c : Char} (hc : digit? 10 c = none) :
    ∀ x ∈ ds.map digitChar, x ≠ c := by
  intro x hx
  obtain ⟨d, -, rfl⟩ := List.mem_map.mp hx
  exact digitChar_ne d hc

/-- Digits, and digits after a point. -/
lemma decimal?_digitChar {whole fraction : List (Fin 10)} {point : List Char}
    (hpoint : point = [] ∧ fraction = [] ∨ point = ['.']) (h : whole ++ fraction ≠ []) :
    decimal? (whole.map digitChar ++ (point ++ fraction.map digitChar)) =
      some ((ofDigits 10 ((whole ++ fraction).map Fin.val) : ℚ) / 10 ^ fraction.length) := by
  have hall : ∀ c ∈ whole.map digitChar ++ (point ++ fraction.map digitChar),
      decide (c ≠ 'e' ∧ c ≠ 'E') = true := by
    intro c hc
    simp only [List.mem_append] at hc
    obtain hc | hc | hc := hc
    · simpa using ⟨ne_of_mem_digits (by decide) c hc, ne_of_mem_digits (by decide) c hc⟩
    · obtain ⟨rfl, -⟩ | rfl := hpoint
      · exact absurd hc (by simp)
      · rw [List.mem_singleton.mp hc]
        decide
    · simpa using ⟨ne_of_mem_digits (by decide) c hc, ne_of_mem_digits (by decide) c hc⟩
  have hdigits : ∀ ds : List (Fin 10), ∀ c ∈ ds.map digitChar, decide (c ≠ '.') = true := by
    intro ds c hc
    simpa using ne_of_mem_digits (by decide) c hc
  have hparts : (whole.map digitChar ++ (point ++ fraction.map digitChar)).takeWhile (· ≠ '.') =
        whole.map digitChar ∧
      ((whole.map digitChar ++ (point ++ fraction.map digitChar)).dropWhile (· ≠ '.')).drop 1 =
        fraction.map digitChar := by
    rw [List.takeWhile_append_of_pos (hdigits whole), List.dropWhile_append_of_pos (hdigits whole)]
    obtain ⟨rfl, rfl⟩ | rfl := hpoint
    · simp
    · simp
  simp only [decimal?]
  rw [List.takeWhile_eq_self_iff.mpr hall, List.dropWhile_eq_nil_iff.mpr hall, hparts.1, hparts.2,
    ← List.map_append, natural?_digitChar h]
  simp [exponentPart?]

lemma unsigned?_digitChar {A : Arithmetic} (whole fraction : List (Fin 10)) (point : List Char)
    (hpoint : point = [] ∧ fraction = [] ∨ point = ['.']) (h : whole ++ fraction ≠ []) :
    unsigned? A (whole.map digitChar ++ (point ++ fraction.map digitChar)) =
      some (A.round ((ofDigits 10 ((whole ++ fraction).map Fin.val) : ℚ) / 10 ^ fraction.length)) := by
  have hI : 'I' ∉ whole.map digitChar ++ (point ++ fraction.map digitChar) := by
    simp only [List.mem_append, not_or]
    refine ⟨fun hc => ne_of_mem_digits (by decide) _ hc rfl, ?_,
      fun hc => ne_of_mem_digits (by decide) _ hc rfl⟩
    obtain ⟨rfl, -⟩ | rfl := hpoint <;> simp
  have hne : whole.map digitChar ++ (point ++ fraction.map digitChar) ≠ "Infinity".toList := by
    intro heq
    rw [heq] at hI
    exact hI (by decide)
  rw [unsigned?, if_neg hne, decimal?_digitChar hpoint h]
  rfl

/-- A text that is read as it stands: no white space, no prefix of a base. -/
lemma ofText_of_plain {A : Arithmetic} {cs : List Char} (hne : cs ≠ [])
    (hspace : ∀ c ∈ cs, isSpace c = false) (hradix : radix? cs = none) :
    ofText A (String.ofList cs) = (signed? A cs).getD .nan := by
  have htrim : trim cs = cs := by
    rw [trim, List.dropWhile_eq_self_iff.mpr, List.rdropWhile_eq_self_iff.mpr]
    · intro hl
      simp [hspace _ (List.getLast_mem hl)]
    · intro hl
      simp [hspace _ (List.getElem_mem _)]
  rw [ofText, String.toList_ofList, htrim]
  simp only [if_neg hne, hradix]

lemma radix?_eq_none {cs : List Char} (h : ∀ c ∈ cs, c ∉ "xXoObB".toList) : radix? cs = none := by
  unfold radix?
  split
  · next c cs =>
    have hc : c ∉ ['x', 'X', 'o', 'O', 'b', 'B'] := h c (by simp)
    simp only [List.mem_cons, List.not_mem_nil, or_false, not_or] at hc
    simp [hc]
  · rfl

lemma signed?_eq_unsigned? {A : Arithmetic} {cs : List Char} (h : ∀ c ∈ cs, c ≠ '-' ∧ c ≠ '+') :
    signed? A cs = unsigned? A cs := by
  unfold signed?
  split
  · exact absurd rfl (h '-' (by simp)).1
  · exact absurd rfl (h '+' (by simp)).2
  · rfl

namespace Numeral

lemma replaceComma_digits (ds : List (Fin 10)) (cs : List Char) :
    replaceComma (ds.map digitChar ++ cs) = ds.map digitChar ++ replaceComma cs := by
  induction ds with
  | nil => rfl
  | cons d ds ih =>
    rw [List.map_cons, List.cons_append, replaceComma, if_neg (digitChar_ne d (by decide)), ih]
    rfl

lemma replaceComma_chars (n : Numeral) : replaceComma (n.chars ',') = n.chars '.' := by
  have hwhole : ∀ cs : List Char, replaceComma ((if n.negative then ['-'] else []) ++ cs) =
      (if n.negative then ['-'] else []) ++ replaceComma cs := by
    intro cs
    cases n.negative <;> simp [replaceComma]
  have hdigits := fun ds => replaceComma_digits ds []
  simp only [replaceComma, List.append_nil] at hdigits
  rw [chars, chars, List.append_assoc, hwhole, replaceComma_digits, List.append_assoc]
  cases n.fraction with
  | none => rfl
  | some fraction =>
    obtain ⟨isComma, ds⟩ := fraction
    cases isComma <;> simp [replaceComma, hdigits]

/-- The numeral without its sign, the separator written as a point. -/
def body (n : Numeral) : List Char :=
  n.whole.map digitChar ++ n.fraction.elim [] fun (_, ds) => '.' :: ds.map digitChar

lemma chars_point (n : Numeral) : n.chars '.' = (if n.negative then ['-'] else []) ++ n.body := by
  unfold chars body
  cases n.fraction <;> simp

lemma mem_body {n : Numeral} {c : Char} (hc : c ∈ n.body) : c = '.' ∨ ∃ d, c = digitChar d := by
  have hdigits : ∀ ds : List (Fin 10), c ∈ ds.map digitChar → ∃ d, c = digitChar d := by
    intro ds h
    obtain ⟨d, -, rfl⟩ := List.mem_map.mp h
    exact ⟨d, rfl⟩
  unfold body at hc
  cases hfraction : n.fraction with
  | none => exact .inr (hdigits _ (by simpa [hfraction] using hc))
  | some fraction =>
    rw [hfraction, List.mem_append] at hc
    obtain hc | hc := hc
    · exact .inr (hdigits _ hc)
    · obtain rfl | hc := List.mem_cons.mp hc
      · exact .inl rfl
      · exact .inr (hdigits _ hc)

lemma unsigned?_body (A : Arithmetic) (n : Numeral) : unsigned? A n.body = some (A.round n.magnitude) := by
  have hne := n.nonempty
  unfold body magnitude fractionDigits
  cases hfraction : n.fraction with
  | none =>
    rw [hfraction] at hne
    exact unsigned?_digitChar n.whole [] [] (.inl ⟨rfl, rfl⟩) hne
  | some fraction =>
    rw [hfraction] at hne
    exact unsigned?_digitChar n.whole fraction.2 ['.'] (.inr rfl) hne

lemma body_ne_nil (n : Numeral) : n.body ≠ [] := by
  have hne := n.nonempty
  unfold body
  cases hfraction : n.fraction with
  | none => simpa [hfraction] using hne
  | some fraction => simp

lemma plain_digitChar (d : Fin 10) : isSpace (digitChar d) = false ∧ digitChar d ∉ "xXoObB".toList ∧
    digitChar d ≠ '-' ∧ digitChar d ≠ '+' := by
  revert d
  decide

lemma plain_chars {n : Numeral} {c : Char} (hc : c ∈ n.chars '.') :
    isSpace c = false ∧ c ∉ "xXoObB".toList := by
  rw [chars_point, List.mem_append] at hc
  obtain hc | hc := hc
  · have hminus : c = '-' := by
      split at hc
      · exact List.mem_singleton.mp hc
      · exact absurd hc (by simp)
    rw [hminus]
    decide
  · obtain rfl | ⟨d, rfl⟩ := mem_body hc
    · decide
    · exact ⟨(plain_digitChar d).1, (plain_digitChar d).2.1⟩

/-- The first comma replaced, a numeral is read as its value. -/
theorem ofText_text (A : Arithmetic) (n : Numeral) :
    ofText A (String.ofList (replaceComma n.text.toList)) =
      if n.negative then neg (A.round n.magnitude) else A.round n.magnitude := by
  have hne : n.chars '.' ≠ [] := by
    rw [chars_point]
    exact List.append_ne_nil_of_right_ne_nil _ n.body_ne_nil
  have hsigned : signed? A n.body = unsigned? A n.body := by
    apply signed?_eq_unsigned?
    intro c hc
    obtain rfl | ⟨d, rfl⟩ := mem_body hc
    · decide
    · exact (plain_digitChar d).2.2
  rw [text, String.toList_ofList, replaceComma_chars, ofText_of_plain hne (fun c hc => (plain_chars hc).1)
    (radix?_eq_none fun c hc => (plain_chars hc).2), chars_point]
  cases n.negative with
  | false =>
    simp only [Bool.false_eq_true, if_false, List.nil_append]
    rw [hsigned, unsigned?_body]
    rfl
  | true =>
    simp only [if_true, List.cons_append, List.nil_append, signed?]
    rw [unsigned?_body]
    rfl

lemma ofText_text_exact {toText : JsNumber → String} (n : Numeral) :
    ofText (exact toText) (String.ofList (replaceComma n.text.toList)) = .finite n.value := by
  rw [ofText_text, value]
  cases n.negative <;> simp [neg]

end Numeral

end JsNumber
