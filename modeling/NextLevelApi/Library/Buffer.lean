import Mathlib.Data.Int.Notation
import NextLevelApi.Library.Base64

/-!
# Byte strings and text

What a `Buffer` of Node makes of text and of indexes: the code units of a string, the
reader of base64, the reader of UTF-8 that puts U+FFFD where the octets are no text, and
`subarray`, whose negative indexes count from the end.
-/

namespace Buffer
open Base64

/-! ### Code units -/

def utf16 (c : Char) : List ℕ :=
  if c.toNat < 0x10000 then [c.toNat]
  else [0xD800 + (c.toNat - 0x10000) / 0x400, 0xDC00 + (c.toNat - 0x10000) % 0x400]

/-- The units that `s.length` counts. -/
def codeUnits (s : String) : List ℕ := s.toList.flatMap utf16

def IsAscii (s : String) : Prop := ∀ c ∈ s.toList, c.toNat < 128

instance (s : String) : Decidable (IsAscii s) := inferInstanceAs (Decidable (∀ c ∈ s.toList, _))

lemma utf8_eq (s : String) : utf8 s = s.toList.flatMap String.utf8EncodeChar := by
  have h : ∀ cs : List Char, utf8 (String.ofList cs) = cs.flatMap String.utf8EncodeChar := by
    intro cs
    simp [utf8, List.utf8Encode]
  have hs := h s.toList
  rwa [String.ofList_toList] at hs

lemma length_utf16_le (c : Char) : (utf16 c).length ≤ (String.utf8EncodeChar c).length := by
  simp only [utf16, String.utf8EncodeChar, Char.toNat]
  split_ifs <;> simp only [List.length_cons, List.length_nil] <;> omega

lemma length_utf16_lt {c : Char} (h : 128 ≤ c.toNat) :
    (utf16 c).length < (String.utf8EncodeChar c).length := by
  simp only [Char.toNat] at h
  simp only [utf16, String.utf8EncodeChar, Char.toNat]
  split_ifs <;> simp only [List.length_cons, List.length_nil] <;> omega

/-- UTF-8 takes more octets than UTF-16 takes units as soon as one character is not ASCII. -/
theorem length_codeUnits_le (cs : List Char) :
    (cs.flatMap utf16).length ≤ (cs.flatMap String.utf8EncodeChar).length ∧
      ((cs.flatMap utf16).length = (cs.flatMap String.utf8EncodeChar).length →
        ∀ c ∈ cs, c.toNat < 128) := by
  induction cs with
  | nil => simp
  | cons c cs ih =>
    obtain ⟨hle, hascii⟩ := ih
    have hc := length_utf16_le c
    simp only [List.flatMap_cons, List.length_append, List.mem_cons, forall_eq_or_imp]
    constructor
    · omega
    · intro hlen
      constructor
      · by_contra hwide
        have hlt := length_utf16_lt (Nat.not_lt.mp hwide)
        omega
      · exact hascii (by omega)

lemma utf16_ascii {c : Char} (h : c.toNat < 128) : utf16 c = [c.toNat] := by
  rw [utf16, if_pos (by omega)]

lemma codeUnits_ascii {s : String} (h : IsAscii s) : codeUnits s = s.toList.map Char.toNat := by
  have hall : ∀ cs : List Char, (∀ c ∈ cs, c.toNat < 128) →
      cs.flatMap utf16 = cs.map Char.toNat := by
    intro cs hcs
    induction cs with
    | nil => rfl
    | cons c cs ih =>
      rw [List.flatMap_cons, utf16_ascii (hcs c (by simp)), ih fun x hx => hcs x (by simp [hx])]
      rfl
  exact hall _ h

lemma length_utf8_ascii {s : String} (h : IsAscii s) : (utf8 s).length = (codeUnits s).length := by
  have hall : ∀ cs : List Char, (∀ c ∈ cs, c.toNat < 128) →
      (cs.flatMap String.utf8EncodeChar).length = cs.length := by
    intro cs hcs
    induction cs with
    | nil => rfl
    | cons c cs ih =>
      have hc : (String.utf8EncodeChar c).length = 1 := by
        have hlt : c.val.toNat < 128 := hcs c (by simp)
        simp only [String.utf8EncodeChar]
        rw [if_pos (by omega)]
        rfl
      rw [List.flatMap_cons, List.length_append, hc, ih fun x hx => hcs x (by simp [hx])]
      simp only [List.length_cons]
      omega
  rw [codeUnits_ascii h, List.length_map, utf8_eq, hall _ h]

lemma length_utf8_eq_iff (s : String) : (utf8 s).length = (codeUnits s).length ↔ IsAscii s := by
  constructor
  · intro h
    rw [utf8_eq] at h
    exact (length_codeUnits_le s.toList).2 h.symm
  · exact length_utf8_ascii

/-! ### base64 -/

/-- `Buffer.from(s, 'base64')`, which looks at the low byte of each unit only. -/
def fromBase64 (s : String) : List UInt8 := decode ((codeUnits s).map (· % 256))

theorem fromBase64_encodePadded (bs : List UInt8) : fromBase64 (encodePadded bs) = bs := by
  have hascii := isAscii_encodePadded bs
  have hcodes : (codeUnits (encodePadded bs)).map (· % 256) = (encodePadded bs).toList.map Char.toNat := by
    rw [codeUnits_ascii hascii, List.map_map]
    apply List.map_congr_left
    intro c hc
    have hlt := hascii c hc
    simp only [Function.comp_apply]
    omega
  rw [fromBase64, hcodes, decode_encodePadded]

example : fromBase64 "S!Gk=AA" = utf8 "Hi" := by decide +kernel

/-! ### UTF-8 -/

/-- A character that is being read: the octets it still owes, the bounds of the next one,
and what has been read of its code. -/
structure Pending where
  needed : ℕ
  lower : ℕ
  upper : ℕ
  code : ℕ

/-- An octet where a character may begin, and the characters that it completes. -/
def leadOctet (b : ℕ) : List Char × Option Pending :=
  if b < 0x80 then ([Char.ofNat b], none)
  else if 0xC2 ≤ b ∧ b < 0xE0 then ([], some ⟨1, 0x80, 0xBF, b % 0x20⟩)
  else if 0xE0 ≤ b ∧ b < 0xF0 then
    ([], some ⟨2, if b = 0xE0 then 0xA0 else 0x80, if b = 0xED then 0x9F else 0xBF, b % 0x10⟩)
  else if 0xF0 ≤ b ∧ b < 0xF5 then
    ([], some ⟨3, if b = 0xF0 then 0x90 else 0x80, if b = 0xF4 then 0x8F else 0xBF, b % 0x08⟩)
  else (['\uFFFD'], none)

def nextOctet : Option Pending → ℕ → List Char × Option Pending
  | none, b => leadOctet b
  | some p, b =>
    -- an octet out of bounds ends the character and is looked at again
    if b < p.lower ∨ p.upper < b then ('\uFFFD' :: (leadOctet b).1, (leadOctet b).2)
    else if p.needed = 1 then ([Char.ofNat (p.code * 64 + b % 64)], none)
    else ([], some ⟨p.needed - 1, 0x80, 0xBF, p.code * 64 + b % 64⟩)

def readUtf8 : Option Pending → List ℕ → List Char
  | none, [] => []
  | some _, [] => ['\uFFFD']
  | pending, b :: bs => (nextOctet pending b).1 ++ readUtf8 (nextOctet pending b).2 bs

/-- `buffer.toString('utf8')` -/
def toUtf8String (bs : List UInt8) : String := String.ofList (readUtf8 none (bs.map UInt8.toNat))

lemma nextOctet_last {p : Pending} {b : ℕ} (hn : p.needed = 1) (hlower : p.lower ≤ b)
    (hupper : b ≤ p.upper) : nextOctet (some p) b = ([Char.ofNat (p.code * 64 + b % 64)], none) := by
  rw [nextOctet, if_neg (by omega), if_pos hn]

lemma nextOctet_more {p : Pending} {b : ℕ} (hn : p.needed ≠ 1) (hlower : p.lower ≤ b)
    (hupper : b ≤ p.upper) :
    nextOctet (some p) b = ([], some ⟨p.needed - 1, 0x80, 0xBF, p.code * 64 + b % 64⟩) := by
  rw [nextOctet, if_neg (by omega), if_neg hn]

lemma readUtf8_cons (pending : Option Pending) (b : ℕ) (bs : List ℕ) :
    readUtf8 pending (b :: bs) = (nextOctet pending b).1 ++ readUtf8 (nextOctet pending b).2 bs := by
  cases pending <;> rfl

lemma readUtf8_utf8EncodeChar (c : Char) (bs : List ℕ) :
    readUtf8 none ((String.utf8EncodeChar c).map UInt8.toNat ++ bs) = c :: readUtf8 none bs := by
  have hvalid : c.val.toNat < 0xD800 ∨ 0xDFFF < c.val.toNat ∧ c.val.toNat < 0x110000 := c.valid
  have hc : Char.ofNat c.val.toNat = c := Char.ofNat_toNat c
  simp only [String.utf8EncodeChar]
  generalize c.val.toNat = v at hvalid hc
  split_ifs with h1 h2 h3
  · have hv : v % 2 ^ 8 = v := by omega
    simp only [List.map_cons, List.map_nil, UInt8.toNat_ofNat', List.cons_append, List.nil_append,
      readUtf8_cons, hv]
    rw [nextOctet, leadOctet, if_pos (by omega), hc]
    rfl
  · have ha : (v / 64 % 32 + 192) % 2 ^ 8 = v / 64 + 192 := by omega
    have hb : (v % 64 + 128) % 2 ^ 8 = v % 64 + 128 := by omega
    simp only [List.map_cons, List.map_nil, UInt8.toNat_ofNat', List.cons_append, List.nil_append,
      readUtf8_cons, ha, hb]
    rw [nextOctet, leadOctet, if_neg (by omega), if_pos (by omega)]
    rw [nextOctet_last rfl (by simp) (by simp only; omega)]
    have hcode : (v / 64 + 192) % 0x20 * 64 + (v % 64 + 128) % 64 = v := by omega
    simp only [hcode, hc]
    rfl
  · have ha : (v / 4096 % 16 + 224) % 2 ^ 8 = v / 4096 + 224 := by omega
    have hb : (v / 64 % 64 + 128) % 2 ^ 8 = v / 64 % 64 + 128 := by omega
    have hb' : (v % 64 + 128) % 2 ^ 8 = v % 64 + 128 := by omega
    simp only [List.map_cons, List.map_nil, UInt8.toNat_ofNat', List.cons_append, List.nil_append,
      readUtf8_cons, ha, hb, hb']
    rw [nextOctet, leadOctet, if_neg (by omega), if_neg (by omega), if_pos (by omega)]
    rw [nextOctet_more (by simp) (by simp only; split_ifs <;> omega)
      (by simp only; split_ifs <;> omega)]
    rw [nextOctet_last rfl (by simp) (by simp only; omega)]
    have hcode : ((v / 4096 + 224) % 0x10 * 64 + (v / 64 % 64 + 128) % 64) * 64 +
        (v % 64 + 128) % 64 = v := by omega
    simp only [hcode, hc]
    rfl
  · have ha : (v / 262144 % 8 + 240) % 2 ^ 8 = v / 262144 + 240 := by omega
    have hb : (v / 4096 % 64 + 128) % 2 ^ 8 = v / 4096 % 64 + 128 := by omega
    have hb' : (v / 64 % 64 + 128) % 2 ^ 8 = v / 64 % 64 + 128 := by omega
    have hb'' : (v % 64 + 128) % 2 ^ 8 = v % 64 + 128 := by omega
    simp only [List.map_cons, List.map_nil, UInt8.toNat_ofNat', List.cons_append, List.nil_append,
      readUtf8_cons, ha, hb, hb', hb'']
    rw [nextOctet, leadOctet, if_neg (by omega), if_neg (by omega), if_neg (by omega),
      if_pos (by omega)]
    rw [nextOctet_more (by simp) (by simp only; split_ifs <;> omega)
      (by simp only; split_ifs <;> omega)]
    rw [nextOctet_more (by simp) (by simp) (by simp only; omega)]
    rw [nextOctet_last rfl (by simp) (by simp only; omega)]
    have hcode : (((v / 262144 + 240) % 0x08 * 64 + (v / 4096 % 64 + 128) % 64) * 64 +
        (v / 64 % 64 + 128) % 64) * 64 + (v % 64 + 128) % 64 = v := by omega
    simp only [hcode, hc]
    rfl

theorem toUtf8String_utf8 (s : String) : toUtf8String (utf8 s) = s := by
  have hread : ∀ cs : List Char,
      readUtf8 none ((cs.flatMap String.utf8EncodeChar).map UInt8.toNat) = cs := by
    intro cs
    induction cs with
    | nil => rfl
    | cons c cs ih => rw [List.flatMap_cons, List.map_append, readUtf8_utf8EncodeChar, ih]
  rw [toUtf8String, utf8_eq, hread, String.ofList_toList]

example : toUtf8String [0xE2, 0x28, 0xF0, 0x9F, 0x98, 0x41] = "\uFFFD(\uFFFDA" := by decide +kernel

/-! ### Cutting by position -/

section Subarray

variable {α : Type}

/-- Where an index of `subarray` points. -/
def position (length : ℕ) (index : ℤ) : ℕ :=
  if index < 0 then (length + index).toNat else min index.toNat length

def subarray (bs : List α) (start stop : ℤ) : List α :=
  (bs.drop (position bs.length start)).take (position bs.length stop - position bs.length start)

lemma position_le (length : ℕ) (index : ℤ) : position length index ≤ length := by
  unfold position
  split_ifs <;> omega

lemma length_subarray (bs : List α) (start stop : ℤ) : (subarray bs start stop).length =
    position bs.length stop - position bs.length start := by
  have hstop := position_le bs.length stop
  simp only [subarray, List.length_take, List.length_drop]
  omega

lemma position_natCast {length index : ℕ} (h : index ≤ length) : position length index = index := by
  rw [position, if_neg (by omega), Int.toNat_natCast]
  exact Nat.min_eq_left h

lemma subarray_natCast (bs : List α) {i j : ℕ} (hi : i ≤ bs.length) (hj : j ≤ bs.length) :
    subarray bs i j = (bs.drop i).take (j - i) := by
  rw [subarray, position_natCast hi, position_natCast hj]

/-- Cuts that meet make up the whole. -/
theorem subarray_append (bs : List α) {i j : ℕ} (hij : i ≤ j) (hj : j ≤ bs.length) :
    subarray bs (0 : ℕ) i ++ subarray bs i j ++ subarray bs j bs.length = bs := by
  rw [subarray_natCast bs (by omega) (by omega), subarray_natCast bs (by omega) hj,
    subarray_natCast bs hj (Nat.le_refl _)]
  have hback : (bs.drop j).take (bs.length - j) = (bs.drop i).drop (j - i) := by
    rw [List.drop_drop, List.take_of_length_le (by simp)]
    congr 1
    omega
  rw [hback, List.append_assoc, List.take_append_drop]
  exact List.take_append_drop i bs

/-- What was put together is cut apart again. -/
theorem subarray_of_append (front middle back : List α) {bs : List α} {i j : ℕ}
    (hbs : bs = front ++ middle ++ back) (hi : i = front.length) (hj : j = i + middle.length) :
    subarray bs (0 : ℕ) i = front ∧ subarray bs i j = middle ∧ subarray bs j bs.length = back := by
  have hlen : bs.length = i + middle.length + back.length := by
    rw [hbs, hi, List.length_append, List.length_append]
  have hfront : (subarray bs (0 : ℕ) i).length = front.length := by
    rw [length_subarray, position_natCast (Nat.zero_le _), position_natCast (by omega)]
    omega
  have hmiddle : (subarray bs i j).length = middle.length := by
    rw [length_subarray, position_natCast (by omega), position_natCast (by omega)]
    omega
  have hparts : subarray bs (0 : ℕ) i ++ subarray bs i j ++ subarray bs j bs.length =
      front ++ middle ++ back :=
    (subarray_append bs (by omega) (by omega)).trans hbs
  obtain ⟨hparts, hback⟩ := List.append_inj hparts (by
    rw [List.length_append, List.length_append, hfront, hmiddle])
  obtain ⟨hfront, hmiddle⟩ := List.append_inj hparts hfront
  exact ⟨hfront, hmiddle, hback⟩

end Subarray

end Buffer
