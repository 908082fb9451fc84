import Mathlib.Data.List.Basic
import Mathlib.Data.Nat.Notation

/-!
# JSON text

Numbers and string literals as `JSON.stringify` writes them. Both can be read back from
the front of a longer text, so a text put together from them and from fixed punctuation
determines the values written into it.
-/

namespace JsonText

/-! ### Natural numbers -/

def number (n : ℕ) : List Char := Nat.toDigits 10 n

lemma number_injective : Function.Injective number := by
  intro m n h
  have hread := congrArg (fun cs => Nat.ofDigitChars 10 cs 0) h
  simpa [number] using hread

lemma isDigit_of_mem_number {n : ℕ} {c : Char} (h : c ∈ number n) : c.isDigit = true :=
  Nat.isDigit_of_mem_toDigits (by omega) (by omega) h

lemma length_number_pos (n : ℕ) : 0 < (number n).length := Nat.length_toDigits_pos

/-- Two runs of characters of one kind, each ended by the same character of another kind,
are the same run. -/
lemma append_cons_inj (kind : Char → Prop) {c : Char} (hc : ¬kind c) {as bs rest rest' : List Char}
    (ha : ∀ x ∈ as, kind x) (hb : ∀ x ∈ bs, kind x) (h : as ++ c :: rest = bs ++ c :: rest') :
    as = bs ∧ rest = rest' := by
  induction as generalizing bs with
  | nil =>
    cases bs with
    | nil => exact ⟨rfl, (List.cons.inj h).2⟩
    | cons b bs => exact absurd ((List.cons.inj h).1 ▸ hb b (by simp)) hc
  | cons a as ih =>
    cases bs with
    | nil => exact absurd ((List.cons.inj h).1 ▸ ha a (by simp)) hc
    | cons b bs =>
      obtain ⟨hab, htail⟩ := List.cons.inj h
      obtain ⟨has, hrest⟩ := ih (fun x hx => ha x (List.mem_cons_of_mem _ hx))
        (fun x hx => hb x (List.mem_cons_of_mem _ hx)) htail
      exact ⟨by rw [hab, has], hrest⟩

lemma number_append_inj {c : Char} (hc : c.isDigit = false) {m n : ℕ} {rest rest' : List Char}
    (h : number m ++ c :: rest = number n ++ c :: rest') : m = n ∧ rest = rest' := by
  obtain ⟨hmn, hrest⟩ := append_cons_inj (fun x => x.isDigit = true) (by simp [hc])
    (fun _ => isDigit_of_mem_number) (fun _ => isDigit_of_mem_number) h
  exact ⟨number_injective hmn, hrest⟩

/-! ### String literals -/

def hexDigit (n : ℕ) : Char := if n < 10 then Char.ofNat (48 + n) else Char.ofNat (87 + n)

def hexValue (c : Char) : ℕ := if c.toNat < 58 then c.toNat - 48 else c.toNat - 87

/-- How a character is written inside a string literal. -/
def escape (c : Char) : List Char :=
  if c = '"' then ['\\', '"']
  else if c = '\\' then ['\\', '\\']
  else if c = '\x08' then ['\\', 'b']
  else if c = '\x0c' then ['\\', 'f']
  else if c = '\n' then ['\\', 'n']
  else if c = '\r' then ['\\', 'r']
  else if c = '\t' then ['\\', 't']
  else if c.toNat < 32 then
    ['\\', 'u', '0', '0', hexDigit (c.toNat / 16), hexDigit (c.toNat % 16)]
  else [c]

/-- Read one character of a string literal, up to the closing quote. -/
def unescape : List Char → Option (Char × List Char)
  | '\\' :: '"' :: rest => some ('"', rest)
  | '\\' :: '\\' :: rest => some ('\\', rest)
  | '\\' :: 'b' :: rest => some ('\x08', rest)
  | '\\' :: 'f' :: rest => some ('\x0c', rest)
  | '\\' :: 'n' :: rest => some ('\n', rest)
  | '\\' :: 'r' :: rest => some ('\r', rest)
  | '\\' :: 't' :: rest => some ('\t', rest)
  | '\\' :: 'u' :: '0' :: '0' :: high :: low :: rest =>
    some (Char.ofNat (16 * hexValue high + hexValue low), rest)
  | '"' :: _ => none
  | c :: rest => some (c, rest)
  | [] => none

lemma hexValue_hexDigit {n : ℕ} (h : n < 16) : hexValue (hexDigit n) = n := by
  have hall : ∀ n < 16, hexValue (hexDigit n) = n := by decide
  exact hall n h

theorem unescape_escape (c : Char) (rest : List Char) : unescape (escape c ++ rest) = some (c, rest) := by
  unfold escape
  split_ifs with hquote hback hb hf hn hr ht hctrl
  · subst hquote; rfl
  · subst hback; rfl
  · subst hb; rfl
  · subst hf; rfl
  · subst hn; rfl
  · subst hr; rfl
  · subst ht; rfl
  · have hhigh := hexValue_hexDigit (n := c.toNat / 16) (by omega)
    have hlow := hexValue_hexDigit (n := c.toNat % 16) (by omega)
    have hchar : Char.ofNat (16 * (c.toNat / 16) + c.toNat % 16) = c := by
      rw [show 16 * (c.toNat / 16) + c.toNat % 16 = c.toNat by omega]
      exact Char.ofNat_toNat c
    simp only [List.cons_append, List.nil_append, unescape, hhigh, hlow, hchar]
  · simp only [List.cons_append, List.nil_append]
    unfold unescape
    split <;> simp_all

lemma unescape_quote (rest : List Char) : unescape ('"' :: rest) = none := rfl

def literalBody (s : List Char) : List Char := s.flatMap escape

/-- A literal with a character in it does not end where the empty one does. -/
lemma literalBody_cons_ne {c : Char} {s rest rest' : List Char} :
    literalBody (c :: s) ++ '"' :: rest ≠ '"' :: rest' := by
  intro h
  have hread := congrArg unescape h
  simp only [literalBody, List.flatMap_cons, List.append_assoc, unescape_escape, unescape_quote] at hread
  exact absurd hread (by simp)

/-- The closing quote of a literal is found by reading from its front. -/
theorem literalBody_append_inj {s t rest rest' : List Char}
    (h : literalBody s ++ '"' :: rest = literalBody t ++ '"' :: rest') : s = t ∧ rest = rest' := by
  induction s generalizing t with
  | nil =>
    cases t with
    | nil => exact ⟨rfl, (List.cons.inj h).2⟩
    | cons d t => exact absurd h.symm literalBody_cons_ne
  | cons c s ih =>
    cases t with
    | nil => exact absurd h literalBody_cons_ne
    | cons d t =>
      have hread := congrArg unescape h
      simp only [literalBody, List.flatMap_cons, List.append_assoc, unescape_escape,
        Option.some.injEq, Prod.mk.injEq] at hread
      obtain ⟨hcd, htail⟩ := hread
      obtain ⟨hst, hrest⟩ := ih htail
      exact ⟨by rw [hcd, hst], hrest⟩

end JsonText
