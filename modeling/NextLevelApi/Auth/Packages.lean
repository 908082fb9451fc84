import NextLevelApi.Library.Base64
import NextLevelApi.Library.JsonText

/-!
# Tokens and hashes

The text of a signed token, down to its bytes, and the part of jsonwebtoken and bcrypt
that `AuthService` relies on. bcrypt looks at the first 72 bytes of its input only, and
`sign_take_72` says what they are for a token: the header and the beginning of the
payload, which holds the user's id and email and nothing that changes from one token of a
user to the next.
-/

namespace NextLevelApi
open Base64 JsonText

/-- The payload of both tokens, with the two claims that jsonwebtoken appends. -/
structure Claims where
  id : ℕ
  email : String
  tenantId : ℕ
  role : String
  iat : ℕ
  exp : ℕ
  deriving DecidableEq

namespace Claims

@[irreducible] def key (s : String) : List Char := s.toList

def jsonHead (c : Claims) : List Char :=
  key "\x7b\"id\":" ++ (number c.id ++ ',' :: (key "\"email\":\"" ++
    (literalBody c.email.toList ++ '"' :: key ",\"tenantId\":")))

def jsonTail (c : Claims) : List Char :=
  number c.tenantId ++ ',' :: (key "\"role\":\"" ++ (literalBody c.role.toList ++ '"' ::
    (key ",\"iat\":" ++ (number c.iat ++ ',' :: (key "\"exp\":" ++
      (number c.exp ++ '\x7d' :: []))))))

def json (c : Claims) : String := String.ofList (c.jsonHead ++ c.jsonTail)

example : (Claims.mk 7 "a\"b" 2 "user" 10 20).json =
    "\x7b\"id\":7,\"email\":\"a\\\"b\",\"tenantId\":2,\"role\":\"user\",\"iat\":10,\"exp\":20\x7d" := by
  decide +kernel

lemma length_jsonHead (c : Claims) : 27 ≤ c.jsonHead.length := by
  have hid := length_number_pos c.id
  have h1 : (key "\x7b\"id\":").length = 6 := by decide +kernel
  have h2 : (key "\"email\":\"").length = 9 := by decide +kernel
  have h3 : (key ",\"tenantId\":").length = 12 := by decide +kernel
  simp only [jsonHead, List.length_append, List.length_cons, h1, h2, h3]
  omega

lemma jsonHead_congr {c d : Claims} (hid : c.id = d.id) (hemail : c.email = d.email) :
    c.jsonHead = d.jsonHead := by
  rw [jsonHead, jsonHead, hid, hemail]

theorem json_injective : Function.Injective json := by
  intro c d h
  have hchars : c.jsonHead ++ c.jsonTail = d.jsonHead ++ d.jsonTail := String.ofList_injective h
  simp only [jsonHead, jsonTail, List.append_assoc, List.cons_append] at hchars
  obtain ⟨hid, hrest⟩ := number_append_inj (by decide) (List.append_cancel_left hchars)
  obtain ⟨hemail, hrest⟩ := literalBody_append_inj (List.append_cancel_left hrest)
  obtain ⟨htenant, hrest⟩ := number_append_inj (by decide) (List.append_cancel_left hrest)
  obtain ⟨hrole, hrest⟩ := literalBody_append_inj (List.append_cancel_left hrest)
  obtain ⟨hiat, hrest⟩ := number_append_inj (by decide) (List.append_cancel_left hrest)
  obtain ⟨hexp, -⟩ := number_append_inj (by decide) (List.append_cancel_left hrest)
  cases c
  cases d
  simp only [String.toList_inj] at hid hemail htenant hrole hiat hexp
  subst hid hemail htenant hrole hiat hexp
  rfl

end Claims

/-! ### jsonwebtoken -/

def jwtHeader : String := "\x7b\"alg\":\"HS256\",\"typ\":\"JWT\"\x7d"

def signingInput (c : Claims) : String :=
  encodeUrl (utf8 jwtHeader) ++ "." ++ encodeUrl (utf8 c.json)

/-- jsonwebtoken: `hs256` is the signature in base64url, and `decode` the payload of a
token whose signature verifies under the secret. -/
structure Jsonwebtoken where
  hs256 : (secret input : String) → String
  decode : (secret token : String) → Option Claims

namespace Jsonwebtoken

def sign (jwt : Jsonwebtoken) (secret : String) (c : Claims) : String :=
  signingInput c ++ "." ++ jwt.hs256 secret (signingInput c)

/-- `jsonwebtoken.verify(token, secret)` at `now` milliseconds, expiration included. -/
def verify (jwt : Jsonwebtoken) (secret : String) (now : ℕ) (token : String) : Option Claims :=
  match jwt.decode secret token with
  | none => none
  | some c => if c.exp ≤ now / 1000 then none else some c

/-- What is signed under a secret verifies under it. -/
structure Documented (jwt : Jsonwebtoken) : Prop where
  decode_sign : ∀ secret c, jwt.decode secret (jwt.sign secret c) = some c

variable {jwt : Jsonwebtoken} {secret token : String} {now : ℕ} {c d : Claims}

lemma sign_ne_empty (jwt : Jsonwebtoken) (secret : String) (c : Claims) : jwt.sign secret c ≠ "" := by
  intro h
  have hlen := congrArg String.length h
  simp [sign] at hlen

lemma verify_eq_some : jwt.verify secret now token = some c ↔
    jwt.decode secret token = some c ∧ now / 1000 < c.exp := by
  unfold verify
  cases jwt.decode secret token with
  | none => simp
  | some d =>
    simp only [Option.some.injEq]
    split
    · next h =>
      simp only [reduceCtorEq, false_iff, not_and]
      rintro rfl
      omega
    · next h =>
      simp only [Option.some.injEq, iff_self_and]
      rintro rfl
      omega

lemma verify_sign (hjwt : jwt.Documented) : jwt.verify secret now (jwt.sign secret c) =
    if c.exp ≤ now / 1000 then none else some c := by
  simp only [verify, hjwt.decode_sign]

lemma Documented.sign_inj (hjwt : jwt.Documented) (h : jwt.sign secret c = jwt.sign secret d) :
    c = d := by
  have hdecode := congrArg (jwt.decode secret) h
  rwa [hjwt.decode_sign, hjwt.decode_sign, Option.some.injEq] at hdecode

/-- A token's text determines its payload, whatever the signature function. -/
theorem sign_injective (jwt : Jsonwebtoken) (secret : String) : Function.Injective (jwt.sign secret) := by
  intro c d h
  simp only [sign, signingInput, String.append_assoc] at h
  have hchars := congrArg String.toList h
  simp only [String.toList_append] at hchars
  have hpayload := List.append_cancel_left (List.append_cancel_left hchars)
  have hdot : (".".toList : List Char) = ['.'] := rfl
  simp only [hdot, List.cons_append, List.nil_append] at hpayload
  obtain ⟨htext, -⟩ := append_cons_inj (fun x => x ≠ '.') (by simp)
    (fun x hx hxdot => dot_not_mem_encodeUrl _ (hxdot ▸ hx))
    (fun x hx hxdot => dot_not_mem_encodeUrl _ (hxdot ▸ hx)) hpayload
  exact Claims.json_injective (utf8_injective (encodeUrl_injective (String.toList_inj.mp htext)))

open Classical in
noncomputable def reference (hs256 : String → String → String) : Jsonwebtoken where
  hs256 := hs256
  decode secret token :=
    if h : ∃ c, signingInput c ++ "." ++ hs256 secret (signingInput c) = token then some h.choose else none

lemma reference_documented (hs256 : String → String → String) : (reference hs256).Documented := by
  refine ⟨fun secret c => ?_⟩
  have h : ∃ d, (reference hs256).sign secret d = (reference hs256).sign secret c := ⟨c, rfl⟩
  have hdecode : (reference hs256).decode secret ((reference hs256).sign secret c) = some h.choose :=
    dif_pos h
  rw [hdecode, sign_injective (reference hs256) secret h.choose_spec]

/-- Tokens for the same id and email share a prefix of at least 72 bytes: the header, and
the encoding of the first nine groups of the payload. -/
lemma sign_shares_prefix (jwt : Jsonwebtoken) (secret : String) (c : Claims) :
    ∃ shared : String, 72 ≤ (utf8 shared).length ∧
      ∀ e : Claims, e.jsonHead = c.jsonHead → ∃ rest, jwt.sign secret e = shared ++ rest := by
  obtain ⟨head, tail, hsplit, hlen⟩ : ∃ head tail : List UInt8,
      utf8 (String.ofList c.jsonHead) = head ++ tail ∧ head.length = 3 * 9 := by
    refine ⟨_, _, (List.take_append_drop 27 _).symm, ?_⟩
    rw [List.length_take]
    have h := Nat.le_trans c.length_jsonHead (length_utf8_ofList c.jsonHead)
    omega
  refine ⟨encodeUrl (utf8 jwtHeader) ++ "." ++ encodeUrl head, ?_, ?_⟩
  · have hheader : (encodeUrl (utf8 jwtHeader)).length = 4 * 9 := length_encode _ _ _ (by decide +kernel)
    have hhead : (encodeUrl head).length = 4 * 9 := length_encode _ _ _ hlen
    have hone : ".".length = 1 := rfl
    refine Nat.le_trans ?_ (length_le_utf8 _)
    simp only [String.length_append, hheader, hhead, hone]
    omega
  · intro e he
    have hjson : utf8 e.json = head ++ (tail ++ utf8 (String.ofList e.jsonTail)) := by
      rw [Claims.json, he, String.ofList_append, utf8_append, hsplit, List.append_assoc]
    have hpayload : encodeUrl (utf8 e.json) =
        encodeUrl head ++ encodeUrl (tail ++ utf8 (String.ofList e.jsonTail)) := by
      rw [hjson]
      exact encode_append _ _ _ _ hlen
    refine ⟨encodeUrl (tail ++ utf8 (String.ofList e.jsonTail)) ++
      ("." ++ jwt.hs256 secret (signingInput e)), ?_⟩
    simp only [sign, signingInput, hpayload, String.append_assoc]

/-- The first 72 bytes of a token hold the header and 26 bytes of the payload, and those
are taken up by the user's id, the email and the punctuation around them. -/
theorem sign_take_72 (jwt : Jsonwebtoken) (secret : String) (hid : c.id = d.id)
    (hemail : c.email = d.email) :
    (utf8 (jwt.sign secret c)).take 72 = (utf8 (jwt.sign secret d)).take 72 := by
  obtain ⟨shared, hshared, hsplit⟩ := jwt.sign_shares_prefix secret c
  obtain ⟨rest, hrest⟩ := hsplit c rfl
  obtain ⟨rest', hrest'⟩ := hsplit d (Claims.jsonHead_congr hid hemail).symm
  rw [hrest, hrest', utf8_append, utf8_append, List.take_append_of_le_length hshared,
    List.take_append_of_le_length hshared]

end Jsonwebtoken

/-! ### bcrypt -/

structure Bcrypt where
  hash : (salt data : String) → String
  compare : (data hash : String) → Bool

namespace Bcrypt

/-- Two inputs compare equal exactly when their images under `input` are equal, and a hash is
never the empty string. -/
structure Compares {α : Type} (bcrypt : Bcrypt) (input : String → α) : Prop where
  compare_hash : ∀ salt s t, bcrypt.compare t (bcrypt.hash salt s) = true ↔ input t = input s
  hash_ne_empty : ∀ salt s, bcrypt.hash salt s ≠ ""

/-- bcrypt's documented input limit. -/
abbrev Documented (bcrypt : Bcrypt) : Prop := bcrypt.Compares (fun s => (utf8 s).take 72)

abbrev Exact (bcrypt : Bcrypt) : Prop := bcrypt.Compares (id : String → String)

def reference (input : String → String) : Bcrypt where
  hash _ s := "$2b$10$" ++ input s
  compare t h := h = "$2b$10$" ++ input t

lemma reference_compares {α : Type} {input : String → String} {view : String → α}
    (h : ∀ s t, input s = input t ↔ view s = view t) : (reference input).Compares view := by
  refine ⟨fun salt s t => ?_, fun salt s hempty => ?_⟩
  · simp only [reference, decide_eq_true_eq, ← h t s]
    constructor
    · intro heq
      have hchars := congrArg String.toList heq
      simp only [String.toList_append] at hchars
      exact String.toList_inj.mp (List.append_cancel_left hchars).symm
    · rintro heq
      rw [heq]
  · have hlen := congrArg String.length hempty
    simp [reference] at hlen

def firstBytes (s : String) : String := String.ofList (((utf8 s).take 72).map fun b => Char.ofNat b.toNat)

lemma reference_documented : (reference firstBytes).Documented := by
  apply reference_compares
  intro s t
  constructor
  · intro h
    refine List.map_injective_iff.mpr ?_ (String.ofList_injective h)
    intro a b hab
    have hvalid : ∀ n < 256, (Char.ofNat n).toNat = n := by decide +kernel
    have htoNat := congrArg Char.toNat hab
    rw [hvalid _ a.toNat_lt, hvalid _ b.toNat_lt] at htoNat
    exact UInt8.toNat_inj.mp htoNat
  · intro h
    simp only [firstBytes, h]

lemma reference_exact : (reference id).Exact := reference_compares fun _ _ => Iff.rfl

end Bcrypt

end NextLevelApi
