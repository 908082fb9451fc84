import NextLevelApi.Http
import NextLevelApi.Library.Buffer
import NextLevelApi.Library.Fallible

/-!
# Encrypted configurations

The script `encrypt.js` and `CryptoService.decrypt`. The script writes IV, ciphertext and
tag one after the other; the service cuts them apart by position and checks no length, so
what it takes for the three parts of a short text overlaps. `decrypt_eq_ok` says what a
successful call has gone through.
-/

namespace NextLevelApi
open Base64 Buffer Fallible

abbrev Bytes (n : ℕ) := {bs : List UInt8 // bs.length = n}

/-- AES-256-GCM: the ciphertext and the tag of a text, and the text of a ciphertext whose
tag verifies. -/
structure Aes256Gcm where
  encrypt : (key iv text : List UInt8) → List UInt8 × List UInt8
  decrypt : (key iv ciphertext tag : List UInt8) → Option (List UInt8)

/-- Under one key and IV, decryption inverts encryption, the tag has 16 bytes and a text is
as long as its ciphertext. -/
structure Aes256Gcm.Documented (gcm : Aes256Gcm) : Prop where
  decrypt_encrypt : ∀ (key : Bytes 32) (iv : Bytes 12) text,
    gcm.decrypt key iv (gcm.encrypt key iv text).1 (gcm.encrypt key iv text).2 = some text
  length_tag : ∀ (key : Bytes 32) (iv : Bytes 12) text, (gcm.encrypt key iv text).2.length = 16
  length_text : ∀ key iv ciphertext tag text,
    gcm.decrypt key iv ciphertext tag = some text → text.length = ciphertext.length

/-- `JSON`, with the message of the `SyntaxError` that `parse` throws. -/
structure JsonCodec (Value : Type) where
  stringify : Value → String
  parse : String → Except String Value

def JsonCodec.parseOrThrow {Value : Type} (json : JsonCodec Value) (text : String) :
    Except Exception Value :=
  (json.parse text).mapError (.error "SyntaxError")

/-! ### The packages -/

def invalidKeyLength : Exception := .error "RangeError" "Invalid key length"

def createDecipheriv (key iv : List UInt8) : Except Exception Unit :=
  if iv = [] then .error (.error "TypeError" "Invalid initialization vector")
  else if key.length ≠ 32 then .error invalidKeyLength
  else .ok ()

def setAuthTag (tag : List UInt8) : Except Exception Unit :=
  if tag.length = 4 ∨ tag.length = 8 ∨ 12 ≤ tag.length ∧ tag.length ≤ 16 then .ok ()
  else .error (.error "TypeError" s!"Invalid authentication tag length: {tag.length}")

/-- `update` and `final`, of which the second throws when the tag does not verify. -/
def Aes256Gcm.final (gcm : Aes256Gcm) (key iv encrypted tag : List UInt8) : Except Exception (List UInt8) :=
  match gcm.decrypt key iv encrypted tag with
  | none => .error (.error "Error" "Unsupported state or unable to authenticate data")
  | some text => .ok text

/-! ### The script -/

section Script

variable {Value : Type} (gcm : Aes256Gcm) (json : JsonCodec Value)

/-- The key of the script, which exits unless it has 32 bytes. -/
def scriptKey (key : String) : Option (Bytes 32) :=
  if h : (utf8 key).length = 32 then some ⟨utf8 key, h⟩ else none

/-- `encrypt`, `iv` being its `crypto.randomBytes(12)`. -/
def encrypt (key : Bytes 32) (iv : Bytes 12) (data : Value) : String :=
  let (encrypted, tag) := gcm.encrypt key iv (utf8 (json.stringify data))
  encodePadded (iv ++ encrypted ++ tag)

end Script

/-! ### The service -/

structure CryptoService where
  key : List UInt8
  deriving DecidableEq

namespace CryptoService

/-- The constructor, which counts the code units of the key and keeps its UTF-8 bytes. -/
def new : Option String → Except Exception CryptoService
  | none => .error (.error "Error" "ENCRYPTION_KEY missing")
  | some key =>
    if key = "" then .error (.error "Error" "ENCRYPTION_KEY missing")
    else if (codeUnits key).length ≠ 32 then .error (.error "Error" "ENCRYPTION_KEY must be 32 bytes")
    else .ok ⟨utf8 key⟩

section Decrypt

variable {Value : Type} (gcm : Aes256Gcm) (json : JsonCodec Value)

def ivOf (raw : List UInt8) : List UInt8 := subarray raw (0 : ℕ) (12 : ℕ)

def authTagOf (raw : List UInt8) : List UInt8 := subarray raw (raw.length - 16) raw.length

def encryptedOf (raw : List UInt8) : List UInt8 := subarray raw (12 : ℕ) (raw.length - 16)

def decrypt (self : CryptoService) (ciphertext : String) : Except Exception Value := do
  let raw := fromBase64 ciphertext
  createDecipheriv self.key (ivOf raw)
  setAuthTag (authTagOf raw)
  let decrypted ← gcm.final self.key (ivOf raw) (encryptedOf raw) (authTagOf raw)
  json.parseOrThrow (toUtf8String decrypted)

end Decrypt

end CryptoService

/-! ### A key and a configuration -/

namespace Sample

def encryptionKey : Bytes 32 := ⟨utf8 "12345678901234567890123456789012", by decide +kernel⟩

def randomIv : Bytes 12 := ⟨[0, 1, 2, 3, 4, 5, 6, 7, 8, 9, 10, 11], rfl⟩

def erpConfig : List (String × String) := [("port", "")]

def config : JsonCodec (List (String × String)) where
  stringify fields :=
    "\x7b" ++ ",".intercalate (fields.map fun (k, v) => "\"" ++ k ++ "\":\"" ++ v ++ "\"") ++ "\x7d"
  parse text :=
    if text = "\x7b\"port\":\"\"\x7d" then .ok erpConfig else .error "Unexpected end of JSON input"

/-- What the script prints for them. -/
def encryptedConfig : String := "AAECAwQFBgcICQoLI3YXdQd/uFCEokzOvJAie7D30CoXEMCUjtQ9"

def sealedText : List UInt8 := [35, 118, 23, 117, 7, 127, 184, 80, 132, 162, 76]

def sealedTag : Bytes 16 :=
  ⟨[206, 188, 144, 34, 123, 176, 247, 208, 42, 23, 16, 192, 148, 142, 212, 61], rfl⟩

/-- AES-256-GCM at this key, IV and configuration; other texts are left as they are. -/
def gcm : Aes256Gcm where
  encrypt _ _ text :=
    if text = utf8 "\x7b\"port\":\"\"\x7d" then (sealedText, sealedTag) else (text, List.replicate 16 0)
  decrypt _ _ ciphertext tag :=
    if ciphertext = sealedText ∧ tag = sealedTag then some (utf8 "\x7b\"port\":\"\"\x7d")
    else if tag = List.replicate 16 0 then some ciphertext
    else none

example : encrypt gcm config encryptionKey randomIv erpConfig = encryptedConfig := by decide +kernel

lemma parse_config : config.parse (config.stringify erpConfig) = .ok erpConfig := by
  simp [config, erpConfig]

lemma parse_empty : config.parse "" = .error "Unexpected end of JSON input" := by
  simp [config]

lemma gcm_documented : gcm.Documented where
  decrypt_encrypt _ _ text := by
    have hne : List.replicate 16 0 ≠ sealedTag.1 := by decide
    by_cases h : text = utf8 "\x7b\"port\":\"\"\x7d"
    · simp [gcm, h]
    · simp only [gcm, if_neg h]
      rw [if_neg (fun hsealed => hne hsealed.2)]
      exact if_pos trivial
  length_tag _ _ text := by
    by_cases h : text = utf8 "\x7b\"port\":\"\"\x7d"
    · simp [gcm, h, sealedTag]
    · simp [gcm, h]
  length_text _ _ ciphertext tag text h := by
    have hlen : (utf8 "\x7b\"port\":\"\"\x7d").length = sealedText.length := by decide +kernel
    simp only [gcm] at h
    split_ifs at h with hsealed
    · rw [← Option.some.inj h, hsealed.1, hlen]
    · rw [← Option.some.inj h]

end Sample

namespace CryptoService

section Results

variable {Value : Type} {gcm : Aes256Gcm} {json : JsonCodec Value} {self : CryptoService}
  {ciphertext : String} {value : Value}

lemma createDecipheriv_eq_ok {key iv : List UInt8} :
    createDecipheriv key iv = .ok () ↔ iv ≠ [] ∧ key.length = 32 := by
  unfold createDecipheriv
  by_cases hiv : iv = []
  · simp [hiv]
  · by_cases hkey : key.length = 32
    · simp [hiv, hkey]
    · simp [hiv, hkey]

lemma setAuthTag_eq_ok {tag : List UInt8} : setAuthTag tag = .ok () ↔
    tag.length = 4 ∨ tag.length = 8 ∨ 12 ≤ tag.length ∧ tag.length ≤ 16 := by
  unfold setAuthTag
  split_ifs with h
  · exact iff_of_true rfl h
  · exact iff_of_false (by simp) h

lemma final_eq_ok {key iv encrypted tag text : List UInt8} :
    gcm.final key iv encrypted tag = .ok text ↔ gcm.decrypt key iv encrypted tag = some text := by
  unfold Aes256Gcm.final
  cases gcm.decrypt key iv encrypted tag <;> simp

lemma parseOrThrow_eq_ok {text : String} :
    json.parseOrThrow text = .ok value ↔ json.parse text = .ok value := by
  unfold JsonCodec.parseOrThrow
  cases json.parse text <;> simp [Except.mapError]

/-- What a successful call has gone through. -/
theorem decrypt_eq_ok : self.decrypt gcm json ciphertext = .ok value ↔
    ivOf (fromBase64 ciphertext) ≠ [] ∧ self.key.length = 32 ∧
    setAuthTag (authTagOf (fromBase64 ciphertext)) = .ok () ∧
    ∃ text, gcm.decrypt self.key (ivOf (fromBase64 ciphertext)) (encryptedOf (fromBase64 ciphertext))
        (authTagOf (fromBase64 ciphertext)) = some text ∧
      json.parse (toUtf8String text) = .ok value := by
  simp only [decrypt, bind_eq_ok, final_eq_ok, parseOrThrow_eq_ok]
  constructor
  · rintro ⟨_, hcreate, _, htag, text, hfinal, hparse⟩
    obtain ⟨hiv, hkey⟩ := createDecipheriv_eq_ok.mp hcreate
    exact ⟨hiv, hkey, htag, text, hfinal, hparse⟩
  · rintro ⟨hiv, hkey, htag, text, hfinal, hparse⟩
    exact ⟨(), createDecipheriv_eq_ok.mpr ⟨hiv, hkey⟩, (), htag, text, hfinal, hparse⟩

/-- A tag of a length that Node takes and a ciphertext that is not empty: only then do the
three slices not overlap. -/
lemma parts_of_lengths {raw : List UInt8} (htag : setAuthTag (authTagOf raw) = .ok ())
    (hencrypted : encryptedOf raw ≠ []) : 29 ≤ raw.length := by
  have htaglen := setAuthTag_eq_ok.mp htag
  have hlen := List.length_pos_iff.mpr hencrypted
  rw [authTagOf, length_subarray] at htaglen
  rw [encryptedOf, length_subarray] at hlen
  simp only [position] at htaglen hlen
  split_ifs at htaglen hlen <;> omega

lemma length_parts {raw : List UInt8} (h : 29 ≤ raw.length) :
    raw = ivOf raw ++ encryptedOf raw ++ authTagOf raw ∧ (ivOf raw).length = 12 ∧
      encryptedOf raw ≠ [] ∧ (authTagOf raw).length = 16 := by
  have hcut : (raw.length : ℤ) - 16 = (raw.length - 16 : ℕ) := by omega
  have h12 : position raw.length (12 : ℕ) = 12 := position_natCast (by omega)
  have h16 : position raw.length (raw.length - 16 : ℕ) = raw.length - 16 := position_natCast (by omega)
  have hend : position raw.length raw.length = raw.length := position_natCast (Nat.le_refl _)
  have h0 : position raw.length (0 : ℕ) = 0 := position_natCast (Nat.zero_le _)
  simp only [ivOf, encryptedOf, authTagOf, hcut]
  refine ⟨(subarray_append raw (by omega) (by omega)).symm, ?_, ?_, ?_⟩
  · rw [length_subarray, h12, h0]
  · apply List.length_pos_iff.mp
    rw [length_subarray, h12, h16]
    omega
  · rw [length_subarray, hend, h16]
    omega

/-- What the service cuts out of a text of the script. -/
lemma parts_encrypt {raw : List UInt8} (iv : Bytes 12) (encrypted : List UInt8) (tag : Bytes 16)
    (hraw : raw = iv ++ encrypted ++ tag) :
    ivOf raw = iv ∧ encryptedOf raw = encrypted ∧ authTagOf raw = tag := by
  have hlen : raw.length = 12 + encrypted.length + 16 := by
    rw [hraw, List.length_append, List.length_append, iv.2, tag.2]
  have hcut : (raw.length : ℤ) - 16 = (12 + encrypted.length : ℕ) := by omega
  simp only [ivOf, encryptedOf, authTagOf, hcut]
  exact subarray_of_append iv.1 encrypted tag.1 hraw iv.2.symm rfl

/-- A service that holds the key of the script reads what the script has written. -/
lemma decrypt_of_key (hgcm : gcm.Documented) (hjson : json.parse (json.stringify value) = .ok value)
    {key : Bytes 32} (hself : self.key = key) (iv : Bytes 12) :
    self.decrypt gcm json (encrypt gcm json key iv value) = .ok value := by
  have htag := hgcm.length_tag key iv (utf8 (json.stringify value))
  have hraw := fromBase64_encodePadded (iv.1 ++ (gcm.encrypt key iv (utf8 (json.stringify value))).1 ++
    (gcm.encrypt key iv (utf8 (json.stringify value))).2)
  obtain ⟨hiv, hencrypted, hauthTag⟩ := parts_encrypt iv _ ⟨_, htag⟩ hraw
  rw [decrypt_eq_ok, encrypt, hiv, hencrypted, hauthTag, hself]
  refine ⟨?_, key.2, setAuthTag_eq_ok.mpr (by simp [htag]), ?_⟩
  · apply List.ne_nil_of_length_pos
    rw [iv.2]
    omega
  · refine ⟨_, hgcm.decrypt_encrypt key iv _, ?_⟩
    rw [toUtf8String_utf8, hjson]

theorem decrypt_encrypt (hgcm : gcm.Documented) (hjson : json.parse (json.stringify value) = .ok value)
    (key : Bytes 32) (iv : Bytes 12) :
    (CryptoService.mk key).decrypt gcm json (encrypt gcm json key iv value) = .ok value :=
  decrypt_of_key hgcm hjson rfl iv

theorem decrypt_encrypt_sample :
    (CryptoService.mk Sample.encryptionKey).decrypt Sample.gcm Sample.config
      (encrypt Sample.gcm Sample.config Sample.encryptionKey Sample.randomIv Sample.erpConfig) =
        .ok Sample.erpConfig :=
  decrypt_encrypt Sample.gcm_documented Sample.parse_config Sample.encryptionKey Sample.randomIv

/-- IV, ciphertext and tag of a decrypted text, side by side and nothing else. -/
structure WellFramed (gcm : Aes256Gcm) (json : JsonCodec Value) (key raw : List UInt8) (value : Value) :
    Prop where
  length_raw : 29 ≤ raw.length
  raw_eq : raw = ivOf raw ++ encryptedOf raw ++ authTagOf raw
  length_iv : (ivOf raw).length = 12
  encrypted_ne : encryptedOf raw ≠ []
  length_tag : (authTagOf raw).length = 16
  verifies : ∃ text, gcm.decrypt key (ivOf raw) (encryptedOf raw) (authTagOf raw) = some text ∧
    json.parse (toUtf8String text) = .ok value

/-- The text of an empty ciphertext is empty, and that is no JSON. -/
lemma wellFramed_of_decrypt (hgcm : gcm.Documented) (hempty : ∃ message, json.parse "" = .error message)
    (h : self.decrypt gcm json ciphertext = .ok value) :
    WellFramed gcm json self.key (fromBase64 ciphertext) value := by
  obtain ⟨-, -, htag, text, hopen, hparse⟩ := decrypt_eq_ok.mp h
  have hencrypted : encryptedOf (fromBase64 ciphertext) ≠ [] := by
    intro hnil
    have hlen := hgcm.length_text _ _ _ _ _ hopen
    rw [hnil] at hlen
    obtain rfl := List.length_eq_zero_iff.mp hlen
    obtain ⟨message, herror⟩ := hempty
    exact absurd (hparse.symm.trans herror) (by simp)
  have hlength := parts_of_lengths htag hencrypted
  obtain ⟨hraw, hiv, -, htaglen⟩ := length_parts hlength
  exact ⟨hlength, hraw, hiv, hencrypted, htaglen, text, hopen, hparse⟩

theorem decrypt_wellFramed (hgcm : gcm.Documented) (hempty : ∃ message, json.parse "" = .error message)
    (self : CryptoService) (ciphertext : String) :
    (∀ value, self.decrypt gcm json ciphertext = .ok value →
      WellFramed gcm json self.key (fromBase64 ciphertext) value) ∧
    ((fromBase64 ciphertext).length < 29 → ∃ e, self.decrypt gcm json ciphertext = .error e) := by
  have hframed : ∀ value, self.decrypt gcm json ciphertext = .ok value →
      WellFramed gcm json self.key (fromBase64 ciphertext) value :=
    fun value h => wellFramed_of_decrypt hgcm hempty h
  refine ⟨hframed, fun hshort => ?_⟩
  cases h : self.decrypt gcm json ciphertext with
  | error e => exact ⟨e, rfl⟩
  | ok value => exact absurd (hframed value h).length_raw (by omega)

theorem decrypt_wellFramed_sample :
    WellFramed Sample.gcm Sample.config Sample.encryptionKey (fromBase64 Sample.encryptedConfig)
      Sample.erpConfig ∧
    ∃ e, (CryptoService.mk Sample.encryptionKey).decrypt Sample.gcm Sample.config "AAECAwQF" = .error e :=
  ⟨(decrypt_wellFramed Sample.gcm_documented ⟨_, Sample.parse_empty⟩ ⟨Sample.encryptionKey⟩ _).1 _
      (by decide +kernel),
    (decrypt_wellFramed Sample.gcm_documented ⟨_, Sample.parse_empty⟩ _ _).2 (by decide +kernel)⟩

/-! ### The length of the key -/

/-- The constructor takes the keys of 32 bytes and no others, and no call of a service that
it made fails over the length of its key. -/
structure KeyCheckHolds (gcm : Aes256Gcm) (json : JsonCodec Value) (key : String) : Prop where
  new_iff : (∃ self, new (some key) = .ok self) ↔ (utf8 key).length = 32
  never_fails : ∀ self, new (some key) = .ok self → ∀ ciphertext,
    self.decrypt gcm json ciphertext ≠ .error invalidKeyLength

lemma new_eq_ok {key : String} :
    new (some key) = .ok self ↔ (codeUnits key).length = 32 ∧ self = ⟨utf8 key⟩ := by
  unfold new
  by_cases hempty : key = ""
  · simp [hempty, codeUnits]
  · by_cases hlen : (codeUnits key).length = 32
    · simp [hempty, hlen, eq_comm]
    · simp [hempty, hlen]

lemma decrypt_ne_invalidKeyLength (hkey : self.key.length = 32) :
    self.decrypt gcm json ciphertext ≠ .error invalidKeyLength := by
  intro herror
  simp only [decrypt, bind_eq_error] at herror
  obtain hcreate | ⟨_, -, htag | ⟨_, -, hfinal | ⟨text, -, hparse⟩⟩⟩ := herror
  · unfold createDecipheriv at hcreate
    split_ifs at hcreate with hiv hlen
    · exact absurd hcreate (by simp [invalidKeyLength])
    · exact absurd hkey hlen
  · unfold setAuthTag at htag
    split_ifs at htag
    exact absurd htag (by simp [invalidKeyLength])
  · unfold Aes256Gcm.final at hfinal
    split at hfinal
    · exact absurd hfinal (by simp [invalidKeyLength])
    · exact absurd hfinal (by simp)
  · unfold JsonCodec.parseOrThrow at hparse
    cases h : json.parse (toUtf8String text) <;> simp [h, Except.mapError, invalidKeyLength] at hparse

/-- A service whose key is not 32 bytes long fails over it on every text that holds an IV. -/
lemma decrypt_of_length_ne (hkey : self.key.length ≠ 32) (hraw : fromBase64 ciphertext ≠ []) :
    self.decrypt gcm json ciphertext = .error invalidKeyLength := by
  have hiv : ivOf (fromBase64 ciphertext) ≠ [] := by
    apply List.ne_nil_of_length_pos
    have hpos := List.length_pos_iff.mpr hraw
    rw [ivOf, length_subarray, position_natCast (Nat.zero_le _), position, if_neg (by omega)]
    omega
  have hcreate : createDecipheriv self.key (ivOf (fromBase64 ciphertext)) = .error invalidKeyLength := by
    rw [createDecipheriv, if_neg hiv, if_pos hkey]
  exact bind_eq_error.mpr (.inl hcreate)

theorem keyCheckHolds_iff (gcm : Aes256Gcm) (json : JsonCodec Value) (key : String) :
    KeyCheckHolds gcm json key ↔
      ((codeUnits key).length = 32 ∨ (utf8 key).length = 32 → IsAscii key) := by
  rw [← length_utf8_eq_iff]
  constructor
  · intro h hlen
    have hiff : (codeUnits key).length = 32 ↔ (utf8 key).length = 32 := by
      rw [← h.new_iff]
      constructor
      · exact fun hunits => ⟨_, new_eq_ok.mpr ⟨hunits, rfl⟩⟩
      · rintro ⟨self, hself⟩
        exact (new_eq_ok.mp hself).1
    omega
  · intro h
    have hiff : (codeUnits key).length = 32 ↔ (utf8 key).length = 32 := by
      constructor
      · intro hunits
        rw [h (.inl hunits), hunits]
      · intro hbytes
        rw [← h (.inr hbytes), hbytes]
    constructor
    · rw [← hiff]
      constructor
      · rintro ⟨self, hself⟩
        exact (new_eq_ok.mp hself).1
      · exact fun hunits => ⟨_, new_eq_ok.mpr ⟨hunits, rfl⟩⟩
    · intro self hself ciphertext
      obtain ⟨hunits, rfl⟩ := new_eq_ok.mp hself
      exact decrypt_ne_invalidKeyLength (hiff.mp hunits)

/-- The script and the service agree on a key in ASCII: the service is made with it, and it reads
whatever the script has written with it. -/
theorem reads_script (hgcm : gcm.Documented) {text : String} {key : Bytes 32}
    (hkey : scriptKey text = some key) (hascii : IsAscii text) :
    ∃ self, new (some text) = .ok self ∧
      ∀ iv value, json.parse (json.stringify value) = .ok value →
        self.decrypt gcm json (encrypt gcm json key iv value) = .ok value := by
  unfold scriptKey at hkey
  split_ifs at hkey with hbytes
  obtain rfl := Option.some.inj hkey
  have hunits : (codeUnits text).length = 32 := by rw [← (length_utf8_eq_iff text).mpr hascii, hbytes]
  exact ⟨_, new_eq_ok.mpr ⟨hunits, rfl⟩, fun iv value hjson => decrypt_of_key hgcm hjson rfl iv⟩

/-- Thirty-two letters of two bytes each pass the check, and no text can be decrypted. -/
theorem keyCheck_accented :
    (∃ self, new (some (String.ofList (List.replicate 32 'é'))) = .ok self ∧
      self.decrypt Sample.gcm Sample.config Sample.encryptedConfig = .error invalidKeyLength) ∧
    ¬KeyCheckHolds Sample.gcm Sample.config (String.ofList (List.replicate 32 'é')) := by
  have hunits : (codeUnits (String.ofList (List.replicate 32 'é'))).length = 32 := by decide +kernel
  have hbytes : (utf8 (String.ofList (List.replicate 32 'é'))).length ≠ 32 := by decide +kernel
  have hnew := new_eq_ok.mpr ⟨hunits, rfl⟩
  constructor
  · exact ⟨_, hnew, decrypt_of_length_ne hbytes (by decide +kernel)⟩
  · exact fun h => hbytes (h.new_iff.mp ⟨_, hnew⟩)

end Results

end CryptoService

end NextLevelApi
