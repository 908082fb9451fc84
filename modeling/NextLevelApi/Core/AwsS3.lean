import NextLevelApi.Http
import NextLevelApi.Library.JsonText
import NextLevelApi.Library.Fallible

/-!
# Receipt images in S3

`AwsS3Service`: which files it takes and the keys it makes for them. A key tells whose
image it names, and the `crypto.randomUUID()` that it was made with.
-/

namespace NextLevelApi
open Fallible JsonText

structure File where
  originalname : String
  mimetype : String
  buffer : List UInt8
  size : ℕ

structure S3Object where
  body : List UInt8
  contentType : String
  deriving DecidableEq

abbrev Bucket := String → Option S3Object

/-- What `crypto.randomUUID()` returns: hexadecimal digits and hyphens. -/
@[ext]
structure Uuid where
  text : List Char
  wellFormed : ∀ c ∈ text, c ∈ "0123456789abcdef-".toList
  deriving DecidableEq

/-- `s.toLowerCase()`. Letters outside ASCII stay as they are; none of them has a lower case
that occurs in an allowed extension. -/
def toLowerCase (s : String) : List Char := s.toList.map Char.toLower

def utcDate (now : ℕ) : ℕ × ℕ × ℕ :=
  -- in days since 1 March of year 0, by eras of 400 years
  let days := now / 86400000 + 719468
  let dayOfEra := days % 146097
  let yearOfEra := (dayOfEra - dayOfEra / 1460 + dayOfEra / 36524 - dayOfEra / 146096) / 365
  let dayOfYear := dayOfEra - (365 * yearOfEra + yearOfEra / 4 - yearOfEra / 100)
  let month := (5 * dayOfYear + 2) / 153
  let day := dayOfYear - (153 * month + 2) / 5 + 1
  let year := yearOfEra + 400 * (days / 146097)
  if month < 10 then (year, month + 3, day) else (year + 1, month - 9, day)

def dateText : ℕ × ℕ × ℕ → List Char
  | (year, month, day) =>
    (if year ≤ 9999 then (number year).leftpad 4 '0' else '+' :: (number year).leftpad 6 '0') ++
      '-' :: (number month).leftpad 2 '0' ++ '-' :: (number day).leftpad 2 '0'

/-- `new Date().toISOString().slice(0, 10)` -/
def isoDate (now : ℕ) : List Char := (dateText (utcDate now)).take 10

structure S3Env where
  s3UploadUrlExpiresSeconds : Option ℕ
  getSignedUrl : (key contentType : String) → (expiresIn : ℕ) → Except Exception String

structure PresignedUpload where
  uploadUrl : String
  key : String

namespace AwsS3Service

def allowedMime : List String := ["image/jpeg", "image/png", "image/webp"]

def allowedExt : List String := ["jpg", "jpeg", "png", "webp"]

def validateImage (mimeType ext : String) : Except Exception Unit :=
  if mimeType ∉ allowedMime then .error (BadRequestException "Unsupported mimeType")
  else if String.ofList (toLowerCase ext) ∉ allowedExt then
    .error (BadRequestException "Unsupported file extension")
  else .ok ()

def makeKey (now : ℕ) (id : Uuid) (userId : ℕ) (ext : String) : String :=
  String.ofList ("uploads/user-".toList ++
    (number userId ++ '/' :: (isoDate now ++ '/' :: (id.text ++ '.' :: toLowerCase ext))))

/-- `file.originalname.split('.').pop() || 'jpg'` -/
def extension (originalname : String) : String :=
  match (originalname.toList.splitOn '.').getLastD [] with
  | [] => "jpg"
  | last => String.ofList last

/-- `upload` up to its put: the key, and the object to put there. -/
def upload.command (now : ℕ) (id : Uuid) (userId : ℕ) : Option File → Except Exception (String × S3Object)
  | none => .error (.error "TypeError" "Cannot read properties of undefined (reading 'originalname')")
  | some file => do
    let ext := extension file.originalname
    validateImage file.mimetype ext
    return (makeKey now id userId ext, ⟨file.buffer, file.mimetype⟩)

def presignUpload.key (now : ℕ) (id : Uuid) (userId : ℕ) (mimeType ext : String) :
    Except Exception String := do
  validateImage mimeType ext
  return makeKey now id userId ext

def presignUpload.sign (env : S3Env) (mimeType key : String) : Except Exception PresignedUpload := do
  let expiresIn := env.s3UploadUrlExpiresSeconds.getD 300
  let uploadUrl ← env.getSignedUrl key mimeType expiresIn
  return ⟨uploadUrl, key⟩

def presignUpload (env : S3Env) (now : ℕ) (id : Uuid) (userId : ℕ) (mimeType ext : String) :
    Except Exception PresignedUpload := do
  let key ← presignUpload.key now id userId mimeType ext
  presignUpload.sign env mimeType key

/-! ### What a key tells -/

section

variable {c : Char}

lemma notMem_number (hc : c.isDigit = false) (n : ℕ) : c ∉ number n := by
  intro h
  rw [isDigit_of_mem_number h] at hc
  exact absurd hc (by simp)

lemma notMem_leftpad (hc : c.isDigit = false) (n width : ℕ) : c ∉ (number n).leftpad width '0' := by
  intro h
  rcases List.mem_append.mp h with h | h
  · rw [List.eq_of_mem_replicate h] at hc
    exact absurd hc (by decide)
  · exact notMem_number hc n h

lemma notMem_dateText (hc : c.isDigit = false) (hplus : c ≠ '+') (hminus : c ≠ '-') (date : ℕ × ℕ × ℕ) :
    c ∉ dateText date := by
  obtain ⟨year, month, day⟩ := date
  have hyear : c ∉
      if year ≤ 9999 then (number year).leftpad 4 '0' else '+' :: (number year).leftpad 6 '0' := by
    split
    · exact notMem_leftpad hc _ _
    · exact List.not_mem_cons_of_ne_of_not_mem hplus (notMem_leftpad hc _ _)
  intro h
  simp only [dateText, List.mem_append, List.mem_cons] at h
  rcases h with (h | h | h) | h | h
  · exact hyear h
  · exact hminus h
  · exact notMem_leftpad hc _ _ h
  · exact hminus h
  · exact notMem_leftpad hc _ _ h

lemma notMem_isoDate (hc : c.isDigit = false) (hplus : c ≠ '+') (hminus : c ≠ '-') (now : ℕ) :
    c ∉ isoDate now :=
  fun h => notMem_dateText hc hplus hminus _ (List.mem_of_mem_take h)

lemma notMem_uuid (hc : c ∉ "0123456789abcdef-".toList) (id : Uuid) : ∀ x ∈ id.text, x ≠ c :=
  fun _ hx h => hc (h ▸ id.wellFormed _ hx)

end

lemma slash_notMem_isoDate (now : ℕ) : '/' ∉ isoDate now :=
  notMem_isoDate (by decide) (by decide) (by decide) now

lemma mem_allowedExt {mimeType ext : String} (h : validateImage mimeType ext = .ok ()) :
    String.ofList (toLowerCase ext) ∈ allowedExt := by
  unfold validateImage at h
  split_ifs at h with hmime hext
  exact hext

/-- A key that is made for an image has no U+0000 in it. -/
lemma nul_notMem_makeKey {now userId : ℕ} {id : Uuid} {mimeType ext : String}
    (h : validateImage mimeType ext = .ok ()) : '\x00' ∉ (makeKey now id userId ext).toList := by
  have hext : '\x00' ∉ toLowerCase ext := by
    have hall : ∀ allowed ∈ allowedExt, '\x00' ∉ allowed.toList := by simp [allowedExt]
    simpa only [String.toList_ofList] using hall _ (mem_allowedExt h)
  have huuid : '\x00' ∉ id.text := fun hid => notMem_uuid (by decide) id _ hid rfl
  have hdate : '\x00' ∉ isoDate now := notMem_isoDate (by decide) (by decide) (by decide) now
  have hnumber : '\x00' ∉ number userId := notMem_number (by decide) userId
  have hprefix : '\x00' ∉ "uploads/user-".toList := by decide +kernel
  have hkey : (makeKey now id userId ext).toList = "uploads/user-".toList ++
      (number userId ++ '/' :: (isoDate now ++ '/' :: (id.text ++ '.' :: toLowerCase ext))) :=
    String.toList_ofList
  generalize "uploads/user-".toList = start at hkey hprefix
  simp [hkey, hprefix, hnumber, hdate, huuid, hext]

/-- A key determines the user and the UUID that it was made for. -/
theorem makeKey_inj {now now' : ℕ} {id id' : Uuid} {userId userId' : ℕ} {ext ext' : String}
    (h : makeKey now id userId ext = makeKey now' id' userId' ext') : userId = userId' ∧ id = id' := by
  have hchars := List.append_cancel_left (String.ofList_injective h)
  obtain ⟨huser, hrest⟩ := number_append_inj (by decide) hchars
  have hslash : ∀ now, ∀ x ∈ isoDate now, x ≠ '/' := fun now x hx h => slash_notMem_isoDate now (h ▸ hx)
  obtain ⟨-, hid⟩ := append_cons_inj (· ≠ '/') (by simp) (hslash now) (hslash now') hrest
  obtain ⟨htext, -⟩ := append_cons_inj (· ≠ '.') (by simp) (notMem_uuid (by decide) id)
    (notMem_uuid (by decide) id') hid
  exact ⟨huser, Uuid.ext htext⟩

lemma upload.command_ok {now userId : ℕ} {id : Uuid} {file : Option File} {key : String}
    {object : S3Object} :
    upload.command now id userId file = .ok (key, object) ↔ ∃ f, file = some f ∧
      validateImage f.mimetype (extension f.originalname) = .ok () ∧
      key = makeKey now id userId (extension f.originalname) ∧ object = ⟨f.buffer, f.mimetype⟩ := by
  cases file with
  | none => simp [upload.command]
  | some f =>
    constructor
    · intro h
      obtain ⟨_, hvalid, h⟩ := bind_eq_ok.mp h
      obtain ⟨rfl, rfl⟩ := Prod.mk.inj (Except.ok.inj h)
      exact ⟨f, rfl, hvalid, rfl, rfl⟩
    · rintro ⟨_, hf, hvalid, rfl, rfl⟩
      obtain rfl := Option.some.inj hf
      exact bind_eq_ok.mpr ⟨(), hvalid, rfl⟩

end AwsS3Service

example : String.ofList (isoDate 1765238400000) = "2025-12-09" := by decide

end NextLevelApi
