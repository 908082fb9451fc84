import NextLevelApi.Library.LastPart
import NextLevelApi.Receipt.FailedScan

/-!
# Which files are taken

`AwsS3Service.upload` and `presignUpload` take a file by its mimetype and its extension. The
extension of an uploaded file is read off its name, as the last part between points, and the
name of a file without any point is such a part: `uploadsByExtension_iff` says for which names
that makes no difference.
-/

namespace NextLevelApi
open Async Fallible JsonText LastPart AwsS3Service ReceiptService

/-- The extension of a name: what stands after its last point, and `jpg` where nothing does. -/
inductive HasExtension (originalname : String) : String → Prop
  | written {ext : String} (h : AfterLast '.' originalname.toList ext.toList) (hne : ext ≠ "") :
    HasExtension originalname ext
  | trailing (h : AfterLast '.' originalname.toList []) : HasExtension originalname "jpg"
  | missing (h : '.' ∉ originalname.toList) : HasExtension originalname "jpg"

structure Allowed (mimeType ext : String) : Prop where
  mime : mimeType ∈ allowedMime
  ext : String.ofList (toLowerCase ext) ∈ allowedExt

/-- A key in the user's folder, three slashes deep, that ends in the extension. -/
structure IsKeyOf (userId : ℕ) (ext key : String) : Prop where
  folder : "uploads/user-".toList ++ (number userId ++ ['/']) <+: key.toList
  slashes : ∃ path, key.toList = "uploads".toList ++ path ∧ path.count '/' = 3
  ending : '.' :: toLowerCase ext <:+ key.toList

/-- The configured lifetime is one that URLs can be signed for. -/
def S3Env.Signs (env : S3Env) : Prop :=
  ∀ key contentType, ∃ url,
    env.getSignedUrl key contentType (env.s3UploadUrlExpiresSeconds.getD 300) = .ok url

/-- The upload goes by the mimetype and the extension of the file, as `presignUpload` does. -/
structure UploadsByExtension (c : Circumstances) (frame : Frame) (userId : ℕ) (file : File) : Prop where
  accepted : ∀ ext, HasExtension file.originalname ext →
    ((∃ key frame', (upload c userId (some file)).run frame = .ok key frame') ↔ Allowed file.mimetype ext)
  presigned : ∀ ext, HasExtension file.originalname ext → ∀ env now id, S3Env.Signs env →
    ((∃ key frame', (upload c userId (some file)).run frame = .ok key frame') ↔
      ∃ answer, presignUpload env now id userId file.mimetype ext = .ok answer)
  key : ∀ ext, HasExtension file.originalname ext → ∀ key frame',
    (upload c userId (some file)).run frame = .ok key frame' → IsKeyOf userId ext key
  rejected : ∀ e frame', (upload c userId (some file)).run frame = .error e frame' →
    frame'.stores = frame.stores

/-! ### The extension of a name -/

section

variable {originalname ext ext' : String}

theorem exists_hasExtension (originalname : String) : ∃ ext, HasExtension originalname ext := by
  by_cases hpoint : '.' ∈ originalname.toList
  · obtain ⟨part, hpart⟩ := exists_afterLast_iff.mpr hpoint
    by_cases hne : part = []
    · subst hne
      exact ⟨"jpg", .trailing hpart⟩
    · refine ⟨String.ofList part, .written (by simpa using hpart) ?_⟩
      intro h
      exact hne (by simpa using congrArg String.toList h)
  · exact ⟨"jpg", .missing hpoint⟩

lemma extension_of_part {part : List Char} (h : (originalname.toList.splitOn '.').getLastD [] = part) :
    extension originalname = if part = [] then "jpg" else String.ofList part := by
  unfold extension
  rw [h]
  cases part <;> rfl

/-- Where the name has a point, its extension is read off. -/
theorem HasExtension.eq_extension (h : HasExtension originalname ext) (hpoint : '.' ∈ originalname.toList) :
    ext = extension originalname := by
  cases h with
  | written h hne =>
    rw [extension_of_part (getLastD_splitOn h []), if_neg (by simpa using hne)]
    simp
  | trailing h => rw [extension_of_part (getLastD_splitOn h []), if_pos rfl]
  | missing h => exact absurd hpoint h

lemma HasExtension.eq_jpg (h : HasExtension originalname ext) (hpoint : '.' ∉ originalname.toList) :
    ext = "jpg" := by
  cases h with
  | written h => exact absurd (exists_afterLast_iff.mp ⟨_, h⟩) hpoint
  | trailing => rfl
  | missing => rfl

theorem HasExtension.unique (h : HasExtension originalname ext) (h' : HasExtension originalname ext') :
    ext = ext' := by
  by_cases hpoint : '.' ∈ originalname.toList
  · exact (h.eq_extension hpoint).trans (h'.eq_extension hpoint).symm
  · exact (h.eq_jpg hpoint).trans (h'.eq_jpg hpoint).symm

/-- Without a point the whole name is the last part, and the fallback is for the empty name. -/
lemma extension_of_noPoint (hpoint : '.' ∉ originalname.toList) :
    extension originalname = if originalname = "" then "jpg" else originalname := by
  rw [extension_of_part (getLastD_splitOn_of_notMem hpoint [])]
  by_cases hname : originalname = ""
  · rw [if_pos (by simpa using hname), if_pos hname]
  · rw [if_neg (by simpa using hname), if_neg hname]
    simp

/-- When the extension that is read off is the right one, ignoring case. -/
theorem HasExtension.lower_eq_iff (h : HasExtension originalname ext) :
    toLowerCase ext = toLowerCase (extension originalname) ↔
      '.' ∈ originalname.toList ∨ originalname = "" ∨ toLowerCase originalname = "jpg".toList := by
  by_cases hpoint : '.' ∈ originalname.toList
  · exact iff_of_true (congrArg toLowerCase (h.eq_extension hpoint)) (.inl hpoint)
  · obtain rfl := h.eq_jpg hpoint
    rw [extension_of_noPoint hpoint]
    have hjpg : toLowerCase "jpg" = "jpg".toList := by decide
    by_cases hname : originalname = ""
    · exact iff_of_true (by rw [if_pos hname]) (.inr (.inl hname))
    · rw [if_neg hname, hjpg]
      simp only [hpoint, hname, false_or]
      exact eq_comm

end

/-! ### Keys -/

section

variable {userId : ℕ} {mimeType ext ext' : String}

lemma Allowed.congr (hlower : toLowerCase ext = toLowerCase ext') (h : Allowed mimeType ext) :
    Allowed mimeType ext' := ⟨h.mime, hlower ▸ h.ext⟩

lemma notMem_lower {x : Char} (hx : ∀ e ∈ allowedExt, x ∉ e.toList) (h : Allowed mimeType ext) :
    x ∉ toLowerCase ext := by
  have hlower := hx _ h.ext
  simpa using hlower

lemma toList_makeKey (now : ℕ) (id : Uuid) (userId : ℕ) (ext : String) :
    (makeKey now id userId ext).toList = "uploads/user-".toList ++
      (number userId ++ '/' :: (isoDate now ++ '/' :: (id.text ++ '.' :: toLowerCase ext))) := by
  unfold makeKey
  rw [String.toList_ofList]

theorem makeKey_isKeyOf (now : ℕ) (id : Uuid) (userId : ℕ) (h : Allowed mimeType ext) :
    IsKeyOf userId ext (makeKey now id userId ext) := by
  have hkey := toList_makeKey now id userId ext
  constructor
  case folder =>
    refine ⟨isoDate now ++ '/' :: (id.text ++ '.' :: toLowerCase ext), ?_⟩
    rw [hkey]
    simp
  case slashes =>
    have hnumber : (number userId).count '/' = 0 :=
      List.count_eq_zero.mpr fun h => absurd (isDigit_of_mem_number h) (by decide)
    have hdate : (isoDate now).count '/' = 0 := List.count_eq_zero.mpr (slash_notMem_isoDate now)
    have hid : id.text.count '/' = 0 :=
      List.count_eq_zero.mpr fun h => notMem_uuid (by decide) id _ h rfl
    have hext : (toLowerCase ext).count '/' = 0 := List.count_eq_zero.mpr (notMem_lower (by decide) h)
    have huploads : "uploads/user-".toList = "uploads".toList ++ "/user-".toList := by decide
    rw [huploads, List.append_assoc] at hkey
    refine ⟨_, hkey, ?_⟩
    have huser : "/user-".toList.count '/' = 1 := by decide
    rw [List.count_append, huser]
    simp [hnumber, hdate, hid, hext]
  case ending =>
    have hid := List.suffix_append id.text ('.' :: toLowerCase ext)
    have hdate := (hid.trans (List.suffix_cons '/' _)).trans (List.suffix_append (isoDate now) _)
    have hnumber := (hdate.trans (List.suffix_cons '/' _)).trans (List.suffix_append (number userId) _)
    rw [hkey]
    exact hnumber.trans (List.suffix_append _ _)

/-- The key of a file tells its extension. -/
theorem IsKeyOf.lower_eq {key : String} (h : IsKeyOf userId ext key) (h' : IsKeyOf userId ext' key)
    (hext : Allowed mimeType ext) (hext' : Allowed mimeType ext') : toLowerCase ext = toLowerCase ext' :=
  (afterLast_of_suffix h.ending (notMem_lower (by decide) hext)).unique
    (afterLast_of_suffix h'.ending (notMem_lower (by decide) hext'))

lemma IsKeyOf.congr {key : String} (hlower : toLowerCase ext = toLowerCase ext')
    (h : IsKeyOf userId ext key) : IsKeyOf userId ext' key := ⟨h.folder, h.slashes, hlower ▸ h.ending⟩

end

/-! ### Both ways to upload -/

section

variable {c : Circumstances} {frame : Frame} {userId : ℕ} {file : File} {mimeType ext : String}

theorem validateImage_eq_ok : validateImage mimeType ext = .ok () ↔ Allowed mimeType ext := by
  unfold validateImage
  by_cases hmime : mimeType ∈ allowedMime
  · by_cases hext : String.ofList (toLowerCase ext) ∈ allowedExt
    · rw [if_neg (not_not.mpr hmime), if_neg (not_not.mpr hext)]
      exact iff_of_true rfl ⟨hmime, hext⟩
    · rw [if_neg (not_not.mpr hmime), if_pos hext]
      exact iff_of_false nofun fun h => hext h.ext
  · rw [if_pos hmime]
    exact iff_of_false nofun fun h => hmime h.mime

lemma upload_ok {key : String} {frame' : Frame}
    (hrun : (upload c userId (some file)).run frame = .ok key frame') :
    Allowed file.mimetype (extension file.originalname) ∧
      key = makeKey c.now c.uuid userId (extension file.originalname) := by
  obtain ⟨_, hfile, -, hvalid, hkey, -⟩ := (upload_spec c userId (some file) frame).ok hrun
  obtain rfl := Option.some.inj hfile
  exact ⟨validateImage_eq_ok.mp hvalid, hkey⟩

lemma upload_isOk (hput : c.put = .ok ()) :
    (∃ key frame', (upload c userId (some file)).run frame = .ok key frame') ↔
      Allowed file.mimetype (extension file.originalname) := by
  constructor
  · rintro ⟨key, frame', hrun⟩
    exact (upload_ok hrun).1
  · intro h
    cases hrun : (upload c userId (some file)).run frame with
    | ok key frame' => exact ⟨key, frame', rfl⟩
    | error e frame' =>
      have hrefused := ((upload_spec c userId (some file) frame).error hrun).2 file rfl hput
      exact absurd (validateImage_eq_ok.mpr h) hrefused

theorem presignUpload_eq_ok {env : S3Env} {now : ℕ} {id : Uuid} {answer : PresignedUpload} :
    presignUpload env now id userId mimeType ext = .ok answer ↔ Allowed mimeType ext ∧
      presignUpload.sign env mimeType (makeKey now id userId ext) = .ok answer := by
  unfold presignUpload presignUpload.key
  constructor
  · intro h
    obtain ⟨key, hkey, hsign⟩ := bind_eq_ok.mp h
    obtain ⟨_, hvalid, hkey⟩ := bind_eq_ok.mp hkey
    obtain rfl := Except.ok.inj hkey
    exact ⟨validateImage_eq_ok.mp hvalid, hsign⟩
  · rintro ⟨hallowed, hsign⟩
    exact bind_eq_ok.mpr ⟨_, bind_eq_ok.mpr ⟨(), validateImage_eq_ok.mpr hallowed, rfl⟩, hsign⟩

lemma presignUpload_isOk {env : S3Env} (henv : env.Signs) (now : ℕ) (id : Uuid) :
    (∃ answer, presignUpload env now id userId mimeType ext = .ok answer) ↔ Allowed mimeType ext := by
  simp only [presignUpload_eq_ok]
  refine ⟨fun h => h.choose_spec.1, fun h => ?_⟩
  obtain ⟨url, hurl⟩ := henv (makeKey now id userId ext) mimeType
  exact ⟨_, h, bind_eq_ok.mpr ⟨url, hurl, rfl⟩⟩

/-- The law holds as far as the extension that is read off is the right one, ignoring case. -/
lemma uploadsByExtension_iff_lower_eq (hput : c.put = .ok ()) (hext : HasExtension file.originalname ext) :
    UploadsByExtension c frame userId file ↔
      (file.mimetype ∈ allowedMime → toLowerCase ext = toLowerCase (extension file.originalname)) := by
  have hjpg : Allowed file.mimetype "jpg" ↔ file.mimetype ∈ allowedMime :=
    ⟨fun h => h.mime, fun h => ⟨h, by decide⟩⟩
  constructor
  · intro h hmime
    by_cases hpoint : '.' ∈ file.originalname.toList
    · rw [hext.eq_extension hpoint]
    · obtain rfl := hext.eq_jpg hpoint
      obtain ⟨key, frame', hrun⟩ := (h.accepted _ hext).mpr (hjpg.mpr hmime)
      obtain ⟨hallowed, hkey⟩ := upload_ok hrun
      have hmade := makeKey_isKeyOf c.now c.uuid userId hallowed
      exact (h.key _ hext key frame' hrun).lower_eq (hkey ▸ hmade) (hjpg.mpr hmime) hallowed
  · intro hlower
    have hallowed : Allowed file.mimetype ext ↔ Allowed file.mimetype (extension file.originalname) :=
      ⟨fun h => h.congr (hlower h.mime), fun h => h.congr (hlower h.mime).symm⟩
    constructor
    case accepted =>
      intro ext' hext'
      rw [hext'.unique hext, hallowed]
      exact upload_isOk hput
    case presigned =>
      intro ext' hext' env now id henv
      rw [hext'.unique hext, presignUpload_isOk henv, hallowed]
      exact upload_isOk hput
    case key =>
      intro ext' hext' key frame' hrun
      obtain ⟨hread, rfl⟩ := upload_ok hrun
      rw [hext'.unique hext]
      exact (makeKey_isKeyOf c.now c.uuid userId hread).congr (hlower hread.mime).symm
    case rejected =>
      intro e frame' hrun
      rw [((upload_spec c userId (some file) frame).error hrun).1]

/-- A file that is not taken fails the scan with the error of its check, before anything is done. -/
theorem scanAndSave_refused (env : ReceiptEnv) (stores : Stores) {e : Exception}
    (h : validateImage file.mimetype (extension file.originalname) = .error e) :
    (scanAndSave env c (some file) userId).run ⟨stores, none⟩ = .error e ⟨stores, none⟩ := by
  have hcommand : upload.command c.now c.uuid userId (some file) = .error e := bind_eq_error.mpr (.inl h)
  have hrethrown : scanAndSave.rethrown e = e := by
    unfold validateImage at h
    split_ifs at h <;> obtain rfl := Except.error.inj h <;> rfl
  have hspec : Settles (scanAndSave env c (some file) userId) ⟨stores, none⟩
      (fun _ _ => False) (fun e' frame => e' = e ∧ frame = ⟨stores, none⟩) := by
    unfold scanAndSave scanAndSave.tryBlock upload
    rw [hcommand]
    exact ⟨hrethrown, rfl⟩
  cases hrun : (scanAndSave env c (some file) userId).run ⟨stores, none⟩ with
  | ok saved frame => exact (hspec.ok hrun).elim
  | error e' frame =>
    obtain ⟨rfl, rfl⟩ := hspec.error hrun
    rfl

/-- Where the name has no point, it is the name itself that has to be an extension. -/
theorem scanAndSave_noPoint (env : ReceiptEnv) (stores : Stores) (hmime : file.mimetype ∈ allowedMime)
    (hpoint : '.' ∉ file.originalname.toList) (hname : file.originalname ≠ "")
    (hext : String.ofList (toLowerCase file.originalname) ∉ allowedExt) :
    (scanAndSave env c (some file) userId).run ⟨stores, none⟩ =
      .error (BadRequestException "Unsupported file extension") ⟨stores, none⟩ := by
  apply scanAndSave_refused
  rw [extension_of_noPoint hpoint, if_neg hname]
  unfold validateImage
  rw [if_neg (not_not.mpr hmime), if_pos hext]

end

/-- Uploads go by the extension of the file if and only if its mimetype is not allowed anyway, or
its name has a point, is empty, or is `jpg` itself. -/
theorem uploadsByExtension_iff {c : Circumstances} (frame : Frame) (userId : ℕ) (file : File)
    (hput : c.put = .ok ()) : UploadsByExtension c frame userId file ↔ file.mimetype ∉ allowedMime ∨
      '.' ∈ file.originalname.toList ∨ file.originalname = "" ∨
      toLowerCase file.originalname = "jpg".toList := by
  obtain ⟨ext, hext⟩ := exists_hasExtension file.originalname
  rw [uploadsByExtension_iff_lower_eq hput hext, hext.lower_eq_iff, imp_iff_not_or]

namespace Sample

/-- A photo as some devices name it. -/
def unnamedPhoto : File := ⟨"photo", "image/jpeg", [255, 216], 2⟩

end Sample

open Sample

theorem uploadsByExtension_iff_photo : UploadsByExtension undisturbed ⟨noStores, none⟩ 1 photo :=
  (uploadsByExtension_iff ⟨noStores, none⟩ 1 photo rfl).mpr (.inr (.inl (by decide)))

theorem noPoint_not_uploadsByExtension :
    (upload undisturbed 1 (some unnamedPhoto)).run ⟨noStores, none⟩ =
        .error (BadRequestException "Unsupported file extension") ⟨noStores, none⟩ ∧
      ¬UploadsByExtension undisturbed ⟨noStores, none⟩ 1 unnamedPhoto := by
  refine ⟨rfl, fun h => ?_⟩
  have hext : HasExtension unnamedPhoto.originalname "jpg" := .missing (by decide)
  have hlower := (uploadsByExtension_iff_lower_eq rfl hext).mp h (by decide)
  exact absurd hlower (by decide)

end NextLevelApi
