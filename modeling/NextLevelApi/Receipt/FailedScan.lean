import NextLevelApi.Receipt.Service

/-!
# Failed scans

A scan that fails in its try block is undone by its catch block. The transaction settles
outside of the two: when it is rejected the image stays in the bucket, and the caller sees
the error of the database.
-/

namespace NextLevelApi
open Async Fallible ReceiptService

/-- The image is taken and put, and the OCR service reads `scanData` off it. -/
structure Circumstances.Scans (env : ReceiptEnv) (c : Circumstances) (file : File)
    (scanData : N8nScanReceiptDto) : Prop where
  image : AwsS3Service.validateImage file.mimetype (AwsS3Service.extension file.originalname) = .ok ()
  put : c.put = .ok ()
  ocr : ∃ rawResponse, c.post file.form = .ok rawResponse ∧ scanned env rawResponse = .ok scanData

/-- No statement of the transaction fails on the side of the database. -/
structure Circumstances.Commits (c : Circumstances) (scanData : N8nScanReceiptDto) : Prop where
  startTransaction : c.startTransaction = .ok ()
  insertReceipt : ∃ generated, c.insertReceipt = .ok generated
  insertItems : scanData.items ≠ [] → ∃ generated, c.insertItems = .ok generated
  commit : c.commit = .ok ()

/-- If `scanAndSave` rejects, the stores are what they were, and the rejection is one of two
exceptions. -/
def LeavesNothingBehind (env : ReceiptEnv) (c : Circumstances) (stores : Stores) (file : Option File)
    (userId : ℕ) : Prop :=
  ∀ e frame, (scanAndSave env c file userId).run ⟨stores, none⟩ = .error e frame → frame.stores = stores ∧
    ∃ message, e = BadRequestException message ∨ e = InternalServerErrorException message

section

variable {env : ReceiptEnv} {c : Circumstances} {stores : Stores} {userId : ℕ}
  {scanData : N8nScanReceiptDto}

lemma Circumstances.Scans.unique {file : File} {scanData' : N8nScanReceiptDto}
    (h : c.Scans env file scanData) (h' : c.Scans env file scanData') : scanData = scanData' := by
  obtain ⟨raw, hraw, hscan⟩ := h.ocr
  obtain ⟨raw', hraw', hscan'⟩ := h'.ocr
  obtain rfl := Except.ok.inj (hraw.symm.trans hraw')
  exact Except.ok.inj (hscan.symm.trans hscan')

lemma saveLines_isOk {items : List ScanItem} (receiptId : Int4) :
    (∃ lines, items.mapM (NewReceiptItem.create receiptId) = .ok lines ∧
        ∃ rows, saveLines c lines = .ok rows) ↔
      (∀ item ∈ items, ∃ i, item = .item i ∧ i.Storable) ∧
        (items ≠ [] → ∃ generated, c.insertItems = .ok generated) := by
  cases items with
  | nil => exact ⟨fun _ => by simp, fun _ => ⟨[], rfl, [], rfl⟩⟩
  | cons item items =>
    have hsave : ∀ {lines}, (item :: items).mapM (NewReceiptItem.create receiptId) = .ok lines →
        saveLines c lines = c.insertItems >>= fun generated => insertItems lines generated := by
      intro lines hlines
      cases mapM_eq_ok hlines
      rfl
    constructor
    · rintro ⟨lines, hlines, rows, hrows⟩
      rw [hsave hlines] at hrows
      obtain ⟨generated, hgenerated, hrows⟩ := bind_eq_ok.mp hrows
      refine ⟨?_, fun _ => ⟨generated, hgenerated⟩⟩
      exact (insertItems_isOk receiptId generated).mp ⟨lines, hlines, rows, hrows⟩
    · rintro ⟨hitems, hinsert⟩
      obtain ⟨generated, hgenerated⟩ := hinsert (by simp)
      obtain ⟨lines, hlines, rows, hrows⟩ := (insertItems_isOk receiptId generated).mpr hitems
      exact ⟨lines, hlines, rows, (hsave hlines).trans (bind_eq_ok.mpr ⟨generated, hgenerated, hrows⟩)⟩

/-- The transaction commits if every value fits and no statement fails, and else writes nothing. -/
theorem transaction_spec {s3Key : String} (hkey : HasNoNul s3Key) (frame : Frame) :
    Settles (transaction env c scanData userId s3Key) frame
      (fun _ _ => scanData.Storable env userId ∧ c.Commits scanData)
      (fun _ frame' => frame' = frame ∧ ¬(scanData.Storable env userId ∧ c.Commits scanData)) := by
  unfold transaction
  simp only [settles_bind, settles_settle, settles_modify, settles_pure]
  refine ⟨fun _ hstart => ⟨fun generated hgenerated => ⟨fun saved hsaved => ⟨fun lines hlines =>
    ⟨fun rows hrows => ⟨fun _ hcommit => ?_, fun e he => ?_⟩, fun e he => ?_⟩, fun e he => ?_⟩,
    fun e he => ?_⟩, fun e he => ?_⟩, fun e he => ?_⟩
  · obtain ⟨hnumber, hdate, hname, htax, hamount, huser⟩ := (NewReceipt.insert_isOk hkey).mp ⟨saved, hsaved⟩
    obtain ⟨hitems, hinsert⟩ := (saveLines_isOk saved.id).mp ⟨lines, hlines, rows, hrows⟩
    exact ⟨⟨⟨hnumber, hname, htax, hamount, hitems⟩, hdate, huser⟩,
      ⟨hstart, ⟨generated, hgenerated⟩, hinsert, hcommit⟩⟩
  · exact ⟨trivial, fun h => absurd (h.2.commit.symm.trans he) (by simp)⟩
  · refine ⟨trivial, fun h => ?_⟩
    obtain ⟨lines', hlines', rows, hrows⟩ := (saveLines_isOk saved.id).mpr ⟨h.1.items, h.2.insertItems⟩
    obtain rfl := Except.ok.inj (hlines'.symm.trans hlines)
    exact absurd (hrows.symm.trans he) (by simp)
  · refine ⟨trivial, fun h => ?_⟩
    obtain ⟨lines, hlines, -⟩ := (saveLines_isOk saved.id).mpr ⟨h.1.items, h.2.insertItems⟩
    exact absurd (hlines.symm.trans he) (by simp)
  · refine ⟨trivial, fun h => ?_⟩
    obtain ⟨saved, hsaved⟩ := (NewReceipt.insert_isOk hkey).mpr ⟨h.1.receiptNumber, h.1.receiptDate,
      h.1.supplierName, h.1.supplierTaxId, h.1.totalAmount, h.1.userId⟩
    exact absurd (hsaved.symm.trans he) (by simp)
  · refine ⟨trivial, fun h => ?_⟩
    obtain ⟨generated, hgenerated⟩ := h.2.insertReceipt
    exact absurd (hgenerated.symm.trans he) (by simp)
  · exact ⟨trivial, fun h => absurd (h.2.startTransaction.symm.trans he) (by simp)⟩

/-- An upload puts the file that it takes under the key that it makes, and else nothing. -/
theorem upload_spec (c : Circumstances) (userId : ℕ) (file : Option File) (frame : Frame) :
    Settles (AwsS3Service.upload c userId file) frame
      (fun key frame' => ∃ f, file = some f ∧ c.put = .ok () ∧
        AwsS3Service.validateImage f.mimetype (AwsS3Service.extension f.originalname) = .ok () ∧
        key = AwsS3Service.makeKey c.now c.uuid userId (AwsS3Service.extension f.originalname) ∧
        frame' = { frame with stores := frame.stores.put key ⟨f.buffer, f.mimetype⟩ })
      (fun _ frame' => frame' = frame ∧ ∀ f, file = some f → c.put = .ok () →
        AwsS3Service.validateImage f.mimetype (AwsS3Service.extension f.originalname) ≠ .ok ()) := by
  unfold AwsS3Service.upload
  simp only [settles_bind, settles_settle, settles_modify, settles_pure]
  refine ⟨?_, fun e he => ⟨trivial, ?_⟩⟩
  · rintro ⟨key, object⟩ hcommand
    obtain ⟨f, hf, hvalid, hkey, rfl⟩ := AwsS3Service.upload.command_ok.mp hcommand
    exact ⟨fun _ hput => ⟨f, hf, hput, hvalid, hkey, rfl⟩,
      fun e he => ⟨trivial, fun _ _ hput => absurd (hput.symm.trans he) (by simp)⟩⟩
  · rintro f rfl - hvalid
    have hok : ∃ command, AwsS3Service.upload.command c.now c.uuid userId (some f) = .ok command :=
      ⟨_, AwsS3Service.upload.command_ok.mpr ⟨f, rfl, hvalid, rfl, rfl⟩⟩
    exact absurd (hok.choose_spec.symm.trans he) (by simp)

lemma scan_spec {file : File} (frame : Frame) :
    Settles (scan c (some file)) frame (fun raw frame' => c.post file.form = .ok raw ∧ frame' = frame)
      (fun _ frame' => frame' = frame ∧ ∀ raw, c.post file.form ≠ .ok raw) := by
  unfold scan
  simp only [settles_tryCatch, settles_settle, settles_throw]
  refine ⟨fun raw hraw => ⟨hraw, trivial⟩, fun e he => ⟨trivial, fun raw hraw => ?_⟩⟩
  exact absurd (hraw.symm.trans he) (by simp)

/-- The try block ends with the promise of a transaction if the scan goes through. Else it leaves
nothing behind, or the image, which `s3Key` names then. -/
theorem tryBlock_spec (file : Option File) :
    Settles (scanAndSave.tryBlock env c file userId) ⟨stores, none⟩
      (fun promise frame => ∃ f scanData key object ext, file = some f ∧ c.Scans env f scanData ∧
        promise = transaction env c scanData userId key ∧ HasNoNul key ∧
        key = AwsS3Service.makeKey c.now c.uuid userId ext ∧ frame = ⟨stores.put key object, some key⟩)
      (fun _ frame => (frame = ⟨stores, none⟩ ∨ ∃ key object ext,
        key = AwsS3Service.makeKey c.now c.uuid userId ext ∧ frame = ⟨stores.put key object, some key⟩) ∧
        ∀ f scanData, file = some f → ¬c.Scans env f scanData) := by
  unfold scanAndSave.tryBlock
  rw [settles_bind]
  refine (upload_spec c userId file _).mono ?_ ?_
  · rintro key frame ⟨f, rfl, hput, hvalid, hkey, rfl⟩
    simp only [settles_bind, settles_modify]
    refine (scan_spec _).mono ?_ ?_
    · rintro raw _ ⟨hraw, rfl⟩
      simp only [settles_settle, settles_pure]
      refine ⟨fun scanData hscan => ?_, fun e he => ⟨.inr ⟨key, _, _, hkey, rfl⟩, ?_⟩⟩
      · have hnul : HasNoNul key := hkey ▸ AwsS3Service.nul_notMem_makeKey hvalid
        exact ⟨f, scanData, key, _, _, rfl, ⟨hvalid, hput, raw, hraw, hscan⟩, rfl, hnul, hkey, rfl⟩
      · rintro f' scanData hf h
        obtain rfl := Option.some.inj hf
        obtain ⟨raw', hraw', hscan⟩ := h.ocr
        obtain rfl := Except.ok.inj (hraw.symm.trans hraw')
        exact absurd (hscan.symm.trans he) (by simp)
    · rintro _ _ ⟨rfl, hpost⟩
      refine ⟨.inr ⟨key, _, _, hkey, rfl⟩, fun f' scanData hf h => ?_⟩
      obtain rfl := Option.some.inj hf
      obtain ⟨raw, hraw, -⟩ := h.ocr
      exact hpost raw hraw
  · rintro _ frame ⟨rfl, hfail⟩
    exact ⟨.inl rfl, fun f scanData hf h => hfail f hf h.put h.image⟩

lemma rethrown_cases (e : Exception) : ∃ message, scanAndSave.rethrown e = BadRequestException message ∨
    scanAndSave.rethrown e = InternalServerErrorException message := by
  unfold scanAndSave.rethrown
  split
  · exact ⟨_, .inl rfl⟩
  · exact ⟨_, .inr rfl⟩
  · exact ⟨_, .inr rfl⟩

lemma catchBlock_spec {α : Type} (hdelete : c.delete = .ok ()) (error : Exception) (frame : Frame) :
    Settles (scanAndSave.catchBlock c error : ScanM α) frame (fun _ _ => False)
      (fun e frame' => e = scanAndSave.rethrown error ∧
        frame'.stores = (frame.s3Key.map frame.stores.delete).getD frame.stores) := by
  obtain ⟨stores, s3Key⟩ := frame
  unfold scanAndSave.catchBlock
  rw [settles_bind, settles_get]
  cases s3Key with
  | none => exact ⟨rfl, rfl⟩
  | some key => simp [cleanupS3, AwsS3Service.deleteObject, hdelete]

lemma Stores.delete_put {key : String} {object : S3Object} (h : stores.bucket key = none) :
    (stores.put key object).delete key = stores := by
  obtain ⟨receipts, receiptItems, bucket⟩ := stores
  simp only [Stores.put, Stores.delete, Function.update_idem, Stores.mk.injEq, true_and]
  exact Function.update_eq_self_iff.mpr h.symm

lemma Stores.put_ne {key : String} {object : S3Object} (h : stores.bucket key = none) :
    stores.put key object ≠ stores := by
  intro heq
  have hput : (stores.put key object).bucket key = some object := Function.update_self ..
  rw [heq, h] at hput
  exact absurd hput (by simp)

/-- How `scanAndSave` ends: saved, undone, or with the image of a rejected transaction left behind. -/
theorem scanAndSave_spec (env : ReceiptEnv) (userId : ℕ) (file : Option File)
    (hdelete : c.delete = .ok ())
    (hfresh : ∀ now userId ext, stores.bucket (AwsS3Service.makeKey now c.uuid userId ext) = none) :
    Settles (scanAndSave env c file userId) ⟨stores, none⟩
      (fun _ _ => ∀ f scanData, file = some f → c.Scans env f scanData →
        scanData.Storable env userId ∧ c.Commits scanData)
      (fun e frame => (frame.stores = stores ∧
          (∃ message, e = BadRequestException message ∨ e = InternalServerErrorException message) ∧
          ∀ f scanData, file = some f → ¬c.Scans env f scanData) ∨
        (frame.stores ≠ stores ∧ ∃ f scanData, file = some f ∧ c.Scans env f scanData ∧
          ¬(scanData.Storable env userId ∧ c.Commits scanData))) := by
  unfold scanAndSave
  rw [settles_bind, settles_tryCatch]
  refine (tryBlock_spec file).mono ?_ ?_
  · rintro _ _ ⟨f, scanData, key, object, ext, rfl, hscan, rfl, hnul, hkey, rfl⟩
    refine (transaction_spec hnul _).mono ?_ ?_
    · intro _ _ hsaved f' scanData' hf hscan'
      obtain rfl := Option.some.inj hf
      exact hscan.unique hscan' ▸ hsaved
    · rintro e _ ⟨rfl, hfail⟩
      exact .inr ⟨Stores.put_ne (hkey ▸ hfresh _ _ _), f, scanData, rfl, hscan, hfail⟩
  · rintro e frame ⟨hframe, hscans⟩
    refine (catchBlock_spec hdelete e frame).mono (fun _ _ h => h.elim) ?_
    rintro _ frame' ⟨rfl, hstores⟩
    refine .inl ⟨?_, rethrown_cases e, hscans⟩
    rcases hframe with rfl | ⟨key, object, ext, hkey, rfl⟩
    · exact hstores
    · exact hstores.trans (Stores.delete_put (hkey ▸ hfresh _ _ _))

end

/-- A failed scan leaves nothing behind if and only if, whenever the transaction is begun, every
value of the scan fits into its column and no statement of the transaction fails. -/
theorem leavesNothingBehind_iff (env : ReceiptEnv) (c : Circumstances) (stores : Stores)
    (file : Option File) (userId : ℕ) (hdelete : c.delete = .ok ())
    (hfresh : ∀ now userId ext, stores.bucket (AwsS3Service.makeKey now c.uuid userId ext) = none) :
    LeavesNothingBehind env c stores file userId ↔ ∀ f scanData, file = some f → c.Scans env f scanData →
      scanData.Storable env userId ∧ c.Commits scanData := by
  have hspec := scanAndSave_spec env userId file hdelete hfresh
  unfold LeavesNothingBehind
  cases hrun : (scanAndSave env c file userId).run ⟨stores, none⟩ with
  | ok saved frame =>
    have hsaved := hspec.ok hrun
    exact ⟨fun _ => hsaved, fun _ _ _ h => absurd h (by simp)⟩
  | error e frame =>
    rcases hspec.error hrun with ⟨hstores, hmessage, hscans⟩ | ⟨hne, f, scanData, hf, hscan, hfail⟩
    · refine ⟨fun _ f scanData hf h => absurd h (hscans f scanData hf), ?_⟩
      rintro - e' frame' h
      obtain ⟨rfl, rfl⟩ := EStateM.Result.error.inj h
      exact ⟨hstores, hmessage⟩
    · exact ⟨fun h => absurd (h e frame rfl).1 hne, fun h => absurd (h f scanData hf hscan) hfail⟩

namespace Sample

def databaseDown : Circumstances :=
  { undisturbed with startTransaction := .error (.error "Error" "Connection terminated unexpectedly") }

def ocrDown : Circumstances :=
  { undisturbed with post := fun _ => .error (.error "AxiosError" "timeout of 30000ms exceeded") }

def noStores : Stores := ⟨[], [], fun _ => none⟩

end Sample

open Sample in
/-- The database cannot be reached: the image stays, and the caller gets a plain `Error`. -/
theorem rejected_transaction_leaves_image :
    (scanAndSave receiptEnv databaseDown (some photo) 1).run ⟨noStores, none⟩ =
        .error (.error "Error" "Connection terminated unexpectedly")
          ⟨noStores.put imageKey ⟨[255, 216], "image/jpeg"⟩, some imageKey⟩ ∧
      ¬LeavesNothingBehind receiptEnv databaseDown noStores (some photo) 1 := by
  have hrun : (scanAndSave receiptEnv databaseDown (some photo) 1).run ⟨noStores, none⟩ =
      .error (.error "Error" "Connection terminated unexpectedly")
        ⟨noStores.put imageKey ⟨[255, 216], "image/jpeg"⟩, some imageKey⟩ := rfl
  exact ⟨hrun, fun h => Stores.put_ne rfl (h _ _ hrun).1⟩

open Sample in
theorem leavesNothingBehind_iff_ocr_down :
    LeavesNothingBehind receiptEnv ocrDown noStores (some photo) 1 := by
  apply (leavesNothingBehind_iff receiptEnv ocrDown noStores (some photo) 1 rfl fun _ _ _ => rfl).mpr
  rintro f scanData - h
  obtain ⟨raw, hraw, -⟩ := h.ocr
  exact absurd hraw (by simp [ocrDown])

end NextLevelApi
