import NextLevelApi.Receipt.Service
import NextLevelApi.Library.Watched

/-!
# Interleaved scans

Calls of `scanAndSave` and `presignUpload` as threads of a pool. Each step of a call that
leaves the process may fail. A scan that runs alone does what `scanAndSave` does.
-/

namespace NextLevelApi
open Async Fallible ReceiptService ThreadPool

structure CommittedScan where
  userId : ℕ
  receiptId : Int4
  scanData : N8nScanReceiptDto

/-- The stores, with all that `crypto.randomUUID` and the two sequences have ever returned and
a record of the scans that have committed, the latest last. -/
structure ReceiptState where
  stores : Stores
  uuids : List Uuid
  receiptIds : List Int4
  itemIds : List Int4
  committed : List CommittedScan

def ReceiptState.initial (bucket : Bucket) : ReceiptState := ⟨⟨[], [], bucket⟩, [], [], [], []⟩

inductive ScanPhase
  | started
  | putting (key : String) (object : S3Object)
  | uploaded (key : String)
  | ocrReplied (key : String) (rawResponse : Json)
  | validated (key : String) (scanData : N8nScanReceiptDto)
  | inserted (key : String) (scanData : N8nScanReceiptDto) (saved : Receipt)
  | linesInserted (key : String) (scanData : N8nScanReceiptDto) (saved : Receipt) (rows : List ReceiptItem)
  | resolved (scanData : N8nScanReceiptDto) (saved : Receipt)
  | cleaning (key : String) (error : Exception)
  | rejected (error : Exception)

def ScanPhase.InTransaction : ScanPhase → Prop
  | validated _ _ => True
  | inserted _ _ _ => True
  | linesInserted _ _ _ _ => True
  | _ => False

inductive PresignPhase
  | started
  | signing (key : String)
  | answered (upload : PresignedUpload)
  | rejected (error : Exception)

inductive ReceiptCall
  | scan (file : Option File) (userId : ℕ) (phase : ScanPhase)
  | presign (userId : ℕ) (mimeType ext : String) (phase : PresignPhase)

namespace ReceiptCall

def userId : ReceiptCall → ℕ
  | scan _ userId _ => userId
  | presign userId _ _ _ => userId

def pendingRow : ReceiptCall → Option Receipt
  | scan _ _ (.inserted _ _ saved) => some saved
  | scan _ _ (.linesInserted _ _ saved _) => some saved
  | _ => none

end ReceiptCall

inductive ReceiptMove (env : ReceiptEnv) (s3 : S3Env) :
    ReceiptState → ReceiptCall → ReceiptState → ReceiptCall → Prop
  | upload {s : ReceiptState} {file : Option File} {userId : ℕ} {key : String} {object : S3Object} (now : ℕ)
      {id : Uuid} (hfresh : id ∉ s.uuids)
      (h : AwsS3Service.upload.command now id userId file = .ok (key, object)) :
    ReceiptMove env s3 s (.scan file userId .started) { s with uuids := id :: s.uuids }
      (.scan file userId (.putting key object))
  | refuse {s : ReceiptState} {file : Option File} {userId : ℕ} {e : Exception} (now : ℕ) (id : Uuid)
      (h : AwsS3Service.upload.command now id userId file = .error e) :
    ReceiptMove env s3 s (.scan file userId .started) s
      (.scan file userId (.rejected (scanAndSave.rethrown e)))
  | put {s : ReceiptState} {file : Option File} {userId : ℕ} {key : String} {object : S3Object} :
    ReceiptMove env s3 s (.scan file userId (.putting key object))
      { s with stores := s.stores.put key object } (.scan file userId (.uploaded key))
  | putFails {s : ReceiptState} {file : Option File} {userId : ℕ} {key : String} {object : S3Object}
      (e : Exception) :
    ReceiptMove env s3 s (.scan file userId (.putting key object)) s
      (.scan file userId (.rejected (scanAndSave.rethrown e)))
  | ocr {s : ReceiptState} {file : Option File} {userId : ℕ} {key : String} (rawResponse : Json) :
    ReceiptMove env s3 s (.scan file userId (.uploaded key)) s
      (.scan file userId (.ocrReplied key rawResponse))
  | ocrFails {s : ReceiptState} {file : Option File} {userId : ℕ} {key : String} :
    ReceiptMove env s3 s (.scan file userId (.uploaded key)) s (.scan file userId
      (.cleaning key (InternalServerErrorException "Failed to process receipt with OCR")))
  | validate {s : ReceiptState} {file : Option File} {userId : ℕ} {key : String} {rawResponse : Json}
      {scanData : N8nScanReceiptDto} (h : scanned env rawResponse = .ok scanData) :
    ReceiptMove env s3 s (.scan file userId (.ocrReplied key rawResponse)) s
      (.scan file userId (.validated key scanData))
  | invalid {s : ReceiptState} {file : Option File} {userId : ℕ} {key : String} {rawResponse : Json}
      {e : Exception} (h : scanned env rawResponse = .error e) :
    ReceiptMove env s3 s (.scan file userId (.ocrReplied key rawResponse)) s
      (.scan file userId (.cleaning key e))
  | insertReceipt {s : ReceiptState} {file : Option File} {userId : ℕ} {key : String}
      {scanData : N8nScanReceiptDto} {generated : Generated} {saved : Receipt}
      (hfresh : generated.id ∉ s.receiptIds)
      (h : (NewReceipt.create scanData userId key).insert env generated = .ok saved) :
    ReceiptMove env s3 s (.scan file userId (.validated key scanData))
      { s with receiptIds := generated.id :: s.receiptIds }
      (.scan file userId (.inserted key scanData saved))
  -- the ids of one save increase in the order of its rows
  | insertLines {s : ReceiptState} {file : Option File} {userId : ℕ} {key : String}
      {scanData : N8nScanReceiptDto} {saved : Receipt} {lines : List NewReceiptItem}
      {rows : List ReceiptItem} {generated : ℕ → Generated}
      (hlines : scanData.items.mapM (NewReceiptItem.create saved.id) = .ok lines)
      (h : insertItems lines generated = .ok rows) (hfresh : ∀ row ∈ rows, row.id ∉ s.itemIds)
      (hsorted : rows.Pairwise fun a b => a.id.val < b.id.val) :
    ReceiptMove env s3 s (.scan file userId (.inserted key scanData saved))
      { s with itemIds := rows.map ReceiptItem.id ++ s.itemIds }
      (.scan file userId (.linesInserted key scanData saved rows))
  | commit {s : ReceiptState} {file : Option File} {userId : ℕ} {key : String}
      {scanData : N8nScanReceiptDto} {saved : Receipt} {rows : List ReceiptItem} :
    ReceiptMove env s3 s (.scan file userId (.linesInserted key scanData saved rows))
      { s with
        stores := s.stores.commit saved rows
        committed := s.committed ++ [⟨userId, saved.id, scanData⟩] }
      (.scan file userId (.resolved scanData saved))
  -- nothing awaits the transaction inside the try block
  | transactionFails {s : ReceiptState} {file : Option File} {userId : ℕ} {phase : ScanPhase}
      (h : phase.InTransaction) (e : Exception) :
    ReceiptMove env s3 s (.scan file userId phase) s (.scan file userId (.rejected e))
  | cleanup {s : ReceiptState} {file : Option File} {userId : ℕ} {key : String} {e : Exception} :
    ReceiptMove env s3 s (.scan file userId (.cleaning key e)) { s with stores := s.stores.delete key }
      (.scan file userId (.rejected (scanAndSave.rethrown e)))
  | cleanupFails {s : ReceiptState} {file : Option File} {userId : ℕ} {key : String} {e : Exception} :
    ReceiptMove env s3 s (.scan file userId (.cleaning key e)) s
      (.scan file userId (.rejected (scanAndSave.rethrown e)))
  | presign {s : ReceiptState} {userId : ℕ} {mimeType ext key : String} (now : ℕ) {id : Uuid}
      (hfresh : id ∉ s.uuids) (h : AwsS3Service.presignUpload.key now id userId mimeType ext = .ok key) :
    ReceiptMove env s3 s (.presign userId mimeType ext .started) { s with uuids := id :: s.uuids }
      (.presign userId mimeType ext (.signing key))
  | presignRefused {s : ReceiptState} {userId : ℕ} {mimeType ext : String} {e : Exception} (now : ℕ)
      (id : Uuid) (h : AwsS3Service.presignUpload.key now id userId mimeType ext = .error e) :
    ReceiptMove env s3 s (.presign userId mimeType ext .started) s
      (.presign userId mimeType ext (.rejected e))
  | sign {s : ReceiptState} {userId : ℕ} {mimeType ext key : String} {upload : PresignedUpload}
      (h : AwsS3Service.presignUpload.sign s3 mimeType key = .ok upload) :
    ReceiptMove env s3 s (.presign userId mimeType ext (.signing key)) s
      (.presign userId mimeType ext (.answered upload))
  | signFails {s : ReceiptState} {userId : ℕ} {mimeType ext key : String} (e : Exception) :
    ReceiptMove env s3 s (.presign userId mimeType ext (.signing key)) s
      (.presign userId mimeType ext (.rejected e))

/-- The pool of calls. In between anyone may put objects, through presigned URLs or otherwise;
nothing else deletes any. -/
def receiptSystem (env : ReceiptEnv) (s3 : S3Env) : System ReceiptState ReceiptCall where
  starts call := (∃ file userId, call = .scan file userId .started) ∨
    ∃ userId mimeType ext, call = .presign userId mimeType ext .started
  ambient s s' := ∃ key object, s' = { s with stores := s.stores.put key object }
  move := ReceiptMove env s3

/-! ### Watching the bucket -/

/-- What a watcher of the bucket records: the keys that others have put, and the keys that
scans have left behind. -/
structure BucketRecord where
  others : List String
  left : List String

/-- The key that a call leaves behind: it rejects with its image in the bucket. -/
def ReceiptCall.leaves (now : Stores) : ReceiptCall → ReceiptCall → List String
  | .scan _ _ (.validated key _), .scan _ _ (.rejected _) => [key]
  | .scan _ _ (.inserted key _ _), .scan _ _ (.rejected _) => [key]
  | .scan _ _ (.linesInserted key _ _ _), .scan _ _ (.rejected _) => [key]
  | .scan _ _ (.cleaning key _), .scan _ _ (.rejected _) => if (now.bucket key).isSome then [key] else []
  | _, _ => []

def watchedReceipts (env : ReceiptEnv) (s3 : S3Env) : System (ReceiptState × BucketRecord) ReceiptCall :=
  (receiptSystem env s3).watched
    (fun s s' record record' => ∃ key object, s' = { s with stores := s.stores.put key object } ∧
      record' = { record with others := key :: record.others })
    fun _ call s' call' record => { record with left := call.leaves s'.stores call' ++ record.left }

/-- A move that leaves nothing behind is none that the watcher notes. -/
lemma watched_cons {env : ReceiptEnv} {s3 : S3Env} {s s' : ReceiptState} {record : BucketRecord}
    {call call' : ReceiptCall} {b : (ReceiptState × BucketRecord) × ReceiptCall}
    (h : ReceiptMove env s3 s call s' call') (hleaves : call.leaves s'.stores call' = [])
    (hb : Solo (watchedReceipts env s3) ((s', record), call') b) :
    Solo (watchedReceipts env s3) ((s, record), call) b := by
  have hmove : (watchedReceipts env s3).move (s, record) call (s', record) call' := by
    refine ⟨h, ?_⟩
    change record = { record with left := call.leaves s'.stores call' ++ record.left }
    rw [hleaves, List.nil_append]
  exact solo_cons hmove hb

/-! ### A scan that runs alone -/

/-- What the database generates in a call is new, for up to `n` items. -/
structure Circumstances.Fresh (c : Circumstances) (s : ReceiptState) (n : ℕ) : Prop where
  receiptId : ∀ generated, c.insertReceipt = .ok generated → generated.id ∉ s.receiptIds
  itemId : ∀ generated, c.insertItems = .ok generated → ∀ i < n, (generated i).id ∉ s.itemIds
  sorted : ∀ generated, c.insertItems = .ok generated →
    ∀ i j, i < j → j < n → (generated i).id.val < (generated j).id.val

section Alone

variable {env : ReceiptEnv} {s3 : S3Env} {c : Circumstances} {s s₀ : ReceiptState} {file : Option File}
  {userId n : ℕ} {key : String} {scanData : N8nScanReceiptDto}

/-- The call gets from `call` to a last phase, alone, and leaves the stores as they are in the
frame. -/
def Ends (env : ReceiptEnv) (s3 : S3Env) (s : ReceiptState) (call last : ReceiptCall)
    (frame : Frame) : Prop :=
  ∃ s', s'.stores = frame.stores ∧ Solo (receiptSystem env s3) (s, call) (s', last)

lemma Ends.cons {s' : ReceiptState} {call call' last : ReceiptCall} {frame : Frame}
    (h : ReceiptMove env s3 s call s' call') (hends : Ends env s3 s' call' last frame) :
    Ends env s3 s call last frame := by
  obtain ⟨s'', hstores, hsolo⟩ := hends
  exact ⟨s'', hstores, solo_cons h hsolo⟩

lemma Ends.last {s' : ReceiptState} {call last : ReceiptCall} {frame : Frame}
    (h : ReceiptMove env s3 s call s' last) (hstores : s'.stores = frame.stores) :
    Ends env s3 s call last frame :=
  ⟨s', hstores, solo_cons h .refl⟩

lemma ends_rejected {phase : ScanPhase} {frame : Frame} (hphase : phase.InTransaction) (e : Exception)
    (hframe : frame.stores = s.stores) :
    Ends env s3 s (.scan file userId phase) (.scan file userId (.rejected e)) frame :=
  Ends.last (.transactionFails hphase e) hframe.symm

lemma ids_of_insertItems {lines : List NewReceiptItem} {generated : ℕ → Generated} {rows : List ReceiptItem}
    (h : insertItems lines generated = .ok rows) :
    rows.map ReceiptItem.id = (List.range lines.length).map fun i => (generated i).id := by
  have hids : rows.map ReceiptItem.id = lines.zipIdx.map fun line => (generated line.2).id :=
    map_eq_of_forall₂ ((mapM_eq_ok h).imp fun _ _ hrow => NewReceiptItem.insert_id hrow)
  rw [hids, List.range_eq_range', ← List.zipIdx_map_snd, List.map_map]
  rfl

lemma move_of_saveLines {saved : Receipt} {lines : List NewReceiptItem} {rows : List ReceiptItem}
    (hfresh : c.Fresh s₀ n) (hitemIds : s.itemIds = s₀.itemIds) (hn : scanData.items.length ≤ n)
    (hlines : scanData.items.mapM (NewReceiptItem.create saved.id) = .ok lines)
    (hrows : saveLines c lines = .ok rows) :
    ReceiptMove env s3 s (.scan file userId (.inserted key scanData saved))
      { s with itemIds := rows.map ReceiptItem.id ++ s.itemIds }
      (.scan file userId (.linesInserted key scanData saved rows)) := by
  have hlength : lines.length = scanData.items.length := (mapM_eq_ok hlines).length_eq.symm
  have hinsert : ∃ generated, insertItems lines generated = .ok rows ∧
      (lines ≠ [] → c.insertItems = .ok generated) := by
    cases lines with
    | nil => exact ⟨fun _ => ⟨⟨0, by decide⟩, 0, 0⟩, hrows, fun h => absurd rfl h⟩
    | cons line lines =>
      obtain ⟨generated, hgenerated, hrows⟩ := bind_eq_ok.mp hrows
      exact ⟨generated, hrows, fun _ => hgenerated⟩
  obtain ⟨generated, hrows, hgenerated⟩ := hinsert
  have hids := ids_of_insertItems hrows
  refine .insertLines hlines hrows ?_ ?_
  · intro row hrow
    have hmem : row.id ∈ rows.map ReceiptItem.id := List.mem_map_of_mem hrow
    rw [hids] at hmem
    obtain ⟨i, hi, hid⟩ := List.mem_map.mp hmem
    have hi' : i < lines.length := List.mem_range.mp hi
    rw [← hid, hitemIds]
    exact hfresh.itemId generated (hgenerated (List.ne_nil_of_length_pos (by omega))) i (by omega)
  · have hpairs : (rows.map ReceiptItem.id).Pairwise fun a b => a.val < b.val := by
      rw [hids, List.pairwise_map]
      refine List.pairwise_lt_range.imp_of_mem fun {i j} _ hj hij => ?_
      have hj' : j < lines.length := List.mem_range.mp hj
      exact hfresh.sorted generated (hgenerated (List.ne_nil_of_length_pos (by omega))) i j hij (by omega)
    exact hpairs.of_map ReceiptItem.id fun _ _ h => h

lemma ends_transaction (s : ReceiptState) (hfresh : c.Fresh s₀ n) (hn : scanData.items.length ≤ n)
    {frame : Frame} (hframe : frame.stores = s.stores) (hreceiptIds : s.receiptIds = s₀.receiptIds)
    (hitemIds : s.itemIds = s₀.itemIds) :
    Settles (transaction env c scanData userId key) frame
      (fun saved frame' => Ends env s3 s (.scan file userId (.validated key scanData))
        (.scan file userId (.resolved scanData saved)) frame')
      (fun e frame' => Ends env s3 s (.scan file userId (.validated key scanData))
        (.scan file userId (.rejected e)) frame') := by
  unfold transaction
  simp only [settles_bind, settles_settle, settles_modify, settles_pure]
  refine ⟨fun _ _ => ⟨fun generated hgenerated => ⟨fun saved hsaved => ?_, fun e _ => ?_⟩,
    fun e _ => ?_⟩, fun e _ => ?_⟩
  · have hinserted : ReceiptMove env s3 s (.scan file userId (.validated key scanData))
        { s with receiptIds := generated.id :: s.receiptIds }
        (.scan file userId (.inserted key scanData saved)) :=
      .insertReceipt (hreceiptIds ▸ hfresh.receiptId _ hgenerated) hsaved
    refine ⟨fun lines hlines => ⟨fun rows hrows => ⟨fun _ _ => ?_, fun e _ => ?_⟩, fun e _ => ?_⟩,
      fun e _ => ?_⟩
    · apply Ends.cons hinserted
      apply Ends.cons
      · exact move_of_saveLines hfresh hitemIds hn hlines hrows
      apply Ends.last ReceiptMove.commit
      rw [hframe]
    · apply Ends.cons hinserted
      apply Ends.cons
      · exact move_of_saveLines hfresh hitemIds hn hlines hrows
      exact ends_rejected (by trivial) e hframe
    · exact Ends.cons hinserted (ends_rejected (by trivial) e hframe)
    · exact Ends.cons hinserted (ends_rejected (by trivial) e hframe)
  · exact ends_rejected (by trivial) e hframe
  · exact ends_rejected (by trivial) e hframe
  · exact ends_rejected (by trivial) e hframe

lemma ends_catchBlock {α : Type} {frame : Frame} (e : Exception) (hframe : frame = ⟨s.stores, some key⟩) :
    Settles (scanAndSave.catchBlock c e : ScanM α) frame (fun _ _ => False)
      (fun e' frame' => Ends env s3 s (.scan file userId (.cleaning key e))
        (.scan file userId (.rejected e')) frame') := by
  subst hframe
  unfold scanAndSave.catchBlock cleanupS3 AwsS3Service.deleteObject
  simp only [settles_bind, settles_get, settles_tryCatch, settles_settle, settles_modify, settles_pure,
    settles_throw]
  exact ⟨fun _ _ => Ends.last .cleanup rfl, fun _ _ => Ends.last .cleanupFails rfl⟩

/-- A scan that runs alone can do what `scanAndSave` does. -/
theorem ends_scanAndSave (huuid : c.uuid ∉ s.uuids) (hfresh : c.Fresh s n)
    (hn : ∀ f raw scanData, file = some f → c.post f.form = .ok raw → scanned env raw = .ok scanData →
      scanData.items.length ≤ n) :
    Settles (scanAndSave env c file userId) ⟨s.stores, none⟩
      (fun saved frame => ∃ scanData,
        Ends env s3 s (.scan file userId .started) (.scan file userId (.resolved scanData saved)) frame)
      (fun e frame => Ends env s3 s (.scan file userId .started)
        (.scan file userId (.rejected e)) frame) := by
  unfold scanAndSave scanAndSave.tryBlock AwsS3Service.upload scan
  simp only [settles_bind, settles_tryCatch, settles_settle, settles_modify, settles_pure, settles_throw]
  refine ⟨?_, fun e he => Ends.last (.refuse c.now c.uuid he) rfl⟩
  rintro ⟨key, object⟩ hcommand
  have huploaded : ∀ {last frame}, Ends env s3 { s with
      stores := s.stores.put key object
      uuids := c.uuid :: s.uuids } (.scan file userId (.uploaded key)) last frame →
      Ends env s3 s (.scan file userId .started) last frame :=
    fun h => .cons (.upload c.now huuid hcommand) (.cons .put h)
  refine ⟨fun _ _ => ⟨fun raw hraw => ?_, fun e _ => ?_⟩,
    fun e _ => Ends.cons (.upload c.now huuid hcommand) (Ends.last (.putFails e) rfl)⟩
  · refine ⟨fun scanData hscan => ?_, fun e he => ?_⟩
    · have hitems : scanData.items.length ≤ n := by
        obtain ⟨f, rfl⟩ : ∃ f, file = some f := by
          cases file with
          | none => exact absurd hraw (by simp [scan.post])
          | some f => exact ⟨f, rfl⟩
        exact hn f raw scanData rfl hraw hscan
      exact (ends_transaction { s with
        stores := s.stores.put key object
        uuids := c.uuid :: s.uuids } hfresh hitems rfl rfl rfl).mono
        (fun _ _ h => ⟨scanData, huploaded (.cons (.ocr raw) (.cons (.validate hscan) h))⟩)
        (fun _ _ h => huploaded (.cons (.ocr raw) (.cons (.validate hscan) h)))
    · exact (ends_catchBlock e rfl).mono (fun _ _ h => h.elim)
        (fun _ _ h => huploaded (.cons (.ocr raw) (.cons (.invalid he) h)))
  · exact (ends_catchBlock _ rfl).mono (fun _ _ h => h.elim) (fun _ _ h => huploaded (.cons .ocrFails h))

end Alone

namespace Sample

def otherUuid : Uuid where
  text := "7c9e6679-7425-40de-944b-e07fc1f90ae7".toList
  wellFormed := by simp

def otherKey : String := "uploads/user-2/2025-12-09/7c9e6679-7425-40de-944b-e07fc1f90ae7.jpg"

def ocrError : Exception := InternalServerErrorException "Failed to process receipt with OCR"

def noImages : ReceiptState := ReceiptState.initial fun _ => none

def oneImage : ReceiptState :=
  { noImages with
    stores := noImages.stores.put imageKey ⟨[255, 216], "image/jpeg"⟩
    uuids := [uuid] }

def twoImages : ReceiptState :=
  { oneImage with
    stores := oneImage.stores.put otherKey ⟨[255, 216], "image/jpeg"⟩
    uuids := [otherUuid, uuid] }

/-- The first user's scan has resolved while the second user's, which the OCR service did not
answer, is about to clean up. -/
def cleaning (saved : Receipt) : List ReceiptCall :=
  [.scan (some photo) 1 (.resolved scanData saved), .scan (some photo) 2 (.cleaning otherKey ocrError)]

def cleaned (saved : Receipt) : List ReceiptCall :=
  [.scan (some photo) 1 (.resolved scanData saved), .scan (some photo) 2 (.rejected ocrError)]

lemma saved_isOk : ∃ saved, (NewReceipt.create scanData 1 imageKey).insert receiptEnv generated = .ok saved :=
  (NewReceipt.insert_isOk (by simp [HasNoNul, imageKey])).mpr ⟨scanData_fits.receiptNumber, rfl,
    scanData_fits.supplierName, scanData_fits.supplierTaxId, scanData_fits.totalAmount,
    by norm_num [FitsInt4]⟩

lemma cleaning_watched (s3 : S3Env) : ∃ saved row s, saved.userId.val = 1 ∧ saved.id = generated.id ∧
    s.stores.receipts = [saved] ∧ s.stores.receiptItems = [row] ∧ s.committed = [⟨1, saved.id, scanData⟩] ∧
    Run (watchedReceipts receiptEnv s3) ⟨(noImages, ⟨[], []⟩), []⟩ ⟨(s, ⟨[], []⟩), cleaning saved⟩ := by
  obtain ⟨saved, hsaved⟩ := saved_isOk
  obtain ⟨lines, hlines, rows, hrows⟩ :=
    (insertItems_isOk saved.id fun _ => generated).mpr scanData_fits.items
  obtain ⟨row, rfl⟩ : ∃ row, rows = [row] :=
    List.length_eq_one_iff.mp (insertItems_ok hlines hrows).1.length_eq.symm
  obtain ⟨-, hid, huser, -⟩ := NewReceipt.insert_ok hsaved
  have hcommand : AwsS3Service.upload.command 1765238400000 uuid 1 (some photo) =
      .ok (imageKey, ⟨[255, 216], "image/jpeg"⟩) := rfl
  have hcommand' : AwsS3Service.upload.command 1765238400000 otherUuid 2 (some photo) =
      .ok (otherKey, ⟨[255, 216], "image/jpeg"⟩) := rfl
  have hstart : Run (watchedReceipts receiptEnv s3) ⟨(noImages, ⟨[], []⟩), []⟩
      ⟨(noImages, ⟨[], []⟩), [.scan (some photo) 1 .started, .scan (some photo) 2 .started]⟩ :=
    .tail (.single (.start (.inl ⟨_, _, rfl⟩))) (.start (.inl ⟨_, _, rfl⟩))
  have hputs : Solo (watchedReceipts receiptEnv s3)
      ((noImages, ⟨[], []⟩), .scan (some photo) 1 .started) _ :=
    watched_cons (.upload 1765238400000 List.not_mem_nil hcommand) rfl (watched_cons .put rfl .refl)
  have hput := hstart.trans (run_solo hputs (i := 0) rfl fun _ _ _ _ _ _ => trivial)
  have hfails : Solo (watchedReceipts receiptEnv s3)
      ((oneImage, ⟨[], []⟩), .scan (some photo) 2 .started) _ :=
    watched_cons (.upload 1765238400000 (by decide +kernel) hcommand') rfl
      (watched_cons .put rfl (watched_cons .ocrFails rfl .refl))
  have hfailed := hput.trans (run_solo hfails (i := 1) rfl fun _ _ _ _ _ _ => trivial)
  have hsaves : Solo (watchedReceipts receiptEnv s3)
      ((twoImages, ⟨[], []⟩), .scan (some photo) 1 (.uploaded imageKey)) _ :=
    watched_cons (.ocr ocrResponse) rfl (watched_cons (.validate rfl) rfl
      (watched_cons (.insertReceipt List.not_mem_nil hsaved) rfl (watched_cons
        (.insertLines hlines hrows (fun _ _ => List.not_mem_nil) (List.pairwise_singleton _ _)) rfl
          (watched_cons .commit rfl .refl))))
  have hrun := hfailed.trans (run_solo hsaves (i := 0) rfl fun _ _ _ _ _ _ => trivial)
  exact ⟨saved, row, _, huser, hid, rfl, rfl, rfl, hrun⟩

/-- And then it does. -/
lemma cleaned_watched (s3 : S3Env) (s : ReceiptState) (saved : Receipt) (record : BucketRecord) :
    Run (watchedReceipts receiptEnv s3) ⟨(s, record), cleaning saved⟩
      ⟨({ s with stores := s.stores.delete otherKey }, record), cleaned saved⟩ := by
  refine .single (.move (i := 1) rfl (fun _ _ _ _ => trivial) ⟨.cleanup, ?_⟩)
  simp [ReceiptCall.leaves, Stores.delete]

lemma cleaning_run (s3 : S3Env) : ∃ saved row s, saved.userId.val = 1 ∧ saved.id = generated.id ∧
    s.stores.receipts = [saved] ∧ s.stores.receiptItems = [row] ∧ s.committed = [⟨1, saved.id, scanData⟩] ∧
    Run (receiptSystem receiptEnv s3) ⟨noImages, []⟩ ⟨s, cleaning saved⟩ := by
  obtain ⟨saved, row, s, huser, hid, hreceipts, hitems, hcommitted, hrun⟩ := cleaning_watched s3
  exact ⟨saved, row, s, huser, hid, hreceipts, hitems, hcommitted, run_unwatched hrun⟩

lemma cleaned_run (s3 : S3Env) (s : ReceiptState) (saved : Receipt) :
    Run (receiptSystem receiptEnv s3) ⟨s, cleaning saved⟩
      ⟨{ s with stores := s.stores.delete otherKey }, cleaned saved⟩ :=
  run_unwatched (cleaned_watched s3 s saved ⟨[], []⟩)

end Sample

end NextLevelApi
