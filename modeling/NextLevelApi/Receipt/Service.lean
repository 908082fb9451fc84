import NextLevelApi.Receipt.Scan
import NextLevelApi.Library.Async
import Mathlib.Logic.Function.Basic

/-!
# ReceiptService

Reading receipts, and `scanAndSave`. The database transaction of `scanAndSave` is returned
from the try block, and not awaited there.
-/

namespace NextLevelApi
open Async

structure Stores where
  receipts : List Receipt
  receiptItems : List ReceiptItem
  bucket : Bucket

def Stores.put (stores : Stores) (key : String) (object : S3Object) : Stores :=
  { stores with bucket := Function.update stores.bucket key (some object) }

def Stores.delete (stores : Stores) (key : String) : Stores :=
  { stores with bucket := Function.update stores.bucket key none }

def Stores.commit (stores : Stores) (receipt : Receipt) (lines : List ReceiptItem) : Stores :=
  { stores with receipts := stores.receipts ++ [receipt], receiptItems := stores.receiptItems ++ lines }

/-! ### Reading -/

/-- `found` is what a query may return. Rows that tie come in any order. -/
structure Finds {α : Type} (rows : List α) (where_ : α → Bool) (order : α → α → Prop) (found : List α) :
    Prop where
  perm : found.Perm (rows.filter where_)
  sorted : found.Pairwise order

namespace ReceiptRepository

def findByIdForUser (stores : Stores) (receiptId : ℤ) (userId : ℕ) :
    Except Exception (Option Receipt) := do
  let receiptId ← Int4.parse receiptId
  let userId ← Int4.parse userId
  return stores.receipts.find? fun receipt => receipt.id = receiptId ∧ receipt.userId = userId

/-- The answers that `findAllForUser` may give. -/
inductive findAllForUser (stores : Stores) (userId : ℕ) : Except Exception (List Receipt) → Prop
  | found {user : Int4} {found : List Receipt} (huser : Int4.parse userId = .ok user)
      (h : Finds stores.receipts (·.userId = user) (fun a b => b.createdAt ≤ a.createdAt) found) :
    findAllForUser stores userId (.ok found)
  | fails {e : Exception} (h : Int4.parse userId = .error e) : findAllForUser stores userId (.error e)

end ReceiptRepository

namespace ReceiptItemRepository

def findByReceiptId (stores : Stores) (receiptId : ℤ) : Except Exception (List ReceiptItem) := do
  let receiptId ← Int4.parse receiptId
  return (stores.receiptItems.filter (·.receiptId = receiptId)).mergeSort fun a b => a.id.val ≤ b.id.val

end ReceiptItemRepository

namespace ReceiptService

def getReceiptForUser (stores : Stores) (receiptId : ℤ) (userId : ℕ) : Except Exception Receipt := do
  let receipt ← ReceiptRepository.findByIdForUser stores receiptId userId
  match receipt with
  | none => .error (NotFoundException "Receipt not found")
  | some receipt => .ok receipt

def getAllReceiptsForUser (stores : Stores) (userId : ℕ)
    (answer : Except Exception (List Receipt)) : Prop :=
  ReceiptRepository.findAllForUser stores userId answer

def getReceiptItems (stores : Stores) (receiptId : ℤ) (userId : ℕ) :
    Except Exception (List ReceiptItem) := do
  let receipt ← ReceiptRepository.findByIdForUser stores receiptId userId
  match receipt with
  | none => .error (NotFoundException "Receipt not found")
  | some _ => ReceiptItemRepository.findByReceiptId stores receiptId

end ReceiptService

/-! ### Scanning -/

structure OcrForm where
  file : List UInt8
  filename : String
  contentType : String
  knownLength : ℕ

def File.form (file : File) : OcrForm where
  file := file.buffer
  filename := file.originalname
  contentType := file.mimetype
  knownLength := file.size

/-- All that happens outside this code in one call of `scanAndSave`. A rejected put stores
nothing. -/
structure Circumstances where
  now : ℕ
  uuid : Uuid
  put : Except Exception Unit
  post : OcrForm → Except Exception Json
  startTransaction : Except Exception Unit
  insertReceipt : Except Exception Generated
  insertItems : Except Exception (ℕ → Generated)
  commit : Except Exception Unit
  delete : Except Exception Unit

structure Frame where
  stores : Stores
  s3Key : Option String

abbrev ScanM := EStateM Exception Frame

section

variable (env : ReceiptEnv) (c : Circumstances)

def AwsS3Service.upload (userId : ℕ) (file : Option File) : ScanM String := do
  let (key, object) ← settle (AwsS3Service.upload.command c.now c.uuid userId file)
  settle c.put
  modify fun frame => { frame with stores := frame.stores.put key object }
  return key

def AwsS3Service.deleteObject (key : String) : ScanM Unit := do
  settle c.delete
  modify fun frame => { frame with stores := frame.stores.delete key }

namespace ReceiptService

def cleanupS3 (key : String) : ScanM Unit :=
  tryCatch (AwsS3Service.deleteObject c key) fun _ => pure ()

/-- The post of `scan`, which reads the file first. -/
def scan.post : Option File → Except Exception Json
  | none => .error (.error "TypeError" "Cannot read properties of undefined (reading 'buffer')")
  | some file => c.post file.form

def scan (file : Option File) : ScanM Json :=
  tryCatch (settle (scan.post c file)) fun _ =>
    throw (InternalServerErrorException "Failed to process receipt with OCR")

def scanned (rawResponse : Json) : Except Exception N8nScanReceiptDto := do
  let scanData ← env.plainToInstance rawResponse
  match N8nScanReceiptDto.validate env scanData with
  | some scanData => .ok scanData
  | none => .error (BadRequestException "Invalid scan response from n8n")

/-- The insert of the lines. Saving an empty array sends no statement. -/
def saveLines : List NewReceiptItem → Except Exception (List ReceiptItem)
  | [] => .ok []
  | lines => do insertItems lines (← c.insertItems)

/-- `dataSource.transaction(...)`, which writes by its commit and only then. -/
def transaction (scanData : N8nScanReceiptDto) (userId : ℕ) (s3Key : String) : ScanM Receipt := do
  settle c.startTransaction
  let generated ← settle c.insertReceipt
  let savedReceipt ← settle ((NewReceipt.create scanData userId s3Key).insert env generated)
  let lines ← settle (scanData.items.mapM (NewReceiptItem.create savedReceipt.id))
  let rows ← settle (saveLines c lines)
  settle c.commit
  modify fun frame => { frame with stores := frame.stores.commit savedReceipt rows }
  return savedReceipt

/-- The try block of `scanAndSave`: the promise of the transaction is its result. -/
def scanAndSave.tryBlock (file : Option File) (userId : ℕ) : ScanM (ScanM Receipt) := do
  let s3Key ← AwsS3Service.upload c userId file
  modify fun frame => { frame with s3Key := some s3Key }
  let rawResponse ← scan c file
  let scanData ← settle (scanned env rawResponse)
  return transaction env c scanData userId s3Key

def scanAndSave.rethrown : Exception → Exception
  | .http 400 message => BadRequestException message
  | .http 500 message => InternalServerErrorException message
  | _ => InternalServerErrorException "Failed to process receipt. Please try again."

def scanAndSave.catchBlock {α : Type} (error : Exception) : ScanM α := do
  match (← get).s3Key with
  | some key => cleanupS3 c key
  | none => pure ()
  throw (scanAndSave.rethrown error)

def scanAndSave (file : Option File) (userId : ℕ) : ScanM Receipt := do
  let promise ← tryCatch (scanAndSave.tryBlock env c file userId) (scanAndSave.catchBlock c)
  promise

end ReceiptService

end

namespace Sample

def receiptEnv : ReceiptEnv where
  plainToInstance := .ok
  isISO8601 s := s = "2025-12-09"
  dateColumn s := some s

def s3 : S3Env := ⟨none, fun key _ _ => .ok ("https://s3.amazonaws.com/" ++ key)⟩

def photo : File := ⟨"bon.JPG", "image/jpeg", [255, 216], 2⟩

def ocrResponse : Json := .object [("receiptNumber", .string "17"), ("receiptDate", .string "2025-12-09"),
  ("supplierName", .string "Mega"), ("supplierTaxId", .string "RO1"), ("totalAmount", .number (25 / 2)),
  ("items", .array [.object [("productName", .string "Lapte"), ("categoryId", .number 3),
    ("confidence", .number 90), ("totalPrice", .number (25 / 2)), ("itemPrice", .number (25 / 4)),
    ("quantity", .number 2)]])]

def uuid : Uuid where
  text := "0f8fad5b-d9cb-469f-a165-70867728950e".toList
  wellFormed := by simp

def generated : Generated := ⟨⟨1, by decide⟩, 0, 0⟩

def imageKey : String := "uploads/user-1/2025-12-09/0f8fad5b-d9cb-469f-a165-70867728950e.jpg"

def scanData : N8nScanReceiptDto where
  receiptNumber := "17"
  receiptDate := "2025-12-09"
  supplierName := "Mega"
  supplierTaxId := "RO1"
  totalAmount := 25 / 2
  items := [.item ⟨"Lapte", 3, 90, 25 / 2, 25 / 4, 2, by decide⟩]

lemma scanData_fits : scanData.FitsButDate where
  receiptNumber := by simp [HasNoNul, scanData]
  supplierName := by simp [HasNoNul, scanData]
  supplierTaxId := by simp [HasNoNul, scanData]
  totalAmount := by norm_num [FitsNumeric, scanData]
  items := by
    intro item hitem
    obtain rfl := List.mem_singleton.mp hitem
    exact ⟨_, rfl, by simp [HasNoNul], by norm_num, by norm_num [FitsNumeric], by norm_num [FitsNumeric],
      by norm_num [FitsInt4]⟩

def undisturbed : Circumstances where
  now := 1765238400000
  uuid := uuid
  put := .ok ()
  post _ := .ok ocrResponse
  startTransaction := .ok ()
  insertReceipt := .ok generated
  insertItems := .ok fun _ => generated
  commit := .ok ()
  delete := .ok ()

end Sample

end NextLevelApi
