import NextLevelApi.Receipt.Dates

/-!
# What the validator accepts and the database stores

An accepted response is read into an `N8nScanReceiptDto`; `RowsFit` follows each of its
values through the entities to the column that takes it. `rowsFit_iff` turns that into
bounds on the response, among them those that the validator does not check. A response
within them is saved.
-/

namespace NextLevelApi
open Async Fallible JsDate ReceiptService

/-- Every column of the row that takes a value of the response takes it. -/
structure NewReceipt.Fits (env : ReceiptEnv) (receipt : NewReceipt) : Prop where
  receiptNumber : ∃ text, parseText receipt.receiptNumber = .ok text
  receiptDate : ∃ date, env.parseDate receipt.receiptDate = .ok date
  supplierName : ∃ text, parseText receipt.supplierName = .ok text
  supplierTaxId : ∃ text, parseText receipt.supplierTaxId = .ok text
  totalAmount : ∃ n, Numeric.parse receipt.totalAmount = .ok n

structure NewReceiptItem.Fits (line : NewReceiptItem) : Prop where
  name : ∃ text, parseText line.name = .ok text
  categoryId : ∃ n, Int4.parse line.categoryId = .ok n
  totalPrice : ∃ n, Numeric.parse line.totalPrice = .ok n
  itemPrice : ∃ n, Numeric.parse line.itemPrice = .ok n
  quantity : ∃ n, Int4.parse line.quantity = .ok n
  categoryCalssificationConfidence : ∃ n, Int4.parse line.categoryCalssificationConfidence = .ok n

/-- The entities can be built, for any user, key and id of the receipt, and every value in
them fits its column. -/
structure N8nScanReceiptDto.RowsFit (env : ReceiptEnv) (scanData : N8nScanReceiptDto) : Prop where
  receipt : ∀ userId s3Key, (NewReceipt.create scanData userId s3Key).Fits env
  lines : ∀ receiptId, ∃ lines, scanData.items.mapM (NewReceiptItem.create receiptId) = .ok lines ∧
    ∀ line ∈ lines, line.Fits

/-- What `plainToInstance` and `validateOrReject` make of a response. -/
def AcceptedAs (env : ReceiptEnv) (response : Json) (scanData : N8nScanReceiptDto) : Prop :=
  ∃ raw, env.plainToInstance response = .ok raw ∧ N8nScanReceiptDto.validate env raw = some scanData

/-- The image is taken and put, and the OCR service answers with the response. -/
structure Circumstances.Answered (c : Circumstances) (file : File) (response : Json) : Prop where
  image : AwsS3Service.validateImage file.mimetype (AwsS3Service.extension file.originalname) = .ok ()
  put : c.put = .ok ()
  post : c.post file.form = .ok response

/-- Whatever the response is accepted as, its rows fit, and `scanAndSave` saves them where no
statement fails on the side of the database. -/
structure AcceptedFits (env : ReceiptEnv) (response : Json) : Prop where
  rows : ∀ scanData, AcceptedAs env response scanData → scanData.RowsFit env
  saved : ∀ scanData, AcceptedAs env response scanData → ∀ c stores file (userId : ℕ),
    c.Answered file response → c.Commits scanData → FitsInt4 userId →
    ∃ saved frame, (scanAndSave env c (some file) userId).run ⟨stores, none⟩ = .ok saved frame

/-! ### The bounds -/

/-- A text that `new Date` reads, of a day whose year the column takes where the server is. -/
def ReceiptDateInRange (zone : TimeZone) (other : String → Option ℤ) (s : String) : Prop :=
  match DateText.parse s.toList with
  | some form =>
    1 ≤ (zone.localDay (form.instant zone)).year ∧ (zone.localDay (form.instant zone)).year ≤ 9999
  | none => ∃ t, other s = some t ∧ TakesYear (zone.localDay t).year

/-- The bounds that a response has to keep. -/
structure N8nScanReceiptDto.InRange (zone : TimeZone) (other : String → Option ℤ)
    (scanData : N8nScanReceiptDto) : Prop extends scanData.FitsButDate where
  receiptDate : ReceiptDateInRange zone other scanData.receiptDate

lemma dateColumnIn_isSome {zone : TimeZone} {other : String → Option ℤ} {s : String} :
    (dateColumnIn zone other s).isSome ↔ ReceiptDateInRange zone other s := by
  unfold dateColumnIn ReceiptDateInRange
  cases DateText.parse s.toList with
  | some form => simp [Option.isSome_iff_exists]
  | none =>
    cases other s with
    | none => simp
    | some t => simp [Option.isSome_iff_exists]

section

variable {env : ReceiptEnv} {scanData : N8nScanReceiptDto}

lemma NewReceipt.fits_create {userId : ℕ} {s3Key : String} :
    (NewReceipt.create scanData userId s3Key).Fits env ↔
      HasNoNul scanData.receiptNumber ∧ (env.dateColumn scanData.receiptDate).isSome ∧
      HasNoNul scanData.supplierName ∧ HasNoNul scanData.supplierTaxId ∧
      FitsNumeric scanData.totalAmount := by
  simp only [← parseText_isOk, ← ReceiptEnv.parseDate_isOk, ← Numeric.parse_isOk]
  constructor
  · rintro ⟨hnumber, hdate, hname, htax, hamount⟩
    exact ⟨hnumber, hdate, hname, htax, hamount⟩
  · rintro ⟨hnumber, hdate, hname, htax, hamount⟩
    exact ⟨hnumber, hdate, hname, htax, hamount⟩

lemma NewReceiptItem.fits_create {i : N8nReceiptItemDto} {receiptId : Int4} {line : NewReceiptItem}
    (hline : NewReceiptItem.create receiptId (.item i) = .ok line) : line.Fits ↔ i.Storable := by
  obtain rfl := Except.ok.inj hline
  constructor
  · rintro ⟨hname, hcategory, htotal, hprice, hquantity, -⟩
    exact ⟨parseText_isOk.mp hname, fitsInt4_intCast.mp (Int4.parse_isOk.mp hcategory),
      Numeric.parse_isOk.mp htotal, Numeric.parse_isOk.mp hprice, Int4.parse_isOk.mp hquantity⟩
  · rintro ⟨hname, hcategory, htotal, hprice, hquantity⟩
    exact ⟨parseText_isOk.mpr hname, Int4.parse_isOk.mpr (fitsInt4_intCast.mpr hcategory),
      Numeric.parse_isOk.mpr htotal, Numeric.parse_isOk.mpr hprice, Int4.parse_isOk.mpr hquantity,
      Int4.parse_isOk.mpr (fitsInt4_confidence i)⟩

lemma lines_fit_iff {items : List ScanItem} (receiptId : Int4) :
    (∃ lines, items.mapM (NewReceiptItem.create receiptId) = .ok lines ∧
        ∀ line ∈ lines, line.Fits) ↔
      ∀ item ∈ items, ∃ i, item = .item i ∧ i.Storable := by
  constructor
  · rintro ⟨lines, hlines, hfit⟩ item hitem
    obtain ⟨line, hmem, hline⟩ := (mem_of_forall₂ (mapM_eq_ok hlines)).1 item hitem
    obtain ⟨i, rfl⟩ := NewReceiptItem.create_isOk.mp ⟨_, hline⟩
    exact ⟨i, rfl, (NewReceiptItem.fits_create hline).mp (hfit line hmem)⟩
  · intro hitems
    have hcreate : ∀ item ∈ items, ∃ line, NewReceiptItem.create receiptId item = .ok line :=
      fun item hitem => NewReceiptItem.create_isOk.mpr ((hitems item hitem).imp fun _ h => h.1)
    obtain ⟨lines, hlines⟩ := mapM_isOk.mpr hcreate
    refine ⟨lines, hlines, fun line hmem => ?_⟩
    obtain ⟨item, hitem, hline⟩ := (mem_of_forall₂ (mapM_eq_ok hlines)).2 line hmem
    obtain ⟨i, rfl, hstorable⟩ := hitems item hitem
    exact (NewReceiptItem.fits_create hline).mpr hstorable

lemma rowsFit_iff_columns : scanData.RowsFit env ↔
    scanData.FitsButDate ∧ (env.dateColumn scanData.receiptDate).isSome := by
  constructor
  · rintro ⟨hreceipt, hlines⟩
    obtain ⟨hnumber, hdate, hname, htax, hamount⟩ := NewReceipt.fits_create.mp (hreceipt 0 "")
    exact ⟨⟨hnumber, hname, htax, hamount, (lines_fit_iff ⟨0, by simp⟩).mp (hlines _)⟩, hdate⟩
  · rintro ⟨⟨hnumber, hname, htax, hamount, hitems⟩, hdate⟩
    constructor
    · exact fun _ _ => NewReceipt.fits_create.mpr ⟨hnumber, hdate, hname, htax, hamount⟩
    · exact fun receiptId => (lines_fit_iff receiptId).mpr hitems

theorem rowsFit_iff {zone : TimeZone} {other : String → Option ℤ}
    (hzone : env.dateColumn = dateColumnIn zone other) :
    scanData.RowsFit env ↔ scanData.InRange zone other := by
  rw [rowsFit_iff_columns, hzone, dateColumnIn_isSome]
  exact ⟨fun ⟨hfits, hdate⟩ => ⟨hfits, hdate⟩, fun h => ⟨h.toFitsButDate, h.receiptDate⟩⟩

lemma Circumstances.Answered.scans {c : Circumstances} {file : File} {response : Json}
    (h : c.Answered file response) (haccepts : AcceptedAs env response scanData) :
    c.Scans env file scanData := by
  obtain ⟨raw, hraw, hvalid⟩ := haccepts
  have hscanned : scanned env response = .ok scanData := by
    simp only [scanned, hraw, bind, Except.bind, hvalid]
  exact ⟨h.image, h.put, response, h.post, hscanned⟩

/-- Rows that fit are saved. -/
theorem N8nScanReceiptDto.RowsFit.saves {c : Circumstances} {file : File} {stores : Stores} {userId : ℕ}
    (h : scanData.RowsFit env) (huser : FitsInt4 userId) (hscan : c.Scans env file scanData)
    (hcommits : c.Commits scanData) :
    ∃ saved frame, (scanAndSave env c (some file) userId).run ⟨stores, none⟩ = .ok saved frame := by
  obtain ⟨hfits, hdate⟩ := rowsFit_iff_columns.mp h
  have hsaves := @scanAndSave_saves env c stores userId scanData file hscan
  cases hrun : (scanAndSave env c (some file) userId).run ⟨stores, none⟩ with
  | ok saved frame => exact ⟨saved, frame, rfl⟩
  | error e frame => exact absurd ⟨⟨hfits, hdate, huser⟩, hcommits⟩ (hsaves.error hrun)

end

theorem acceptedFits_iff {env : ReceiptEnv} {zone : TimeZone} {other : String → Option ℤ}
    (hzone : env.dateColumn = dateColumnIn zone other) (response : Json) :
    AcceptedFits env response ↔
      ∀ scanData, AcceptedAs env response scanData → scanData.InRange zone other := by
  constructor
  · intro h scanData haccepts
    exact (rowsFit_iff hzone).mp (h.rows scanData haccepts)
  · intro h
    have hrows : ∀ scanData, AcceptedAs env response scanData → scanData.RowsFit env :=
      fun scanData haccepts => (rowsFit_iff hzone).mpr (h scanData haccepts)
    constructor
    case rows => exact hrows
    case saved =>
      intro scanData haccepts c stores file userId hanswered hcommits huser
      exact (hrows scanData haccepts).saves huser (hanswered.scans haccepts) hcommits

namespace Sample

/-- Half a kilo of apples. -/
def halfKilo : Json := .object [("receiptNumber", .string "18"), ("receiptDate", .string "2025-12-09"),
  ("supplierName", .string "Mega"), ("supplierTaxId", .string "RO1"), ("totalAmount", .number 4),
  ("items", .array [.object [("productName", .string "Mere"), ("categoryId", .number 3),
    ("confidence", .number 90), ("totalPrice", .number 4), ("itemPrice", .number 8),
    ("quantity", .number (1 / 2))]])]

lemma ninety_range : 0 ≤ (90 : ℤ) ∧ (90 : ℤ) ≤ 100 := by decide

def halfKiloData : N8nScanReceiptDto where
  receiptNumber := "18"
  receiptDate := "2025-12-09"
  supplierName := "Mega"
  supplierTaxId := "RO1"
  totalAmount := 4
  items := [.item ⟨"Mere", 3, 90, 4, 8, 1 / 2, ninety_range⟩]

/-- A server in Bucharest, in winter. -/
def bucharest : TimeZone := .fixed 7200

end Sample

open Sample in
/-- The response is accepted, and its quantity does not fit. -/
theorem halfKilo_not_acceptedFits :
    AcceptedAs (serverIn bucharest) halfKilo halfKiloData ∧ ¬AcceptedFits (serverIn bucharest) halfKilo := by
  have haccepts : AcceptedAs (serverIn bucharest) halfKilo halfKiloData := ⟨halfKilo, rfl, rfl⟩
  refine ⟨haccepts, fun h => ?_⟩
  obtain ⟨hfits, -⟩ := rowsFit_iff_columns.mp (h.rows _ haccepts)
  obtain ⟨i, hi, hstorable⟩ := hfits.items _ (List.mem_singleton_self _)
  obtain rfl := ScanItem.item.inj hi
  exact absurd hstorable.quantity.1 (by decide +kernel)

open Sample in
theorem acceptedFits_iff_ocrResponse :
    AcceptedAs (serverIn bucharest) ocrResponse scanData ∧ AcceptedFits (serverIn bucharest) ocrResponse := by
  have haccepts : AcceptedAs (serverIn bucharest) ocrResponse scanData := ⟨ocrResponse, rfl, rfl⟩
  have hdate : (dateColumnIn bucharest (fun _ => none) "2025-12-09").isSome := by decide +kernel
  refine ⟨haccepts, (acceptedFits_iff rfl ocrResponse).mpr ?_⟩
  rintro scanData' ⟨raw, hraw, hvalid⟩
  obtain rfl := Except.ok.inj hraw
  obtain rfl : scanData = scanData' := Option.some.inj hvalid
  exact ⟨scanData_fits, dateColumnIn_isSome.mp hdate⟩

end NextLevelApi
