import NextLevelApi.Core.AwsS3
import NextLevelApi.Library.Rounding
import Mathlib.Data.Rat.Floor

/-!
# From a scan to its rows

The reply of the OCR service, its validation as an `N8nScanReceiptDto`, the entities that
`scanAndSave` creates from it, and the columns that these go into.
-/

namespace NextLevelApi
open Fallible Rounding

/-- A JSON value as `JSON.parse` reads it; a number is the exact value of its double. -/
inductive Json
  | null
  | boolean (b : Bool)
  | number (x : ℚ)
  | infinity (negative : Bool)
  | string (s : String)
  | array (elements : List Json)
  | object (fields : List (String × Json))

namespace Json

def isString : Json → Option String
  | string s => some s
  | _ => none

/-- `@IsNumber()`, which refuses the infinities. -/
def isNumber : Json → Option ℚ
  | number x => some x
  | _ => none

def isInt : Json → Option ℤ
  | number x => if x.den = 1 then some x.num else none
  | _ => none

def isArray : Json → Option (List Json)
  | array elements => some elements
  | _ => none

end Json

structure ReceiptEnv where
  plainToInstance : Json → Except Exception Json
  isISO8601 : String → Bool
  /-- What a `date` column makes of `new Date(s)`. -/
  dateColumn : String → Option String

structure N8nReceiptItemDto where
  productName : String
  categoryId : ℤ
  confidence : ℤ
  totalPrice : ℚ
  itemPrice : ℚ
  quantity : ℚ
  confidence_range : 0 ≤ confidence ∧ confidence ≤ 100
  deriving DecidableEq

/-- What `validateOrReject` makes of the fields of an item: no property is missing, none is
unknown, and each passes the checks of its decorators. -/
def N8nReceiptItemDto.validate (fields : List (String × Json)) : Option N8nReceiptItemDto := do
  guard (fields.all fun field => field.1 ∈
    ["productName", "categoryId", "confidence", "totalPrice", "itemPrice", "quantity"])
  let productName ← (fields.lookup "productName").bind Json.isString
  let categoryId ← (fields.lookup "categoryId").bind Json.isInt
  let confidence ← (fields.lookup "confidence").bind Json.isInt
  let totalPrice ← (fields.lookup "totalPrice").bind Json.isNumber
  let itemPrice ← (fields.lookup "itemPrice").bind Json.isNumber
  let quantity ← (fields.lookup "quantity").bind Json.isNumber
  if h : 0 ≤ confidence ∧ confidence ≤ 100 then
    some ⟨productName, categoryId, confidence, totalPrice, itemPrice, quantity, h⟩
  else none

/-- An element of `items` that `@ValidateNested({ each: true })` lets through. It looks into a
nested array, whose elements it treats alike. -/
inductive ScanItem
  | item (dto : N8nReceiptItemDto)
  | array
  deriving DecidableEq

mutual

def ScanItem.validate : Json → Option ScanItem
  | .object fields => (N8nReceiptItemDto.validate fields).map .item
  | .array elements => (ScanItem.validateAll elements).map fun _ => .array
  | _ => none

def ScanItem.validateAll : List Json → Option (List ScanItem)
  | [] => some []
  | element :: elements => do
    let item ← ScanItem.validate element
    let items ← ScanItem.validateAll elements
    return item :: items

end

structure N8nScanReceiptDto where
  receiptNumber : String
  receiptDate : String
  supplierName : String
  supplierTaxId : String
  totalAmount : ℚ
  items : List ScanItem
  deriving DecidableEq

def N8nScanReceiptDto.validate (env : ReceiptEnv) : Json → Option N8nScanReceiptDto
  | .object fields => do
    guard (fields.all fun field => field.1 ∈
      ["receiptNumber", "receiptDate", "supplierName", "supplierTaxId", "totalAmount", "items"])
    let receiptNumber ← (fields.lookup "receiptNumber").bind Json.isString
    let receiptDate ← (fields.lookup "receiptDate").bind Json.isString
    guard (env.isISO8601 receiptDate)
    let supplierName ← (fields.lookup "supplierName").bind Json.isString
    let supplierTaxId ← (fields.lookup "supplierTaxId").bind Json.isString
    let totalAmount ← (fields.lookup "totalAmount").bind Json.isNumber
    let items ← (fields.lookup "items").bind Json.isArray
    let items ← ScanItem.validateAll items
    return ⟨receiptNumber, receiptDate, supplierName, supplierTaxId, totalAmount, items⟩
  | _ => none

/-! ### Columns -/

abbrev QueryFailedError (message : String) : Exception := .error "QueryFailedError" message

/-- A value of an `integer` column. -/
@[ext]
structure Int4 where
  val : ℤ
  range : -2147483648 ≤ val ∧ val < 2147483648
  deriving DecidableEq

/-- A number goes into an `integer` column if it is one. -/
def Int4.parse (x : ℚ) : Except Exception Int4 :=
  if x.den = 1 then
    if h : -2147483648 ≤ x.num ∧ x.num < 2147483648 then .ok ⟨x.num, h⟩
    else .error (QueryFailedError "value is out of range for type integer")
  else .error (QueryFailedError "invalid input syntax for type integer")

/-- A value of a `numeric(12, 2)` column. -/
structure Numeric where
  hundredths : ℤ
  precision : |hundredths| < 1000000000000
  deriving DecidableEq

/-- The text that `toFixed(2)` returns: a sign and hundredths, and from 10^21 on the number in
exponential notation. -/
inductive FixedText
  | plain (negative : Bool) (hundredths : ℕ)
  | exponential (x : ℚ)
  deriving DecidableEq

/-- `x.toFixed(2)` -/
def toFixed (x : ℚ) : FixedText :=
  if |x| < 1000000000000000000000 then .plain (x < 0) ⌊|x| * 100 + 1 / 2⌋.toNat
  else .exponential x

def Numeric.parse : FixedText → Except Exception Numeric
  | .plain negative hundredths =>
    if h : |if negative then -(hundredths : ℤ) else hundredths| < 1000000000000 then .ok ⟨_, h⟩
    else .error (QueryFailedError "numeric field overflow")
  | .exponential _ => .error (QueryFailedError "numeric field overflow")

/-- A text column takes any character but U+0000. -/
def parseText (s : String) : Except Exception String :=
  if '\x00' ∈ s.toList then .error (QueryFailedError "invalid byte sequence for encoding \"UTF8\": 0x00")
  else .ok s

def ReceiptEnv.parseDate (env : ReceiptEnv) (s : String) : Except Exception String :=
  match env.dateColumn s with
  | some date => .ok date
  | none => .error (QueryFailedError "invalid input syntax for type date")

/-! ### Entities and rows -/

structure Generated where
  id : Int4
  createdAt : ℕ
  updatedAt : ℕ
  deriving DecidableEq

/-- What `receiptRepo.create` is given. -/
structure NewReceipt where
  receiptNumber : String
  receiptDate : String
  supplierName : String
  supplierTaxId : String
  totalAmount : FixedText
  userId : ℕ
  s3Key : String

structure Receipt where
  id : Int4
  receiptNumber : String
  receiptDate : String
  supplierName : String
  supplierTaxId : String
  totalAmount : Numeric
  s3Key : String
  userId : Int4
  createdAt : ℕ
  updatedAt : ℕ
  deriving DecidableEq

/-- What `lineRepo.create` is given. -/
structure NewReceiptItem where
  name : String
  categoryId : ℤ
  totalPrice : FixedText
  itemPrice : FixedText
  quantity : ℚ
  categoryCalssificationConfidence : ℤ
  receiptId : Int4

structure ReceiptItem where
  id : Int4
  name : String
  categoryId : Int4
  totalPrice : Numeric
  itemPrice : Numeric
  quantity : Int4
  categoryCalssificationConfidence : Int4
  receiptId : Int4
  createdAt : ℕ
  updatedAt : ℕ
  deriving DecidableEq

def NewReceipt.create (scanData : N8nScanReceiptDto) (userId : ℕ) (s3Key : String) : NewReceipt where
  receiptNumber := scanData.receiptNumber
  receiptDate := scanData.receiptDate
  supplierName := scanData.supplierName
  supplierTaxId := scanData.supplierTaxId
  totalAmount := toFixed scanData.totalAmount
  userId := userId
  s3Key := s3Key

def NewReceipt.insert (env : ReceiptEnv) (receipt : NewReceipt) (generated : Generated) :
    Except Exception Receipt := do
  let receiptNumber ← parseText receipt.receiptNumber
  let receiptDate ← env.parseDate receipt.receiptDate
  let supplierName ← parseText receipt.supplierName
  let supplierTaxId ← parseText receipt.supplierTaxId
  let totalAmount ← Numeric.parse receipt.totalAmount
  let s3Key ← parseText receipt.s3Key
  let userId ← Int4.parse receipt.userId
  return {
    id := generated.id
    receiptNumber := receiptNumber
    receiptDate := receiptDate
    supplierName := supplierName
    supplierTaxId := supplierTaxId
    totalAmount := totalAmount
    s3Key := s3Key
    userId := userId
    createdAt := generated.createdAt
    updatedAt := generated.updatedAt }

/-- `scanData.items.map((i) => lineRepo.create({ ... }))`, for one item. -/
def NewReceiptItem.create (receiptId : Int4) : ScanItem → Except Exception NewReceiptItem
  | .item i => .ok {
      name := i.productName
      categoryId := i.categoryId
      totalPrice := toFixed i.totalPrice
      itemPrice := toFixed i.itemPrice
      quantity := i.quantity
      categoryCalssificationConfidence := i.confidence
      receiptId := receiptId }
  | .array => .error (.error "TypeError" "Cannot read properties of undefined (reading 'toFixed')")

def NewReceiptItem.insert (line : NewReceiptItem) (generated : Generated) :
    Except Exception ReceiptItem := do
  let name ← parseText line.name
  let categoryId ← Int4.parse line.categoryId
  let totalPrice ← Numeric.parse line.totalPrice
  let itemPrice ← Numeric.parse line.itemPrice
  let quantity ← Int4.parse line.quantity
  let confidence ← Int4.parse line.categoryCalssificationConfidence
  return {
    id := generated.id
    name := name
    categoryId := categoryId
    totalPrice := totalPrice
    itemPrice := itemPrice
    quantity := quantity
    categoryCalssificationConfidence := confidence
    receiptId := line.receiptId
    createdAt := generated.createdAt
    updatedAt := generated.updatedAt }

/-- The insert of all lines of a receipt, `generated` being what it gives to each. -/
def insertItems (lines : List NewReceiptItem) (generated : ℕ → Generated) :
    Except Exception (List ReceiptItem) :=
  lines.zipIdx.mapM fun (line, i) => line.insert (generated i)

/-! ### What the rows show -/

/-- The row holds what the scan read, its amount to the nearest cent. -/
structure Receipt.Shows (row : Receipt) (scanData : N8nScanReceiptDto) : Prop where
  receiptNumber : row.receiptNumber = scanData.receiptNumber
  supplierName : row.supplierName = scanData.supplierName
  supplierTaxId : row.supplierTaxId = scanData.supplierTaxId
  totalAmount : Nearest (scanData.totalAmount * 100) row.totalAmount.hundredths

structure ReceiptItem.Shows (row : ReceiptItem) (i : N8nReceiptItemDto) : Prop where
  name : row.name = i.productName
  categoryId : row.categoryId.val = i.categoryId
  totalPrice : Nearest (i.totalPrice * 100) row.totalPrice.hundredths
  itemPrice : Nearest (i.itemPrice * 100) row.itemPrice.hundredths
  quantity : (row.quantity.val : ℚ) = i.quantity
  confidence : row.categoryCalssificationConfidence.val = i.confidence

lemma parseText_ok {s text : String} (h : parseText s = .ok text) : text = s := by
  unfold parseText at h
  split_ifs at h
  exact (Except.ok.inj h).symm

lemma Int4.parse_ok {x : ℚ} {n : Int4} (h : Int4.parse x = .ok n) : (n.val : ℚ) = x := by
  unfold Int4.parse at h
  split_ifs at h with hden hrange
  obtain rfl := Except.ok.inj h
  exact (Rat.den_eq_one_iff x).mp hden

lemma Int4.parse_intCast {k : ℤ} {n : Int4} (h : Int4.parse k = .ok n) : n.val = k := by
  exact_mod_cast Int4.parse_ok h

lemma Numeric.parse_plain {negative : Bool} {hundredths : ℕ} {n : Numeric}
    (h : Numeric.parse (.plain negative hundredths) = .ok n) :
    n.hundredths = if negative then -(hundredths : ℤ) else hundredths := by
  dsimp only [Numeric.parse] at h
  by_cases hprecision : |if negative then -(hundredths : ℤ) else hundredths| < 1000000000000
  · rw [dif_pos hprecision] at h
    exact (congrArg Numeric.hundredths (Except.ok.inj h)).symm
  · rw [dif_neg hprecision] at h
    exact absurd h (by simp)

lemma Numeric.parse_toFixed {x : ℚ} {n : Numeric} (h : Numeric.parse (toFixed x) = .ok n) :
    Nearest (x * 100) n.hundredths := by
  have hnearest : Nearest (|x| * 100) ⌊|x| * 100 + 1 / 2⌋ := nearest_floor (by positivity)
  have hfloor : 0 ≤ ⌊|x| * 100 + 1 / 2⌋ := Int.floor_nonneg.mpr (by positivity)
  unfold toFixed at h
  split_ifs at h with hplain
  · rw [Numeric.parse_plain h, Int.toNat_of_nonneg hfloor]
    by_cases hx : x < 0
    · have hneg := hnearest.neg
      have habs : -(|x| * 100) = x * 100 := by rw [abs_of_neg hx]; ring
      rw [habs] at hneg
      simpa only [hx, decide_true, if_true] using hneg
    · have habs : |x| = x := abs_of_nonneg (not_lt.mp hx)
      rw [habs] at hnearest ⊢
      simpa only [hx, decide_false, Bool.false_eq_true, if_false] using hnearest
  · exact absurd h (by simp [Numeric.parse])

lemma NewReceipt.insert_ok {env : ReceiptEnv} {scanData : N8nScanReceiptDto} {userId : ℕ} {s3Key : String}
    {generated : Generated} {row : Receipt}
    (h : (NewReceipt.create scanData userId s3Key).insert env generated = .ok row) :
    row.Shows scanData ∧ row.id = generated.id ∧ row.userId.val = userId ∧ row.s3Key = s3Key := by
  obtain ⟨receiptNumber, hnumber, h⟩ := bind_eq_ok.mp h
  obtain ⟨date, -, h⟩ := bind_eq_ok.mp h
  obtain ⟨supplierName, hname, h⟩ := bind_eq_ok.mp h
  obtain ⟨supplierTaxId, htax, h⟩ := bind_eq_ok.mp h
  obtain ⟨totalAmount, hamount, h⟩ := bind_eq_ok.mp h
  obtain ⟨key, hkey, h⟩ := bind_eq_ok.mp h
  obtain ⟨user, huser, h⟩ := bind_eq_ok.mp h
  obtain rfl := Except.ok.inj h
  exact ⟨⟨parseText_ok hnumber, parseText_ok hname, parseText_ok htax, Numeric.parse_toFixed hamount⟩, rfl,
    by exact_mod_cast Int4.parse_ok huser, parseText_ok hkey⟩

lemma NewReceiptItem.create_isOk {item : ScanItem} {receiptId : Int4} :
    (∃ line, NewReceiptItem.create receiptId item = .ok line) ↔ ∃ i, item = .item i := by
  cases item <;> simp [NewReceiptItem.create]

lemma NewReceiptItem.insert_ok {item : ScanItem} {receiptId : Int4} {line : NewReceiptItem}
    {generated : Generated} {row : ReceiptItem} (hline : NewReceiptItem.create receiptId item = .ok line)
    (h : line.insert generated = .ok row) :
    (∃ i, item = .item i ∧ row.Shows i) ∧ row.receiptId = receiptId := by
  obtain ⟨i, rfl⟩ := NewReceiptItem.create_isOk.mp ⟨_, hline⟩
  obtain rfl := Except.ok.inj hline
  obtain ⟨name, hname, h⟩ := bind_eq_ok.mp h
  obtain ⟨categoryId, hcategory, h⟩ := bind_eq_ok.mp h
  obtain ⟨totalPrice, htotal, h⟩ := bind_eq_ok.mp h
  obtain ⟨itemPrice, hprice, h⟩ := bind_eq_ok.mp h
  obtain ⟨quantity, hquantity, h⟩ := bind_eq_ok.mp h
  obtain ⟨confidence, hconfidence, h⟩ := bind_eq_ok.mp h
  obtain rfl := Except.ok.inj h
  exact ⟨⟨i, rfl, parseText_ok hname, Int4.parse_intCast hcategory, Numeric.parse_toFixed htotal,
    Numeric.parse_toFixed hprice, Int4.parse_ok hquantity, Int4.parse_intCast hconfidence⟩, rfl⟩

lemma NewReceiptItem.insert_id {line : NewReceiptItem} {generated : Generated} {row : ReceiptItem}
    (h : line.insert generated = .ok row) : row.id = generated.id := by
  obtain ⟨_, -, h⟩ := bind_eq_ok.mp h
  obtain ⟨_, -, h⟩ := bind_eq_ok.mp h
  obtain ⟨_, -, h⟩ := bind_eq_ok.mp h
  obtain ⟨_, -, h⟩ := bind_eq_ok.mp h
  obtain ⟨_, -, h⟩ := bind_eq_ok.mp h
  obtain ⟨_, -, h⟩ := bind_eq_ok.mp h
  obtain rfl := Except.ok.inj h
  rfl

/-- The rows of all lines, in the order of the items. -/
theorem insertItems_ok {items : List ScanItem} {receiptId : Int4} {lines : List NewReceiptItem}
    {generated : ℕ → Generated} {rows : List ReceiptItem}
    (hlines : items.mapM (NewReceiptItem.create receiptId) = .ok lines)
    (h : insertItems lines generated = .ok rows) :
    List.Forall₂ (fun item row => ∃ i, item = .item i ∧ ReceiptItem.Shows row i) items rows ∧
      ∀ row ∈ rows, row.receiptId = receiptId := by
  have hinserted :
      List.Forall₂ (fun line row => ∃ generated, line.insert generated = .ok row) lines rows := by
    rw [← List.zipIdx_map_fst 0 lines, List.forall₂_map_left_iff]
    exact (mapM_eq_ok h).imp fun line _ hrow => ⟨generated line.2, hrow⟩
  have hcreated := mapM_eq_ok hlines
  clear h hlines
  induction hcreated generalizing rows with
  | nil =>
    cases hinserted
    exact ⟨.nil, by simp⟩
  | cons hline _ ih =>
    obtain _ | ⟨⟨generated, hrow⟩, hrows⟩ := hinserted
    obtain ⟨hshows, hreceipt⟩ := NewReceiptItem.insert_ok hline hrow
    obtain ⟨hall, hreceipts⟩ := ih hrows
    exact ⟨.cons hshows hall, List.forall_mem_cons.mpr ⟨hreceipt, hreceipts⟩⟩

/-! ### What fits into the columns -/

def FitsInt4 (x : ℚ) : Prop := x.den = 1 ∧ -2147483648 ≤ x.num ∧ x.num < 2147483648

/-- The number rounds to less than 10^10. -/
def FitsNumeric (x : ℚ) : Prop := |x| * 100 + 1 / 2 < 1000000000000

def HasNoNul (s : String) : Prop := '\x00' ∉ s.toList

/-- The bounds that an item has to keep. The validator checks none of them. -/
structure N8nReceiptItemDto.Storable (i : N8nReceiptItemDto) : Prop where
  productName : HasNoNul i.productName
  categoryId : -2147483648 ≤ i.categoryId ∧ i.categoryId < 2147483648
  totalPrice : FitsNumeric i.totalPrice
  itemPrice : FitsNumeric i.itemPrice
  quantity : FitsInt4 i.quantity

/-- Everything that is read but the date fits its column, and every element of `items` is an item. -/
structure N8nScanReceiptDto.FitsButDate (scanData : N8nScanReceiptDto) : Prop where
  receiptNumber : HasNoNul scanData.receiptNumber
  supplierName : HasNoNul scanData.supplierName
  supplierTaxId : HasNoNul scanData.supplierTaxId
  totalAmount : FitsNumeric scanData.totalAmount
  items : ∀ item ∈ scanData.items, ∃ i, item = .item i ∧ i.Storable

structure N8nScanReceiptDto.Storable (env : ReceiptEnv) (userId : ℕ)
    (scanData : N8nScanReceiptDto) : Prop extends scanData.FitsButDate where
  receiptDate : (env.dateColumn scanData.receiptDate).isSome
  userId : FitsInt4 userId

lemma parseText_isOk {s : String} : (∃ text, parseText s = .ok text) ↔ HasNoNul s := by
  unfold parseText HasNoNul
  split_ifs with h <;> simp [h]

lemma Int4.parse_isOk {x : ℚ} : (∃ n, Int4.parse x = .ok n) ↔ FitsInt4 x := by
  unfold Int4.parse FitsInt4
  split_ifs with hden hrange
  · exact ⟨fun _ => ⟨hden, hrange⟩, fun _ => ⟨_, rfl⟩⟩
  · exact ⟨fun ⟨_, h⟩ => absurd h (by simp), fun h => absurd h.2 hrange⟩
  · exact ⟨fun ⟨_, h⟩ => absurd h (by simp), fun h => absurd h.1 hden⟩

lemma fitsInt4_intCast {k : ℤ} : FitsInt4 k ↔ -2147483648 ≤ k ∧ k < 2147483648 := by
  simp [FitsInt4]

lemma Numeric.parse_plain_isOk {negative : Bool} {hundredths : ℕ} :
    (∃ n, Numeric.parse (.plain negative hundredths) = .ok n) ↔ hundredths < 1000000000000 := by
  have habs : |if negative then -(hundredths : ℤ) else hundredths| = hundredths := by
    cases negative <;> simp
  dsimp only [Numeric.parse]
  by_cases hprecision : |if negative then -(hundredths : ℤ) else hundredths| < 1000000000000
  · rw [dif_pos hprecision]
    exact ⟨fun _ => by omega, fun _ => ⟨_, rfl⟩⟩
  · rw [dif_neg hprecision]
    exact ⟨fun ⟨_, h⟩ => absurd h (by simp), fun _ => by omega⟩

lemma Numeric.parse_isOk {x : ℚ} : (∃ n, Numeric.parse (toFixed x) = .ok n) ↔ FitsNumeric x := by
  unfold toFixed
  split_ifs with hplain
  · have hfloor : 0 ≤ ⌊|x| * 100 + 1 / 2⌋ := Int.floor_nonneg.mpr (by positivity)
    have hlt : FitsNumeric x ↔ ⌊|x| * 100 + 1 / 2⌋ < 1000000000000 := by
      rw [Int.floor_lt]
      exact_mod_cast Iff.rfl
    rw [Numeric.parse_plain_isOk, hlt]
    omega
  · have hlarge : ¬FitsNumeric x := by
      unfold FitsNumeric
      linarith
    exact ⟨fun ⟨_, h⟩ => absurd h (by simp [Numeric.parse]), fun h => absurd h hlarge⟩

lemma ReceiptEnv.parseDate_isOk {env : ReceiptEnv} {s : String} :
    (∃ date, env.parseDate s = .ok date) ↔ (env.dateColumn s).isSome := by
  unfold ReceiptEnv.parseDate
  cases env.dateColumn s <;> simp

lemma NewReceipt.insert_isOk {env : ReceiptEnv} {scanData : N8nScanReceiptDto} {userId : ℕ}
    {s3Key : String} {generated : Generated} (hkey : HasNoNul s3Key) :
    (∃ row, (NewReceipt.create scanData userId s3Key).insert env generated = .ok row) ↔
      HasNoNul scanData.receiptNumber ∧ (env.dateColumn scanData.receiptDate).isSome ∧
        HasNoNul scanData.supplierName ∧ HasNoNul scanData.supplierTaxId ∧
        FitsNumeric scanData.totalAmount ∧ FitsInt4 userId := by
  simp only [← parseText_isOk, ← ReceiptEnv.parseDate_isOk, ← Numeric.parse_isOk, ← Int4.parse_isOk]
  constructor
  · rintro ⟨row, h⟩
    obtain ⟨receiptNumber, hnumber, h⟩ := bind_eq_ok.mp h
    obtain ⟨date, hdate, h⟩ := bind_eq_ok.mp h
    obtain ⟨supplierName, hname, h⟩ := bind_eq_ok.mp h
    obtain ⟨supplierTaxId, htax, h⟩ := bind_eq_ok.mp h
    obtain ⟨totalAmount, hamount, h⟩ := bind_eq_ok.mp h
    obtain ⟨_, -, h⟩ := bind_eq_ok.mp h
    obtain ⟨user, huser, -⟩ := bind_eq_ok.mp h
    exact ⟨⟨_, hnumber⟩, ⟨_, hdate⟩, ⟨_, hname⟩, ⟨_, htax⟩, ⟨_, hamount⟩, ⟨_, huser⟩⟩
  · rintro ⟨⟨_, hnumber⟩, ⟨_, hdate⟩, ⟨_, hname⟩, ⟨_, htax⟩, ⟨_, hamount⟩, ⟨_, huser⟩⟩
    obtain ⟨_, hkey⟩ := parseText_isOk.mpr hkey
    exact ⟨_, bind_eq_ok.mpr ⟨_, hnumber, bind_eq_ok.mpr ⟨_, hdate, bind_eq_ok.mpr ⟨_, hname,
      bind_eq_ok.mpr ⟨_, htax, bind_eq_ok.mpr ⟨_, hamount, bind_eq_ok.mpr ⟨_, hkey,
      bind_eq_ok.mpr ⟨_, huser, rfl⟩⟩⟩⟩⟩⟩⟩⟩

lemma fitsInt4_confidence (i : N8nReceiptItemDto) : FitsInt4 i.confidence := by
  obtain ⟨hlow, hhigh⟩ := i.confidence_range
  exact ⟨Rat.den_intCast _, by simp only [Rat.num_intCast]; omega, by simp only [Rat.num_intCast]; omega⟩

/-- Whether a line can be inserted does not depend on what the database generates for it. -/
lemma NewReceiptItem.insert_isOk {i : N8nReceiptItemDto} {receiptId : Int4} {line : NewReceiptItem}
    {generated : Generated} (hline : NewReceiptItem.create receiptId (.item i) = .ok line) :
    (∃ row, line.insert generated = .ok row) ↔ i.Storable := by
  obtain rfl := Except.ok.inj hline
  constructor
  · rintro ⟨row, h⟩
    obtain ⟨name, hname, h⟩ := bind_eq_ok.mp h
    obtain ⟨categoryId, hcategory, h⟩ := bind_eq_ok.mp h
    obtain ⟨totalPrice, htotal, h⟩ := bind_eq_ok.mp h
    obtain ⟨itemPrice, hprice, h⟩ := bind_eq_ok.mp h
    obtain ⟨quantity, hquantity, -⟩ := bind_eq_ok.mp h
    exact ⟨parseText_isOk.mp ⟨_, hname⟩, fitsInt4_intCast.mp (Int4.parse_isOk.mp ⟨_, hcategory⟩),
      Numeric.parse_isOk.mp ⟨_, htotal⟩, Numeric.parse_isOk.mp ⟨_, hprice⟩,
      Int4.parse_isOk.mp ⟨_, hquantity⟩⟩
  · rintro ⟨hname, hcategory, htotal, hprice, hquantity⟩
    obtain ⟨name, hname⟩ := parseText_isOk.mpr hname
    obtain ⟨categoryId, hcategory⟩ := Int4.parse_isOk.mpr (fitsInt4_intCast.mpr hcategory)
    obtain ⟨totalPrice, htotal⟩ := Numeric.parse_isOk.mpr htotal
    obtain ⟨itemPrice, hprice⟩ := Numeric.parse_isOk.mpr hprice
    obtain ⟨quantity, hquantity⟩ := Int4.parse_isOk.mpr hquantity
    obtain ⟨confidence, hconfidence⟩ := Int4.parse_isOk.mpr (fitsInt4_confidence i)
    exact ⟨_, bind_eq_ok.mpr ⟨_, hname, bind_eq_ok.mpr ⟨_, hcategory, bind_eq_ok.mpr ⟨_, htotal,
      bind_eq_ok.mpr ⟨_, hprice, bind_eq_ok.mpr ⟨_, hquantity, bind_eq_ok.mpr ⟨_, hconfidence, rfl⟩⟩⟩⟩⟩⟩⟩

theorem insertItems_isOk {items : List ScanItem} (receiptId : Int4) (generated : ℕ → Generated) :
    (∃ lines, items.mapM (NewReceiptItem.create receiptId) = .ok lines ∧
        ∃ rows, insertItems lines generated = .ok rows) ↔
      ∀ item ∈ items, ∃ i, item = .item i ∧ i.Storable := by
  constructor
  · rintro ⟨lines, hlines, hrows⟩ item hitem
    obtain ⟨line, hmem, hline⟩ := (mem_of_forall₂ (mapM_eq_ok hlines)).1 item hitem
    rw [← List.zipIdx_map_fst 0 lines] at hmem
    obtain ⟨⟨_, k⟩, hzip, rfl⟩ := List.mem_map.mp hmem
    have hrow := mapM_isOk.mp hrows _ hzip
    obtain ⟨i, rfl⟩ := NewReceiptItem.create_isOk.mp ⟨_, hline⟩
    exact ⟨i, rfl, (NewReceiptItem.insert_isOk hline).mp hrow⟩
  · intro hitems
    have hcreate : ∀ item ∈ items, ∃ line, NewReceiptItem.create receiptId item = .ok line :=
      fun item hitem => NewReceiptItem.create_isOk.mpr ((hitems item hitem).imp fun _ h => h.1)
    obtain ⟨lines, hlines⟩ := mapM_isOk.mpr hcreate
    refine ⟨lines, hlines, mapM_isOk.mpr ?_⟩
    rintro ⟨line, k⟩ hzip
    have hmem : line ∈ lines := by
      rw [← List.zipIdx_map_fst 0 lines]
      exact List.mem_map_of_mem hzip
    obtain ⟨item, hitem, hline⟩ := (mem_of_forall₂ (mapM_eq_ok hlines)).2 line hmem
    obtain ⟨i, rfl, hstorable⟩ := hitems item hitem
    exact (NewReceiptItem.insert_isOk hline).mpr hstorable

end NextLevelApi
