import NextLevelApi.Http
import NextLevelApi.Library.Fallible
import NextLevelApi.Library.JsObject

/-!
# The WinMentor adapter

`WmeAdapter.getDashboard` and `getPurchaseInvoices` on what WinMentor answers: rows of
strings, whose amounts are read one by one and, for the dashboard, added up in
dictionaries that are plain objects.
-/

namespace NextLevelApi
open Fallible JsNumber

structure WmeAccountsReceivableDto where
  TipDocument : String
  Moneda : String
  Rest : String

structure WmePurchaseInvoiceItemDto where
  CodLinieDocument : String
  Denumire : String
  UM : String
  Cant : String
  Pret : String
  ProcTVA : String
  Impozabil : String

structure WmePurchaseInvoiceDto where
  TipDocument : String
  CodIntr : String
  Data : String
  Furnizor : String
  IDFurnizor : String
  Valoare : String
  UltimaPlata : String
  Observatii : String
  Items : Option (List WmePurchaseInvoiceItemDto)

structure PaginatedRequestDto where
  pageNumber : ℚ
  pageSize : ℚ

/-- What the endpoints of WinMentor answer. -/
structure WinMentor where
  getSolduriClienti : Except Exception (List WmeAccountsReceivableDto)
  getSolduriFurnizori : Except Exception (List WmeAccountsReceivableDto)
  getInfoFacturiFurnizori : (pagina inregistrari : ℚ) → Except Exception (List WmePurchaseInvoiceDto)

structure CurrencyAmount where
  currency : String
  amount : JsNumber
  deriving DecidableEq

structure DashboardDataDto where
  amountAccountsReceivableInvoices : List CurrencyAmount
  amountAccountReceivableAdvancePayments : List CurrencyAmount
  amountAccountsPayableInvoices : List CurrencyAmount
  amountAccountPayableAdvancePayments : List CurrencyAmount
  deriving DecidableEq

inductive DocumentKind
  | Receipt
  | PurchaseInvoice
  deriving DecidableEq

structure PurchaseInvoiceItemDto where
  id : String
  name : String
  price : JsNumber
  quantity : JsNumber
  taxable : Bool
  measureUnit : String
  vatPercentage : String
  deriving DecidableEq

structure PurchaseInvoiceDto where
  id : String
  documentKind : DocumentKind
  supplier : String
  supplierFiscalCode : String
  createdAt : String
  notes : String
  lastPayment : String
  total : JsNumber
  purchaseInvoiceItems : Option (List PurchaseInvoiceItemDto)
  deriving DecidableEq

section Adapter

variable (A : Arithmetic)

/-- `Number(text.replace(',', '.'))`, as every amount is read. -/
@[irreducible]
def readAmount (text : String) : JsNumber := ofText A (String.ofList (replaceComma text.toList))

namespace WmeMapper

def toPurchaseInvoiceItemDto (raw : WmePurchaseInvoiceItemDto) : PurchaseInvoiceItemDto where
  id := raw.CodLinieDocument
  name := raw.Denumire
  price := readAmount A raw.Pret
  quantity := readAmount A raw.Cant
  taxable := raw.Impozabil = "DA"
  measureUnit := raw.UM
  vatPercentage := raw.ProcTVA

def toPurchaseInvoiceDto (raw : WmePurchaseInvoiceDto) : PurchaseInvoiceDto where
  id := raw.CodIntr
  documentKind := if raw.TipDocument = "BON FISCAL" then .Receipt else .PurchaseInvoice
  supplier := raw.Furnizor
  supplierFiscalCode := raw.IDFurnizor
  createdAt := raw.Data
  notes := raw.Observatii
  lastPayment := raw.UltimaPlata
  total := toFixed2 A (readAmount A raw.Valoare)
  purchaseInvoiceItems := raw.Items.map (·.map (toPurchaseInvoiceItemDto A))

end WmeMapper

/-! ### The dictionaries of the dashboard -/

/-- One of the four dictionaries, an amount added under its currency. -/
def addAmount (d : JsObject) (currency : String) (amount : JsNumber) : JsObject :=
  if d.has currency then d.plusAssign A currency amount else d.set currency (.number amount)

/-- The two dictionaries that the loop over one list of rows fills. -/
structure Dictionaries where
  advancePayments : JsObject
  invoices : JsObject

def Dictionaries.addRow (d : Dictionaries) (item : WmeAccountsReceivableDto) : Dictionaries :=
  if item.TipDocument = "Avans" then
    { d with advancePayments := addAmount A d.advancePayments item.Moneda (readAmount A item.Rest) }
  else if item.TipDocument = "Factura" then
    { d with invoices := addAmount A d.invoices item.Moneda (readAmount A item.Rest) }
  else d

def dictionaries (rows : List WmeAccountsReceivableDto) : Dictionaries :=
  rows.foldl (Dictionaries.addRow A) ⟨.empty, .empty⟩

/-- `Object.entries(dictionary).map(([currency, amount]) => ({ ... }))` -/
def toArray (d : JsObject) : List CurrencyAmount :=
  d.entries.map fun (currency, amount) => ⟨currency, mathRound (amount.toNumber A)⟩

namespace WmeAdapter

def getDashboard (api : WinMentor) : Except Exception DashboardDataDto := do
  let receivable := dictionaries A (← api.getSolduriClienti)
  let advancePaymentsArrayReceivable := toArray A receivable.advancePayments
  let invoicesArrayPayableReceivable := toArray A receivable.invoices
  let payable := dictionaries A (← api.getSolduriFurnizori)
  let advancePaymentsArrayPayable := toArray A payable.advancePayments
  let invoicesArrayPayable := toArray A payable.invoices
  return {
    amountAccountsReceivableInvoices := invoicesArrayPayableReceivable
    amountAccountReceivableAdvancePayments := advancePaymentsArrayReceivable
    amountAccountsPayableInvoices := invoicesArrayPayable
    amountAccountPayableAdvancePayments := advancePaymentsArrayPayable }

def getPurchaseInvoices (api : WinMentor) (pagination : PaginatedRequestDto) :
    Except Exception (List PurchaseInvoiceDto) := do
  let infoFacturi ← api.getInfoFacturiFurnizori pagination.pageNumber pagination.pageSize
  return infoFacturi.map (WmeMapper.toPurchaseInvoiceDto A)

end WmeAdapter

end Adapter

/-! ### What a dictionary holds -/

section Dictionary

variable {A : Arithmetic} {d : JsObject} {currency k : String} {x : JsNumber}
open JsObject

lemma own_addAmount_of_ne (hk : k ≠ currency) : (addAmount A d currency x).own k = d.own k := by
  have hset : ∀ v, (d.set currency v).own k = d.own k := by
    intro v
    by_cases hproto : currency = "__proto__"
    · rw [JsObject.set, if_pos hproto]
    · rw [own_set hproto, if_neg hk]
  unfold addAmount plusAssign
  split_ifs
  · cases d.get currency with
    | none => exact hset _
    | some v => exact hset _
  · exact hset _

/-- The prototype cannot be replaced by a number or a text. -/
lemma addAmount_proto : addAmount A d "__proto__" x = d := by
  have hset : ∀ v, d.set "__proto__" v = d := fun v => if_pos rfl
  unfold addAmount plusAssign
  split_ifs
  · cases d.get "__proto__" with
    | none => exact hset _
    | some v => exact hset _
  · exact hset _

lemma addAmount_of_get {v : JsValue} (hget : d.get k = some v) :
    addAmount A d k x = d.set k (v.plus A x) := by
  rw [addAmount, has, hget, if_pos Option.isSome_some, plusAssign, hget]

lemma own_addAmount_number {y : JsNumber} (hproto : k ≠ "__proto__") (hown : d.own k = some (.number y)) :
    (addAmount A d k x).own k = some (.number (add A y x)) := by
  have hget : d.get k = some (.number y) := by rw [JsObject.get, hown, Option.some_or]
  rw [addAmount_of_get hget, own_set hproto, if_pos rfl]
  rfl

lemma own_addAmount_new (hproto : k ≠ "__proto__") (hk : k ∉ inheritedFunctions) (hown : d.own k = none) :
    (addAmount A d k x).own k = some (.number x) := by
  have hget : d.get k = none := by
    rw [JsObject.get, hown, inherited_eq_none hk hproto]
    rfl
  rw [addAmount, has, hget, if_neg (by simp), own_set hproto, if_pos rfl]

/-- What is added to an inherited function is appended to its text. -/
lemma own_addAmount_function (hk : k ∈ inheritedFunctions)
    (hown : d.own k = none ∨ ∃ v, d.own k = some v ∧ IsFunctionText v) :
    ∃ v, (addAmount A d k x).own k = some v ∧ IsFunctionText v := by
  have hproto : k ≠ "__proto__" := by
    rintro rfl
    exact absurd hk (by decide)
  obtain ⟨v, hget, hv⟩ : ∃ v, d.get k = some v ∧ IsFunctionText v := by
    obtain hown | ⟨v, hown, hv⟩ := hown
    · obtain ⟨s, hs, htext⟩ := inherited_function hk
      exact ⟨_, by rw [JsObject.get, hown, hs]; rfl, htext⟩
    · exact ⟨v, by rw [JsObject.get, hown, Option.some_or], hv⟩
  exact ⟨v.plus A x, by rw [addAmount_of_get hget, own_set hproto, if_pos rfl], hv.plus x⟩

/-- What is kept under a currency after some amounts in it. -/
def Recorded (A : Arithmetic) (k : String) (amounts : List JsNumber) (kept : Option JsValue) : Prop :=
  if k = "__proto__" ∨ amounts = [] then kept = none
  else if k ∈ inheritedFunctions then ∃ v, kept = some v ∧ IsFunctionText v
  else kept = some (.number (total A amounts))

lemma recorded_concat {amounts : List JsNumber} (h : Recorded A k amounts (d.own k)) :
    Recorded A k (amounts ++ [x]) ((addAmount A d k x).own k) := by
  by_cases hproto : k = "__proto__"
  · subst hproto
    rw [addAmount_proto]
    simpa [Recorded] using h
  · have hne : ¬(k = "__proto__" ∨ amounts ++ [x] = []) := by simp [hproto]
    rw [Recorded, if_neg hne]
    by_cases hamounts : amounts = []
    · have hown : d.own k = none := by simpa [Recorded, hamounts] using h
      by_cases hk : k ∈ inheritedFunctions
      · rw [if_pos hk]
        exact own_addAmount_function hk (.inl hown)
      · rw [if_neg hk, own_addAmount_new hproto hk hown, hamounts]
        rfl
    · rw [Recorded, if_neg (by simp [hproto, hamounts])] at h
      by_cases hk : k ∈ inheritedFunctions
      · rw [if_pos hk] at h ⊢
        exact own_addAmount_function hk (.inr h)
      · rw [if_neg hk] at h ⊢
        rw [own_addAmount_number hproto h, total_concat hamounts]

/-- All amounts, each under its currency. -/
def addAll (A : Arithmetic) (amounts : List (String × JsNumber)) : JsObject :=
  amounts.foldl (fun d p => addAmount A d p.1 p.2) .empty

def amountsIn (k : String) (amounts : List (String × JsNumber)) : List JsNumber :=
  (amounts.filter (·.1 = k)).map Prod.snd

theorem recorded_addAll (amounts : List (String × JsNumber)) (k : String) :
    Recorded A k (amountsIn k amounts) ((addAll A amounts).own k) := by
  induction amounts using List.reverseRecOn with
  | nil => simp [Recorded, amountsIn, addAll, JsObject.empty, own]
  | append_singleton amounts p ih =>
    obtain ⟨currency, x⟩ := p
    have hstep : addAll A (amounts ++ [(currency, x)]) = addAmount A (addAll A amounts) currency x := by
      simp [addAll]
    rw [hstep]
    by_cases hk : currency = k
    · subst hk
      have hamounts : amountsIn currency (amounts ++ [(currency, x)]) =
          amountsIn currency amounts ++ [x] := by
        simp [amountsIn]
      rw [hamounts]
      exact recorded_concat ih
    · have hamounts : amountsIn k (amounts ++ [(currency, x)]) = amountsIn k amounts := by
        simp [amountsIn, hk]
      rw [hamounts, own_addAmount_of_ne (Ne.symm hk)]
      exact ih

/-! ### What the arrays hold -/

/-- The amounts on the rows of one document type. -/
def amountsOf (A : Arithmetic) (type : String) (rows : List WmeAccountsReceivableDto) :
    List (String × JsNumber) :=
  (rows.filter (·.TipDocument = type)).map fun row => (row.Moneda, readAmount A row.Rest)

/-- The two dictionaries are filled independently. -/
theorem dictionaries_eq (rows : List WmeAccountsReceivableDto) : dictionaries A rows =
    ⟨addAll A (amountsOf A "Avans" rows), addAll A (amountsOf A "Factura" rows)⟩ := by
  induction rows using List.reverseRecOn with
  | nil => rfl
  | append_singleton rows row ih =>
    have hstep : dictionaries A (rows ++ [row]) = (dictionaries A rows).addRow A row := by
      simp [dictionaries]
    rw [hstep, ih, Dictionaries.addRow]
    by_cases havans : row.TipDocument = "Avans"
    · simp [amountsOf, addAll, havans]
    · by_cases hfactura : row.TipDocument = "Factura"
      · simp [amountsOf, addAll, hfactura]
      · simp [amountsOf, havans, hfactura]

lemma nodup_toArray (d : JsObject) : ((toArray A d).map CurrencyAmount.currency).Nodup := by
  have hcurrencies : (toArray A d).map CurrencyAmount.currency = d.entries.map Prod.fst := by
    rw [toArray, List.map_map]
    rfl
  rw [hcurrencies]
  exact d.nodup_entries

/-- An entry for each currency but `__proto__`, and NaN where the currency is the name of a
function. -/
theorem mem_toArray {amounts : List (String × JsNumber)} {entry : CurrencyAmount} :
    entry ∈ toArray A (addAll A amounts) ↔
      entry.currency ≠ "__proto__" ∧ amountsIn entry.currency amounts ≠ [] ∧
      entry.amount = if entry.currency ∈ inheritedFunctions then .nan
        else mathRound (total A (amountsIn entry.currency amounts)) := by
  have hrecorded := recorded_addAll (A := A) amounts entry.currency
  have hmem : entry ∈ toArray A (addAll A amounts) ↔
      ∃ v, (addAll A amounts).own entry.currency = some v ∧ entry.amount = mathRound (v.toNumber A) := by
    simp only [toArray, List.mem_map, Prod.exists]
    constructor
    · rintro ⟨currency, v, hv, rfl⟩
      exact ⟨v, mem_entries.mp hv, rfl⟩
    · rintro ⟨v, hv, hamount⟩
      exact ⟨entry.currency, v, mem_entries.mpr hv, by rw [← hamount]⟩
  rw [hmem]
  unfold Recorded at hrecorded
  split_ifs at hrecorded with hnone hfunction
  · rw [hrecorded]
    constructor
    · rintro ⟨v, hv, -⟩
      exact absurd hv (by simp)
    · rintro ⟨hproto, hne, -⟩
      exact absurd hnone (by simp [hproto, hne])
  · obtain ⟨v, hown, hv⟩ := hrecorded
    obtain ⟨hproto, hne⟩ := not_or.mp hnone
    rw [hown, if_pos hfunction]
    have hnan : mathRound (v.toNumber A) = .nan := mathRound_eq_nan.mpr hv.toNumber
    constructor
    · rintro ⟨w, hw, hamount⟩
      obtain rfl := Option.some.inj hw
      exact ⟨hproto, hne, hamount.trans hnan⟩
    · rintro ⟨-, -, hamount⟩
      exact ⟨v, rfl, hamount.trans hnan.symm⟩
  · obtain ⟨hproto, hne⟩ := not_or.mp hnone
    rw [hrecorded, if_neg hfunction]
    constructor
    · rintro ⟨w, hw, hamount⟩
      obtain rfl := Option.some.inj hw
      exact ⟨hproto, hne, hamount⟩
    · rintro ⟨-, -, hamount⟩
      exact ⟨_, rfl, hamount⟩

lemma mem_currencies {amounts : List (String × JsNumber)} :
    k ∈ (toArray A (addAll A amounts)).map CurrencyAmount.currency ↔
      k ≠ "__proto__" ∧ amountsIn k amounts ≠ [] := by
  simp only [List.mem_map, mem_toArray]
  constructor
  · rintro ⟨entry, ⟨hproto, hne, -⟩, rfl⟩
    exact ⟨hproto, hne⟩
  · rintro ⟨hproto, hne⟩
    exact ⟨⟨k, if k ∈ inheritedFunctions then .nan else mathRound (total A (amountsIn k amounts))⟩,
      ⟨hproto, hne, rfl⟩, rfl⟩

/-! ### What the methods answer -/

lemma getPurchaseInvoices_eq_ok {api : WinMentor} {pagination : PaginatedRequestDto}
    {invoices : List PurchaseInvoiceDto} :
    WmeAdapter.getPurchaseInvoices A api pagination = .ok invoices ↔ ∃ facturi,
      api.getInfoFacturiFurnizori pagination.pageNumber pagination.pageSize = .ok facturi ∧
      invoices = facturi.map (WmeMapper.toPurchaseInvoiceDto A) := by
  simp only [WmeAdapter.getPurchaseInvoices, bind_eq_ok]
  constructor
  · rintro ⟨facturi, hfacturi, h⟩
    exact ⟨facturi, hfacturi, (Except.ok.inj h).symm⟩
  · rintro ⟨facturi, hfacturi, rfl⟩
    exact ⟨facturi, hfacturi, rfl⟩

lemma getDashboard_eq_ok {api : WinMentor} {data : DashboardDataDto} :
    WmeAdapter.getDashboard A api = .ok data ↔ ∃ receivable payable,
      api.getSolduriClienti = .ok receivable ∧ api.getSolduriFurnizori = .ok payable ∧
      data = ⟨toArray A (addAll A (amountsOf A "Factura" receivable)),
        toArray A (addAll A (amountsOf A "Avans" receivable)),
        toArray A (addAll A (amountsOf A "Factura" payable)),
        toArray A (addAll A (amountsOf A "Avans" payable))⟩ := by
  simp only [WmeAdapter.getDashboard, bind_eq_ok, dictionaries_eq]
  constructor
  · rintro ⟨receivable, hreceivable, payable, hpayable, h⟩
    exact ⟨receivable, payable, hreceivable, hpayable, (Except.ok.inj h).symm⟩
  · rintro ⟨receivable, payable, hreceivable, hpayable, rfl⟩
    exact ⟨receivable, hreceivable, payable, hpayable, rfl⟩

end Dictionary

end NextLevelApi
