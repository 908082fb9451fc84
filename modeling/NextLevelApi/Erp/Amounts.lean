import NextLevelApi.Erp.Wme

/-!
# Amounts that cannot be read

`readAmount` checks nothing: a text that is no number becomes NaN, and so does every sum
with it. This file says for which answers of WinMentor none of that is passed on.
-/

namespace NextLevelApi
open JsNumber JsObject

def NoNaN (entries : List CurrencyAmount) : Prop := ∀ entry ∈ entries, entry.amount ≠ .nan

structure DashboardDataDto.NoNaN (data : DashboardDataDto) : Prop where
  receivableInvoices : NextLevelApi.NoNaN data.amountAccountsReceivableInvoices
  receivableAdvancePayments : NextLevelApi.NoNaN data.amountAccountReceivableAdvancePayments
  payableInvoices : NextLevelApi.NoNaN data.amountAccountsPayableInvoices
  payableAdvancePayments : NextLevelApi.NoNaN data.amountAccountPayableAdvancePayments

structure PurchaseInvoiceDto.NoNaN (invoice : PurchaseInvoiceDto) : Prop where
  total : invoice.total ≠ .nan
  items : ∀ items, invoice.purchaseInvoiceItems = some items →
    ∀ item ∈ items, item.price ≠ .nan ∧ item.quantity ≠ .nan

/-- A successful answer has no NaN in it. -/
structure NoCorruptedAmounts (A : Arithmetic) (api : WinMentor) : Prop where
  dashboard : ∀ data, WmeAdapter.getDashboard A api = .ok data → data.NoNaN
  purchaseInvoices : ∀ pagination invoices, WmeAdapter.getPurchaseInvoices A api pagination = .ok invoices →
    ∀ invoice ∈ invoices, invoice.NoNaN

/-- The rows of one document type can be added up: no currency is the name of an inherited
function, each amount reads as a number, and no amount of infinity comes after the opposite
one. What is added under `__proto__` is lost and does not matter. -/
structure Countable (A : Arithmetic) (type : String) (rows : List WmeAccountsReceivableDto) : Prop where
  currency : ∀ row ∈ rows, row.TipDocument = type → row.Moneda ∉ inheritedFunctions
  amount : ∀ row ∈ rows, row.TipDocument = type → row.Moneda ≠ "__proto__" → readAmount A row.Rest ≠ .nan
  noClash : ∀ currency, currency ≠ "__proto__" → ¬Clash A (amountsIn currency (amountsOf A type rows))

structure WmePurchaseInvoiceDto.Readable (A : Arithmetic) (raw : WmePurchaseInvoiceDto) : Prop where
  valoare : readAmount A raw.Valoare ≠ .nan
  items : ∀ items, raw.Items = some items → ∀ i ∈ items,
    readAmount A i.Pret ≠ .nan ∧ readAmount A i.Cant ≠ .nan

structure WinMentor.Readable (A : Arithmetic) (api : WinMentor) : Prop where
  balances : ∀ receivable payable, api.getSolduriClienti = .ok receivable →
    api.getSolduriFurnizori = .ok payable →
    Countable A "Factura" receivable ∧ Countable A "Avans" receivable ∧
    Countable A "Factura" payable ∧ Countable A "Avans" payable
  invoices : ∀ pagina inregistrari facturi, api.getInfoFacturiFurnizori pagina inregistrari = .ok facturi →
    ∀ raw ∈ facturi, raw.Readable A

section Amounts

variable {A : Arithmetic} {type currency : String} {rows : List WmeAccountsReceivableDto}

lemma mem_amountsIn {x : JsNumber} : x ∈ amountsIn currency (amountsOf A type rows) ↔
    ∃ row ∈ rows, row.TipDocument = type ∧ row.Moneda = currency ∧ readAmount A row.Rest = x := by
  simp only [amountsIn, amountsOf, List.mem_map, List.mem_filter, decide_eq_true_eq]
  constructor
  · rintro ⟨_, ⟨⟨row, ⟨hrow, htype⟩, rfl⟩, hcurrency⟩, rfl⟩
    exact ⟨row, hrow, htype, hcurrency, rfl⟩
  · rintro ⟨row, hrow, htype, hcurrency, rfl⟩
    exact ⟨_, ⟨⟨row, ⟨hrow, htype⟩, rfl⟩, hcurrency⟩, rfl⟩

lemma noNaN_iff_totals {amounts : List (String × JsNumber)} : NoNaN (toArray A (addAll A amounts)) ↔
    ∀ currency, currency ≠ "__proto__" → amountsIn currency amounts ≠ [] →
      currency ∉ inheritedFunctions ∧ total A (amountsIn currency amounts) ≠ .nan := by
  constructor
  · intro h currency hproto hne
    have hentry : ∀ amount, (amount = if currency ∈ inheritedFunctions then .nan
        else mathRound (total A (amountsIn currency amounts))) → amount ≠ .nan :=
      fun amount hamount => h ⟨currency, amount⟩ (mem_toArray.mpr ⟨hproto, hne, hamount⟩)
    have hnan := hentry _ rfl
    by_cases hfunction : currency ∈ inheritedFunctions
    · exact absurd (if_pos hfunction) hnan
    · rw [if_neg hfunction, ne_eq, mathRound_eq_nan] at hnan
      exact ⟨hfunction, hnan⟩
  · intro h entry hentry
    obtain ⟨hproto, hne, hamount⟩ := mem_toArray.mp hentry
    obtain ⟨hfunction, hnan⟩ := h entry.currency hproto hne
    rw [hamount, if_neg hfunction, ne_eq, mathRound_eq_nan]
    exact hnan

/-- One array holds no NaN exactly when its rows can be added up. -/
theorem noNaN_iff : NoNaN (toArray A (addAll A (amountsOf A type rows))) ↔ Countable A type rows := by
  have hproto : ∀ {k}, k ∈ inheritedFunctions → k ≠ "__proto__" := by
    rintro k hk rfl
    exact absurd hk (by decide)
  rw [noNaN_iff_totals]
  constructor
  · intro h
    constructor
    · intro row hrow htype hfunction
      have hmem := mem_amountsIn (A := A).mpr ⟨row, hrow, htype, rfl, rfl⟩
      exact (h _ (hproto hfunction) (List.ne_nil_of_mem hmem)).1 hfunction
    · intro row hrow htype hne hnan
      have hmem := mem_amountsIn (A := A).mpr ⟨row, hrow, htype, rfl, rfl⟩
      apply (h _ hne (List.ne_nil_of_mem hmem)).2
      rw [total_eq_nan, ← hnan]
      exact .inl hmem
    · intro currency hne hclash
      have hamounts : amountsIn currency (amountsOf A type rows) ≠ [] := by
        obtain ⟨before, x, after, hsplit, -⟩ := hclash
        rw [hsplit]
        simp
      exact (h currency hne hamounts).2 ((total_eq_nan _).mpr (.inr hclash))
  · rintro ⟨hcurrency, hamount, hclash⟩ currency hne hamounts
    obtain ⟨x, hx⟩ := List.exists_mem_of_ne_nil _ hamounts
    obtain ⟨row, hrow, htype, rfl, -⟩ := mem_amountsIn.mp hx
    refine ⟨hcurrency row hrow htype, fun hnan => ?_⟩
    obtain hmem | hclash' := (total_eq_nan _).mp hnan
    · obtain ⟨row', hrow', htype', hsame, hread⟩ := mem_amountsIn.mp hmem
      exact hamount row' hrow' htype' (hsame ▸ hne) hread
    · exact hclash _ hne hclash'

lemma PurchaseInvoiceDto.noNaN_iff {raw : WmePurchaseInvoiceDto} :
    (WmeMapper.toPurchaseInvoiceDto A raw).NoNaN ↔ raw.Readable A := by
  constructor
  · rintro ⟨htotal, hitems⟩
    constructor
    · exact fun hnan => htotal (toFixed2_eq_nan.mpr hnan)
    · intro items hsome i hi
      exact hitems _ (congrArg (Option.map _) hsome) _ (List.mem_map_of_mem hi)
  · rintro ⟨hvaloare, hitems⟩
    constructor
    · exact fun hnan => hvaloare (toFixed2_eq_nan.mp hnan)
    · intro items hsome item hitem
      obtain ⟨raws, hraws, rfl⟩ := Option.map_eq_some_iff.mp hsome
      obtain ⟨i, hi, rfl⟩ := List.mem_map.mp hitem
      exact hitems raws hraws i hi

end Amounts

theorem noCorruptedAmounts_iff (A : Arithmetic) (api : WinMentor) :
    NoCorruptedAmounts A api ↔ api.Readable A := by
  constructor
  · rintro ⟨hdashboard, hinvoices⟩
    constructor
    · intro receivable payable hreceivable hpayable
      obtain ⟨h1, h2, h3, h4⟩ := hdashboard _ (getDashboard_eq_ok.mpr ⟨_, _, hreceivable, hpayable, rfl⟩)
      exact ⟨noNaN_iff.mp h1, noNaN_iff.mp h2, noNaN_iff.mp h3, noNaN_iff.mp h4⟩
    · intro pagina inregistrari facturi hfacturi raw hraw
      have hanswer : WmeAdapter.getPurchaseInvoices A api ⟨pagina, inregistrari⟩ =
          .ok (facturi.map (WmeMapper.toPurchaseInvoiceDto A)) :=
        getPurchaseInvoices_eq_ok.mpr ⟨facturi, hfacturi, rfl⟩
      exact PurchaseInvoiceDto.noNaN_iff.mp (hinvoices _ _ hanswer _ (List.mem_map_of_mem hraw))
  · rintro ⟨hbalances, hfacturi⟩
    constructor
    · intro data hdata
      obtain ⟨receivable, payable, hreceivable, hpayable, rfl⟩ := getDashboard_eq_ok.mp hdata
      obtain ⟨h1, h2, h3, h4⟩ := hbalances _ _ hreceivable hpayable
      exact ⟨noNaN_iff.mpr h1, noNaN_iff.mpr h2, noNaN_iff.mpr h3, noNaN_iff.mpr h4⟩
    · intro pagination invoices hanswer invoice hinvoice
      obtain ⟨facturi, hok, rfl⟩ := getPurchaseInvoices_eq_ok.mp hanswer
      obtain ⟨raw, hraw, rfl⟩ := List.mem_map.mp hinvoice
      exact PurchaseInvoiceDto.noNaN_iff.mpr (hfacturi _ _ _ hok raw hraw)

namespace Sample

/-- A readable amount, and one with a point between the thousands. -/
def thousands : WinMentor where
  getSolduriClienti := .ok [⟨"Factura", "RON", "100,50"⟩, ⟨"Factura", "RON", "1.234,56"⟩]
  getSolduriFurnizori := .ok []
  getInfoFacturiFurnizori _ _ := .ok []

end Sample

open Sample in
theorem thousands_corrupted :
    WmeAdapter.getDashboard (binary64 fun _ => "") thousands = .ok ⟨[⟨"RON", .nan⟩], [], [], []⟩ ∧
    ¬NoCorruptedAmounts (binary64 fun _ => "") thousands := by
  have hrun : WmeAdapter.getDashboard (binary64 fun _ => "") thousands =
      .ok ⟨[⟨"RON", .nan⟩], [], [], []⟩ := by decide +kernel
  exact ⟨hrun, fun h => (h.dashboard _ hrun).receivableInvoices _ (List.mem_singleton_self _) rfl⟩

end NextLevelApi
