import NextLevelApi.Erp.Wme

/-!
# The dashboard as sums by currency

For rows whose amounts are plain decimals, and exact arithmetic. Each of the four arrays of
the dashboard holds the sums of its own rows, currency by currency, unless a currency has
the name of a property that every object inherits.
-/

namespace NextLevelApi
open JsNumber JsObject

/-- A row whose `Rest` is a numeral. -/
structure NumeralRow where
  TipDocument : String
  Moneda : String
  Rest : Numeral

def NumeralRow.toDto (row : NumeralRow) : WmeAccountsReceivableDto :=
  ⟨row.TipDocument, row.Moneda, row.Rest.text⟩

/-- The sum of `Rest` over the rows of one document type in one currency. -/
def restSum (type currency : String) (rows : List NumeralRow) : ℚ :=
  ((rows.filter fun row => row.TipDocument = type ∧ row.Moneda = currency).map
    fun row => row.Rest.value).sum

/-- One entry for each currency on a row of the document type, with its rounded sum. -/
structure PerCurrency (type : String) (rows : List NumeralRow) (entries : List CurrencyAmount) : Prop where
  currencies : ∀ currency, currency ∈ entries.map CurrencyAmount.currency ↔
    ∃ row ∈ rows, row.TipDocument = type ∧ row.Moneda = currency
  once : (entries.map CurrencyAmount.currency).Nodup
  amounts : ∀ entry ∈ entries, entry.amount = .finite ⌊restSum type entry.currency rows + 1 / 2⌋

structure DashboardDataDto.PerCurrency (receivable payable : List NumeralRow) (data : DashboardDataDto) :
    Prop where
  receivableInvoices :
    NextLevelApi.PerCurrency "Factura" receivable data.amountAccountsReceivableInvoices
  receivableAdvancePayments :
    NextLevelApi.PerCurrency "Avans" receivable data.amountAccountReceivableAdvancePayments
  payableInvoices : NextLevelApi.PerCurrency "Factura" payable data.amountAccountsPayableInvoices
  payableAdvancePayments :
    NextLevelApi.PerCurrency "Avans" payable data.amountAccountPayableAdvancePayments

/-- `api` with these rows for the two lists of balances. -/
def WinMentor.answering (api : WinMentor) (receivable payable : List NumeralRow) : WinMentor :=
  { api with
    getSolduriClienti := .ok (receivable.map NumeralRow.toDto)
    getSolduriFurnizori := .ok (payable.map NumeralRow.toDto) }

def DashboardSums (toText : JsNumber → String) (api : WinMentor) (receivable payable : List NumeralRow) :
    Prop :=
  ∃ data, WmeAdapter.getDashboard (exact toText) (api.answering receivable payable) = .ok data ∧
    data.PerCurrency receivable payable

/-! ### One array -/

section Array

variable {toText : JsNumber → String} {type currency : String} {rows : List NumeralRow}

lemma readAmount_text (n : Numeral) : readAmount (exact toText) n.text = .finite n.value := by
  rw [readAmount, n.ofText_text_exact]

/-- The rows that count in one currency. -/
lemma amountsIn_amountsOf :
    amountsIn currency (amountsOf (exact toText) type (rows.map NumeralRow.toDto)) =
      ((rows.filter fun row => row.TipDocument = type ∧ row.Moneda = currency).map
        fun row => row.Rest.value).map .finite := by
  simp only [amountsIn, amountsOf, List.filter_map, List.map_map, List.filter_filter]
  refine (congrArg _ (List.filter_congr ?_)).trans (List.map_congr_left ?_)
  · intro row _
    change (decide (row.Moneda = currency) && decide (row.TipDocument = type)) =
      decide (row.TipDocument = type ∧ row.Moneda = currency)
    rw [Bool.decide_and, Bool.and_comm]
  · intro row _
    simp only [Function.comp_apply, NumeralRow.toDto, readAmount_text]

lemma amountsIn_ne_nil :
    amountsIn currency (amountsOf (exact toText) type (rows.map NumeralRow.toDto)) ≠ [] ↔
      ∃ row ∈ rows, row.TipDocument = type ∧ row.Moneda = currency := by
  rw [amountsIn_amountsOf]
  simp

lemma total_amountsIn :
    total (exact toText) (amountsIn currency (amountsOf (exact toText) type (rows.map NumeralRow.toDto))) =
      .finite (restSum type currency rows) := by
  rw [amountsIn_amountsOf, total_exact, restSum]

/-- One array is right as long as no currency in it is the name of an inherited property. -/
theorem perCurrency_iff :
    PerCurrency type rows
        (toArray (exact toText) (addAll (exact toText) (amountsOf (exact toText) type
          (rows.map NumeralRow.toDto)))) ↔
      ∀ row ∈ rows, row.TipDocument = type →
        row.Moneda ≠ "__proto__" ∧ row.Moneda ∉ inheritedFunctions := by
  constructor
  · intro h row hrow htype
    have hmem := (h.currencies row.Moneda).mpr ⟨row, hrow, htype, rfl⟩
    obtain ⟨entry, hentry, hcurrency⟩ := List.mem_map.mp hmem
    obtain ⟨hproto, -, hamount⟩ := mem_toArray.mp hentry
    rw [h.amounts entry hentry, hcurrency] at hamount
    rw [hcurrency] at hproto
    refine ⟨hproto, fun hfunction => ?_⟩
    rw [if_pos hfunction] at hamount
    exact absurd hamount (by simp)
  · intro h
    constructor
    · intro currency
      rw [mem_currencies, amountsIn_ne_nil]
      constructor
      · exact And.right
      · rintro ⟨row, hrow, htype, rfl⟩
        exact ⟨(h row hrow htype).1, row, hrow, htype, rfl⟩
    · exact nodup_toArray _
    · intro entry hentry
      obtain ⟨-, hne, hamount⟩ := mem_toArray.mp hentry
      obtain ⟨row, hrow, htype, hcurrency⟩ := amountsIn_ne_nil.mp hne
      rw [hamount, if_neg (hcurrency ▸ (h row hrow htype).2), total_amountsIn]
      rfl

end Array

theorem dashboardSums_iff (toText : JsNumber → String) (api : WinMentor)
    (receivable payable : List NumeralRow) :
    DashboardSums toText api receivable payable ↔
      ∀ row ∈ receivable ++ payable, row.TipDocument = "Factura" ∨ row.TipDocument = "Avans" →
        row.Moneda ≠ "__proto__" ∧ row.Moneda ∉ inheritedFunctions := by
  constructor
  · rintro ⟨data, hdata, hsums⟩ row hrow htype
    obtain ⟨_, _, hreceivable, hpayable, rfl⟩ := getDashboard_eq_ok.mp hdata
    obtain rfl := Except.ok.inj hreceivable
    obtain rfl := Except.ok.inj hpayable
    rcases List.mem_append.mp hrow with hrow | hrow <;> rcases htype with htype | htype
    · exact perCurrency_iff.mp hsums.receivableInvoices row hrow htype
    · exact perCurrency_iff.mp hsums.receivableAdvancePayments row hrow htype
    · exact perCurrency_iff.mp hsums.payableInvoices row hrow htype
    · exact perCurrency_iff.mp hsums.payableAdvancePayments row hrow htype
  · intro h
    refine ⟨_, getDashboard_eq_ok.mpr ⟨_, _, rfl, rfl, rfl⟩, ?_⟩
    constructor
    · exact perCurrency_iff.mpr fun row hrow htype => h row (List.mem_append_left _ hrow) (.inl htype)
    · exact perCurrency_iff.mpr fun row hrow htype => h row (List.mem_append_left _ hrow) (.inr htype)
    · exact perCurrency_iff.mpr fun row hrow htype => h row (List.mem_append_right _ hrow) (.inl htype)
    · exact perCurrency_iff.mpr fun row hrow htype => h row (List.mem_append_right _ hrow) (.inr htype)

namespace Sample

/-- Five in a currency that has the name of a function. -/
def strangeCurrency : NumeralRow := ⟨"Factura", "constructor", ⟨false, [5], none, by simp⟩⟩

def noAnswer : WinMentor := ⟨.ok [], .ok [], fun _ _ => .ok []⟩

end Sample

open Sample in
/-- The currency's amount is no number, where its only row makes it five. -/
theorem strangeCurrency_not_dashboardSums :
    WmeAdapter.getDashboard (exact fun _ => "5") (noAnswer.answering [strangeCurrency] []) =
      .ok ⟨[⟨"constructor", .nan⟩], [], [], []⟩ ∧
    ¬DashboardSums (fun _ => "5") noAnswer [strangeCurrency] [] := by
  have hrun : WmeAdapter.getDashboard (exact fun _ => "5") (noAnswer.answering [strangeCurrency] []) =
      .ok ⟨[⟨"constructor", .nan⟩], [], [], []⟩ := by decide +kernel
  refine ⟨hrun, ?_⟩
  rintro ⟨data, hdata, hsums⟩
  obtain rfl := Except.ok.inj (hrun.symm.trans hdata)
  have hamount := hsums.receivableInvoices.amounts _ (List.mem_singleton_self _)
  exact absurd hamount (by simp)

end NextLevelApi
