import NextLevelApi.Erp.Responses

/-!
# The dashboard of a request

The adapter with its calls refines the adapter on the rows that come back. So what a user is shown
is decided by the token, the configuration of its tenant and the rows of that WinMentor, down to
the order of the currencies.
-/

namespace NextLevelApi
open Async Fallible JsNumber JsObject

/-- The exception that is thrown, whatever `code` it has for the interceptor. -/
def Thrown.Carries (e : Thrown) (x : Exception) : Prop := ∃ code, e = .exception x code

/-- The property of an answer that the adapter goes on with. -/
def fetched {α Answer : Type} (answer : Except AxiosError Answer) (message : String)
    (property : Answer → Option α) : Except Exception α := do
  let response ← answer.mapError fun e => .error "AxiosError" e.message
  (property response).elim (.error (.error "TypeError" message)) .ok

/-- The network as the adapter on rows sees it. -/
def ErpNet.winMentor (net : ErpNet) (wmeBaseUrl : String) : WinMentor where
  getSolduriClienti :=
    fetched (net.getSolduri (wmeBaseUrl ++ "/GetSolduriClienti")) (notIterable "responseAccountsRceivable")
      (·.InfoSolduri)
  getSolduriFurnizori :=
    fetched (net.getSolduri (wmeBaseUrl ++ "/GetSolduriFurnizori")) (notIterable "responseAccountsPayable")
      (·.InfoSolduri)
  getInfoFacturiFurnizori pagina inregistrari :=
    let payload : WmePayload := ⟨pagina, inregistrari, none, none⟩
    fetched (net.postFacturi (wmeBaseUrl ++ "/%22GetInfoFacturiFurnizori%22") payload) (cannotRead "map")
      (·.InfoFacturi)

/-- WinMentor answers with these rows. -/
def ErpNet.Answers (net : ErpNet) (url : String) (rows : List WmeAccountsReceivableDto) : Prop :=
  net.getSolduri url = .ok ⟨some rows⟩

/-- One entry for each currency but `__proto__`, with the rounded total of its amounts, in the order
in which an object lists them. -/
structure Lists (A : Arithmetic) (amounts : List (String × JsNumber)) (entries : List CurrencyAmount) :
    Prop where
  mem : ∀ entry, entry ∈ entries ↔
    entry.currency ≠ "__proto__" ∧ amountsIn entry.currency amounts ≠ [] ∧
    entry.amount = if entry.currency ∈ inheritedFunctions then .nan
      else mathRound (total A (amountsIn entry.currency amounts))
  order : entries.Pairwise fun a b =>
    position (amounts.map Prod.fst) a.currency < position (amounts.map Prod.fst) b.currency

/-- The four arrays list the amounts on the rows of their document types. -/
structure DashboardDataDto.Lists (A : Arithmetic) (receivable payable : List WmeAccountsReceivableDto)
    (data : DashboardDataDto) : Prop where
  receivableInvoices :
    NextLevelApi.Lists A (amountsOf A "Factura" receivable) data.amountAccountsReceivableInvoices
  receivableAdvancePayments :
    NextLevelApi.Lists A (amountsOf A "Avans" receivable) data.amountAccountReceivableAdvancePayments
  payableInvoices : NextLevelApi.Lists A (amountsOf A "Factura" payable) data.amountAccountsPayableInvoices
  payableAdvancePayments :
    NextLevelApi.Lists A (amountsOf A "Avans" payable) data.amountAccountPayableAdvancePayments

/-! ### Refinement -/

section Refinement

variable {A : Arithmetic} {net : ErpNet} {wmeBaseUrl : String}

lemma refines_fetched {α Answer : Type} (call : Outgoing) (answer : Except AxiosError Answer)
    (message : String) (property : Answer → Option α) :
    Refines Thrown.Carries (do
      let response ← send call answer
      present message (property response)) (fetched answer message property) := by
  intro calls
  simp only [send, present, settles_bind, settles_modify, settles_settle]
  cases answer with
  | error e =>
    refine ⟨fun _ hresponse => absurd hresponse (by simp [Except.mapError]), fun thrown hthrown => ?_⟩
    obtain rfl := Except.error.inj hthrown
    exact ⟨_, rfl, e.code, rfl⟩
  | ok response =>
    refine ⟨fun response' hresponse => ?_, fun _ hthrown => absurd hthrown (by simp [Except.mapError])⟩
    obtain rfl := Except.ok.inj hresponse
    have hfetched : fetched (.ok response) message property =
        (property response).elim (.error (.error "TypeError" message)) .ok := rfl
    rw [hfetched]
    cases property response with
    | none =>
      refine ⟨fun _ ha => absurd ha (by simp), fun thrown hthrown => ?_⟩
      obtain rfl := Except.error.inj hthrown
      exact ⟨_, rfl, none, rfl⟩
    | some a =>
      refine ⟨fun a' ha' => ?_, fun _ hthrown => absurd hthrown (by simp)⟩
      obtain rfl := Except.ok.inj ha'
      rfl

/-- `getDashboard` with its calls, and on the rows. -/
theorem getDashboard_refines :
    Refines Thrown.Carries (WmeAdapter.getDashboard.calls A net wmeBaseUrl)
      (WmeAdapter.getDashboard A (net.winMentor wmeBaseUrl)) :=
  (refines_fetched _ _ _ _).bind fun _ => (refines_fetched _ _ _ _).bind fun _ => refines_pure

/-- `getPurchaseInvoices` with its call, and on the rows. -/
theorem getPurchaseInvoices_refines {pagination : PaginatedRequestDto} :
    Refines Thrown.Carries (WmeAdapter.getPurchaseInvoices.calls A net wmeBaseUrl pagination)
      (WmeAdapter.getPurchaseInvoices A (net.winMentor wmeBaseUrl) pagination) := by
  let payload : WmePayload := ⟨pagination.pageNumber, pagination.pageSize, none, none⟩
  let url := wmeBaseUrl ++ "/%22GetInfoFacturiFurnizori%22"
  have hcalls : WmeAdapter.getPurchaseInvoices.calls A net wmeBaseUrl pagination = (do
      let response ← send (.post url payload) (net.postFacturi url payload)
      present (cannotRead "map") response.InfoFacturi) >>=
        fun facturi => pure (facturi.map (WmeMapper.toPurchaseInvoiceDto A)) :=
    (bind_assoc _ _ _).symm
  rw [hcalls]
  exact (refines_fetched _ _ _ _).bind fun _ => refines_pure

lemma fetched_eq_ok {α Answer : Type} {answer : Except AxiosError Answer} {message : String}
    {property : Answer → Option α} {a : α} :
    fetched answer message property = .ok a ↔
      ∃ response, answer = .ok response ∧ property response = some a := by
  cases answer with
  | error e => simp [fetched, Except.mapError, bind, Except.bind]
  | ok response =>
    cases hproperty : property response <;> simp [fetched, Except.mapError, bind, Except.bind, hproperty]

lemma fetched_solduri {url message : String} {rows : List WmeAccountsReceivableDto} :
    fetched (net.getSolduri url) message (·.InfoSolduri) = .ok rows ↔ net.Answers url rows := by
  rw [fetched_eq_ok, ErpNet.Answers]
  constructor
  · rintro ⟨⟨solduri⟩, hanswer, rfl⟩
    exact hanswer
  · exact fun hanswer => ⟨_, hanswer, rfl⟩

end Refinement

/-! ### The order of the currencies -/

section Order

variable {A : Arithmetic} {amounts : List (String × JsNumber)} {entries : List CurrencyAmount}

lemma keys_addAmount (d : JsObject) (currency : String) (x : JsNumber) :
    (addAmount A d currency x).props.map Prod.fst =
      if currency = "__proto__" ∨ currency ∈ d.props.map Prod.fst then d.props.map Prod.fst
      else d.props.map Prod.fst ++ [currency] := by
  by_cases hproto : currency = "__proto__"
  · subst hproto
    rw [addAmount_proto, if_pos (.inl rfl)]
  · have hset : ∀ v, (d.set currency v).props.map Prod.fst =
        if currency = "__proto__" ∨ currency ∈ d.props.map Prod.fst then d.props.map Prod.fst
        else d.props.map Prod.fst ++ [currency] := by
      intro v
      rw [JsObject.set, if_neg hproto]
      refine (keys_setOwn currency v d.props).trans ?_
      simp only [hproto, false_or]
    by_cases hhas : d.has currency
    · rw [addAmount, if_pos hhas, plusAssign]
      cases d.get currency <;> exact hset _
    · rw [addAmount, if_neg hhas]
      exact hset _

lemma mem_keys_addAll {k : String} :
    k ∈ (addAll A amounts).props.map Prod.fst ↔ k ≠ "__proto__" ∧ k ∈ amounts.map Prod.fst := by
  have hcurrencies : (toArray A (addAll A amounts)).map CurrencyAmount.currency =
      (addAll A amounts).entries.map Prod.fst := by
    rw [toArray, List.map_map]
    rfl
  rw [← ((addAll A amounts).entries_perm.map Prod.fst).mem_iff, ← hcurrencies, mem_currencies]
  simp [amountsIn]

/-- A currency is created with its first amount. -/
lemma keys_addAll_pairwise (amounts : List (String × JsNumber)) :
    ((addAll A amounts).props.map Prod.fst).Pairwise fun a b =>
      (amounts.map Prod.fst).idxOf a < (amounts.map Prod.fst).idxOf b := by
  induction amounts using List.reverseRecOn with
  | nil => exact List.Pairwise.nil
  | append_singleton amounts p ih =>
    obtain ⟨currency, x⟩ := p
    have hstep : addAll A (amounts ++ [(currency, x)]) = addAmount A (addAll A amounts) currency x := by
      simp [addAll]
    have hnames : (amounts ++ [(currency, x)]).map Prod.fst = amounts.map Prod.fst ++ [currency] := by simp
    have hold : ((addAll A amounts).props.map Prod.fst).Pairwise fun a b =>
        (amounts.map Prod.fst ++ [currency]).idxOf a < (amounts.map Prod.fst ++ [currency]).idxOf b := by
      refine ih.imp_of_mem fun ha hb hlt => ?_
      rwa [List.idxOf_append_of_mem (mem_keys_addAll.mp ha).2,
        List.idxOf_append_of_mem (mem_keys_addAll.mp hb).2]
    rw [hstep, hnames, keys_addAmount]
    split_ifs with hknown
    · exact hold
    · obtain ⟨hproto, hnew⟩ := not_or.mp hknown
      have hcurrency : currency ∉ amounts.map Prod.fst := fun h => hnew (mem_keys_addAll.mpr ⟨hproto, h⟩)
      refine List.pairwise_append.mpr ⟨hold, List.pairwise_singleton _ _, ?_⟩
      intro a ha b hb
      obtain rfl := List.mem_singleton.mp hb
      have hmem := (mem_keys_addAll.mp ha).2
      rw [List.idxOf_append_of_mem hmem, List.idxOf_append_of_notMem hcurrency]
      exact Nat.lt_of_lt_of_le (List.idxOf_lt_length_of_mem hmem) (Nat.le_add_right _ _)

/-- The array of a dictionary is the one list that fits. -/
theorem lists_iff : Lists A amounts entries ↔ entries = toArray A (addAll A amounts) := by
  have harray : Lists A amounts (toArray A (addAll A amounts)) := by
    refine ⟨fun entry => mem_toArray, ?_⟩
    have hentries := List.pairwise_map.mp (entries_pairwise (keys_addAll_pairwise (A := A) amounts))
    exact List.pairwise_map.mpr hentries
  constructor
  · intro h
    exact eq_of_positions CurrencyAmount.currency h.order harray.order fun entry =>
      (h.mem entry).trans (harray.mem entry).symm
  · rintro rfl
    exact harray

lemma getDashboard_lists {api : WinMentor} {data : DashboardDataDto} :
    WmeAdapter.getDashboard A api = .ok data ↔ ∃ receivable payable,
      api.getSolduriClienti = .ok receivable ∧ api.getSolduriFurnizori = .ok payable ∧
      data.Lists A receivable payable := by
  rw [getDashboard_eq_ok]
  refine exists_congr fun receivable => exists_congr fun payable =>
    and_congr_right fun _ => and_congr_right fun _ => ?_
  constructor
  · rintro rfl
    exact ⟨lists_iff.mpr rfl, lists_iff.mpr rfl, lists_iff.mpr rfl, lists_iff.mpr rfl⟩
  · rintro ⟨hinvoices, hadvances, hpayable, hpayableAdvances⟩
    obtain ⟨a, b, c, d⟩ := data
    rw [← lists_iff.mp hinvoices, ← lists_iff.mp hadvances, ← lists_iff.mp hpayable,
      ← lists_iff.mp hpayableAdvances]

end Order

/-! ### From the request to the sums -/

section Requests

variable {Config : Type} {A : Arithmetic} {net : ErpNet} {tenants : TenantTable}
  {decrypt : Option String → Except Exception Config} {baseUrl : Config → String} {env : AuthEnv}
  {now : ℕ} {token : String} {query : Query} {user : Claims}

lemma findOneById_of_mem {tenant : Tenant} (hfailure : tenants.failure = none)
    (hmem : tenant ∈ tenants.rows) :
    TenantService.findOneById tenants tenant.id = .ok (some tenant) := by
  obtain ⟨found, hfound⟩ : ∃ found, tenants.rows.find? (·.id = tenant.id) = some found :=
    Option.isSome_iff_exists.mp (List.find?_isSome.mpr ⟨tenant, hmem, decide_eq_true rfl⟩)
  have hid : found.id = tenant.id := by simpa using List.find?_some hfound
  obtain rfl := List.inj_on_of_nodup_map tenants.ids (List.mem_of_find?_eq_some hfound) hmem hid
  exact findOneById_eq_ok.mpr ⟨hfailure, hfound.symm⟩

/-- The adapter that is built is that of the one tenant with the id in the token. -/
lemma adapter_ok_iff {adapter : ErpAdapter Config} :
    ErpService.adapter tenants decrypt user = .ok adapter ↔
      user.tenantId ≠ 0 ∧ tenants.failure = none ∧ BuiltFor tenants decrypt user.tenantId adapter := by
  constructor
  · intro h
    obtain ⟨hid, hfailure⟩ := adapter_found h
    exact ⟨hid, hfailure, adapter_builtFor h⟩
  · rintro ⟨hid, hfailure, tenant, hmem, htenant, config, hconfig, hadapter⟩
    rw [ErpService.adapter, if_neg hid, ← htenant]
    exact (getAdapterForTenant_found (findOneById_of_mem hfailure hmem)).mpr ⟨config, hconfig, hadapter⟩

lemma responseOf_ok {result : EStateM.Result Thrown (List Outgoing) ErpBody} {body : ErpBody} :
    (responseOf result).2 = .ok body ↔ ∃ calls, result = .ok body calls := by
  cases result with
  | ok body' calls => simp [responseOf]
  | error e calls =>
    cases hthrown : NetworkErrorInterceptor.intercept e <;> simp [responseOf, hthrown, Thrown.response]

/-- What the method of the dashboard comes to. -/
lemma dashboard_run {wmeBaseUrl : String} {body : ErpBody} :
    (∃ calls, (WmeAdapter.method A net wmeBaseUrl .dashboard).run [] = .ok body calls) ↔
      ∃ receivable payable data, net.Answers (wmeBaseUrl ++ "/GetSolduriClienti") receivable ∧
        net.Answers (wmeBaseUrl ++ "/GetSolduriFurnizori") payable ∧
        data.Lists A receivable payable ∧ body = .dashboard data := by
  rw [WmeAdapter.method, (getDashboard_refines.map ErpBody.dashboard).ok_iff [], map_eq_ok]
  constructor
  · rintro ⟨data, hdata, rfl⟩
    obtain ⟨receivable, payable, hreceivable, hpayable, hlists⟩ := getDashboard_lists.mp hdata
    exact ⟨receivable, payable, data, fetched_solduri.mp hreceivable, fetched_solduri.mp hpayable, hlists,
      rfl⟩
  · rintro ⟨receivable, payable, data, hreceivable, hpayable, hlists, rfl⟩
    exact ⟨data, getDashboard_lists.mpr ⟨receivable, payable, fetched_solduri.mpr hreceivable,
      fetched_solduri.mpr hpayable, hlists⟩, rfl⟩

end Requests

/-- A user is shown a dashboard exactly if the request is within the limit, the token is valid and
names a tenant, the query for it succeeds and its configuration decrypts to that of a WinMentor
which answers both calls with rows; and then the dashboard lists the totals of these rows: each
currency once, those that are array indexes first and the others in the order of their first row. -/
theorem erp_dashboard {Config : Type} (gcm : Aes256Gcm) (json : JsonCodec Config) (self : CryptoService)
    (A : Arithmetic) (net : ErpNet) (tenants : TenantTable) (baseUrl : Config → String) (env : AuthEnv)
    (overLimit : Bool) (now : ℕ) (token : String) (query : Query) (body : ErpBody) :
    let decrypt := self.decryptColumn gcm json
    (ErpController.respond A net tenants decrypt baseUrl env overLimit now token query .dashboard).2 =
        .ok body ↔
      overLimit = false ∧ tenants.failure = none ∧
      ∃ user config receivable payable data, JwtGuard env now token = .ok user ∧ user.tenantId ≠ 0 ∧
        BuiltFor tenants decrypt user.tenantId (.wme config) ∧
        net.Answers (baseUrl config ++ "/GetSolduriClienti") receivable ∧
        net.Answers (baseUrl config ++ "/GetSolduriFurnizori") payable ∧
        data.Lists A receivable payable ∧ body = .dashboard data := by
  intro decrypt
  cases hguards : requestUser env overLimit now token with
  | error e =>
    rw [ErpController.respond, hguards]
    refine iff_of_false (by simp) ?_
    rintro ⟨hlimit, -, user, _, _, _, _, hguard, -⟩
    exact absurd (hguards.symm.trans (requestUser_ok.mpr ⟨hlimit, hguard⟩)) (by simp)
  | ok user =>
    obtain ⟨hlimit, hguard⟩ := requestUser_ok.mp hguards
    have hparse : ErpRoute.dashboard.parse A query = .ok .dashboard := rfl
    rw [respond_eq hguards, handle_eq hparse, request_run, responseOf_ok]
    constructor
    · rintro ⟨calls, hrun⟩
      cases hadapter : ErpService.adapter tenants decrypt user with
      | error e =>
        rw [hadapter] at hrun
        exact absurd hrun (by simp)
      | ok adapter =>
        obtain ⟨hid, hfailure, hbuilt⟩ := adapter_ok_iff.mp hadapter
        rw [hadapter] at hrun
        cases adapter with
        | softone config => exact absurd hrun (by simp)
        | wme config =>
          obtain ⟨receivable, payable, data, hrows⟩ := dashboard_run.mp ⟨calls, hrun⟩
          exact ⟨hlimit, hfailure, user, config, receivable, payable, data, hguard, hid, hbuilt, hrows⟩
    · rintro ⟨-, hfailure, user', config, receivable, payable, data, huser, hid, hbuilt, hrows⟩
      obtain rfl := Except.ok.inj (hguard.symm.trans huser)
      rw [adapter_ok_iff.mpr ⟨hid, hfailure, hbuilt⟩]
      exact dashboard_run.mpr ⟨receivable, payable, data, hrows⟩

end NextLevelApi
