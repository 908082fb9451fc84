import NextLevelApi.Erp.Requests
import NextLevelApi.Erp.Configs

/-!
# What a request to the ERP is answered with

A request is a list of calls to the WinMentor of the user's tenant, sent one after the other up to
the first that fails. This, the guard and the pipes decide the status of the answer, and which
calls leave the server at all.
-/

namespace NextLevelApi
open Async Fallible JsNumber

/-- How a call goes: its answer has all that the adapter reads, or a network error comes back, or
something else goes wrong. -/
inductive ErpOutcome
  | answered
  | unreachable
  | broken
  deriving DecidableEq

def ErpOutcome.status : ErpOutcome → ℕ
  | .answered => 200
  | .unreachable => 503
  | .broken => 500

def outcome {α : Type} (complete : α → Bool) : Except AxiosError α → ErpOutcome
  | .ok answer => if complete answer then .answered else .broken
  | .error e => if ∃ c ∈ networkErrors, e.code = some c then .unreachable else .broken

/-- The calls of a request, and how each of them would go. -/
def ErpRequest.exchanges (net : ErpNet) (wmeBaseUrl : String) : ErpRequest → List (Outgoing × ErpOutcome)
  | .dashboard => ["/GetSolduriClienti", "/GetSolduriFurnizori"].map fun name =>
      (.get (wmeBaseUrl ++ name), outcome (·.InfoSolduri.isSome) (net.getSolduri (wmeBaseUrl ++ name)))
  | .partners pagination filters =>
    let url := wmeBaseUrl ++ "/%22GetInfoParteneri%22"
    let payload : WmePayload := ⟨pagination.pageNumber, pagination.pageSize, some (filters.name.getD ""),
      some (filters.fiscalCode.getD "")⟩
    [(.post url payload, outcome (fun response => response.InfoParteneri.isSome && response.Paginare.isSome)
      (net.postParteneri url payload))]
  | .items pagination filters =>
    let url := wmeBaseUrl ++ "/%22GetInfoArticole%22"
    let payload : WmePayload :=
      ⟨pagination.pageNumber, pagination.pageSize, some (filters.name.getD ""), none⟩
    [(.post url payload, outcome (fun response => response.InfoArticole.isSome && response.Paginare.isSome)
      (net.postArticole url payload))]
  | .purchaseInvoices pagination _ =>
    let url := wmeBaseUrl ++ "/%22GetInfoFacturiFurnizori%22"
    let payload : WmePayload := ⟨pagination.pageNumber, pagination.pageSize, none, none⟩
    [(.post url payload, outcome (·.InfoFacturi.isSome) (net.postFacturi url payload))]

/-- The calls up to the first that is not answered. -/
def performed : List (Outgoing × ErpOutcome) → List Outgoing
  | [] => []
  | (call, .answered) :: exchanges => call :: performed exchanges
  | (call, _) :: _ => [call]

/-- The outcome of the first call that is not answered. -/
def overall : List (Outgoing × ErpOutcome) → ErpOutcome
  | [] => .answered
  | (_, .answered) :: exchanges => overall exchanges
  | (_, outcome) :: _ => outcome

/-- What an error of a handler means for the answer. -/
def Thrown.outcome (e : Thrown) : ErpOutcome :=
  match e with
  | .exception _ code => if ∃ c ∈ networkErrors, code = some c then .unreachable else .broken
  | .invalid _ => .broken

/-- A computation of an adapter goes through exchanges: all are answered and it returns, or it
throws what the first that is not answered stands for. -/
def Goes {α : Type} (x : ErpM α) (exchanges : List (Outgoing × ErpOutcome)) : Prop :=
  ∀ calls, Settles x calls
    (fun _ calls' => overall exchanges = .answered ∧ calls' = calls ++ performed exchanges)
    fun e calls' => overall exchanges ≠ .answered ∧ calls' = calls ++ performed exchanges ∧
      (∃ name message code, e = .exception (.error name message) code) ∧ e.outcome = overall exchanges

/-- A computation that throws without another call, and for no fault of the network. -/
def Breaks {α : Type} (x : ErpM α) : Prop :=
  ∀ calls, Settles x calls (fun _ _ => False) fun e calls' => calls' = calls ∧
    (∃ name message code, e = .exception (.error name message) code) ∧ e.outcome = .broken

section Exchanges

variable {α β : Type} {x : ErpM α} {f : α → ErpM β} {exchanges : List (Outgoing × ErpOutcome)}

lemma append_of_answered (exchanges' : List (Outgoing × ErpOutcome)) (h : overall exchanges = .answered) :
    performed (exchanges ++ exchanges') = performed exchanges ++ performed exchanges' ∧
      overall (exchanges ++ exchanges') = overall exchanges' := by
  induction exchanges with
  | nil => exact ⟨rfl, rfl⟩
  | cons exchange exchanges ih =>
    obtain ⟨call, outcome⟩ := exchange
    cases outcome with
    | answered =>
      obtain ⟨hperformed, hoverall⟩ := ih h
      exact ⟨congrArg (call :: ·) hperformed, hoverall⟩
    | _ => exact absurd h (by simp [overall])

lemma append_of_stopped (exchanges' : List (Outgoing × ErpOutcome)) (h : overall exchanges ≠ .answered) :
    performed (exchanges ++ exchanges') = performed exchanges ∧
      overall (exchanges ++ exchanges') = overall exchanges := by
  induction exchanges with
  | nil => exact absurd rfl h
  | cons exchange exchanges ih =>
    obtain ⟨call, outcome⟩ := exchange
    cases outcome with
    | answered =>
      obtain ⟨hperformed, hoverall⟩ := ih h
      exact ⟨congrArg (call :: ·) hperformed, hoverall⟩
    | _ => exact ⟨rfl, rfl⟩

lemma stops (call : Outgoing) {outcome : ErpOutcome} (exchanges : List (Outgoing × ErpOutcome))
    (h : outcome ≠ .answered) :
    performed ((call, outcome) :: exchanges) = [call] ∧ overall ((call, outcome) :: exchanges) = outcome := by
  cases outcome with
  | answered => exact absurd rfl h
  | _ => exact ⟨rfl, rfl⟩

lemma goes_pure (a : α) : Goes (pure a) [] := fun calls => ⟨rfl, (List.append_nil calls).symm⟩

theorem Goes.bind {exchanges' : List (Outgoing × ErpOutcome)} (hx : Goes x exchanges)
    (hf : ∀ a, Goes (f a) exchanges') :
    Goes (x >>= f) (exchanges ++ exchanges') := by
  intro calls
  rw [settles_bind]
  refine (hx calls).mono ?_ ?_
  · rintro a calls' ⟨hanswered, rfl⟩
    obtain ⟨hperformed, hoverall⟩ := append_of_answered exchanges' hanswered
    rw [hperformed, hoverall, ← List.append_assoc]
    exact hf a (calls ++ performed exchanges)
  · rintro e calls' ⟨hne, hcalls, he⟩
    obtain ⟨hperformed, hoverall⟩ := append_of_stopped exchanges' hne
    rw [hperformed, hoverall]
    exact ⟨hne, hcalls, he⟩

theorem Goes.map (g : α → β) (hx : Goes x exchanges) : Goes (g <$> x) exchanges := by
  intro calls
  rw [settles_map]
  exact hx calls

lemma breaks_present (message : String) (f : α → ErpM β) : Breaks (present message none >>= f) := by
  intro calls
  simp [present, TypeError, Thrown.outcome]

lemma present_some (message : String) (a : α) (f : α → ErpM β) : present message (some a) >>= f = f a := rfl

/-- One call: when its answer is complete the rest goes on, and otherwise the rest breaks. -/
theorem goes_send {call : Outgoing} {answer : Except AxiosError α} {complete : α → Bool}
    (hcomplete : ∀ a, complete a = true → Goes (f a) exchanges)
    (hbroken : ∀ a, complete a = false → Breaks (f a)) :
    Goes (send call answer >>= f) ((call, outcome complete answer) :: exchanges) := by
  intro calls
  simp only [send, settles_bind, settles_modify, settles_settle]
  cases answer with
  | ok a =>
    refine ⟨?_, fun e he => absurd he (by simp [Except.mapError])⟩
    intro a' ha'
    obtain rfl := Except.ok.inj ha'
    cases hanswer : complete a with
    | true =>
      have houtcome : outcome complete (.ok a) = .answered := if_pos hanswer
      have hperformed : calls ++ performed ((call, .answered) :: exchanges) =
          (calls ++ [call]) ++ performed exchanges := by
        rw [performed, List.append_assoc, List.singleton_append]
      rw [houtcome, hperformed]
      exact hcomplete a hanswer (calls ++ [call])
    | false =>
      have houtcome : outcome complete (.ok a) = .broken := if_neg (by simp [hanswer])
      rw [houtcome]
      refine (hbroken a hanswer _).mono (fun _ _ h => h.elim) ?_
      rintro e calls' ⟨rfl, hname, hbreaks⟩
      exact ⟨by simp [overall], rfl, hname, hbreaks⟩
  | error e =>
    refine ⟨fun a ha => absurd ha (by simp [Except.mapError]), ?_⟩
    intro thrown hthrown
    obtain rfl := Except.error.inj hthrown
    have houtcome : outcome complete (.error e) ≠ .answered := by
      rw [outcome]
      split_ifs <;> simp
    obtain ⟨hperformed, hoverall⟩ := stops call exchanges houtcome
    rw [hperformed, hoverall]
    exact ⟨houtcome, rfl, ⟨_, _, _, rfl⟩, rfl⟩

/-- An answer with a list and its paging, both of which the adapter needs. -/
lemma goes_page {γ : Type} (A : Arithmetic) {call : Outgoing} {answer : Except AxiosError γ}
    {list : γ → Option (List α)} {paginare : γ → Option WmePaginare} (g : α → β) :
    Goes (do
        let response ← send call answer
        let rows ← present (cannotRead "map") (list response)
        let paging ← present (cannotRead "TotalPagini") (paginare response)
        return (⟨rows.map g, numberOf A paging.TotalPagini, numberOf A paging.Pagina⟩ :
          PaginatedResponseDto β))
      [(call, outcome (fun response => (list response).isSome && (paginare response).isSome) answer)] := by
  refine goes_send (fun response hcomplete => ?_) fun response hincomplete => ?_
  · obtain ⟨hlist, hpaginare⟩ := Bool.and_eq_true_iff.mp hcomplete
    obtain ⟨rows, hrows⟩ := Option.isSome_iff_exists.mp hlist
    obtain ⟨paging, hpaging⟩ := Option.isSome_iff_exists.mp hpaginare
    rw [hrows, hpaging, present_some, present_some]
    exact goes_pure _
  · cases hrows : list response with
    | none => exact breaks_present _ _
    | some rows =>
      have hpaging : paginare response = none := by simpa [hrows] using hincomplete
      rw [hpaging, present_some]
      exact breaks_present _ _

lemma goes_list {γ : Type} {call : Outgoing} {answer : Except AxiosError γ} {message : String}
    {list : γ → Option α} (g : α → β) :
    Goes (do
        let response ← send call answer
        let rows ← present message (list response)
        return g rows)
      [(call, outcome (fun response => (list response).isSome) answer)] := by
  refine goes_send (fun response hcomplete => ?_) fun response hincomplete => ?_
  · obtain ⟨rows, hrows⟩ := Option.isSome_iff_exists.mp hcomplete
    rw [hrows, present_some]
    exact goes_pure _
  · rw [Option.not_isSome_iff_eq_none.mp (Bool.eq_false_iff.mp hincomplete)]
    exact breaks_present _ _

end Exchanges

section Methods

variable (A : Arithmetic) (net : ErpNet) (wmeBaseUrl : String)

lemma getAccounts_goes (name result : String) : Goes (getAccounts net wmeBaseUrl name result)
    [(.get (wmeBaseUrl ++ name), outcome (·.InfoSolduri.isSome) (net.getSolduri (wmeBaseUrl ++ name)))] := by
  refine goes_send (fun response hcomplete => ?_) fun response hincomplete => ?_
  · obtain ⟨rows, hrows⟩ := Option.isSome_iff_exists.mp hcomplete
    rw [hrows]
    exact goes_pure rows
  · rw [Option.not_isSome_iff_eq_none.mp (Bool.eq_false_iff.mp hincomplete)]
    intro calls
    simp [present, TypeError, Thrown.outcome]

/-- The adapter goes through the exchanges of the request. -/
theorem method_goes (request : ErpRequest) :
    Goes (WmeAdapter.method A net wmeBaseUrl request) (request.exchanges net wmeBaseUrl) := by
  cases request with
  | dashboard =>
    refine Goes.map _ ((getAccounts_goes net wmeBaseUrl "/GetSolduriClienti" _).bind fun receivable => ?_)
    exact (getAccounts_goes net wmeBaseUrl "/GetSolduriFurnizori" _).bind fun payable => goes_pure _
  | partners pagination filters => exact (goes_page A WmeMapper.toPartnerDto).map _
  | items pagination filters => exact (goes_page A WmeMapper.toItemDto).map _
  | purchaseInvoices pagination filters =>
    exact (goes_list (List.map (WmeMapper.toPurchaseInvoiceDto A))).map _

end Methods

/-! ### Errors that are no answers -/

/-- What fails here fails with an error that is no `HttpException`. -/
def FailsPlainly {α : Type} (x : Except Exception α) : Prop :=
  ∀ e, x = .error e → ∃ name message, e = .error name message

section Plain

variable {α β Config : Type}

lemma FailsPlainly.bind {x : Except Exception α} {f : α → Except Exception β} (hx : FailsPlainly x)
    (hf : ∀ a, FailsPlainly (f a)) : FailsPlainly (x >>= f) := by
  intro e he
  cases hcase : x with
  | error e' =>
    rw [hcase] at he
    obtain rfl : e' = e := Except.error.inj he
    exact hx e' hcase
  | ok a =>
    rw [hcase] at he
    exact hf a e he

lemma decryptColumn_failsPlainly (gcm : Aes256Gcm) (json : JsonCodec Config) (self : CryptoService)
    (column : Option String) : FailsPlainly (self.decryptColumn gcm json column) := by
  have hdecipher : ∀ key iv, FailsPlainly (createDecipheriv key iv) := by
    intro key iv e he
    unfold createDecipheriv at he
    split_ifs at he <;> exact ⟨_, _, (Except.error.inj he).symm⟩
  have htag : ∀ tag, FailsPlainly (setAuthTag tag) := by
    intro tag e he
    unfold setAuthTag at he
    split_ifs at he
    exact ⟨_, _, (Except.error.inj he).symm⟩
  have hfinal : ∀ key iv encrypted tag, FailsPlainly (gcm.final key iv encrypted tag) := by
    intro key iv encrypted tag e he
    unfold Aes256Gcm.final at he
    split at he
    · exact ⟨_, _, (Except.error.inj he).symm⟩
    · exact absurd he (by simp)
  have hparse : ∀ text, FailsPlainly (json.parseOrThrow text) := by
    intro text e he
    unfold JsonCodec.parseOrThrow at he
    cases hcase : json.parse text with
    | ok value =>
      rw [hcase] at he
      exact absurd he (by simp [Except.mapError])
    | error message =>
      rw [hcase] at he
      exact ⟨_, _, (Except.error.inj he).symm⟩
  cases column with
  | none => exact fun e he => ⟨_, _, (Except.error.inj he).symm⟩
  | some ciphertext =>
    exact (hdecipher _ _).bind fun _ => (htag _).bind fun _ => (hfinal _ _ _ _).bind fun _ => hparse _

/-- Why a user gets no adapter: no tenant in the token, a query that was rejected, or an error that
has no code of its own. -/
lemma adapter_error {tenants : TenantTable} {decrypt : Option String → Except Exception Config}
    (hdecrypt : ∀ column, FailsPlainly (decrypt column)) {user : Claims} {e : Thrown}
    (h : ErpService.adapter tenants decrypt user = .error e) :
    (user.tenantId = 0 ∧ e = .exception (UnauthorizedException "Not a valid tenantId") none) ∨
      user.tenantId ≠ 0 ∧ ((∃ failure, tenants.failure = some failure ∧ e = failure.thrown) ∨
        tenants.failure = none ∧ ∃ name message, e = .exception (.error name message) none) := by
  unfold ErpService.adapter at h
  split_ifs at h with hid
  · exact .inl ⟨hid, (Except.error.inj h).symm⟩
  · refine .inr ⟨hid, ?_⟩
    unfold ErpAdapterFactoryService.getAdapterForTenant TenantService.findOneById at h
    cases hfailure : tenants.failure with
    | some failure =>
      rw [hfailure] at h
      exact .inl ⟨failure, rfl, (Except.error.inj h).symm⟩
    | none =>
      refine .inr ⟨rfl, ?_⟩
      simp only [hfailure, bind, Except.bind] at h
      cases hfound : tenants.rows.find? (·.id = user.tenantId) with
      | none =>
        rw [hfound] at h
        exact ⟨_, _, (Except.error.inj h).symm⟩
      | some tenant =>
        simp only [hfound] at h
        cases hconfig : decrypt tenant.erpConfigEncrypted with
        | error e' =>
          rw [hconfig] at h
          obtain ⟨name, message, rfl⟩ := hdecrypt _ e' hconfig
          exact ⟨name, message, (Except.error.inj h).symm⟩
        | ok config =>
          rw [hconfig] at h
          cases hprovider : tenant.erpProvider <;> simp [hprovider, Except.mapError, pure, Except.pure] at h

end Plain

lemma jwtGuard_error {env : AuthEnv} {now : ℕ} {token : String} {e : Exception}
    (h : JwtGuard env now token = .error e) : e = UnauthorizedException "Unauthorized" := by
  rw [jwtGuard_eq] at h
  unfold AuthEnv.payload at h
  split_ifs at h
  · exact (Except.error.inj h).symm
  · split at h
    · exact (Except.error.inj h).symm
    · exact absurd h (by simp)

/-! ### Statuses and calls -/

section Answers

variable {Config : Type} {A : Arithmetic} {net : ErpNet} {tenants : TenantTable}
  {decrypt : Option String → Except Exception Config} {baseUrl : Config → String} {env : AuthEnv}
  {overLimit : Bool} {now : ℕ} {token : String} {query : Query} {route : ErpRoute}

/-- The calls that a request sends and the status of its answer, case by case. -/
def ErpController.decided (A : Arithmetic) (net : ErpNet) (tenants : TenantTable)
    (decrypt : Option String → Except Exception Config) (baseUrl : Config → String) (env : AuthEnv)
    (overLimit : Bool) (now : ℕ) (token : String) (query : Query) (route : ErpRoute) :
    List Outgoing × ℕ :=
  if overLimit then ([], 429)
  else match JwtGuard env now token with
  | .error _ => ([], 401)
  | .ok user =>
    match route.parse A query with
    | .error _ => ([], 400)
    | .ok request =>
      if user.tenantId = 0 then ([], 401)
      else match tenants.failure with
      | some failure => ([], failure.thrown.outcome.status)
      | none =>
        match ErpService.adapter tenants decrypt user with
        | .ok (.wme config) =>
          (performed (request.exchanges net (baseUrl config)),
            (overall (request.exchanges net (baseUrl config))).status)
        | _ => ([], 500)

lemma status_of_thrown {e : Thrown} (hplain : ∃ name message code, e = .exception (.error name message) code)
    (hanswered : e.outcome ≠ .answered) :
    ((NetworkErrorInterceptor.intercept e).response : Response ErpBody).status = e.outcome.status := by
  obtain ⟨name, message, code, rfl⟩ := hplain
  by_cases hnetwork : ∃ c ∈ networkErrors, code = some c
  · simp only [NetworkErrorInterceptor.intercept, Thrown.outcome, if_pos hnetwork]
    rfl
  · simp only [NetworkErrorInterceptor.intercept, Thrown.outcome, if_neg hnetwork]
    rfl

/-- What a settled handler answers. -/
def responseOf : EStateM.Result Thrown (List Outgoing) ErpBody → List Outgoing × Response ErpBody
  | .ok body calls => (calls, .ok body)
  | .error e calls => (calls, (NetworkErrorInterceptor.intercept e).response)

/-- Going through exchanges comes to the status of the first that is not answered. -/
lemma Goes.status {x : ErpM ErpBody} {exchanges : List (Outgoing × ErpOutcome)} (h : Goes x exchanges) :
    (responseOf (x.run [])).1 = performed exchanges ∧
      (responseOf (x.run [])).2.status = (overall exchanges).status := by
  have hsettles := h []
  unfold Settles at hsettles
  cases hrun : x.run [] with
  | ok body calls =>
    rw [hrun] at hsettles
    obtain ⟨hanswered, rfl⟩ := hsettles
    exact ⟨rfl, by rw [hanswered]; rfl⟩
  | error e calls =>
    rw [hrun] at hsettles
    obtain ⟨hne, rfl, hplain, houtcome⟩ := hsettles
    exact ⟨rfl, by rw [← houtcome, ← status_of_thrown hplain (houtcome ▸ hne)]; rfl⟩

lemma respond_eq {user : Claims} (hguard : requestUser env overLimit now token = .ok user) :
    ErpController.respond A net tenants decrypt baseUrl env overLimit now token query route =
      responseOf ((ErpController.handle A net tenants decrypt baseUrl user query route).run []) := by
  rw [ErpController.respond, hguard]
  dsimp only
  cases (ErpController.handle A net tenants decrypt baseUrl user query route).run [] <;> rfl

lemma handle_eq {user : Claims} {request : ErpRequest} (hparse : route.parse A query = .ok request) :
    ErpController.handle A net tenants decrypt baseUrl user query route =
      ErpService.request A net tenants decrypt baseUrl user request := by
  rw [ErpController.handle, hparse]
  cases request <;> rfl

lemma request_run {user : Claims} (request : ErpRequest) :
    (ErpService.request A net tenants decrypt baseUrl user request).run [] =
      match ErpService.adapter tenants decrypt user with
      | .ok (.wme config) => (WmeAdapter.method A net (baseUrl config) request).run []
      | .ok (.softone _) => .error (.exception (.error "Error" "Method not implemented.") none) []
      | .error e => .error e [] := by
  rw [ErpService.request]
  cases ErpService.adapter tenants decrypt user with
  | error e => rfl
  | ok adapter => cases adapter <;> rfl

lemma QueryError.outcome_ne (failure : QueryError) : failure.thrown.outcome ≠ .answered := by
  simp only [QueryError.thrown, Thrown.outcome]
  split_ifs <;> simp

/-- The answer to a request, and what it sends, are decided case by case. -/
theorem respond_decided (hdecrypt : ∀ column, FailsPlainly (decrypt column)) :
    ((ErpController.respond A net tenants decrypt baseUrl env overLimit now token query route).1,
      (ErpController.respond A net tenants decrypt baseUrl env overLimit now token query route).2.status) =
    ErpController.decided A net tenants decrypt baseUrl env overLimit now token query route := by
  unfold ErpController.decided
  cases overLimit with
  | true => rfl
  | false =>
    rw [if_neg Bool.false_ne_true]
    cases hguard : JwtGuard env now token with
    | error e =>
      rw [ErpController.respond, requestUser_within, hguard, jwtGuard_error hguard]
      rfl
    | ok user =>
      rw [respond_eq (requestUser_ok.mpr ⟨rfl, hguard⟩)]
      dsimp only
      cases hparse : route.parse A query with
      | error messages =>
        rw [ErpController.handle, hparse]
        rfl
      | ok request =>
        rw [handle_eq hparse, request_run]
        dsimp only
        cases hadapter : ErpService.adapter tenants decrypt user with
        | error e =>
          rcases adapter_error hdecrypt hadapter with
            ⟨hid, rfl⟩ | ⟨hid, ⟨failure, hfailure, rfl⟩ | ⟨hfailure, name, message, rfl⟩⟩
          · rw [if_pos hid]
            rfl
          · rw [if_neg hid, hfailure]
            exact Prod.ext rfl (status_of_thrown ⟨_, _, _, rfl⟩ failure.outcome_ne)
          · rw [if_neg hid, hfailure]
            rfl
        | ok adapter =>
          obtain ⟨hid, hfailure⟩ := adapter_found hadapter
          rw [if_neg hid, hfailure]
          cases adapter with
          | softone config => rfl
          | wme config =>
            obtain ⟨hcalls, hstatus⟩ := (method_goes A net (baseUrl config) request).status
            exact Prod.ext hcalls hstatus

/-- The request comes as far as the WinMentor of the user's tenant. -/
structure Reaches (A : Arithmetic) (tenants : TenantTable) (decrypt : Option String → Except Exception Config)
    (env : AuthEnv) (overLimit : Bool) (now : ℕ) (token : String) (query : Query) (route : ErpRoute)
    (user : Claims) (request : ErpRequest) (config : Config) : Prop where
  guards : requestUser env overLimit now token = .ok user
  parse : route.parse A query = .ok request
  adapter : ErpService.adapter tenants decrypt user = .ok (.wme config)

lemma Reaches.tenantId_ne {user : Claims} {request : ErpRequest} {config : Config}
    (h : Reaches A tenants decrypt env overLimit now token query route user request config) :
    user.tenantId ≠ 0 := (adapter_found h.adapter).1

lemma Reaches.decided {user : Claims} {request : ErpRequest} {config : Config}
    (h : Reaches A tenants decrypt env overLimit now token query route user request config) :
    ErpController.decided A net tenants decrypt baseUrl env overLimit now token query route =
      (performed (request.exchanges net (baseUrl config)),
        (overall (request.exchanges net (baseUrl config))).status) := by
  obtain ⟨rfl, hguard⟩ := requestUser_ok.mp h.guards
  obtain ⟨hid, hfailure⟩ := adapter_found h.adapter
  rw [ErpController.decided, if_neg Bool.false_ne_true, hguard]
  dsimp only
  rw [h.parse]
  dsimp only
  rw [if_neg hid, hfailure, h.adapter]

lemma Reaches.unique {user user' : Claims} {request request' : ErpRequest} {config config' : Config}
    (h : Reaches A tenants decrypt env overLimit now token query route user request config)
    (h' : Reaches A tenants decrypt env overLimit now token query route user' request' config') :
    user = user' ∧ request = request' ∧ config = config' := by
  obtain rfl := Except.ok.inj (h.guards.symm.trans h'.guards)
  exact ⟨rfl, Except.ok.inj (h.parse.symm.trans h'.parse),
    ErpAdapter.wme.inj (Except.ok.inj (h.adapter.symm.trans h'.adapter))⟩

/-- The query for the user's tenant is sent, and rejected with this error. -/
@[mk_iff]
structure LookupFails (A : Arithmetic) (tenants : TenantTable) (env : AuthEnv) (overLimit : Bool) (now : ℕ)
    (token : String) (query : Query) (route : ErpRoute) (failure : QueryError) : Prop where
  sent : ∃ user request, requestUser env overLimit now token = .ok user ∧
    route.parse A query = .ok request ∧ user.tenantId ≠ 0
  failure : tenants.failure = some failure

lemma LookupFails.not_reaches {failure : QueryError} {user : Claims} {request : ErpRequest} {config : Config}
    (h : LookupFails A tenants env overLimit now token query route failure) :
    ¬Reaches A tenants decrypt env overLimit now token query route user request config := fun h' =>
  absurd (h.failure.symm.trans (adapter_found h'.adapter).2) (by simp)

variable (net baseUrl) in
/-- Without reaching a WinMentor a request sends nothing, and each way to fail has its status. -/
lemma decided_of_not_reaches
    (h : ∀ user request config,
      ¬Reaches A tenants decrypt env overLimit now token query route user request config) :
    ∃ status,
      ErpController.decided A net tenants decrypt baseUrl env overLimit now token query route = ([], status) ∧
      ((status = 429 ∧ overLimit = true) ∨ overLimit = false ∧
        ((status = 401 ∧ ∀ user, JwtGuard env now token ≠ .ok user) ∨
        (∃ user, JwtGuard env now token = .ok user ∧
          ((status = 400 ∧ ∃ messages, route.parse A query = .error messages) ∨
            ∃ request, route.parse A query = .ok request ∧
              (status = 401 ∧ user.tenantId = 0 ∨ user.tenantId ≠ 0 ∧
                ((∃ failure, tenants.failure = some failure ∧ status = failure.thrown.outcome.status) ∨
                  status = 500 ∧ tenants.failure = none)))))) := by
  unfold ErpController.decided
  cases overLimit with
  | true => exact ⟨429, rfl, .inl ⟨rfl, rfl⟩⟩
  | false =>
    rw [if_neg Bool.false_ne_true]
    cases hguard : JwtGuard env now token with
    | error e => exact ⟨401, rfl, .inr ⟨rfl, .inl ⟨rfl, by simp⟩⟩⟩
    | ok user =>
      dsimp only
      cases hparse : route.parse A query with
      | error messages => exact ⟨400, rfl, .inr ⟨rfl, .inr ⟨user, rfl, .inl ⟨rfl, messages, rfl⟩⟩⟩⟩
      | ok request =>
        dsimp only
        by_cases hid : user.tenantId = 0
        · exact ⟨401, if_pos hid, .inr ⟨rfl, .inr ⟨user, rfl, .inr ⟨request, rfl, .inl ⟨rfl, hid⟩⟩⟩⟩⟩
        · rw [if_neg hid]
          cases hfailure : tenants.failure with
          | some failure =>
            exact ⟨_, rfl, .inr ⟨rfl, .inr ⟨user, rfl, .inr ⟨request, rfl, .inr ⟨hid, .inl ⟨failure, rfl,
              rfl⟩⟩⟩⟩⟩⟩
          | none =>
            refine ⟨500, ?_, .inr ⟨rfl, .inr ⟨user, rfl, .inr ⟨request, rfl, .inr ⟨hid, .inr ⟨rfl, rfl⟩⟩⟩⟩⟩⟩
            dsimp only
            split
            · next config hadapter =>
              exact absurd ⟨requestUser_ok.mpr ⟨rfl, hguard⟩, hparse, hadapter⟩ (h user request config)
            · rfl

/-- The status of every answer: 429 over the limit; within it 401 without a valid token or without a
tenant in it, 400 for a query that the pipes reject, 503 when the query for the tenant or the first
call of the request that fails has met a network error, 200 when none fails, and 500 for everything
else. -/
theorem erp_status (gcm : Aes256Gcm) (json : JsonCodec Config) (self : CryptoService) (A : Arithmetic)
    (net : ErpNet) (tenants : TenantTable) (baseUrl : Config → String) (env : AuthEnv) (overLimit : Bool)
    (now : ℕ) (token : String) (query : Query) (route : ErpRoute) :
    let decrypt := self.decryptColumn gcm json
    let status :=
      (ErpController.respond A net tenants decrypt baseUrl env overLimit now token query route).2.status
    (status = 429 ↔ overLimit = true) ∧
    (status = 401 ↔ overLimit = false ∧ ((∀ user, JwtGuard env now token ≠ .ok user) ∨ ∃ user request,
      JwtGuard env now token = .ok user ∧ route.parse A query = .ok request ∧ user.tenantId = 0)) ∧
    (status = 400 ↔ ∃ user messages,
      requestUser env overLimit now token = .ok user ∧ route.parse A query = .error messages) ∧
    (status = 503 ↔
      (∃ failure, LookupFails A tenants env overLimit now token query route failure ∧
        failure.thrown.outcome = .unreachable) ∨
      ∃ user request config,
        Reaches A tenants decrypt env overLimit now token query route user request config ∧
        overall (request.exchanges net (baseUrl config)) = .unreachable) ∧
    (status = 200 ↔ ∃ user request config,
      Reaches A tenants decrypt env overLimit now token query route user request config ∧
      overall (request.exchanges net (baseUrl config)) = .answered) ∧
    status ∈ [200, 400, 401, 429, 500, 503] := by
  intro decrypt status
  have hstatus : status =
      (ErpController.decided A net tenants decrypt baseUrl env overLimit now token query route).2 :=
    congrArg Prod.snd (respond_decided (decryptColumn_failsPlainly gcm json self))
  by_cases hreaches : ∃ user request config,
      Reaches A tenants decrypt env overLimit now token query route user request config
  · obtain ⟨user, request, config, h⟩ := hreaches
    obtain ⟨rfl, hguard⟩ := requestUser_ok.mp h.guards
    have houtcome : ∀ o, (∃ user request config,
        Reaches A tenants decrypt env false now token query route user request config ∧
        overall (request.exchanges net (baseUrl config)) = o) ↔
        overall (request.exchanges net (baseUrl config)) = o := by
      refine fun o => ⟨?_, fun ho => ⟨user, request, config, h, ho⟩⟩
      rintro ⟨user', request', config', h', ho⟩
      obtain ⟨rfl, rfl, rfl⟩ := h.unique h'
      exact ho
    have hlookup : ¬∃ failure, LookupFails A tenants env false now token query route failure ∧
        failure.thrown.outcome = .unreachable := fun ⟨failure, hfails, _⟩ => hfails.not_reaches h
    rw [h.decided] at hstatus
    rw [houtcome, houtcome, or_iff_right hlookup, hstatus, requestUser_within]
    cases overall (request.exchanges net (baseUrl config)) <;>
      simp [ErpOutcome.status, hguard, h.parse, h.tenantId_ne]
  · have hnone : ∀ o, ¬∃ user request config,
        Reaches A tenants decrypt env overLimit now token query route user request config ∧
        overall (request.exchanges net (baseUrl config)) = o := by
      rintro o ⟨user, request, config, h, -⟩
      exact hreaches ⟨user, request, config, h⟩
    obtain ⟨code, hdecided, hwhy⟩ := decided_of_not_reaches net baseUrl
      fun user request config h => hreaches ⟨user, request, config, h⟩
    rw [hdecided] at hstatus
    rw [iff_false_right (hnone _), or_iff_left (hnone _), hstatus]
    simp only [lookupFails_iff]
    rcases hwhy with ⟨rfl, rfl⟩ | ⟨rfl, ⟨rfl, hguard⟩ | ⟨user, hguard, ⟨rfl, messages, hparse⟩ |
      ⟨request, hparse, ⟨rfl, hid⟩ | ⟨hid, ⟨failure, hfailure, rfl⟩ | ⟨rfl, hfailure⟩⟩⟩⟩⟩
    · simp [requestUser_over]
    · simp [requestUser_within, hguard]
    · simp [requestUser_within, hguard, hparse]
    · simp [requestUser_within, hguard, hparse, hid]
    · have hne := failure.outcome_ne
      cases houtcome : failure.thrown.outcome <;>
        simp_all [requestUser_within, ErpOutcome.status]
    · simp [requestUser_within, hguard, hparse, hid, hfailure]

end Answers

end NextLevelApi
