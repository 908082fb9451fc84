import NextLevelApi.Erp.Wme
import NextLevelApi.Erp.Factory
import NextLevelApi.Auth.Service
import NextLevelApi.Library.Async

/-!
# Requests to the ERP

The four routes of `ErpController` from the access token and the query to the answer: the guards,
the pipes, the service, the adapter with the calls that it sends, the interceptor and the filter.
-/

namespace NextLevelApi
open Async JsNumber

/-! ### The query -/

/-- The values of a query string under each name, in their order. -/
abbrev Query := String → List String

structure ItemsFilterRequestDto where
  name : Option String

structure PartnersFilterRequestDto where
  name : Option String
  fiscalCode : Option String

/-- `@Type(() => Number) @IsNumber() @Min(1)`: a number, or the messages about it. -/
def Query.number (A : Arithmetic) (query : Query) (property : String) : Except (List String) ℚ :=
  let min := property ++ " must not be less than 1"
  let isNumber := property ++ " must be a number conforming to the specified constraints"
  match query property with
  | [text] =>
    match ofText A text with
    | .finite x => if 1 ≤ x then .ok x else .error [min]
    | .infinity false => .error [isNumber]
    | _ => .error [min, isNumber]
  -- undefined or an array
  | _ => .error [min, isNumber]

/-- `@IsOptional() @IsString()` -/
def Query.string (query : Query) (property : String) : Except (List String) (Option String) :=
  match query property with
  | [] => .ok none
  | [text] => .ok (some text)
  | _ => .error [property ++ " must be a string"]

/-- Two validated properties, or the messages about both. -/
def both {α β : Type} : Except (List String) α → Except (List String) β → Except (List String) (α × β)
  | .ok a, .ok b => .ok (a, b)
  | .ok _, .error messages => .error messages
  | .error messages, .ok _ => .error messages
  | .error messages, .error messages' => .error (messages ++ messages')

def PaginatedRequestDto.validate (A : Arithmetic) (query : Query) :
    Except (List String) PaginatedRequestDto :=
  (both (query.number A "pageNumber") (query.number A "pageSize")).map fun (n, size) => ⟨n, size⟩

def ItemsFilterRequestDto.validate (query : Query) : Except (List String) ItemsFilterRequestDto :=
  (query.string "name").map fun name => ⟨name⟩

def PartnersFilterRequestDto.validate (query : Query) : Except (List String) PartnersFilterRequestDto :=
  (both (query.string "name") (query.string "fiscalCode")).map fun (name, code) => ⟨name, code⟩

/-- The parameters of a handler. -/
inductive ErpRequest
  | dashboard
  | partners (pagination : PaginatedRequestDto) (filters : PartnersFilterRequestDto)
  | items (pagination : PaginatedRequestDto) (filters : ItemsFilterRequestDto)
  | purchaseInvoices (pagination : PaginatedRequestDto) (filters : ItemsFilterRequestDto)

inductive ErpRoute
  | dashboard
  | partners
  | items
  | purchaseInvoices
  deriving DecidableEq

/-- The pipes of a route: what each `@Query()` parameter gets. -/
def ErpRoute.parse (A : Arithmetic) (query : Query) : ErpRoute → Except (List String) ErpRequest
  | .dashboard => .ok .dashboard
  | .partners => do
    return .partners (← PaginatedRequestDto.validate A query) (← PartnersFilterRequestDto.validate query)
  | .items => do
    return .items (← PaginatedRequestDto.validate A query) (← ItemsFilterRequestDto.validate query)
  | .purchaseInvoices => do
    return .purchaseInvoices (← PaginatedRequestDto.validate A query) (← ItemsFilterRequestDto.validate query)

/-! ### WinMentor -/

structure WmePaginare where
  Pagina : Option String
  TotalPagini : Option String

structure WmeItemDto where
  CodArticol : String
  Denumire : String
  PretVanzare : String
  PretCuTVA : String
  PretValuta : String
  ProcentTVA : String

structure WmeItemResponseDto where
  InfoArticole : Option (List WmeItemDto)
  Paginare : Option WmePaginare

structure WmeAgent where
  Nume : Option String
  Prenume : Option String

structure WmeWorkpointDto where
  CodSediu : String
  Denumire : String
  Judet : String
  Strada : String
  Numar : String
  Agent : Option WmeAgent

structure WmePartnerDto where
  Cod : String
  Denumire : String
  CodFiscal : String
  ScadentaLaVanzare : String
  ScadentaLaCumparare : String
  CreditClient : String
  DiscountFix : String
  DataAdaugarii : String
  Sedii : Option (List WmeWorkpointDto)

structure WmePartnerResponseDto where
  InfoParteneri : Option (List WmePartnerDto)
  Paginare : Option WmePaginare

structure WmePurchaseInvoiceResponseDto where
  InfoFacturi : Option (List WmePurchaseInvoiceDto)

structure WmeAccountsReceivableResponseDto where
  InfoSolduri : Option (List WmeAccountsReceivableDto)

/-- The body of a post; a text that is `none` is no property of it. -/
structure WmePayload where
  Pagina : ℚ
  Inregistrari : ℚ
  Denumire : Option String
  CodFiscal : Option String

inductive Outgoing
  | get (url : String)
  | post (url : String) (payload : WmePayload)

def Outgoing.url : Outgoing → String
  | .get url => url
  | .post url _ => url

/-- An `AxiosError`. -/
structure AxiosError where
  message : String
  code : Option String

/-- What the network answers during a request. -/
structure ErpNet where
  getSolduri : (url : String) → Except AxiosError WmeAccountsReceivableResponseDto
  postFacturi : (url : String) → WmePayload → Except AxiosError WmePurchaseInvoiceResponseDto
  postArticole : (url : String) → WmePayload → Except AxiosError WmeItemResponseDto
  postParteneri : (url : String) → WmePayload → Except AxiosError WmePartnerResponseDto

structure ItemDto where
  id : String
  name : String
  salePrice : String
  priceWithVAT : String
  foreignCurrencyPrice : String
  vatPercentage : String
  deriving DecidableEq

structure WorkpointDto where
  id : String
  name : String
  county : String
  street : String
  number : String
  agentFirstName : String
  agentLastName : String
  deriving DecidableEq

structure PartnerDto where
  id : String
  name : String
  fiscalCode : String
  dueAtSale : String
  dueAtPurchase : String
  clientCredit : String
  fixDiscount : String
  workpoints : Option (List WorkpointDto)
  createdAt : String
  deriving DecidableEq

structure PaginatedResponseDto (α : Type) where
  data : List α
  totalPages : JsNumber
  page : JsNumber
  deriving DecidableEq

namespace WmeMapper

def toItemDto (raw : WmeItemDto) : ItemDto where
  id := raw.CodArticol
  name := raw.Denumire
  salePrice := raw.PretVanzare
  priceWithVAT := raw.PretCuTVA
  foreignCurrencyPrice := raw.PretValuta
  vatPercentage := raw.ProcentTVA

def toWorkpointDto (raw : WmeWorkpointDto) : WorkpointDto where
  id := raw.CodSediu
  name := raw.Denumire
  county := raw.Judet
  street := raw.Strada
  number := raw.Numar
  agentFirstName := (raw.Agent.bind WmeAgent.Prenume).getD ""
  agentLastName := (raw.Agent.bind WmeAgent.Nume).getD ""

def toPartnerDto (raw : WmePartnerDto) : PartnerDto where
  id := raw.Cod
  name := raw.Denumire
  fiscalCode := raw.CodFiscal
  dueAtSale := raw.ScadentaLaVanzare
  dueAtPurchase := raw.ScadentaLaCumparare
  clientCredit := raw.CreditClient
  fixDiscount := raw.DiscountFix
  workpoints := raw.Sedii.map (·.map toWorkpointDto)
  createdAt := raw.DataAdaugarii

end WmeMapper

/-! ### Adapters -/

/-- A handler, with the calls that it has sent. -/
abbrev ErpM := EStateM Thrown (List Outgoing)

/-- Send a call and wait for its answer. -/
def send {α : Type} (call : Outgoing) (answer : Except AxiosError α) : ErpM α := do
  modify (· ++ [call])
  settle (answer.mapError fun e => .exception (.error "AxiosError" e.message) e.code)

def TypeError (message : String) : Thrown := .exception (.error "TypeError" message) none

/-- A property of an answer that the adapter cannot do without. -/
def present {α : Type} (message : String) (property : Option α) : ErpM α :=
  settle (property.elim (.error (TypeError message)) .ok)

/-- `Number(text)`, the number of undefined being NaN. -/
def numberOf (A : Arithmetic) (text : Option String) : JsNumber := text.elim .nan (ofText A)

def cannotRead (property : String) : String := s!"Cannot read properties of undefined (reading '{property}')"

section Adapter

variable (A : Arithmetic) (net : ErpNet) (wmeBaseUrl : String)

def notIterable (name : String) : String := name ++ ".InfoSolduri is not iterable"

/-- A list of balances. `result` is what the loop over it calls the answer. -/
def getAccounts (name result : String) : ErpM (List WmeAccountsReceivableDto) := do
  let url := wmeBaseUrl ++ name
  let response ← send (.get url) (net.getSolduri url)
  present (notIterable result) response.InfoSolduri

def WmeAdapter.getAccountsReceivable : ErpM (List WmeAccountsReceivableDto) :=
  getAccounts net wmeBaseUrl "/GetSolduriClienti" "responseAccountsRceivable"

def WmeAdapter.getAccountPayable : ErpM (List WmeAccountsReceivableDto) :=
  getAccounts net wmeBaseUrl "/GetSolduriFurnizori" "responseAccountsPayable"

/-- `getDashboard` with the calls that it sends. -/
def WmeAdapter.getDashboard.calls : ErpM DashboardDataDto := do
  let receivable := dictionaries A (← WmeAdapter.getAccountsReceivable net wmeBaseUrl)
  let payable := dictionaries A (← WmeAdapter.getAccountPayable net wmeBaseUrl)
  return {
    amountAccountsReceivableInvoices := toArray A receivable.invoices
    amountAccountReceivableAdvancePayments := toArray A receivable.advancePayments
    amountAccountsPayableInvoices := toArray A payable.invoices
    amountAccountPayableAdvancePayments := toArray A payable.advancePayments }

/-- `getPurchaseInvoices` with the call that it sends. -/
def WmeAdapter.getPurchaseInvoices.calls (pagination : PaginatedRequestDto) :
    ErpM (List PurchaseInvoiceDto) := do
  let payload : WmePayload := ⟨pagination.pageNumber, pagination.pageSize, none, none⟩
  let url := wmeBaseUrl ++ "/%22GetInfoFacturiFurnizori%22"
  let response ← send (.post url payload) (net.postFacturi url payload)
  let facturi ← present (cannotRead "map") response.InfoFacturi
  return facturi.map (WmeMapper.toPurchaseInvoiceDto A)

def WmeAdapter.getItems (pagination : PaginatedRequestDto) (filters : ItemsFilterRequestDto) :
    ErpM (PaginatedResponseDto ItemDto) := do
  let payload : WmePayload := ⟨pagination.pageNumber, pagination.pageSize, some (filters.name.getD ""), none⟩
  let url := wmeBaseUrl ++ "/%22GetInfoArticole%22"
  let response ← send (.post url payload) (net.postArticole url payload)
  let articole ← present (cannotRead "map") response.InfoArticole
  let paginare ← present (cannotRead "TotalPagini") response.Paginare
  return ⟨articole.map WmeMapper.toItemDto, numberOf A paginare.TotalPagini, numberOf A paginare.Pagina⟩

def WmeAdapter.getPartners (pagination : PaginatedRequestDto) (filters : PartnersFilterRequestDto) :
    ErpM (PaginatedResponseDto PartnerDto) := do
  let payload : WmePayload := ⟨pagination.pageNumber, pagination.pageSize, some (filters.name.getD ""),
    some (filters.fiscalCode.getD "")⟩
  let url := wmeBaseUrl ++ "/%22GetInfoParteneri%22"
  let response ← send (.post url payload) (net.postParteneri url payload)
  let parteneri ← present (cannotRead "map") response.InfoParteneri
  let paginare ← present (cannotRead "TotalPagini") response.Paginare
  return ⟨parteneri.map WmeMapper.toPartnerDto, numberOf A paginare.TotalPagini, numberOf A paginare.Pagina⟩

inductive ErpBody
  | dashboard (data : DashboardDataDto)
  | partners (page : PaginatedResponseDto PartnerDto)
  | items (page : PaginatedResponseDto ItemDto)
  | purchaseInvoices (data : List PurchaseInvoiceDto)
  deriving DecidableEq

/-- The method of the adapter for WinMentor that a request calls. -/
def WmeAdapter.method : ErpRequest → ErpM ErpBody
  | .dashboard => .dashboard <$> WmeAdapter.getDashboard.calls A net wmeBaseUrl
  | .partners pagination filters => .partners <$> WmeAdapter.getPartners A net wmeBaseUrl pagination filters
  | .items pagination filters => .items <$> WmeAdapter.getItems A net wmeBaseUrl pagination filters
  | .purchaseInvoices pagination _ =>
    .purchaseInvoices <$> WmeAdapter.getPurchaseInvoices.calls A net wmeBaseUrl pagination

/-- All methods of the adapter for Softone. -/
def SoftoneAdapter.method : ErpM ErpBody := throw (.exception (.error "Error" "Method not implemented.") none)

end Adapter

/-! ### The answer -/

inductive Response (Body : Type)
  | ok (body : Body)
  | failed (error : ErrorResponse)
  | invalid (messages : List String)

def Response.status {Body : Type} : Response Body → ℕ
  | .ok _ => 200
  | .failed error => error.statusCode
  | .invalid _ => 400

def networkErrors : List String := ["ECONNREFUSED", "ENETUNREACH", "ETIMEDOUT"]

def NetworkErrorInterceptor.intercept : Thrown → Thrown
  | .exception e code =>
    if ∃ c ∈ networkErrors, code = some c then
      .exception (.http 503 "External API unreachable. Make sure VPN is connected.") none
    else .exception e code
  | .invalid messages => .invalid messages

/-- `AllExceptionsFilter` on what is thrown. -/
def Thrown.response {Body : Type} : Thrown → Response Body
  | .exception e _ => .failed (AllExceptionsFilter.catch e)
  | .invalid messages => .invalid messages

section Controller

variable {Config : Type} (A : Arithmetic) (net : ErpNet) (tenants : TenantTable)
  (decrypt : Option String → Except Exception Config) (baseUrl : Config → String)

/-- The body of every method of `ErpService`. -/
def ErpService.request (user : Claims) (request : ErpRequest) : ErpM ErpBody := do
  let adapter ← settle (ErpService.adapter tenants decrypt user)
  match adapter with
  | .wme config => WmeAdapter.method A net (baseUrl config) request
  | .softone _ => SoftoneAdapter.method

def ErpService.getDashboard (user : Claims) : ErpM ErpBody :=
  ErpService.request A net tenants decrypt baseUrl user .dashboard

def ErpService.getPartners (user : Claims) (pagination : PaginatedRequestDto)
    (filters : PartnersFilterRequestDto) : ErpM ErpBody :=
  ErpService.request A net tenants decrypt baseUrl user (.partners pagination filters)

def ErpService.getItems (user : Claims) (pagination : PaginatedRequestDto)
    (filters : ItemsFilterRequestDto) : ErpM ErpBody :=
  ErpService.request A net tenants decrypt baseUrl user (.items pagination filters)

def ErpService.getPurchaseInvoices (user : Claims) (pagination : PaginatedRequestDto)
    (filters : ItemsFilterRequestDto) : ErpM ErpBody :=
  ErpService.request A net tenants decrypt baseUrl user (.purchaseInvoices pagination filters)

/-- A handler of `ErpController`, its pipes included. -/
def ErpController.handle (user : Claims) (query : Query) (route : ErpRoute) : ErpM ErpBody := do
  match ← settle ((route.parse A query).mapError .invalid) with
  | .dashboard => ErpService.getDashboard A net tenants decrypt baseUrl user
  | .partners pagination filters =>
    ErpService.getPartners A net tenants decrypt baseUrl user pagination filters
  | .items pagination filters => ErpService.getItems A net tenants decrypt baseUrl user pagination filters
  | .purchaseInvoices pagination filters =>
    ErpService.getPurchaseInvoices A net tenants decrypt baseUrl user pagination filters

/-- A request to a route, with the calls that it sends and its answer. -/
def ErpController.respond (env : AuthEnv) (overLimit : Bool) (now : ℕ) (token : String) (query : Query)
    (route : ErpRoute) : List Outgoing × Response ErpBody :=
  match requestUser env overLimit now token with
  | .error e => ([], .failed (AllExceptionsFilter.catch e))
  | .ok user =>
    match (ErpController.handle A net tenants decrypt baseUrl user query route).run [] with
    | .ok body calls => (calls, .ok body)
    | .error e calls => (calls, (NetworkErrorInterceptor.intercept e).response)

end Controller

end NextLevelApi
