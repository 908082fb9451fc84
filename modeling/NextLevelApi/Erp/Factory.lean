import NextLevelApi.Http
import NextLevelApi.Library.Fallible
import NextLevelApi.Auth.Packages

/-!
# ERP adapters

`ErpService` and the factory behind it: which adapter a request works with.
-/

namespace NextLevelApi
open Fallible

inductive ErpType
  | SOFTONE
  | WME
  deriving DecidableEq

structure Tenant where
  id : ℕ
  name : String
  erpProvider : ErpType
  erpConfigEncrypted : Option String

/-- An error of the database driver. -/
structure QueryError where
  name : String
  message : String
  code : Option String

def QueryError.thrown (e : QueryError) : Thrown := .exception (.error e.name e.message) e.code

/-- The `tenant` table. `failure` is what a query of it is rejected with, where it is. -/
structure TenantTable where
  rows : List Tenant
  ids : (rows.map Tenant.id).Nodup
  failure : Option QueryError := none

def TenantService.findOneById (tenants : TenantTable) (id : ℕ) : Except Thrown (Option Tenant) :=
  match tenants.failure with
  | some e => .error e.thrown
  | none => .ok (tenants.rows.find? (·.id = id))

inductive ErpAdapter (Config : Type)
  | softone (config : Config)
  | wme (config : Config)

section Service

variable {Config : Type} (tenants : TenantTable) (decrypt : Option String → Except Exception Config)

/-- `getAdapterForTenant`, `decrypt` being that of `CryptoService`. The enumeration leaves
nothing for the default branch of its `switch`. -/
def ErpAdapterFactoryService.getAdapterForTenant (tenantId : ℕ) : Except Thrown (ErpAdapter Config) := do
  match ← TenantService.findOneById tenants tenantId with
  | none => .error (.exception (.error "Error" s!"Tenant with ID {tenantId} not found") none)
  | some tenant =>
    -- no error of the decryption has the code of a network error
    let erpConfig ← (decrypt tenant.erpConfigEncrypted).mapError fun e => .exception e none
    match tenant.erpProvider with
    | .SOFTONE => return .softone erpConfig
    | .WME => return .wme erpConfig

/-- What every method of the service does before it calls the adapter. -/
def ErpService.adapter (user : Claims) : Except Thrown (ErpAdapter Config) :=
  if user.tenantId = 0 then .error (.exception (UnauthorizedException "Not a valid tenantId") none)
  else ErpAdapterFactoryService.getAdapterForTenant tenants decrypt user.tenantId

end Service

def BuiltFor {Config : Type} (tenants : TenantTable) (decrypt : Option String → Except Exception Config)
    (tenantId : ℕ) (adapter : ErpAdapter Config) : Prop :=
  ∃ tenant ∈ tenants.rows, tenant.id = tenantId ∧ ∃ config, decrypt tenant.erpConfigEncrypted = .ok config ∧
    adapter = match tenant.erpProvider with
      | .SOFTONE => .softone config
      | .WME => .wme config

section Isolation

variable {Config : Type} {tenants : TenantTable} {decrypt : Option String → Except Exception Config}
  {user : Claims} {adapter : ErpAdapter Config}

lemma findOneById_eq_ok {id : ℕ} {row : Option Tenant} : TenantService.findOneById tenants id = .ok row ↔
    tenants.failure = none ∧ row = tenants.rows.find? (·.id = id) := by
  unfold TenantService.findOneById
  cases tenants.failure <;> simp [eq_comm]

/-- The adapter for a tenant that has been found is made of its provider and configuration. -/
lemma getAdapterForTenant_found {tenantId : ℕ} {tenant : Tenant}
    (h : TenantService.findOneById tenants tenantId = .ok (some tenant)) :
    ErpAdapterFactoryService.getAdapterForTenant tenants decrypt tenantId = .ok adapter ↔
      ∃ config, decrypt tenant.erpConfigEncrypted = .ok config ∧
        adapter = match tenant.erpProvider with
          | .SOFTONE => .softone config
          | .WME => .wme config := by
  rw [ErpAdapterFactoryService.getAdapterForTenant, h]
  simp only [bind, Except.bind]
  cases decrypt tenant.erpConfigEncrypted with
  | error e => simp [Except.mapError]
  | ok config =>
    cases tenant.erpProvider <;> simp [Except.mapError, pure, Except.pure, eq_comm]

lemma adapter_builtFor (h : ErpService.adapter tenants decrypt user = .ok adapter) :
    BuiltFor tenants decrypt user.tenantId adapter := by
  unfold ErpService.adapter at h
  split at h
  · exact absurd h (by simp)
  · obtain ⟨row, hrow, h'⟩ := bind_eq_ok.mp h
    cases row with
    | none => exact absurd h' (by simp)
    | some tenant =>
      obtain ⟨config, hconfig, hadapter⟩ := (getAdapterForTenant_found hrow).mp h
      have hfound := (findOneById_eq_ok.mp hrow).2.symm
      exact ⟨tenant, List.mem_of_find?_eq_some hfound, by simpa using List.find?_some hfound, config, hconfig,
        hadapter⟩

/-- An adapter is built of what a query has found. -/
lemma adapter_found (h : ErpService.adapter tenants decrypt user = .ok adapter) :
    user.tenantId ≠ 0 ∧ tenants.failure = none := by
  unfold ErpService.adapter at h
  split_ifs at h with hid
  obtain ⟨row, hrow, -⟩ := bind_eq_ok.mp h
  exact ⟨hid, (findOneById_eq_ok.mp hrow).1⟩

end Isolation

end NextLevelApi
