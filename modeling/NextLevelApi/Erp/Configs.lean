import NextLevelApi.Core.Crypto
import NextLevelApi.Erp.Factory

/-!
# The configuration of an adapter

A tenant's row holds what `encrypt.js` printed, and the factory decrypts it for every request.
The adapter works with the configuration that the script was given, and with none that was not
sealed with the key of the service.
-/

namespace NextLevelApi
open Buffer CryptoService Fallible

section Configs

variable {Config : Type} (gcm : Aes256Gcm) (json : JsonCodec Config)

/-- `decrypt` on the column, which is null as long as the tenant has no configuration. -/
def CryptoService.decryptColumn (self : CryptoService) : Option String → Except Exception Config
  | none => .error (.error "TypeError" ("The first argument must be of type string or an instance of " ++
      "Buffer, ArrayBuffer, or Array or an Array-like Object. Received null"))
  | some ciphertext => self.decrypt gcm json ciphertext

variable {gcm} {json} {tenants : TenantTable} {user : Claims}

/-- Where the script and the service are given one key in ASCII, a tenant's requests reach the
adapter of the provider with the configuration that was encrypted. -/
theorem adapter_of_script (hgcm : gcm.Documented) {text : String} {key : Bytes 32}
    (hkey : scriptKey text = some key) (hascii : IsAscii text) :
    ∃ self, CryptoService.new (some text) = .ok self ∧ ∀ tenant iv config,
      user.tenantId ≠ 0 → TenantService.findOneById tenants user.tenantId = .ok (some tenant) →
      json.parse (json.stringify config) = .ok config →
      tenant.erpConfigEncrypted = some (encrypt gcm json key iv config) →
      ErpService.adapter tenants (self.decryptColumn gcm json) user = .ok (match tenant.erpProvider with
        | .SOFTONE => .softone config
        | .WME => .wme config) := by
  obtain ⟨self, hself, hreads⟩ := @reads_script _ _ json hgcm _ _ hkey hascii
  refine ⟨self, hself, fun tenant iv config hid htenant hjson hcolumn => ?_⟩
  have hconfig : self.decryptColumn gcm json tenant.erpConfigEncrypted = .ok config := by
    rw [hcolumn]
    exact hreads iv config hjson
  rw [ErpService.adapter, if_neg hid]
  exact (getAdapterForTenant_found htenant).mpr ⟨config, hconfig, rfl⟩

/-- No adapter is built from a text that is not framed and sealed. -/
theorem adapter_wellFramed (hgcm : gcm.Documented) (hempty : ∃ message, json.parse "" = .error message)
    {self : CryptoService} {adapter : ErpAdapter Config}
    (h : ErpService.adapter tenants (self.decryptColumn gcm json) user = .ok adapter) :
    ∃ tenant ∈ tenants.rows, tenant.id = user.tenantId ∧ ∃ ciphertext config,
      tenant.erpConfigEncrypted = some ciphertext ∧
      WellFramed gcm json self.key (fromBase64 ciphertext) config ∧
      adapter = match tenant.erpProvider with
        | .SOFTONE => .softone config
        | .WME => .wme config := by
  obtain ⟨tenant, hmem, hid, config, hconfig, hadapter⟩ := adapter_builtFor h
  refine ⟨tenant, hmem, hid, ?_⟩
  cases hcolumn : tenant.erpConfigEncrypted with
  | none =>
    rw [hcolumn] at hconfig
    exact absurd hconfig (by simp [decryptColumn])
  | some ciphertext =>
    rw [hcolumn] at hconfig
    exact ⟨ciphertext, config, rfl, wellFramed_of_decrypt hgcm hempty hconfig, hadapter⟩

end Configs

end NextLevelApi
