import NextLevelApi.Library.JsDate
import NextLevelApi.Receipt.FailedScan

/-!
# The date of a receipt

`scanAndSave` makes a `Date` of the text that was read, which is an instant, and the column
takes the day that the server's clocks show then. `keepsDate_iff` says from which texts and in
which time zones that is the day of the text.
-/

namespace NextLevelApi
open Async Fallible JsDate ReceiptService

/-- TypeORM writes the last four characters of a year, and the column takes the digits of a year
from 1. -/
def TakesYear (year : ℤ) : Prop :=
  (0 ≤ year ∨ year ≤ -1000) ∧ year.natAbs % 10000 ≠ 0

instance (year : ℤ) : Decidable (TakesYear year) :=
  inferInstanceAs (Decidable (_ ∧ _))

/-- `new Date(s)` in a `date` column, which has its local day. `other` is what `new Date` makes of a
text in another format. -/
def dateColumnIn (zone : TimeZone) (other : String → Option ℤ) (s : String) : Option String :=
  match DateText.parse s.toList with
  | some form =>
    -- The year of the text has four digits, so that of the day is -1 at least and 10000 at most.
    -- These two and 0 are written as `00-1` and `0000`, which the column refuses.
    let day := zone.localDay (form.instant zone)
    if 1 ≤ day.year ∧ day.year ≤ 9999 then some (String.ofList day.text) else none
  | none => do
    let t ← other s
    let day := zone.localDay t
    if TakesYear day.year then
      some (String.ofList (Calendar.padded 4 (day.year.natAbs % 10000) ++
        '-' :: (Calendar.padded 2 day.month ++ '-' :: Calendar.padded 2 day.day)))
    else none

/-- The server is in the zone. -/
def ReceiptEnv.IsIn (env : ReceiptEnv) (zone : TimeZone) : Prop :=
  ∃ other, env.dateColumn = dateColumnIn zone other

/-- A scan that reads the text as its date is saved, if nothing else stands in its way, and the
row that is saved has the date of the text. -/
structure KeepsDate (zone : TimeZone) (form : DateText) : Prop where
  saved : ∀ env, env.IsIn zone → ∀ c stores file (userId : ℕ) scanData, c.Scans env file scanData →
    scanData.receiptDate = String.ofList form.text → scanData.FitsButDate → FitsInt4 userId →
    c.Commits scanData →
    ∃ saved frame, (scanAndSave env c (some file) userId).run ⟨stores, none⟩ = .ok saved frame
  kept : ∀ env, env.IsIn zone → ∀ c stores file userId scanData, c.Scans env file scanData →
    scanData.receiptDate = String.ofList form.text → ∀ saved frame,
    (scanAndSave env c (some file) userId).run ⟨stores, none⟩ = .ok saved frame →
    saved ∈ frame.stores.receipts ∧ saved.receiptDate = String.ofList form.date.text

section

variable {env : ReceiptEnv} {c : Circumstances} {stores : Stores} {userId : ℕ}
  {scanData : N8nScanReceiptDto}

lemma NewReceipt.insert_date {s3Key : String} {generated : Generated} {row : Receipt}
    (h : (NewReceipt.create scanData userId s3Key).insert env generated = .ok row) :
    env.dateColumn scanData.receiptDate = some row.receiptDate := by
  obtain ⟨_, -, h⟩ := bind_eq_ok.mp h
  obtain ⟨date, hdate, h⟩ := bind_eq_ok.mp h
  obtain ⟨_, -, h⟩ := bind_eq_ok.mp h
  obtain ⟨_, -, h⟩ := bind_eq_ok.mp h
  obtain ⟨_, -, h⟩ := bind_eq_ok.mp h
  obtain ⟨_, -, h⟩ := bind_eq_ok.mp h
  obtain ⟨_, -, h⟩ := bind_eq_ok.mp h
  obtain rfl := Except.ok.inj h
  change env.parseDate scanData.receiptDate = .ok date at hdate
  unfold ReceiptEnv.parseDate at hdate
  split at hdate
  · rename_i hcolumn
    rw [hcolumn, Except.ok.inj hdate]
  · exact absurd hdate (by simp)

/-- The saved row has what the column made of the text. -/
theorem transaction_date (s3Key : String) (frame : Frame) :
    Settles (transaction env c scanData userId s3Key) frame
      (fun saved frame' => saved ∈ frame'.stores.receipts ∧
        env.dateColumn scanData.receiptDate = some saved.receiptDate)
      (fun _ _ => True) := by
  unfold transaction
  simp only [settles_bind, settles_settle, settles_modify, settles_pure, implies_true, and_true]
  intro _ _ generated _ saved hsaved lines _ rows _ _ _
  exact ⟨by simp [Stores.commit], NewReceipt.insert_date hsaved⟩

/-- A scan that goes through is saved if everything fits and no statement fails. -/
theorem scanAndSave_saves {file : File} (hscan : c.Scans env file scanData) :
    Settles (scanAndSave env c (some file) userId) ⟨stores, none⟩
      (fun saved frame => saved ∈ frame.stores.receipts ∧
        env.dateColumn scanData.receiptDate = some saved.receiptDate)
      (fun _ _ => ¬(scanData.Storable env userId ∧ c.Commits scanData)) := by
  unfold scanAndSave
  rw [settles_bind, settles_tryCatch]
  refine (tryBlock_spec (some file)).mono ?_ ?_
  · rintro _ frame ⟨f, scanData', key, object, ext, hf, hscan', rfl, hnul, -, rfl⟩
    obtain rfl := Option.some.inj hf
    obtain rfl := hscan.unique hscan'
    refine ((transaction_spec hnul _).and (transaction_date key _)).mono ?_ ?_
    · exact fun _ _ h => h.2
    · exact fun _ _ h => h.1.2
  · rintro _ frame ⟨-, hfail⟩
    exact absurd hscan (hfail file scanData rfl)

end

lemma dateColumnIn_text (zone : TimeZone) (other : String → Option ℤ) (form : DateText) :
    dateColumnIn zone other (String.ofList form.text) =
      if 1 ≤ (zone.localDay (form.instant zone)).year ∧ (zone.localDay (form.instant zone)).year ≤ 9999 then
        some (String.ofList (zone.localDay (form.instant zone)).text) else none := by
  simp only [dateColumnIn, String.toList_ofList, DateText.parse_text]

/-- The column holds the day of the text. -/
lemma dateColumnIn_eq_iff (zone : TimeZone) (other : String → Option ℤ) (form : DateText) :
    dateColumnIn zone other (String.ofList form.text) = some (String.ofList form.date.text) ↔
      1 ≤ form.date.year ∧ 0 ≤ form.seconds + form.shift zone ∧ form.seconds + form.shift zone < 86400 := by
  rw [dateColumnIn_text, ← DateText.localDay_instant_iff]
  constructor
  · intro h
    split_ifs at h with hyear
    have htext := String.ofList_injective (Option.some.inj h)
    have hsame := Calendar.Date.text_inj form.year_mem.1 (by omega) htext.symm form.year_mem.2
    exact ⟨hsame ▸ hyear.1, hsame.symm⟩
  · rintro ⟨hyear, hday⟩
    rw [hday, if_pos ⟨hyear, Int.le_of_lt_add_one form.year_mem.2⟩]

/-! ### A scan that only the date can fail -/

def serverIn (zone : TimeZone) : ReceiptEnv where
  plainToInstance := .ok
  isISO8601 _ := true
  dateColumn := dateColumnIn zone fun _ => none

namespace Sample

def dated (receiptDate : String) : N8nScanReceiptDto where
  receiptNumber := "17"
  receiptDate := receiptDate
  supplierName := "Mega"
  supplierTaxId := "RO1"
  totalAmount := 25 / 2
  items := []

def datedResponse (receiptDate : String) : Json := .object [("receiptNumber", .string "17"),
  ("receiptDate", .string receiptDate), ("supplierName", .string "Mega"), ("supplierTaxId", .string "RO1"),
  ("totalAmount", .number (25 / 2)), ("items", .array [])]

def reads (receiptDate : String) : Circumstances :=
  { undisturbed with post := fun _ => .ok (datedResponse receiptDate) }

lemma scans_dated (zone : TimeZone) (receiptDate : String) :
    (reads receiptDate).Scans (serverIn zone) photo (dated receiptDate) where
  image := by decide
  put := rfl
  ocr := ⟨datedResponse receiptDate, rfl, rfl⟩

lemma commits_dated (receiptDate : String) : (reads receiptDate).Commits (dated receiptDate) where
  startTransaction := rfl
  insertReceipt := ⟨generated, rfl⟩
  insertItems := fun h => absurd rfl h
  commit := rfl

lemma fits_dated (receiptDate : String) : (dated receiptDate).FitsButDate where
  receiptNumber := by simp [HasNoNul, dated]
  supplierName := by simp [HasNoNul, dated]
  supplierTaxId := by simp [HasNoNul, dated]
  totalAmount := by norm_num [FitsNumeric, dated]
  items := by simp [dated]

lemma fitsInt4_one : FitsInt4 (1 : ℕ) := by norm_num [FitsInt4]

end Sample

open Sample in
/-- What is kept has gone through the column. -/
lemma KeepsDate.dateColumn {zone : TimeZone} {form : DateText} (h : KeepsDate zone form) :
    dateColumnIn zone (fun _ => none) (String.ofList form.text) = some (String.ofList form.date.text) := by
  have hzone : (serverIn zone).IsIn zone := ⟨_, rfl⟩
  have hscan := scans_dated zone (String.ofList form.text)
  obtain ⟨saved, frame, hrun⟩ := h.saved _ hzone _ noStores _ 1 _ hscan rfl (fits_dated _) fitsInt4_one
    (commits_dated _)
  obtain ⟨-, hkept⟩ := h.kept _ hzone _ _ _ _ _ hscan rfl _ _ hrun
  have hsaves := (@scanAndSave_saves _ _ noStores 1 _ _ hscan).ok hrun
  rw [← hkept]
  exact hsaves.2

lemma keepsDate_of_dateColumn {zone : TimeZone} {form : DateText}
    (h : ∀ other, dateColumnIn zone other (String.ofList form.text) = some (String.ofList form.date.text)) :
    KeepsDate zone form := by
  constructor
  case saved =>
    rintro env ⟨other, hzone⟩ c stores file userId scanData hscan hdate hfits huser hcommits
    have hsome : (env.dateColumn scanData.receiptDate).isSome := by
      rw [hzone, hdate, h]
      rfl
    have hsaves := @scanAndSave_saves _ _ stores userId _ _ hscan
    cases hrun : (scanAndSave env c (some file) userId).run ⟨stores, none⟩ with
    | ok saved frame => exact ⟨saved, frame, rfl⟩
    | error e frame => exact absurd ⟨⟨hfits, hsome, huser⟩, hcommits⟩ (hsaves.error hrun)
  case kept =>
    rintro env ⟨other, hzone⟩ c stores file userId scanData hscan hdate saved frame hrun
    have hsaves := (@scanAndSave_saves _ _ stores userId _ _ hscan).ok hrun
    rw [hzone, hdate, h] at hsaves
    exact ⟨hsaves.1, (Option.some.inj hsaves.2).symm⟩

/-- Local time keeps its date in every zone whose clocks are never changed by so much that they
pass midnight from there. -/
theorem keepsDate_of_local {zone : TimeZone} {form : DateText} {time : ClockTime} (hyear : 1 ≤ form.date.year)
    (htime : form.time = some (time, .none))
    (hchange : ∀ t t', t < t' → 0 ≤ time.seconds + (zone.offset t' - zone.offset t) ∧
      time.seconds + (zone.offset t' - zone.offset t) < 86400) : KeepsDate zone form := by
  apply keepsDate_of_dateColumn
  intro other
  apply (dateColumnIn_eq_iff zone other form).mpr
  refine ⟨hyear, ?_⟩
  simp only [DateText.seconds, DateText.shift, htime]
  by_cases hshown : ∃ t, t + zone.offset t = 86400 * form.date.toDays + time.seconds
  · rw [TimeZone.skipped_eq_zero_iff.mpr hshown]
    have hvalid := time.valid
    unfold ClockTime.seconds
    omega
  · obtain ⟨t, hlt, hskipped⟩ := TimeZone.skipped_eq_of_notShown (not_exists.mp hshown)
    rw [hskipped]
    exact hchange t _ hlt

theorem keepsDate_iff (zone : TimeZone) (form : DateText) : KeepsDate zone form ↔
    1 ≤ form.date.year ∧ 0 ≤ form.seconds + form.shift zone ∧ form.seconds + form.shift zone < 86400 := by
  constructor
  · intro h
    exact (dateColumnIn_eq_iff zone _ form).mp h.dateColumn
  · intro hday
    exact keepsDate_of_dateColumn fun other => (dateColumnIn_eq_iff zone other form).mpr hday

namespace Sample

/-- The receipt's date in the OCR response of the tests. -/
def ninthOfDecember : DateText where
  date := ⟨2025, 12, 9, by decide, by decide⟩
  year_mem := by decide
  time := none

end Sample

open Sample in
/-- In New York `2025-12-09` is stored as the eighth. -/
theorem ninthOfDecember_not_kept : String.ofList ninthOfDecember.text = "2025-12-09" ∧
    dateColumnIn (.fixed (-18000)) (fun _ => none) "2025-12-09" = some "2025-12-08" ∧
    ¬KeepsDate (.fixed (-18000)) ninthOfDecember := by
  have htext : String.ofList ninthOfDecember.text = "2025-12-09" := by decide +kernel
  have hstored : dateColumnIn (.fixed (-18000)) (fun _ => none) "2025-12-09" = some "2025-12-08" := by
    decide +kernel
  refine ⟨htext, hstored, fun h => ?_⟩
  have hcolumn := h.dateColumn
  rw [htext, hstored] at hcolumn
  exact absurd hcolumn (by decide +kernel)

end NextLevelApi
