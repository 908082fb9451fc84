import NextLevelApi.Receipt.Ledger

/-!
# Reading receipts back

While any number of scans run, the tables hold the ledger of those that have committed, and
the ledger is that of the calls that have resolved. A receipt can be read by the user who
scanned it and by nobody else; an id that no column can hold is not even looked up.
-/

namespace NextLevelApi
open Fallible ReceiptService ThreadPool

def ReceiptCall.entry : ReceiptCall → Option CommittedScan
  | .scan _ userId (.resolved scanData saved) => some ⟨userId, saved.id, scanData⟩
  | _ => none

def ReceiptCall.RowsShow : ReceiptCall → Prop
  | .scan _ userId (.inserted _ scanData saved) => saved.Records ⟨userId, saved.id, scanData⟩
  | .scan _ userId (.linesInserted _ scanData saved rows) => saved.Records ⟨userId, saved.id, scanData⟩ ∧
      ShowItems scanData.items rows ∧ (∀ row ∈ rows, row.receiptId = saved.id) ∧
      rows.Pairwise fun a b => a.id.val < b.id.val
  | _ => True

/-- The tables hold the ledger, and its ids come from the sequence. -/
structure ReceiptState.LedgerSound (s : ReceiptState) : Prop where
  holds : s.stores.Holds s.committed
  generated : ∀ scan ∈ s.committed, scan.receiptId ∈ s.receiptIds

/-- What a call may rely on: its pending row has an id of its own, and its entry stays. -/
structure ReceiptCall.LedgerHeld (s : ReceiptState) (call : ReceiptCall) : Prop where
  shows : call.RowsShow
  generated : ∀ saved, call.pendingRow = some saved → saved.id ∈ s.receiptIds
  unused : ∀ saved, call.pendingRow = some saved → ∀ scan ∈ s.committed, scan.receiptId ≠ saved.id
  recorded : ∀ scan, call.entry = some scan → scan ∈ s.committed

section Steps

variable {env : ReceiptEnv} {s3 : S3Env} {s s' : ReceiptState} {c c' : ReceiptCall}

lemma ReceiptMove.entry_eq_none (h : ReceiptMove env s3 s c s' c') : c.entry = none := by
  cases h with
  | @transactionFails file userId phase hphase e =>
    cases phase <;> first | rfl | exact hphase.elim
  | _ => rfl

lemma ReceiptMove.ledger_cases (h : ReceiptMove env s3 s c s' c') :
    (s'.stores.receipts = s.stores.receipts ∧ s'.stores.receiptItems = s.stores.receiptItems ∧
      s'.committed = s.committed ∧ c'.entry = none) ∨
    ∃ file userId key scanData saved rows, c = .scan file userId (.linesInserted key scanData saved rows) ∧
      c' = .scan file userId (.resolved scanData saved) ∧ s'.stores = s.stores.commit saved rows ∧
      s'.committed = s.committed ++ [⟨userId, saved.id, scanData⟩] ∧ s'.receiptIds = s.receiptIds := by
  cases h with
  | commit => exact .inr ⟨_, _, _, _, _, _, rfl, rfl, rfl, rfl, rfl⟩
  | _ => exact .inl ⟨rfl, rfl, rfl, rfl⟩

/-- A step keeps its pending row, gives it up, or inserts one with a fresh id. -/
lemma ReceiptMove.pending_cases (h : ReceiptMove env s3 s c s' c') : c'.pendingRow = none ∨
    (c'.pendingRow = c.pendingRow ∧ s'.receiptIds = s.receiptIds) ∨
    ∃ saved, c'.pendingRow = some saved ∧ saved.id ∉ s.receiptIds ∧
      s'.receiptIds = saved.id :: s.receiptIds := by
  cases h with
  | insertReceipt hfresh h =>
    obtain ⟨-, hid, -⟩ := NewReceipt.insert_ok h
    exact .inr (.inr ⟨_, rfl, hid ▸ hfresh, by rw [hid]⟩)
  | insertLines hlines h hfresh hsorted => exact .inr (.inl ⟨rfl, rfl⟩)
  | _ => exact .inl rfl

lemma ReceiptMove.receiptIds_subset (h : ReceiptMove env s3 s c s' c') : s.receiptIds ⊆ s'.receiptIds := by
  cases h with
  | insertReceipt hfresh h => exact List.subset_cons_self _ _
  | _ => exact List.Subset.refl _

lemma ReceiptMove.rowsShow (h : ReceiptMove env s3 s c s' c') (hc : c.RowsShow) : c'.RowsShow := by
  cases h with
  | insertReceipt hfresh h =>
    obtain ⟨hshows, -, huser, -⟩ := NewReceipt.insert_ok h
    exact ⟨rfl, huser, hshows⟩
  | insertLines hlines h hfresh hsorted =>
    obtain ⟨hitems, hreceipt⟩ := insertItems_ok hlines h
    exact ⟨hc, hitems, hreceipt, hsorted⟩
  | _ => trivial

lemma Stores.Holds.of_tables {stores stores' : Stores} {committed : List CommittedScan}
    (h : stores.Holds committed) (hreceipts : stores'.receipts = stores.receipts)
    (hitems : stores'.receiptItems = stores.receiptItems) : stores'.Holds committed := by
  have hlines : ∀ receiptId, stores'.linesOf receiptId = stores.linesOf receiptId :=
    fun receiptId => congrArg (List.filter _) hitems
  refine ⟨hreceipts ▸ h.receipts, h.distinct, ?_, ?_, hitems ▸ h.owned⟩
  · simpa only [hlines] using h.items
  · simpa only [hlines] using h.sorted

lemma ReceiptMove.ledgerSound (h : ReceiptMove env s3 s c s' c') (hs : s.LedgerSound)
    (hc : c.LedgerHeld s) : s'.LedgerSound := by
  rcases h.ledger_cases with ⟨hreceipts, hitems, hcommitted, -⟩ |
    ⟨file, userId, key, scanData, saved, rows, rfl, -, hstores, hcommitted, hids⟩
  · refine ⟨hcommitted ▸ hs.holds.of_tables hreceipts hitems, ?_⟩
    rw [hcommitted]
    exact fun scan hmem => h.receiptIds_subset (hs.generated scan hmem)
  · obtain ⟨hrecords, hitems, hreceipt, hsorted⟩ := hc.shows
    refine ⟨?_, ?_⟩
    · rw [hstores, hcommitted]
      exact hs.holds.commit hrecords (hc.unused saved rfl) hitems hreceipt hsorted
    · rw [hcommitted, hids]
      intro scan hmem
      rcases List.mem_append.mp hmem with hmem | hmem
      · exact hs.generated scan hmem
      · obtain rfl := List.mem_singleton.mp hmem
        exact hc.generated saved rfl

lemma ReceiptMove.ledgerHeld (h : ReceiptMove env s3 s c s' c') (hs : s.LedgerSound)
    (hc : c.LedgerHeld s) : c'.LedgerHeld s' := by
  have hshows := h.rowsShow hc.shows
  rcases h.ledger_cases with ⟨-, -, hcommitted, hentry⟩ |
    ⟨file, userId, key, scanData, saved, rows, -, rfl, -, hcommitted, -⟩
  · have hrecorded : ∀ scan, c'.entry = some scan → scan ∈ s'.committed := by simp [hentry]
    rcases h.pending_cases with hnone | ⟨hsame, hids⟩ | ⟨saved, hsaved, hfresh, hids⟩
    · exact ⟨hshows, by simp [hnone], by simp [hnone], hrecorded⟩
    · refine ⟨hshows, ?_, ?_, hrecorded⟩
      · rw [hsame, hids]
        exact hc.generated
      · rw [hsame, hcommitted]
        exact hc.unused
    · refine ⟨hshows, ?_, ?_, hrecorded⟩ <;> intro saved' hsaved' <;>
        obtain rfl := Option.some.inj (hsaved.symm.trans hsaved')
      · rw [hids]
        exact List.mem_cons_self
      · rw [hcommitted]
        rintro scan hmem hid
        exact hfresh (hid ▸ hs.generated scan hmem)
  · refine ⟨hshows, fun _ h => absurd h (by simp [ReceiptCall.pendingRow]),
      fun _ h => absurd h (by simp [ReceiptCall.pendingRow]), ?_⟩
    rintro scan hentry
    obtain rfl := Option.some.inj hentry
    rw [hcommitted]
    exact List.mem_append_right _ (List.mem_singleton_self _)

lemma ReceiptMove.ledgerHeld_other {u : ReceiptCall} (h : ReceiptMove env s3 s c s' c')
    (hu : u.LedgerHeld s)
    (hapart : ∀ a b, c.pendingRow = some a → u.pendingRow = some b → a.id ≠ b.id) :
    u.LedgerHeld s' := by
  have hgenerated : ∀ saved, u.pendingRow = some saved → saved.id ∈ s'.receiptIds :=
    fun saved hsaved => h.receiptIds_subset (hu.generated saved hsaved)
  rcases h.ledger_cases with ⟨-, -, hcommitted, -⟩ |
    ⟨file, userId, key, scanData, saved, rows, rfl, -, -, hcommitted, -⟩
  · exact ⟨hu.shows, hgenerated, hcommitted ▸ hu.unused, hcommitted ▸ hu.recorded⟩
  · refine ⟨hu.shows, hgenerated, ?_, ?_⟩ <;> rw [hcommitted]
    · intro saved' hsaved' scan hmem
      rcases List.mem_append.mp hmem with hmem | hmem
      · exact hu.unused saved' hsaved' scan hmem
      · obtain rfl := List.mem_singleton.mp hmem
        exact hapart saved saved' rfl hsaved'
    · exact fun scan hentry => List.mem_append_left _ (hu.recorded scan hentry)

lemma ReceiptCall.ledgerHeld_started (h : (receiptSystem env s3).starts c) : c.LedgerHeld s := by
  obtain ⟨file, userId, rfl⟩ | ⟨userId, mimeType, ext, rfl⟩ := h <;>
    exact ⟨trivial, by simp [ReceiptCall.pendingRow], by simp [ReceiptCall.pendingRow],
      by simp [ReceiptCall.entry]⟩

end Steps

/-- The tables hold the ledger; no two calls have a row with one id pending. -/
def ledgerOutline (env : ReceiptEnv) (s3 : S3Env) : Outline (receiptSystem env s3) where
  inv s := s.LedgerSound
  asserts s c := c.LedgerHeld s
  apart t u := ∀ a b, t.pendingRow = some a → u.pendingRow = some b → a.id ≠ b.id
  apart_symm h a b ha hb := (h b a hb ha).symm
  start _ h := ReceiptCall.ledgerHeld_started h
  start_apart {s t u} _ h _ := by
    obtain ⟨file, userId, rfl⟩ | ⟨userId, mimeType, ext, rfl⟩ := h <;> simp [ReceiptCall.pendingRow]
  ambient {s s'} hs h := by
    obtain ⟨key, object, rfl⟩ := h
    refine ⟨⟨hs.holds.of_tables rfl rfl, hs.generated⟩, fun t ht => ?_⟩
    exact ⟨ht.shows, ht.generated, ht.unused, ht.recorded⟩
  move hs hc h := ⟨h.ledgerSound hs hc, h.ledgerHeld hs hc⟩
  frame {s t u s' t'} hs ht hu hapart _ h := by
    refine ⟨h.ledgerHeld_other hu hapart, ?_⟩
    rcases h.pending_cases with hnone | ⟨hsame, -⟩ | ⟨saved, hsaved, hfresh, -⟩
    · simp [hnone]
    · rwa [hsame]
    · intro a b ha hb hid
      obtain rfl := Option.some.inj (hsaved.symm.trans ha)
      exact hfresh (hid ▸ hu.generated b hb)

/-- A scan of user `u` has committed, and has created the receipt with this id. -/
def Created (p : Pool ReceiptState ReceiptCall) (u : ℕ) (id : ℤ) (scanData : N8nScanReceiptDto) : Prop :=
  ∃ (i : ℕ) (file : Option File) (saved : Receipt),
    p.threads[i]? = some (.scan file u (.resolved scanData saved)) ∧ saved.id.val = id

/-- What the user reads of a receipt, and of all receipts, is what the user's scans have read. -/
structure ReadsBack (p : Pool ReceiptState ReceiptCall) (id : ℤ) (u : ℕ) : Prop where
  receipt_iff : (∃ row, getReceiptForUser p.shared.stores id u = .ok row) ↔
    ∃ scanData, Created p u id scanData
  items_iff : (∃ rows, getReceiptItems p.shared.stores id u = .ok rows) ↔
    ∃ scanData, Created p u id scanData
  notFound : (¬∃ scanData, Created p u id scanData) →
    getReceiptForUser p.shared.stores id u = .error (NotFoundException "Receipt not found") ∧
      getReceiptItems p.shared.stores id u = .error (NotFoundException "Receipt not found")
  receipt : ∀ scanData row, Created p u id scanData → getReceiptForUser p.shared.stores id u = .ok row →
    row.id.val = id ∧ row.userId.val = u ∧ row.Shows scanData
  items : ∀ scanData rows, Created p u id scanData → getReceiptItems p.shared.stores id u = .ok rows →
    ShowItems scanData.items rows
  answers : ∃ answer, getAllReceiptsForUser p.shared.stores u answer
  all : ∀ answer, getAllReceiptsForUser p.shared.stores u answer → ∃ found, answer = .ok found ∧
    (found.map Receipt.id).Nodup ∧
    (∀ row ∈ found, ∃ scanData, Created p u row.id.val scanData ∧ row.userId.val = u ∧ row.Shows scanData) ∧
    ∀ id scanData, Created p u id scanData → ∃ row ∈ found, row.id.val = id

section Runs

variable {env : ReceiptEnv} {s3 : S3Env} {bucket : Bucket} {p : Pool ReceiptState ReceiptCall}
  (hrun : Run (receiptSystem env s3) ⟨ReceiptState.initial bucket, []⟩ p)

include hrun

lemma ledgerOutline_run : (ledgerOutline env s3).Holds p := by
  refine (ledgerOutline env s3).holds_run ((ledgerOutline env s3).holds_empty ?_) hrun
  exact ⟨⟨.nil, List.nodup_nil, by simp [ReceiptState.initial], by simp [ReceiptState.initial],
    by simp [ReceiptState.initial]⟩, by simp [ReceiptState.initial]⟩

/-- Every entry of the ledger is that of a resolved call. -/
theorem resolved_of_committed : ∀ scan ∈ p.shared.committed,
    ∃ (i : ℕ) (call : ReceiptCall), p.threads[i]? = some call ∧ call.entry = some scan := by
  induction hrun with
  | refl => simp [ReceiptState.initial]
  | @tail p q _ hstep ih =>
    have hold : ∀ scan ∈ p.shared.committed,
        ∃ (i : ℕ) (call : ReceiptCall), q.threads[i]? = some call ∧ call.entry = some scan := by
      intro scan hmem
      obtain ⟨i, call, hi, hentry⟩ := ih scan hmem
      rcases hstep.thread_persists hi with hq | ⟨call', -, hmove⟩
      · exact ⟨i, call, hq, hentry⟩
      · exact absurd (ReceiptMove.entry_eq_none hmove) (by simp [hentry])
    cases hstep with
    | start h => exact hold
    | ambient h =>
      obtain ⟨key, object, rfl⟩ := h
      exact hold
    | @move i call call' s' hi hp hmove =>
      rcases ReceiptMove.ledger_cases hmove with ⟨-, -, hcommitted, -⟩ |
        ⟨file, userId, key, scanData, saved, rows, -, rfl, -, hcommitted, -⟩
      · rw [hcommitted]
        exact hold
      · rw [hcommitted]
        intro scan hmem
        rcases List.mem_append.mp hmem with hmem | hmem
        · exact hold scan hmem
        · obtain rfl := List.mem_singleton.mp hmem
          exact ⟨i, _, getElem?_moved hi, rfl⟩

/-- The ledger is that of the resolved calls. -/
lemma created_iff {u : ℕ} {id : ℤ} {scanData : N8nScanReceiptDto} : Created p u id scanData ↔
    ∃ scan ∈ p.shared.committed,
      scan.userId = u ∧ scan.receiptId.val = id ∧ scan.scanData = scanData := by
  constructor
  · rintro ⟨i, file, saved, hi, hid⟩
    have hheld : (ReceiptCall.scan file u (.resolved scanData saved)).LedgerHeld p.shared :=
      (ledgerOutline_run hrun).asserts hi
    exact ⟨_, hheld.recorded _ rfl, rfl, hid, rfl⟩
  · rintro ⟨scan, hmem, rfl, rfl, rfl⟩
    obtain ⟨i, call, hi, hentry⟩ := resolved_of_committed hrun scan hmem
    rcases call with ⟨file, userId, phase⟩ | _
    · cases phase with
      | resolved scanData saved =>
        obtain rfl := Option.some.inj hentry
        exact ⟨i, file, saved, hi, rfl⟩
      | _ => exact absurd hentry (by simp [ReceiptCall.entry])
    · exact absurd hentry (by simp [ReceiptCall.entry])

lemma isInt4_of_created {u : ℕ} {id : ℤ} {scanData : N8nScanReceiptDto}
    (h : Created p u id scanData) : IsInt4 id ∧ IsInt4 u := by
  obtain ⟨scan, hmem, rfl, rfl, -⟩ := (created_iff hrun).mp h
  obtain ⟨row, -, hrecords⟩ := (mem_of_forall₂ (ledgerOutline_run hrun).inv.holds.receipts).2 scan hmem
  exact ⟨scan.receiptId.range, hrecords.userId ▸ row.userId.range⟩

lemma created_unique {scan : CommittedScan} (hmem : scan ∈ p.shared.committed) {u : ℕ}
    {scanData : N8nScanReceiptDto} (h : Created p u scan.receiptId.val scanData) :
    scanData = scan.scanData := by
  obtain ⟨scan', hmem', -, hid, rfl⟩ := (created_iff hrun).mp h
  exact congrArg CommittedScan.scanData
    ((ledgerOutline_run hrun).inv.holds.eq_of_receiptId hmem' hmem (Int4.ext hid))

lemma all_of_holds {u : ℕ} (hu : IsInt4 u) {answer : Except Exception (List Receipt)}
    (hanswer : getAllReceiptsForUser p.shared.stores u answer) :
    ∃ found, answer = .ok found ∧ (found.map Receipt.id).Nodup ∧
      (∀ row ∈ found, ∃ scanData,
        Created p u row.id.val scanData ∧ row.userId.val = u ∧ row.Shows scanData) ∧
      ∀ id scanData, Created p u id scanData → ∃ row ∈ found, row.id.val = id := by
  have hholds : p.shared.stores.Holds p.shared.committed := (ledgerOutline_run hrun).inv.holds
  obtain ⟨found, scans, rfl, hrecords, hperm⟩ := hholds.findAllForUser hu hanswer
  have hscans : ∀ scan ∈ scans, scan ∈ p.shared.committed ∧ scan.userId = u := by
    intro scan hmem
    simpa using hperm.subset hmem
  refine ⟨found, rfl, ?_, ?_, ?_⟩
  · rw [map_id_of_records hrecords, (hperm.map _).nodup_iff]
    exact hholds.distinct.sublist (List.filter_sublist.map _)
  · intro row hrow
    obtain ⟨scan, hmem, hrecord⟩ := (mem_of_forall₂ hrecords).1 row hrow
    obtain ⟨hcommitted, rfl⟩ := hscans scan hmem
    exact ⟨scan.scanData, (created_iff hrun).mpr ⟨scan, hcommitted, rfl, by rw [hrecord.id], rfl⟩,
      hrecord.userId, hrecord.shows⟩
  · intro id scanData h
    obtain ⟨scan, hcommitted, rfl, rfl, -⟩ := (created_iff hrun).mp h
    have hmem : scan ∈ scans := hperm.symm.subset (by simpa using hcommitted)
    obtain ⟨row, hrow, hrecord⟩ := (mem_of_forall₂ hrecords).2 scan hmem
    exact ⟨row, hrow, by rw [hrecord.id]⟩

end Runs

/-- In every reachable state, what a user reads of a receipt is what the user's scan has read, if
and only if the ids are such that the database can look them up. -/
theorem readsBack_iff {env : ReceiptEnv} {s3 : S3Env} {bucket : Bucket} {p : Pool ReceiptState ReceiptCall}
    (hrun : Run (receiptSystem env s3) ⟨ReceiptState.initial bucket, []⟩ p) (id : ℤ) (u : ℕ) :
    ReadsBack p id u ↔ IsInt4 id ∧ IsInt4 u := by
  constructor
  · intro h
    by_contra hrange
    have hnone : ¬∃ scanData, Created p u id scanData :=
      fun ⟨_, hcreated⟩ => hrange (isInt4_of_created hrun hcreated)
    have herror : getReceiptForUser p.shared.stores id u = .error _ :=
      getReceiptForUser_error (findByIdForUser_error hrange)
    exact absurd ((h.notFound hnone).1.symm.trans herror) (by simp)
  · rintro ⟨hid, hu⟩
    have hholds : p.shared.stores.Holds p.shared.committed := (ledgerOutline_run hrun).inv.holds
    rcases hholds.findByIdForUser hid hu with ⟨row, scan, hfind, hmem, hrecords, rfl, rfl⟩ | ⟨hfind, hno⟩
    · have hcreated : Created p scan.userId scan.receiptId.val scan.scanData :=
        (created_iff hrun).mpr ⟨scan, hmem, rfl, rfl, rfl⟩
      obtain ⟨hrow, hitems⟩ := getReceiptForUser_some hfind
      obtain ⟨rows, hrows, hshow⟩ := hholds.findByReceiptId hmem
      refine ⟨⟨fun _ => ⟨_, hcreated⟩, fun _ => ⟨row, hrow⟩⟩,
        ⟨fun _ => ⟨_, hcreated⟩, fun _ => ⟨rows, hitems.trans hrows⟩⟩,
        fun h => absurd ⟨_, hcreated⟩ h, ?_, ?_,
        findAllForUser_isSome _ _, fun answer => all_of_holds hrun hu⟩
      · intro scanData row' h hrow'
        obtain rfl := Except.ok.inj (hrow.symm.trans hrow')
        obtain rfl := created_unique hrun hmem h
        exact ⟨congrArg Int4.val hrecords.id, hrecords.userId, hrecords.shows⟩
      · intro scanData rows' h hrows'
        obtain rfl := Except.ok.inj ((hitems.trans hrows).symm.trans hrows')
        obtain rfl := created_unique hrun hmem h
        exact hshow
    · have hnone : ∀ scanData, ¬Created p u id scanData := by
        intro scanData h
        obtain ⟨scan, hmem, huser, hscan, -⟩ := (created_iff hrun).mp h
        exact hno scan hmem ⟨hscan, huser⟩
      obtain ⟨hrow, hitems⟩ := getReceiptForUser_none hfind
      refine ⟨⟨fun ⟨_, h⟩ => absurd (hrow.symm.trans h) (by simp), fun ⟨_, h⟩ => absurd h (hnone _)⟩,
        ⟨fun ⟨_, h⟩ => absurd (hitems.symm.trans h) (by simp), fun ⟨_, h⟩ => absurd h (hnone _)⟩,
        fun _ => ⟨hrow, hitems⟩, fun _ _ h => absurd h (hnone _), fun _ _ h => absurd h (hnone _),
        findAllForUser_isSome _ _, fun answer => all_of_holds hrun hu⟩

theorem readsBack_iff_saved : ∃ p saved,
    Run (receiptSystem Sample.receiptEnv Sample.s3) ⟨Sample.noImages, []⟩ p ∧
    p.threads = Sample.cleaned saved ∧ saved.id = Sample.generated.id ∧ ReadsBack p 1 1 := by
  obtain ⟨saved, row, s, -, hid, -, -, -, hrun⟩ := Sample.cleaning_run Sample.s3
  have hcleaned := hrun.trans (Sample.cleaned_run Sample.s3 s saved)
  refine ⟨_, saved, hcleaned, rfl, hid, ?_⟩
  exact (readsBack_iff hcleaned 1 1).mpr ⟨by norm_num [IsInt4], by norm_num [IsInt4]⟩

/-- An id beyond the range of the column is no unused id: the query itself fails. -/
theorem large_id_fails : getReceiptForUser (ReceiptState.initial fun _ => none).stores 2147483648 1 =
      .error (QueryFailedError "value is out of range for type integer") ∧
    ¬ReadsBack ⟨ReceiptState.initial fun _ => none, []⟩ 2147483648 1 := by
  have herror : getReceiptForUser (ReceiptState.initial fun _ => none).stores 2147483648 1 =
      .error (QueryFailedError "value is out of range for type integer") :=
    getReceiptForUser_error (findByIdForUser_error (by norm_num [IsInt4]))
  refine ⟨herror, fun h => ?_⟩
  have hnone : ¬∃ scanData, Created ⟨ReceiptState.initial fun _ => none, []⟩ 1 2147483648 scanData := by
    rintro ⟨scanData, i, file, saved, hi, -⟩
    exact absurd hi (by simp)
  exact absurd ((h.notFound hnone).1.symm.trans herror) (by simp)

end NextLevelApi
