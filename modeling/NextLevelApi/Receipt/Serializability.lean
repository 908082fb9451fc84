import NextLevelApi.Library.Serializability
import NextLevelApi.Receipt.Images
import NextLevelApi.Receipt.ReadBack

/-!
# Scans are serializable

However scans are interleaved, the two tables are those of a run in which the scans that have
committed ran one after another, in the order of their commits, and all others not at all.
What keeps scans apart is that UUIDs and generated ids are fresh.
-/

namespace NextLevelApi
open Async Fallible ReceiptService ThreadPool

/-- What a scan draws: the UUID of its key, and the ids of its rows. -/
inductive DrawnName
  | uuid (id : Uuid)
  | receipt (id : Int4)
  | item (id : Int4)

def NamedBy (key : String) (id : Uuid) : Prop :=
  ∃ now userId ext, key = AwsS3Service.makeKey now id userId ext

def ReceiptState.Drawn (s : ReceiptState) : DrawnName → Prop
  | .uuid id => id ∈ s.uuids
  | .receipt id => id ∈ s.receiptIds
  | .item id => id ∈ s.itemIds

/-- The names in the tables. -/
def Stores.Spent (stores : Stores) : DrawnName → Prop
  | .uuid id => ∃ row ∈ stores.receipts, NamedBy row.s3Key id
  | .receipt id => ∃ row ∈ stores.receipts, row.id = id
  | .item id => ∃ row ∈ stores.receiptItems, row.id = id

namespace ReceiptCall

def pendingLines : ReceiptCall → List ReceiptItem
  | scan _ _ (.linesInserted _ _ _ rows) => rows
  | _ => []

def Owns (call : ReceiptCall) : DrawnName → Prop
  | .uuid id => ∃ key, call.key = some key ∧ NamedBy key id
  | .receipt id => ∃ row, call.pendingRow = some row ∧ row.id = id
  | .item id => ∃ row ∈ call.pendingLines, row.id = id

def Valid (call : ReceiptCall) : Prop := ∀ row, call.pendingRow = some row → call.key = some row.s3Key

/-- The call may still commit, or has not begun. -/
def Pending : ReceiptCall → Prop
  | scan _ _ (.cleaning _ _) => False
  | scan _ _ (.resolved _ _) => False
  | scan _ _ (.rejected _) => False
  | scan _ _ _ => True
  | presign _ _ _ .started => True
  | presign _ _ _ _ => False

def isResolved : ReceiptCall → Bool
  | scan _ _ (.resolved _ _) => true
  | _ => false

end ReceiptCall

section Names

variable {env : ReceiptEnv} {s3 : S3Env} {s s' : ReceiptState} {c c' : ReceiptCall} {n : DrawnName}

lemma NamedBy.of_makeKey {now userId : ℕ} {id id' : Uuid} {ext : String}
    (h : NamedBy (AwsS3Service.makeKey now id userId ext) id') : id' = id := by
  obtain ⟨now', userId', ext', hkey⟩ := h
  exact (AwsS3Service.makeKey_inj hkey).2.symm

lemma ReceiptCall.not_owns (hkey : c.key = none) (hpending : c.pendingRow = none)
    (hlines : c.pendingLines = []) : ¬c.Owns n := by
  cases n <;> simp [ReceiptCall.Owns, hkey, hpending, hlines]

lemma ReceiptMove.valid (h : ReceiptMove env s3 s c s' c') (hc : c.Valid) : c'.Valid := by
  cases h with
  | insertReceipt hfresh h =>
    obtain ⟨-, -, -, hkey⟩ := NewReceipt.insert_ok h
    rintro _ ⟨⟩
    exact congrArg some hkey.symm
  | insertLines hlines h hfresh hsorted => exact hc
  | _ => exact fun _ h => absurd h (by simp [ReceiptCall.pendingRow])

lemma ReceiptMove.drawn (h : ReceiptMove env s3 s c s' c') (hn : s.Drawn n) : s'.Drawn n := by
  cases h with
  | upload now hfresh h =>
    cases n with
    | uuid id => exact List.mem_cons_of_mem _ hn
    | _ => exact hn
  | insertReceipt hfresh h =>
    cases n with
    | receipt id => exact List.mem_cons_of_mem _ hn
    | _ => exact hn
  | insertLines hlines h hfresh hsorted =>
    cases n with
    | item id => exact List.mem_append_right _ hn
    | _ => exact hn
  | presign now hfresh h =>
    cases n with
    | uuid id => exact List.mem_cons_of_mem _ hn
    | _ => exact hn
  | _ => cases n <;> exact hn

/-- A name that a step brings its call is fresh. -/
lemma ReceiptMove.owns (h : ReceiptMove env s3 s c s' c') (hn : c'.Owns n) :
    c.Owns n ∨ (¬s.Drawn n ∧ s'.Drawn n) := by
  cases h with
  | upload now hfresh h =>
    obtain ⟨f, -, -, rfl, -⟩ := AwsS3Service.upload.command_ok.mp h
    cases n with
    | uuid id =>
      obtain ⟨_, ⟨⟩, hnamed⟩ := hn
      obtain rfl := hnamed.of_makeKey
      exact .inr ⟨hfresh, List.mem_cons_self⟩
    | receipt id => exact absurd hn (by simp [ReceiptCall.Owns, ReceiptCall.pendingRow])
    | item id => exact absurd hn (by simp [ReceiptCall.Owns, ReceiptCall.pendingLines])
  | insertReceipt hfresh h =>
    obtain ⟨-, hid, -⟩ := NewReceipt.insert_ok h
    cases n with
    | uuid id => exact .inl hn
    | receipt id =>
      obtain ⟨_, ⟨⟩, rfl⟩ := hn
      rw [hid]
      exact .inr ⟨hfresh, List.mem_cons_self⟩
    | item id => exact absurd hn (by simp [ReceiptCall.Owns, ReceiptCall.pendingLines])
  | insertLines hlines h hfresh hsorted =>
    cases n with
    | item id =>
      obtain ⟨row, hrow, rfl⟩ := hn
      exact .inr ⟨hfresh row hrow, List.mem_append_left _ (List.mem_map_of_mem hrow)⟩
    | _ => exact .inl hn
  | put => cases n <;> exact .inl hn
  | ocr raw => cases n <;> exact .inl hn
  | ocrFails => cases n <;> exact .inl hn
  | validate h => cases n <;> exact .inl hn
  | invalid h => cases n <;> exact .inl hn
  | _ => exact absurd hn (ReceiptCall.not_owns rfl rfl rfl)

/-- Only a commit changes the tables, by the rows that its call has pending. -/
lemma ReceiptMove.spent (h : ReceiptMove env s3 s c s' c') (hc : c.Valid) :
    (∀ n, s.stores.Spent n → s'.stores.Spent n) ∧
      ∀ n, s'.stores.Spent n → s.stores.Spent n ∨ (c.Owns n ∧ ¬c'.Owns n) := by
  rcases h.ledger_cases with ⟨hreceipts, hitems, -, -⟩ |
    ⟨file, userId, key, scanData, saved, rows, rfl, rfl, hstores, -, -⟩
  · have hsame : ∀ n, s'.stores.Spent n ↔ s.stores.Spent n := by
      intro n
      cases n <;> simp only [Stores.Spent, hreceipts, hitems]
    exact ⟨fun n hn => (hsame n).mpr hn, fun n hn => .inl ((hsame n).mp hn)⟩
  · have hkey : some key = some saved.s3Key := hc saved rfl
    rw [hstores]
    refine ⟨fun n hn => ?_, fun n hn => ?_⟩
    · cases n <;> obtain ⟨row, hrow, hnamed⟩ := hn <;> exact ⟨row, List.mem_append_left _ hrow, hnamed⟩
    · have hgone : ¬(ReceiptCall.scan file userId (.resolved scanData saved)).Owns n :=
        ReceiptCall.not_owns rfl rfl rfl
      cases n <;> obtain ⟨row, hrow, hnamed⟩ := hn <;>
        rcases List.mem_append.mp hrow with hold | hnew
      · exact .inl ⟨row, hold, hnamed⟩
      · obtain rfl := List.mem_singleton.mp hnew
        exact .inr ⟨⟨_, hkey, hnamed⟩, hgone⟩
      · exact .inl ⟨row, hold, hnamed⟩
      · obtain rfl := List.mem_singleton.mp hnew
        exact .inr ⟨⟨_, rfl, hnamed⟩, hgone⟩
      · exact .inl ⟨row, hold, hnamed⟩
      · exact .inr ⟨⟨row, hnew, hnamed⟩, hgone⟩

/-- What the tables show, with the scans that have committed. -/
abbrev ReceiptState.view (s : ReceiptState) : List Receipt × List ReceiptItem × List CommittedScan :=
  (s.stores.receipts, s.stores.receiptItems, s.committed)

lemma ReceiptMove.done_cases (h : ReceiptMove env s3 s c s' c') : c.isResolved = false ∧
    (c'.isResolved = false → s'.view = s.view) := by
  cases h with
  | commit => exact ⟨rfl, fun h => absurd h (by simp [ReceiptCall.isResolved])⟩
  | @transactionFails file userId phase hphase e =>
    cases phase <;> first | exact ⟨rfl, fun _ => rfl⟩ | exact hphase.elim
  | _ => exact ⟨rfl, fun _ => rfl⟩

/-- A scan that may still commit has got here by steps that it can take wherever its names are
fresh. -/
lemma ReceiptMove.replay (h : ReceiptMove env s3 s c s' c') (hc' : c'.Pending) : c.Pending ∧
    (∀ n, c.Owns n → c'.Owns n) ∧
    ∀ r : ReceiptState, (∀ n, c'.Owns n → ¬c.Owns n → ¬r.Drawn n) → ∃ r', ReceiptMove env s3 r c r' c' ∧
      r'.view = r.view ∧ ∀ n, r'.Drawn n → r.Drawn n ∨ c'.Owns n := by
  have hnone : ∀ {file userId n}, ¬(ReceiptCall.scan file userId .started).Owns n :=
    ReceiptCall.not_owns rfl rfl rfl
  cases h with
  | @upload file userId _ _ now uuid hfresh h =>
    obtain ⟨f, -, -, rfl, -⟩ := AwsS3Service.upload.command_ok.mp h
    have hnamed :
        NamedBy (AwsS3Service.makeKey now uuid userId (AwsS3Service.extension f.originalname)) uuid :=
      ⟨now, userId, _, rfl⟩
    refine ⟨trivial, fun n hn => absurd hn hnone, fun r hr => ?_⟩
    refine ⟨_, .upload now (hr (.uuid uuid) ⟨_, rfl, hnamed⟩ hnone) h, rfl, fun n hn => ?_⟩
    cases n with
    | uuid id =>
      rcases List.mem_cons.mp hn with rfl | hold
      · exact .inr ⟨_, rfl, hnamed⟩
      · exact .inl hold
    | _ => exact .inl hn
  | put =>
    refine ⟨trivial, fun n hn => ?_, fun r _ => ⟨_, .put, rfl, fun n hn => .inl ?_⟩⟩ <;> cases n <;> exact hn
  | ocr raw =>
    refine ⟨trivial, fun n hn => ?_, fun r _ => ⟨r, .ocr raw, rfl, fun n hn => .inl hn⟩⟩
    cases n <;> exact hn
  | validate h =>
    refine ⟨trivial, fun n hn => ?_, fun r _ => ⟨r, .validate h, rfl, fun n hn => .inl hn⟩⟩
    cases n <;> exact hn
  | @insertReceipt _ _ _ _ generated saved hfresh h =>
    obtain ⟨-, hid, -⟩ := NewReceipt.insert_ok h
    refine ⟨trivial, fun n hn => ?_, fun r hr => ?_⟩
    · cases n with
      | uuid id => exact hn
      | receipt id => exact absurd hn (by simp [ReceiptCall.Owns, ReceiptCall.pendingRow])
      | item id => exact absurd hn (by simp [ReceiptCall.Owns, ReceiptCall.pendingLines])
    · have hnew : ¬r.Drawn (.receipt generated.id) :=
        hr _ ⟨saved, rfl, hid⟩ (by simp [ReceiptCall.Owns, ReceiptCall.pendingRow])
      refine ⟨_, .insertReceipt hnew h, rfl, fun n hn => ?_⟩
      cases n with
      | receipt id =>
        rcases List.mem_cons.mp hn with rfl | hold
        · exact .inr ⟨saved, rfl, hid⟩
        · exact .inl hold
      | _ => exact .inl hn
  | @insertLines _ _ _ _ _ _ rows _ hlines h hfresh hsorted =>
    refine ⟨trivial, fun n hn => ?_, fun r hr => ?_⟩
    · cases n with
      | item id => exact absurd hn (by simp [ReceiptCall.Owns, ReceiptCall.pendingLines])
      | _ => exact hn
    · have hnew : ∀ row ∈ rows, ¬r.Drawn (.item row.id) := fun row hrow =>
        hr _ ⟨row, hrow, rfl⟩ (by simp [ReceiptCall.Owns, ReceiptCall.pendingLines])
      refine ⟨_, .insertLines hlines h hnew hsorted, rfl, fun n hn => ?_⟩
      cases n with
      | item id =>
        rcases List.mem_append.mp hn with hmem | hold
        · obtain ⟨row, hrow, rfl⟩ := List.mem_map.mp hmem
          exact .inr ⟨row, hrow, rfl⟩
        · exact .inl hold
      | _ => exact .inl hn
  | _ => exact hc'.elim

/-- The commit passes all names of its call to the tables, and can be made on any tables. -/
lemma ReceiptMove.effect (h : ReceiptMove env s3 s c s' c') (hc : c.Valid) (hdone : c'.isResolved = true) :
    c.Pending ∧ (∀ n, c.Owns n → s'.stores.Spent n) ∧
    ∀ r : ReceiptState, r.view = s.view → ∃ r', ReceiptMove env s3 r c r' c' ∧ r'.view = s'.view ∧
      ∀ n, r'.Drawn n → r.Drawn n := by
  cases h with
  | @commit file userId key scanData saved rows =>
    refine ⟨trivial, fun n hn => ?_, fun r hr => ⟨_, .commit, ?_, fun n hn => ?_⟩⟩
    · cases n with
      | uuid id =>
        obtain ⟨key', hkey, hnamed⟩ := hn
        have hsaved : some key' = some saved.s3Key := hkey.symm.trans (hc saved rfl)
        rw [Option.some.inj hsaved] at hnamed
        exact ⟨saved, by simp [Stores.commit], hnamed⟩
      | receipt id =>
        obtain ⟨_, ⟨⟩, rfl⟩ := hn
        exact ⟨saved, by simp [Stores.commit], rfl⟩
      | item id =>
        obtain ⟨row, hrow, rfl⟩ := hn
        exact ⟨row, List.mem_append_right _ hrow, rfl⟩
    · obtain ⟨hreceipts, hrest⟩ := Prod.mk.inj hr
      obtain ⟨hitems, hcommitted⟩ := Prod.mk.inj hrest
      simp only [ReceiptState.view, Stores.commit, hreceipts, hitems, hcommitted]
    · cases n <;> exact hn
  | @transactionFails file userId phase hphase e => exact absurd hdone (by simp [ReceiptCall.isResolved])
  | _ => exact absurd hdone (by simp [ReceiptCall.isResolved])

lemma ReceiptCall.started (h : (receiptSystem env s3).starts c) :
    (c.Valid ∧ ∀ n, ¬c.Owns n) ∧ c.Pending ∧ c.isResolved = false := by
  obtain ⟨file, userId, rfl⟩ | ⟨userId, mimeType, ext, rfl⟩ := h <;>
    exact ⟨⟨by simp [ReceiptCall.Valid, ReceiptCall.pendingRow], fun n => ReceiptCall.not_owns rfl rfl rfl⟩,
      trivial, rfl⟩

end Names

def receiptReplay (env : ReceiptEnv) (s3 : S3Env) :
    Replay (receiptSystem env s3) DrawnName (List Receipt × List ReceiptItem × List CommittedScan) where
  drawn := ReceiptState.Drawn
  spent s := s.stores.Spent
  owns := ReceiptCall.Owns
  valid := ReceiptCall.Valid
  valid_start h := (ReceiptCall.started h).1
  valid_move hc h := h.valid hc
  ambient := by
    rintro s s' ⟨key, object, rfl⟩
    exact ⟨fun n hn => by cases n <;> exact hn, fun n => by cases n <;> exact Iff.rfl⟩
  drawn_move _ h _ hn := h.drawn hn
  owns_move _ h _ hn := h.owns hn
  spent_move hc h := h.spent hc
  view := ReceiptState.view
  pending := ReceiptCall.Pending
  done := ReceiptCall.isResolved
  pending_start h := (ReceiptCall.started h).2
  view_ambient := by
    rintro s s' ⟨key, object, rfl⟩
    rfl
  done_final h := h.done_cases.1
  silent _ h := h.done_cases.2
  replay _ h := h.replay
  effect hc h := h.effect hc

/-! ### Serial runs are runs of scanAndSave -/

/-- Calls of `scanAndSave` one after another, all of them successful. -/
inductive Scans (env : ReceiptEnv) (stores : Stores) : Stores → List ReceiptCall → Prop
  | nil : Scans env stores stores []
  | snoc {stores' : Stores} {calls : List ReceiptCall} {c : Circumstances} {file : Option File} {userId : ℕ}
      {scanData : N8nScanReceiptDto} {saved : Receipt} {frame : Frame} (h : Scans env stores stores' calls)
      (hrun : (scanAndSave env c file userId).run ⟨stores', none⟩ = .ok saved frame) :
    Scans env stores frame.stores (calls ++ [.scan file userId (.resolved scanData saved)])

section Alone

variable {env : ReceiptEnv} {s3 : S3Env} {s s' : ReceiptState} {c c' : ReceiptCall} {file : Option File}
  {userId : ℕ} {before now : Stores}

/-- The image has been put under this key. -/
def Put (file : Option File) (userId : ℕ) (before now : Stores) (key : String) : Prop :=
  ∃ at_ uuid object, AwsS3Service.upload.command at_ uuid userId file = .ok (key, object) ∧
    now = before.put key object

/-- The receipt has been inserted, in a transaction that is still open. -/
def Inserted (env : ReceiptEnv) (userId : ℕ) (key : String) (scanData : N8nScanReceiptDto)
    (saved : Receipt) : Prop :=
  (∃ raw, scanned env raw = .ok scanData) ∧
    ∃ generated, (NewReceipt.create scanData userId key).insert env generated = .ok saved

def LinesInserted (scanData : N8nScanReceiptDto) (saved : Receipt) (rows : List ReceiptItem) : Prop :=
  ∃ lines generated, scanData.items.mapM (NewReceiptItem.create saved.id) = .ok lines ∧
    insertItems lines generated = .ok rows

/-- What has happened so far to a scan that runs alone, and what it has done to the stores. -/
def SoFar (env : ReceiptEnv) (before now : Stores) : ReceiptCall → Prop
  | .scan _ _ .started => now = before
  | .scan file userId (.putting key object) => now = before ∧
      ∃ at_ uuid, AwsS3Service.upload.command at_ uuid userId file = .ok (key, object)
  | .scan file userId (.uploaded key) => Put file userId before now key
  | .scan file userId (.ocrReplied key _) => Put file userId before now key
  | .scan file userId (.validated key scanData) => Put file userId before now key ∧
      ∃ raw, scanned env raw = .ok scanData
  | .scan file userId (.inserted key scanData saved) => Put file userId before now key ∧
      Inserted env userId key scanData saved
  | .scan file userId (.linesInserted key scanData saved rows) => Put file userId before now key ∧
      Inserted env userId key scanData saved ∧ LinesInserted scanData saved rows
  | .scan file userId (.resolved scanData saved) => ∃ key rows stores, Put file userId before stores key ∧
      Inserted env userId key scanData saved ∧ LinesInserted scanData saved rows ∧
      now = stores.commit saved rows
  | _ => True

lemma SoFar.move (h : ReceiptMove env s3 s c s' c') (hc : SoFar env before s.stores c) :
    SoFar env before s'.stores c' := by
  cases h with
  | upload at_ hfresh h => exact ⟨hc, at_, _, h⟩
  | put =>
    obtain ⟨hstores, at_, uuid, h⟩ := hc
    exact ⟨at_, uuid, _, h, congrArg (Stores.put · _ _) hstores⟩
  | ocr raw => exact hc
  | validate h => exact ⟨hc, _, h⟩
  | insertReceipt hfresh h => exact ⟨hc.1, hc.2, _, h⟩
  | insertLines hlines h hfresh hsorted => exact ⟨hc.1, hc.2, _, _, hlines, h⟩
  | commit => exact ⟨_, _, _, hc.1, hc.2.1, hc.2.2, rfl⟩
  | _ => trivial

/-- Under the circumstances that it has met, `scanAndSave` does what the scan has done. -/
lemma scanAndSave_of_soFar {scanData : N8nScanReceiptDto} {saved : Receipt}
    (h : SoFar env before now (.scan file userId (.resolved scanData saved))) :
    ∃ c frame, (scanAndSave env c file userId).run ⟨before, none⟩ = .ok saved frame ∧
      frame.stores = now := by
  obtain ⟨key, rows, stores, ⟨at_, uuid, object, hcommand, rfl⟩, ⟨⟨raw, hscan⟩, generated, hsaved⟩,
    ⟨lines, generatedItems, hlines, hrows⟩, rfl⟩ := h
  let c : Circumstances := {
    now := at_
    uuid := uuid
    put := .ok ()
    post _ := .ok raw
    startTransaction := .ok ()
    insertReceipt := .ok generated
    insertItems := .ok generatedItems
    commit := .ok ()
    delete := .ok () }
  have hsave : saveLines c lines = .ok rows := by
    cases lines with
    | nil => exact hrows
    | cons line lines => exact hrows
  obtain ⟨f, rfl, -⟩ := AwsS3Service.upload.command_ok.mp hcommand
  have hsettles : Settles (scanAndSave env c (some f) userId) ⟨before, none⟩
      (fun saved' frame => saved' = saved ∧ frame = ⟨(before.put key object).commit saved rows, some key⟩)
      fun _ _ => False := by
    unfold scanAndSave scanAndSave.tryBlock AwsS3Service.upload scan transaction
    simp only [settles_bind, settles_tryCatch, settles_settle, settles_modify, settles_pure, settles_throw]
    simp [c, hcommand, hscan, hsaved, hlines, hsave, scan.post]
  exact ⟨c, _, hsettles.run_eq, rfl⟩

lemma SoFar.solo {a b : ReceiptState × ReceiptCall} (h : Solo (receiptSystem env s3) a b)
    (ha : SoFar env before a.1.stores a.2) : SoFar env before b.1.stores b.2 := by
  induction h with
  | refl => exact ha
  | tail _ hmove ih => exact ih.move hmove

/-- A serial run of scans that resolve is a run of `scanAndSave` after `scanAndSave`. -/
theorem scans_of_serial {calls : List ReceiptCall} (h : Serial (receiptSystem env s3) s s' calls)
    (hcalls : ∀ call ∈ calls, call.isResolved = true) : Scans env s.stores s'.stores calls := by
  induction h with
  | nil => exact .nil
  | @snoc s' s'' calls call call' _ hstart hsolo ih =>
    have hscans := ih fun call hcall => hcalls call (List.mem_append_left _ hcall)
    have hbegins : SoFar env s'.stores s'.stores call := by
      obtain ⟨file, userId, rfl⟩ | ⟨userId, mimeType, ext, rfl⟩ := hstart
      · rfl
      · trivial
    have hends := hbegins.solo hsolo
    have hresolved := hcalls call' (by simp)
    rcases call' with ⟨file, userId, phase⟩ | ⟨userId, mimeType, ext, phase⟩
    · cases phase with
      | resolved scanData saved =>
        obtain ⟨c, frame, hrun, hstores⟩ := scanAndSave_of_soFar hends
        rw [show s''.stores = frame.stores from hstores.symm]
        exact .snoc hscans hrun
      | _ => exact absurd hresolved (by simp [ReceiptCall.isResolved])
    · exact absurd hresolved (by simp [ReceiptCall.isResolved])

end Alone

/-- In every reachable state the tables are those that `scanAndSave` leaves when it is called for
one scan after another: for those that have resolved, with their answers, in the order of their
commits, each with a UUID and ids that are fresh. -/
theorem scans_serializable {env : ReceiptEnv} {s3 : S3Env} {bucket : Bucket}
    {p : Pool ReceiptState ReceiptCall}
    (hrun : Run (receiptSystem env s3) ⟨ReceiptState.initial bucket, []⟩ p) :
    ∃ s scans, Serial (receiptSystem env s3) (ReceiptState.initial bucket) s scans ∧
      Scans env ⟨[], [], bucket⟩ s.stores scans ∧ scans.Perm (p.threads.filter ReceiptCall.isResolved) ∧
      s.stores.receipts = p.shared.stores.receipts ∧ s.stores.receiptItems = p.shared.stores.receiptItems ∧
      s.committed = p.shared.committed := by
  have hfresh : ∀ n, ¬(ReceiptState.initial bucket).Drawn n := by
    intro n
    cases n <;> simp [ReceiptState.Drawn, ReceiptState.initial]
  have hspent : ∀ n, ¬(ReceiptState.initial bucket).stores.Spent n := by
    intro n
    cases n <;> simp [Stores.Spent, ReceiptState.initial]
  obtain ⟨s, scans, hserial⟩ := (receiptReplay env s3).serializable_run hfresh hspent hrun
  obtain ⟨hreceipts, hrest⟩ := Prod.mk.inj hserial.view
  obtain ⟨hitems, hcommitted⟩ := Prod.mk.inj hrest
  have hresolved : ∀ call ∈ scans, call.isResolved = true :=
    fun call hcall => (List.mem_filter.mp (hserial.done.subset hcall)).2
  exact ⟨s, scans, hserial.serial, scans_of_serial hserial.serial hresolved, hserial.done, hreceipts,
    hitems, hcommitted⟩

/-- Of two interleaved scans one has been saved and one has cleaned up: the tables are those that
the first leaves alone. -/
theorem scans_serializable_saved : ∃ p saved stores,
    Run (receiptSystem Sample.receiptEnv Sample.s3) ⟨Sample.noImages, []⟩ p ∧
    p.threads = Sample.cleaned saved ∧ stores.receipts = [saved] ∧
    stores.receipts = p.shared.stores.receipts ∧ stores.receiptItems = p.shared.stores.receiptItems ∧
    Scans Sample.receiptEnv ⟨[], [], fun _ => none⟩ stores
      [.scan (some Sample.photo) 1 (.resolved Sample.scanData saved)] := by
  obtain ⟨saved, row, s, -, -, hreceipts, -, -, hrun⟩ := Sample.cleaning_run Sample.s3
  have hcleaned := hrun.trans (Sample.cleaned_run Sample.s3 s saved)
  obtain ⟨s', scans, -, hscans, hperm, htable, hitems, -⟩ := scans_serializable hcleaned
  obtain rfl : scans = [.scan (some Sample.photo) 1 (.resolved Sample.scanData saved)] :=
    List.perm_singleton.mp hperm
  exact ⟨_, saved, s'.stores, hcleaned, rfl, htable.trans hreceipts, htable, hitems, hscans⟩

end NextLevelApi
