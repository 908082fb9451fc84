import NextLevelApi.Receipt.Access
import NextLevelApi.Receipt.ReadBack

/-!
# Who is shown which receipts

A read from the access token over the routes, the guards and the pipes to the tables, while any
number of scans run. A user is shown the receipts that the user's own scans have created, and what
others have created looks to the user like what nobody has.
-/

namespace NextLevelApi
open Fallible JsNumber ReceiptService ThreadPool

inductive ReceiptBody
  | receipts (rows : List Receipt)
  | receipt (row : Receipt)
  | items (rows : List ReceiptItem)
  | upload (upload : PresignedUpload)

/-- The handlers over the tables. `found` is what the query for all receipts of a user returns,
`queries` whether the database answers the queries of this request, and the two posts are
parameters. -/
def ReceiptController.handlers (stores : Stores) (found : ℕ → Except Exception (List Receipt))
    (queries : Except Exception Unit) (scanReceipt presignUpload : Claims → Except Exception ReceiptBody) :
    ReceiptHandlers ReceiptBody where
  scanReceipt := scanReceipt
  getReceipts user := do
    queries
    ReceiptBody.receipts <$> found user.id
  getReceiptItems user id := do
    queries
    ReceiptBody.items <$> getReceiptItems stores id user.id
  getReceipt user id := do
    queries
    ReceiptBody.receipt <$> getReceiptForUser stores id user.id
  presignUpload := presignUpload

/-- What the path shows to the user: what scans of this user have created, and all of it. -/
inductive Shown (A : Arithmetic) (p : Pool ReceiptState ReceiptCall) (u : ℕ) :
    List String → ReceiptBody → Prop
  | receipts {rows : List Receipt} (honce : (rows.map Receipt.id).Nodup)
      (hown : ∀ row ∈ rows, ∃ scanData, Created p u row.id.val scanData ∧ row.userId.val = u ∧
        row.Shows scanData)
      (hall : ∀ id scanData, Created p u id scanData → ∃ row ∈ rows, row.id.val = id) :
    Shown A p u [] (.receipts rows)
  | receipt {segment : String} {id : ℤ} {row : Receipt} {scanData : N8nScanReceiptDto}
      (hid : ParseIntPipe.transform A segment = .ok id) (hcreated : Created p u id scanData)
      (hrow : row.id.val = id) (huser : row.userId.val = u) (hshows : row.Shows scanData) :
    Shown A p u [segment] (.receipt row)
  | items {segment : String} {id : ℤ} {rows : List ReceiptItem} {scanData : N8nScanReceiptDto}
      (hid : ParseIntPipe.transform A segment = .ok id) (hcreated : Created p u id scanData)
      (hshows : ShowItems scanData.items rows) :
    Shown A p u [segment, "items"] (.items rows)

/-! ### The routes of reads -/

section Routes

variable {Answer : Type} {A : Arithmetic} {handlers : ReceiptHandlers Answer} {view : ViewEnv}
  {guard : Except Exception Claims} {request : ReceiptRequest} {segment : String}
  (hget : request.method = .get)

include hget

lemma dispatch_all (hpath : request.path = []) :
    ReceiptController.dispatch A handlers view guard request = some (do
      let user ← guard
      ControllerAnswer.other <$> handlers.getReceipts user) := by
  simp [ReceiptController.dispatch, ReceiptController.routes, ReceiptRoute.matches, hget, hpath]

lemma dispatch_id (hpath : request.path = [segment]) (hsegment : segment ≠ "") :
    ReceiptController.dispatch A handlers view guard request = some (do
      let user ← guard
      let id ← ParseIntPipe.transform A segment
      ControllerAnswer.other <$> handlers.getReceipt user id) := by
  simp [ReceiptController.dispatch, ReceiptController.routes, ReceiptRoute.matches, Segment.matches, hget,
    hpath, hsegment]

lemma dispatch_items (hpath : request.path = [segment, "items"]) (hsegment : segment ≠ "") :
    ReceiptController.dispatch A handlers view guard request = some (do
      let user ← guard
      let id ← ParseIntPipe.transform A segment
      ControllerAnswer.other <$> handlers.getReceiptItems user id) := by
  simp [ReceiptController.dispatch, ReceiptController.routes, ReceiptRoute.matches, Segment.matches, hget,
    hpath, hsegment]

/-- The paths that a read can have. -/
lemma path_of_dispatch {answer : Except Exception (ControllerAnswer Answer)}
    (h : ReceiptController.dispatch A handlers view guard request = some answer) :
    request.path = [] ∨
      ∃ segment, segment ≠ "" ∧ (request.path = [segment] ∨ request.path = [segment, "items"]) := by
  rcases hpath : request.path with _ | ⟨segment, _ | ⟨last, _ | ⟨other, rest⟩⟩⟩
  · exact .inl rfl
  · by_cases hsegment : segment = ""
    · subst hsegment
      simp [ReceiptController.dispatch, ReceiptController.routes, ReceiptRoute.matches, Segment.matches, hget,
        hpath] at h
    · exact .inr ⟨segment, hsegment, .inl rfl⟩
  · by_cases hitems : segment ≠ "" ∧ last = "items"
    · obtain ⟨hsegment, rfl⟩ := hitems
      exact .inr ⟨segment, hsegment, .inr rfl⟩
    · simp [ReceiptController.dispatch, ReceiptController.routes, ReceiptRoute.matches, Segment.matches, hget,
        hpath] at h
      grind
  · simp [ReceiptController.dispatch, ReceiptController.routes, ReceiptRoute.matches, hget, hpath] at h

end Routes

/-! ### Reads -/

/-- The path of a read of one receipt or of its lines, with the id that the pipe makes of it. -/
structure ReadsOne (A : Arithmetic) (request : ReceiptRequest) (id : ℤ) : Prop where
  path : ∃ segment, segment ≠ "" ∧ ParseIntPipe.transform A segment = .ok id ∧
    (request.path = [segment] ∨ request.path = [segment, "items"])

/-- Who is shown what by a read that is answered with `answer`. -/
structure ServesRead (A : Arithmetic) (p : Pool ReceiptState ReceiptCall) (guards : Except Exception Claims)
    (queries : Except Exception Unit) (request : ReceiptRequest)
    (answer : Option (Except Exception (ControllerAnswer ReceiptBody))) : Prop where
  shown : ∀ a, answer = some (.ok a) →
    ∃ user body, guards = .ok user ∧ Shown A p user.id request.path body ∧ a = .other body
  list : ∀ user, guards = .ok user → queries = .ok () → IsInt4 user.id → request.path = [] →
    ∃ a, answer = some (.ok a)
  found : ∀ user id, guards = .ok user → queries = .ok () → ReadsOne A request id →
    (∃ scanData, Created p user.id id scanData) → ∃ a, answer = some (.ok a)
  notFound : ∀ user id, guards = .ok user → queries = .ok () → ReadsOne A request id → IsInt4 user.id →
    IsInt4 id → (¬∃ scanData, Created p user.id id scanData) →
    answer = some (.error (NotFoundException "Receipt not found"))

section Reads

variable {env : ReceiptEnv} {s3 : S3Env} {bucket : Bucket} {p : Pool ReceiptState ReceiptCall}
  {A : Arithmetic} {segment : String} {id : ℤ} {u : ℕ}

lemma getReceiptItems_error {stores : Stores} {e : Exception}
    (h : ReceiptRepository.findByIdForUser stores id u = .error e) :
    getReceiptItems stores id u = .error e := by
  unfold getReceiptItems
  rw [h]
  rfl

/-- The two queries for one receipt, for a receipt that the user's scan has created and for any other
id. -/
lemma reads_cases (hrun : Run (receiptSystem env s3) ⟨ReceiptState.initial bucket, []⟩ p) (id : ℤ) (u : ℕ) :
    (∃ scanData row rows, Created p u id scanData ∧ getReceiptForUser p.shared.stores id u = .ok row ∧
      getReceiptItems p.shared.stores id u = .ok rows ∧ row.id.val = id ∧ row.userId.val = u ∧
      row.Shows scanData ∧ ShowItems scanData.items rows) ∨
    ((¬∃ scanData, Created p u id scanData) ∧ ∃ e, getReceiptForUser p.shared.stores id u = .error e ∧
      getReceiptItems p.shared.stores id u = .error e ∧
      (IsInt4 u → IsInt4 id → e = NotFoundException "Receipt not found")) := by
  have hholds : p.shared.stores.Holds p.shared.committed := (ledgerOutline_run hrun).inv.holds
  by_cases hrange : IsInt4 id ∧ IsInt4 u
  · rcases hholds.findByIdForUser hrange.1 hrange.2 with
      ⟨row, scan, hfind, hmem, hrecords, rfl, rfl⟩ | ⟨hfind, hno⟩
    · obtain ⟨hrow, hitems⟩ := getReceiptForUser_some hfind
      obtain ⟨rows, hrows, hshow⟩ := hholds.findByReceiptId hmem
      exact .inl ⟨scan.scanData, row, rows, (created_iff hrun).mpr ⟨scan, hmem, rfl, rfl, rfl⟩, hrow,
        hitems.trans hrows, congrArg Int4.val hrecords.id, hrecords.userId, hrecords.shows, hshow⟩
    · obtain ⟨hrow, hitems⟩ := getReceiptForUser_none hfind
      refine .inr ⟨?_, _, hrow, hitems, fun _ _ => rfl⟩
      rintro ⟨scanData, hcreated⟩
      obtain ⟨scan, hmem, huser, hscan, -⟩ := (created_iff hrun).mp hcreated
      exact hno scan hmem ⟨hscan, huser⟩
  · have hfind : ReceiptRepository.findByIdForUser p.shared.stores id u = .error _ :=
      findByIdForUser_error hrange
    refine .inr ⟨?_, _, getReceiptForUser_error hfind, getReceiptItems_error hfind, ?_⟩
    · rintro ⟨scanData, hcreated⟩
      exact hrange (isInt4_of_created hrun hcreated)
    · exact fun hu hid => absurd ⟨hid, hu⟩ hrange

lemma isInt4_of_found {stores : Stores} {rows : List Receipt}
    (h : getAllReceiptsForUser stores u (.ok rows)) : IsInt4 u := by
  by_contra hu
  cases h with
  | found huser _ => exact absurd ((Int4.parse_int_error hu).symm.trans huser) (by simp)

variable {found : ℕ → Except Exception (List Receipt)} {queries : Except Exception Unit}
  {scanReceipt presignUpload : Claims → Except Exception ReceiptBody} {view : ViewEnv}
  {guards : Except Exception Claims} {request : ReceiptRequest}

/-- A read of the list shows what the user's scans have created. -/
lemma shown_all (hrun : Run (receiptSystem env s3) ⟨ReceiptState.initial bucket, []⟩ p) {rows : List Receipt}
    (hall : getAllReceiptsForUser p.shared.stores u (.ok rows)) : Shown A p u [] (.receipts rows) := by
  obtain ⟨_, hok, honce, hown, hevery⟩ := all_of_holds hrun (isInt4_of_found hall) hall
  obtain rfl := Except.ok.inj hok
  exact .receipts honce hown hevery

/-- What a read of one receipt shows. -/
lemma shown_one (hrun : Run (receiptSystem env s3) ⟨ReceiptState.initial bucket, []⟩ p)
    (hid : ParseIntPipe.transform A segment = .ok id) {path : List String}
    {read : Except Exception ReceiptBody}
    (hread : (path = [segment] ∧ read = .receipt <$> getReceiptForUser p.shared.stores id u) ∨
      (path = [segment, "items"] ∧ read = .items <$> getReceiptItems p.shared.stores id u)) :
    ((∃ scanData, Created p u id scanData) ∧ ∃ body, read = .ok body ∧ Shown A p u path body) ∨
    ((¬∃ scanData, Created p u id scanData) ∧ ∃ e, read = .error e ∧
      (IsInt4 u → IsInt4 id → e = NotFoundException "Receipt not found")) := by
  rcases reads_cases hrun id u with
    ⟨scanData, row, rows, hcreated, hrow, hrows, hrowId, huser, hshows, hitems⟩ |
    ⟨hnone, e, hrow, hrows, he⟩
  · refine .inl ⟨⟨scanData, hcreated⟩, ?_⟩
    rcases hread with ⟨rfl, rfl⟩ | ⟨rfl, rfl⟩
    · rw [hrow]
      exact ⟨_, rfl, .receipt hid hcreated hrowId huser hshows⟩
    · rw [hrows]
      exact ⟨_, rfl, .items hid hcreated hitems⟩
  · refine .inr ⟨hnone, e, ?_, he⟩
    rcases hread with ⟨-, rfl⟩ | ⟨-, rfl⟩
    · rw [hrow]
      rfl
    · rw [hrows]
      rfl

/-- A read of one receipt or of its lines, with what the guards and the queries come to. -/
lemma dispatch_one (hget : request.method = .get) (hsegment : segment ≠ "")
    (hpath : request.path = [segment] ∨ request.path = [segment, "items"]) :
    ∃ read : ℕ → ℤ → Except Exception ReceiptBody,
      ReceiptController.dispatch A
        (ReceiptController.handlers p.shared.stores found queries scanReceipt presignUpload) view guards
        request = some (do
          let user ← guards
          let id ← ParseIntPipe.transform A segment
          queries
          ControllerAnswer.other <$> read user.id id) ∧
      ∀ u id, (request.path = [segment] ∧
          read u id = .receipt <$> getReceiptForUser p.shared.stores id u) ∨
        (request.path = [segment, "items"] ∧
          read u id = .items <$> getReceiptItems p.shared.stores id u) := by
  have hmap : ∀ read : Except Exception ReceiptBody, ControllerAnswer.other <$> (queries >>= fun _ => read) =
      queries >>= fun _ => ControllerAnswer.other <$> read := by
    intro read
    cases queries <;> rfl
  rcases hpath with hpath | hpath
  · refine ⟨fun u id => .receipt <$> getReceiptForUser p.shared.stores id u, ?_,
      fun _ _ => .inl ⟨hpath, rfl⟩⟩
    rw [dispatch_id hget hpath hsegment]
    simp only [ReceiptController.handlers, hmap]
  · refine ⟨fun u id => .items <$> getReceiptItems p.shared.stores id u, ?_,
      fun _ _ => .inr ⟨hpath, rfl⟩⟩
    rw [dispatch_items hget hpath hsegment]
    simp only [ReceiptController.handlers, hmap]

/-- An answer to a read of one receipt shows it. -/
lemma answered_one (hrun : Run (receiptSystem env s3) ⟨ReceiptState.initial bucket, []⟩ p)
    (hget : request.method = .get) (hsegment : segment ≠ "")
    (hpath : request.path = [segment] ∨ request.path = [segment, "items"])
    {a : ControllerAnswer ReceiptBody} (ha : ReceiptController.dispatch A
      (ReceiptController.handlers p.shared.stores found queries scanReceipt presignUpload) view guards
      request = some (.ok a)) :
    ∃ user body, guards = .ok user ∧ Shown A p user.id request.path body ∧ a = .other body := by
  obtain ⟨read, hdispatch, hread⟩ := dispatch_one (A := A) (p := p) hget hsegment hpath
  rw [hdispatch] at ha
  obtain ⟨user, hguards, ha⟩ := bind_eq_ok.mp (Option.some.inj ha)
  obtain ⟨id, hid, ha⟩ := bind_eq_ok.mp ha
  obtain ⟨-, -, ha⟩ := bind_eq_ok.mp ha
  obtain ⟨body, hbody, rfl⟩ := map_eq_ok.mp ha
  rcases shown_one hrun hid (hread user.id id) with ⟨-, body', hbody', hshown⟩ | ⟨-, e, he, -⟩
  · obtain rfl := Except.ok.inj (hbody.symm.trans hbody')
    exact ⟨user, body, hguards, hshown, rfl⟩
  · exact absurd (hbody.symm.trans he) (by simp)

/-- A read of one receipt is answered according to whether the user's scans have created it. -/
lemma read_one (hrun : Run (receiptSystem env s3) ⟨ReceiptState.initial bucket, []⟩ p)
    (hget : request.method = .get) {user : Claims} (hguards : guards = .ok user) (hqueries : queries = .ok ())
    (hone : ReadsOne A request id) :
    ((∃ scanData, Created p user.id id scanData) ∧ ∃ a, ReceiptController.dispatch A
        (ReceiptController.handlers p.shared.stores found queries scanReceipt presignUpload) view guards
        request = some (.ok a)) ∨
    ((¬∃ scanData, Created p user.id id scanData) ∧ ∃ e, ReceiptController.dispatch A
        (ReceiptController.handlers p.shared.stores found queries scanReceipt presignUpload) view guards
        request = some (.error e) ∧
      (IsInt4 user.id → IsInt4 id → e = NotFoundException "Receipt not found")) := by
  obtain ⟨segment, hsegment, hid, hpath⟩ := hone.path
  obtain ⟨read, hdispatch, hread⟩ := dispatch_one (A := A) (p := p) hget hsegment hpath
  rw [hdispatch, hguards, hid, hqueries]
  rcases shown_one hrun hid (hread user.id id) with ⟨hcreated, body, hbody, -⟩ | ⟨hnone, e, he, hwhy⟩
  · refine .inl ⟨hcreated, .other body, congrArg some ?_⟩
    exact map_eq_ok.mpr ⟨body, hbody, rfl⟩
  · refine .inr ⟨hnone, e, congrArg some ?_, hwhy⟩
    change ControllerAnswer.other <$> read user.id id = .error e
    rw [he]
    rfl

end Reads

/-- Every read, in every reachable state: a user is shown what the user's own scans have created, all
of it and nothing else, and an id that others have created is answered like one that nobody has. -/
theorem receipts_read {env : ReceiptEnv} {s3 : S3Env} {bucket : Bucket} {p : Pool ReceiptState ReceiptCall}
    (hrun : Run (receiptSystem env s3) ⟨ReceiptState.initial bucket, []⟩ p)
    {found : ℕ → Except Exception (List Receipt)}
    (hfound : ∀ u, getAllReceiptsForUser p.shared.stores u (found u)) (queries : Except Exception Unit)
    (scanReceipt presignUpload : Claims → Except Exception ReceiptBody) (view : ViewEnv) (A : Arithmetic)
    (auth : AuthEnv) (overLimit : Bool) (now : ℕ) (token : String) {request : ReceiptRequest}
    (hget : request.method = .get) :
    ServesRead A p (requestUser auth overLimit now token) queries request
      (ReceiptController.dispatch A
        (ReceiptController.handlers p.shared.stores found queries scanReceipt presignUpload) view
        (requestUser auth overLimit now token) request) := by
  constructor
  case shown =>
    intro a ha
    rcases path_of_dispatch hget ha with hpath | ⟨segment, hsegment, hpath⟩
    · rw [dispatch_all hget hpath] at ha
      obtain ⟨user, hguards, ha⟩ := bind_eq_ok.mp (Option.some.inj ha)
      obtain ⟨body, hbody, rfl⟩ := map_eq_ok.mp ha
      obtain ⟨-, -, hbody⟩ := bind_eq_ok.mp hbody
      obtain ⟨rows, hrows, rfl⟩ := map_eq_ok.mp hbody
      exact ⟨user, _, hguards, hpath ▸ shown_all hrun (hrows ▸ hfound user.id), rfl⟩
    · exact answered_one hrun hget hsegment hpath ha
  case list =>
    intro user hguards hqueries hu hpath
    obtain ⟨rows, hrows, -⟩ := all_of_holds hrun hu (hfound user.id)
    refine ⟨.other (.receipts rows), ?_⟩
    rw [dispatch_all hget hpath, hguards, hqueries]
    exact congrArg some (map_eq_ok.mpr ⟨_, map_eq_ok.mpr ⟨rows, hrows, rfl⟩, rfl⟩)
  case found =>
    intro user id hguards hqueries hone hcreated
    rcases read_one hrun hget hguards hqueries hone with ⟨-, hanswer⟩ | ⟨hnone, -⟩
    · exact hanswer
    · exact absurd hcreated hnone
  case notFound =>
    intro user id hguards hqueries hone hu hint hnone
    rcases read_one hrun hget hguards hqueries hone with ⟨hcreated, -⟩ | ⟨-, e, hanswer, he⟩
    · exact absurd hcreated hnone
    · rw [hanswer, he hu hint]

namespace Sample

/-- The scan of user 2 has failed and cleaned up, and has created nothing. -/
lemma created_cleaned {s : ReceiptState} {saved : Receipt} {u : ℕ} {id : ℤ} {data : N8nScanReceiptDto}
    (h : Created ⟨s, cleaned saved⟩ u id data) : u = 1 ∧ data = scanData := by
  obtain ⟨i, file, saved', hi, -⟩ := h
  rcases List.mem_pair.mp (List.mem_of_getElem? hi) with hmem | hmem
  · obtain ⟨-, huser, hphase⟩ := ReceiptCall.scan.inj hmem
    exact ⟨huser, (ScanPhase.resolved.inj hphase).1⟩
  · obtain ⟨-, -, hphase⟩ := ReceiptCall.scan.inj hmem
    exact absurd hphase (by simp)

lemma requestUser_signed {c : Claims} (hexp : 0 < c.exp) :
    requestUser (env id) false 0 ((env id).jwt.sign "access" c) = .ok c :=
  (jwtGuard_sign (Jsonwebtoken.reference_documented _) c).trans (if_pos hexp)

lemma readsOne_first : ReadsOne doubles ⟨.get, ["1"], fun _ => none⟩ 1 :=
  ⟨"1", by decide, by decide +kernel, .inl rfl⟩

end Sample

open Sample in
/-- User 1 is shown the receipt that a scan of user 1 has created, and user 2 is not. -/
theorem receipts_read_saved : ∃ p : Pool ReceiptState ReceiptCall,
    Run (receiptSystem receiptEnv s3) ⟨noImages, []⟩ p ∧
    ∀ found, (∀ u, getAllReceiptsForUser p.shared.stores u (found u)) →
      let answer := fun c : Claims => ReceiptController.dispatch doubles
        (ReceiptController.handlers p.shared.stores found (.ok ()) (fun _ => .ok (.receipts []))
          fun _ => .ok (.receipts []))
        views (requestUser (env id) false 0 ((env id).jwt.sign "access" c)) ⟨.get, ["1"], fun _ => none⟩
      (∃ row : Receipt, answer (user.claims 0 900) = some (.ok (.other (.receipt row))) ∧
        row.id.val = 1 ∧ row.userId.val = 1 ∧ row.Shows scanData) ∧
      answer { user.claims 0 900 with id := 2 } = some (.error (NotFoundException "Receipt not found")) := by
  obtain ⟨saved, row, s, -, hid, -, -, -, hrun⟩ := cleaning_run s3
  have hcleaned := hrun.trans (cleaned_run s3 s saved)
  refine ⟨_, hcleaned, fun found hfound => ?_⟩
  have hcreated : Created ⟨{ s with stores := s.stores.delete otherKey }, cleaned saved⟩ 1 1 scanData :=
    ⟨0, some photo, saved, rfl, congrArg Int4.val hid⟩
  have hget : (⟨.get, ["1"], fun _ => none⟩ : ReceiptRequest).method = .get := rfl
  constructor
  · have hreads := receipts_read hcleaned hfound (.ok ()) (fun _ => .ok (.receipts []))
      (fun _ => .ok (.receipts [])) views doubles (env id) false 0
      ((env id).jwt.sign "access" (user.claims 0 900)) hget
    have huser := requestUser_signed (c := user.claims 0 900) (by decide)
    obtain ⟨a, ha⟩ := hreads.found _ _ huser rfl readsOne_first ⟨_, hcreated⟩
    obtain ⟨user', body, huser', hshown, rfl⟩ := hreads.shown a ha
    obtain rfl := Except.ok.inj (huser.symm.trans huser')
    cases hshown with
    | @receipt _ id row data hid' hcreated' hrow huserId hshows =>
      obtain rfl : id = 1 := Except.ok.inj (hid'.symm.trans (by decide +kernel))
      obtain rfl := (created_cleaned hcreated').2
      exact ⟨row, ha, hrow, huserId, hshows⟩
  · have hreads := receipts_read hcleaned hfound (.ok ()) (fun _ => .ok (.receipts []))
      (fun _ => .ok (.receipts [])) views doubles (env id) false 0
      ((env id).jwt.sign "access" { user.claims 0 900 with id := 2 }) hget
    apply hreads.notFound _ _ (requestUser_signed (by decide)) rfl readsOne_first
    · norm_num [IsInt4]
    · norm_num [IsInt4]
    · rintro ⟨data, hcreated'⟩
      exact absurd (created_cleaned hcreated').1 (by decide)

end NextLevelApi
