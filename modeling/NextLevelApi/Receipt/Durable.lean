import NextLevelApi.Receipt.Paging
import NextLevelApi.Receipt.Serializability

/-!
# What users read stays

Rows are only ever added to the two tables, those of one user by the scans of this user alone.
What a user has read of a receipt is read again at any later time, and nothing that other users
do changes any answer that a user can get.
-/

namespace NextLevelApi
open Fallible ReceiptService ThreadPool

/-- The user's receipts have become more by `more`, and keep their lines. -/
structure GrowsBy (u : ℕ) (before now : Stores) (more : List Receipt) : Prop where
  receipts : now.receiptsOf u = before.receiptsOf u ++ more
  lines : ∀ row ∈ before.receiptsOf u, now.linesOf row.id = before.linesOf row.id

section Stores

variable {u : ℕ} {stores stores' stores'' : Stores} {more more' : List Receipt} {id : ℤ}

lemma GrowsBy.trans (h : GrowsBy u stores stores' more) (h' : GrowsBy u stores' stores'' more') :
    GrowsBy u stores stores'' (more ++ more') := by
  refine ⟨by rw [h'.receipts, h.receipts, List.append_assoc], fun row hrow => ?_⟩
  have hrow' : row ∈ stores'.receiptsOf u := by
    rw [h.receipts]
    exact List.mem_append_left _ hrow
  exact (h'.lines row hrow').trans (h.lines row hrow)

lemma GrowsBy.of_tables (hreceipts : stores'.receipts = stores.receipts)
    (hitems : stores'.receiptItems = stores.receiptItems) : GrowsBy u stores stores' [] := by
  refine ⟨?_, fun row _ => congrArg (List.filter _) hitems⟩
  rw [Stores.receiptsOf, hreceipts, List.append_nil]
  rfl

/-- A commit of one row, with an id of its own, and of its lines. -/
lemma GrowsBy.commit {saved : Receipt} {rows : List ReceiptItem}
    (hnew : ∀ row ∈ stores.receipts, row.id ≠ saved.id) (hrows : ∀ line ∈ rows, line.receiptId = saved.id) :
    GrowsBy u stores (stores.commit saved rows) (if saved.userId.val = u then [saved] else []) := by
  constructor
  · simp only [Stores.receiptsOf, Stores.commit, List.filter_append]
    congr 1
    split <;> simp [*]
  · intro row hrow
    apply Stores.linesOf_commit_of_ne
    intro line hline
    rw [hrows line hline]
    exact (hnew row (List.mem_of_mem_filter hrow)).symm

/-- The one query for a receipt looks at the user's receipts alone. -/
lemma findByIdForUser_eq (stores : Stores) (hid : IsInt4 id) (hu : IsInt4 u) :
    ReceiptRepository.findByIdForUser stores id u =
      .ok ((stores.receiptsOf u).find? fun row => row.id = ⟨id, hid⟩) := by
  unfold ReceiptRepository.findByIdForUser
  rw [Int4.parse_int hid, ← Int.cast_natCast, Int4.parse_int hu, Stores.receiptsOf, List.find?_filter]
  refine congrArg (fun p => Except.ok (stores.receipts.find? p)) (funext fun row => ?_)
  simp [Int4.ext_iff, and_comm]

/-- What has been found once is found again. -/
lemma GrowsBy.findByIdForUser (h : GrowsBy u stores stores' more) {row : Receipt}
    (hrow : ReceiptRepository.findByIdForUser stores id u = .ok (some row)) :
    ReceiptRepository.findByIdForUser stores' id u = .ok (some row) ∧ row ∈ stores.receiptsOf u ∧
      row.id.val = id := by
  by_cases hrange : IsInt4 id ∧ IsInt4 u
  · rw [findByIdForUser_eq stores hrange.1 hrange.2] at hrow
    have hfind := Except.ok.inj hrow
    rw [findByIdForUser_eq stores' hrange.1 hrange.2, h.receipts, List.find?_append, hfind]
    have hid : row.id = ⟨id, hrange.1⟩ := by simpa using List.find?_some hfind
    exact ⟨rfl, List.mem_of_find?_eq_some hfind, congrArg Int4.val hid⟩
  · rw [findByIdForUser_error hrange] at hrow
    exact absurd hrow (by simp)

lemma GrowsBy.findByReceiptId (h : GrowsBy u stores stores' more) {row : Receipt}
    (hrow : row ∈ stores.receiptsOf u) : ReceiptItemRepository.findByReceiptId stores' row.id.val =
      ReceiptItemRepository.findByReceiptId stores row.id.val := by
  unfold ReceiptItemRepository.findByReceiptId
  rw [Int4.parse_int row.id.range]
  exact congrArg (fun lines => Except.ok (List.mergeSort lines _)) (h.lines row hrow)

theorem GrowsBy.getReceiptForUser (h : GrowsBy u stores stores' more) {row : Receipt}
    (hrow : getReceiptForUser stores id u = .ok row) : getReceiptForUser stores' id u = .ok row := by
  unfold ReceiptService.getReceiptForUser at hrow
  obtain ⟨found, hfound, hrow⟩ := bind_eq_ok.mp hrow
  cases found with
  | none => exact absurd hrow (by simp)
  | some found =>
    obtain rfl := Except.ok.inj hrow
    exact (getReceiptForUser_some (h.findByIdForUser hfound).1).1

theorem GrowsBy.getReceiptItems (h : GrowsBy u stores stores' more) {rows : List ReceiptItem}
    (hrows : getReceiptItems stores id u = .ok rows) : getReceiptItems stores' id u = .ok rows := by
  have hquery := hrows
  unfold ReceiptService.getReceiptItems at hquery
  obtain ⟨found, hfound, hquery⟩ := bind_eq_ok.mp hquery
  cases found with
  | none => exact absurd hquery (by simp)
  | some row =>
    obtain ⟨hfound', hrow, hid⟩ := h.findByIdForUser hfound
    rw [(getReceiptForUser_some hfound').2, ← hid, h.findByReceiptId hrow, hid]
    exact hquery

/-- All that the user can read is the same. -/
structure SameAnswers (u : ℕ) (before now : Stores) : Prop where
  receipt : ∀ id, getReceiptForUser now id u = getReceiptForUser before id u
  items : ∀ id, getReceiptItems now id u = getReceiptItems before id u
  all : ∀ answer, getAllReceiptsForUser now u answer ↔ getAllReceiptsForUser before u answer
  page : ∀ page limit answer,
    getReceiptPageForUser now u page limit answer ↔ getReceiptPageForUser before u page limit answer

theorem GrowsBy.sameAnswers (h : GrowsBy u stores stores' []) : SameAnswers u stores stores' := by
  have hreceipts : stores'.receiptsOf u = stores.receiptsOf u := h.receipts.trans (List.append_nil _)
  have hfind : ∀ id, ReceiptRepository.findByIdForUser stores' id u =
      ReceiptRepository.findByIdForUser stores id u := by
    intro id
    by_cases hrange : IsInt4 id ∧ IsInt4 u
    · rw [findByIdForUser_eq stores hrange.1 hrange.2, findByIdForUser_eq stores' hrange.1 hrange.2,
        hreceipts]
    · rw [findByIdForUser_error hrange, findByIdForUser_error hrange]
  refine ⟨fun id => ?_, fun id => ?_, fun answer => ?_, fun page limit answer => ?_⟩
  · unfold ReceiptService.getReceiptForUser
    rw [hfind]
  · cases hrow : ReceiptRepository.findByIdForUser stores id u with
    | error e =>
      unfold ReceiptService.getReceiptItems
      rw [hfind, hrow]
      rfl
    | ok found =>
      cases found with
      | none => rw [(getReceiptForUser_none hrow).2, (getReceiptForUser_none ((hfind id).trans hrow)).2]
      | some row =>
        obtain ⟨hrow', hmem, hid⟩ := h.findByIdForUser hrow
        rw [(getReceiptForUser_some hrow).2, (getReceiptForUser_some hrow').2, ← hid, h.findByReceiptId hmem]
  · constructor <;> intro hanswer <;> cases hanswer with
    | fails herror => exact .fails herror
    | @found user found huser hfinds =>
      have hval : user.val = u := by exact_mod_cast Int4.parse_ok huser
      have hrows : ∀ stores : Stores, stores.receipts.filter (·.userId = user) = stores.receiptsOf u := by
        intro stores
        unfold Stores.receiptsOf
        simp only [Int4.ext_iff, hval]
      refine .found huser ⟨?_, hfinds.sorted⟩
      have hperm := hfinds.perm
      rw [hrows] at hperm ⊢
      simpa only [hreceipts] using hperm
  · by_cases hu : IsInt4 u
    · rw [getReceiptPageForUser_iff hu, getReceiptPageForUser_iff hu, hreceipts]
    · have herror := Int4.parse_int_error hu
      constructor <;> intro hanswer <;> cases hanswer with
      | refused he => exact .refused he
      | found huser _ => exact absurd (herror.symm.trans huser) (by simp)
      | fails huser _ => exact absurd (herror.symm.trans huser) (by simp)

end Stores

/-! ### Runs -/

section Runs

variable {env : ReceiptEnv} {s3 : S3Env} {p q : Pool ReceiptState ReceiptCall} {u : ℕ}

lemma grows_step (h : (ledgerOutline env s3).Holds p) (hstep : Step (receiptSystem env s3) p q) (u : ℕ) :
    ∃ more, GrowsBy u p.shared.stores q.shared.stores more := by
  cases hstep with
  | start hs => exact ⟨[], .of_tables rfl rfl⟩
  | ambient hs =>
    obtain ⟨key, object, rfl⟩ := hs
    exact ⟨[], .of_tables rfl rfl⟩
  | move hi hp hmove =>
    rcases ReceiptMove.ledger_cases hmove with ⟨hreceipts, hitems, -, -⟩ |
      ⟨file, userId, key, scanData, saved, rows, rfl, -, hstores, -, -⟩
    · exact ⟨[], .of_tables hreceipts hitems⟩
    · obtain ⟨⟨-, -, hrows, -⟩, -, hunused, -⟩ := show ReceiptCall.LedgerHeld p.shared
        (.scan file userId (.linesInserted key scanData saved rows)) from h.asserts hi
      refine ⟨_, hstores ▸ GrowsBy.commit (fun row hrow => ?_) hrows⟩
      obtain ⟨scan, hmem, hrecords⟩ := (mem_of_forall₂ h.inv.holds.receipts).1 row hrow
      rw [hrecords.id]
      exact hunused saved rfl scan hmem

theorem grows_run (h : (ledgerOutline env s3).Holds p) (hrun : Run (receiptSystem env s3) p q) (u : ℕ) :
    ∃ more, GrowsBy u p.shared.stores q.shared.stores more := by
  induction hrun with
  | refl => exact ⟨[], .of_tables rfl rfl⟩
  | tail hrun hstep ih =>
    obtain ⟨more, hmore⟩ := ih
    obtain ⟨more', hmore'⟩ := grows_step ((ledgerOutline env s3).holds_run h hrun) hstep u
    exact ⟨more ++ more', hmore.trans hmore'⟩

/-- The user has as many receipts as scans of his are in the ledger. -/
lemma length_receiptsOf (h : (ledgerOutline env s3).Holds p) (u : ℕ) :
    (p.shared.stores.receiptsOf u).length = (p.shared.committed.filter (·.userId = u)).length := by
  refine (List.rel_filter (fun row scan hrecords => ?_) h.inv.holds.receipts).length_eq
  simp only [decide_eq_true_eq, hrecords.userId, Nat.cast_inj]

/-- From any reachable state on: a receipt that the user has been shown is shown again, with the
same lines; and as long as no scan of the user commits, no answer to the user changes. -/
theorem reads_durable {bucket : Bucket}
    (hreachable : Run (receiptSystem env s3) ⟨ReceiptState.initial bucket, []⟩ p)
    (hrun : Run (receiptSystem env s3) p q) (u : ℕ) :
    (∀ id row, getReceiptForUser p.shared.stores id u = .ok row →
      getReceiptForUser q.shared.stores id u = .ok row) ∧
    (∀ id rows, getReceiptItems p.shared.stores id u = .ok rows →
      getReceiptItems q.shared.stores id u = .ok rows) ∧
    (q.shared.committed.filter (·.userId = u) = p.shared.committed.filter (·.userId = u) →
      SameAnswers u p.shared.stores q.shared.stores) := by
  have hholds := ledgerOutline_run hreachable
  obtain ⟨more, hmore⟩ := grows_run hholds hrun u
  refine ⟨fun id row => hmore.getReceiptForUser, fun id rows => hmore.getReceiptItems, fun hsame => ?_⟩
  have hlength := length_receiptsOf ((ledgerOutline env s3).holds_run hholds hrun) u
  rw [hsame, ← length_receiptsOf hholds, hmore.receipts, List.length_append] at hlength
  obtain rfl := List.length_eq_zero_iff.mp (Nat.add_eq_left.mp hlength)
  exact hmore.sameAnswers

end Runs

/-- While another user's scan cleans up. -/
theorem reads_durable_saved : ∃ p q saved,
    Run (receiptSystem Sample.receiptEnv Sample.s3) ⟨Sample.noImages, []⟩ p ∧
    Run (receiptSystem Sample.receiptEnv Sample.s3) p q ∧ p.threads = Sample.cleaning saved ∧
    q.threads = Sample.cleaned saved ∧ SameAnswers 1 p.shared.stores q.shared.stores := by
  obtain ⟨saved, row, s, -, -, -, -, -, hrun⟩ := Sample.cleaning_run Sample.s3
  have hcleaned := Sample.cleaned_run Sample.s3 s saved
  exact ⟨_, _, saved, hrun, hcleaned, rfl, rfl, (reads_durable hrun hcleaned 1).2.2 rfl⟩

end NextLevelApi
