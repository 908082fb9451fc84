import NextLevelApi.Library.Paging
import NextLevelApi.Receipt.Interleaving
import Mathlib.Data.List.Perm.Basic
import Mathlib.Data.List.Nodup

/-!
# The ledger of committed scans

The two tables stand for a ledger: a receipt row for each scan that has committed, and its
lines, found by the receipt's id alone. A commit is one more entry, and what is read from the
tables is what the ledger says.
-/

namespace NextLevelApi
open Fallible ReceiptService ThreadPool

/-! ### What the tables hold -/

/-- The row of a committed scan. -/
structure Receipt.Records (row : Receipt) (scan : CommittedScan) : Prop where
  id : row.id = scan.receiptId
  userId : row.userId.val = scan.userId
  shows : row.Shows scan.scanData

def ShowItems (items : List ScanItem) (rows : List ReceiptItem) : Prop :=
  List.Forall₂ (fun item row => ∃ i, item = .item i ∧ row.Shows i) items rows

def Stores.linesOf (stores : Stores) (receiptId : Int4) : List ReceiptItem :=
  stores.receiptItems.filter (·.receiptId = receiptId)

/-- The tables hold the ledger. -/
structure Stores.Holds (stores : Stores) (committed : List CommittedScan) : Prop where
  receipts : List.Forall₂ Receipt.Records stores.receipts committed
  distinct : (committed.map CommittedScan.receiptId).Nodup
  items : ∀ scan ∈ committed, ShowItems scan.scanData.items (stores.linesOf scan.receiptId)
  sorted : ∀ scan ∈ committed, (stores.linesOf scan.receiptId).Pairwise fun a b => a.id.val < b.id.val
  owned : ∀ row ∈ stores.receiptItems, ∃ scan ∈ committed, row.receiptId = scan.receiptId

lemma Stores.linesOf_commit_of_ne {stores : Stores} {row : Receipt} {rows : List ReceiptItem} {id : Int4}
    (h : ∀ line ∈ rows, line.receiptId ≠ id) : (stores.commit row rows).linesOf id = stores.linesOf id := by
  have hnone : rows.filter (·.receiptId = id) = [] := by
    apply List.filter_eq_nil_iff.mpr
    intro line hline
    simpa using h line hline
  simp only [Stores.linesOf, Stores.commit, List.filter_append, hnone, List.append_nil]

lemma Stores.linesOf_commit_self {stores : Stores} {row : Receipt} {rows : List ReceiptItem} {id : Int4}
    (hold : ∀ line ∈ stores.receiptItems, line.receiptId ≠ id) (hnew : ∀ line ∈ rows, line.receiptId = id) :
    (stores.commit row rows).linesOf id = rows := by
  have hnone : stores.receiptItems.filter (·.receiptId = id) = [] := by
    apply List.filter_eq_nil_iff.mpr
    intro line hline
    simpa using hold line hline
  have hall : rows.filter (·.receiptId = id) = rows :=
    List.filter_eq_self.mpr fun line hline => by simpa using hnew line hline
  simp only [Stores.linesOf, Stores.commit, List.filter_append, hnone, hall, List.nil_append]

lemma map_id_of_records {rows : List Receipt} {scans : List CommittedScan}
    (h : List.Forall₂ Receipt.Records rows scans) :
    rows.map Receipt.id = scans.map CommittedScan.receiptId :=
  (map_eq_of_forall₂ (h.imp fun _ _ hrecords => hrecords.id.symm)).symm

namespace Stores.Holds

variable {stores : Stores} {committed : List CommittedScan}

/-- The receipts have their primary key. -/
lemma receiptIds_nodup (h : stores.Holds committed) : (stores.receipts.map Receipt.id).Nodup := by
  rw [map_id_of_records h.receipts]
  exact h.distinct

/-- A commit is one more entry of the ledger. -/
theorem commit (h : stores.Holds committed) {scan : CommittedScan} {row : Receipt}
    {rows : List ReceiptItem} (hrow : row.Records scan)
    (hnew : ∀ old ∈ committed, old.receiptId ≠ scan.receiptId)
    (hitems : ShowItems scan.scanData.items rows)
    (hreceipt : ∀ line ∈ rows, line.receiptId = scan.receiptId)
    (hsorted : rows.Pairwise fun a b => a.id.val < b.id.val) :
    (stores.commit row rows).Holds (committed ++ [scan]) := by
  have hold : ∀ old ∈ committed,
      (stores.commit row rows).linesOf old.receiptId = stores.linesOf old.receiptId := by
    intro old hmem
    apply linesOf_commit_of_ne
    intro line hline
    rw [hreceipt line hline]
    exact (hnew old hmem).symm
  have hlast : (stores.commit row rows).linesOf scan.receiptId = rows := by
    refine linesOf_commit_self (fun line hline => ?_) hreceipt
    obtain ⟨old, hmem, hline⟩ := h.owned line hline
    rw [hline]
    exact hnew old hmem
  refine ⟨List.rel_append h.receipts (.cons hrow .nil), ?_, ?_, ?_, ?_⟩
  · rw [List.map_append, List.nodup_append]
    refine ⟨h.distinct, List.nodup_singleton _, ?_⟩
    intro id hid id' hid'
    obtain ⟨old, hmem, rfl⟩ := List.mem_map.mp hid
    obtain rfl := List.mem_singleton.mp hid'
    exact hnew old hmem
  · intro old hmem
    rcases List.mem_append.mp hmem with hmem | hmem
    · rw [hold old hmem]
      exact h.items old hmem
    · obtain rfl := List.mem_singleton.mp hmem
      rwa [hlast]
  · intro old hmem
    rcases List.mem_append.mp hmem with hmem | hmem
    · rw [hold old hmem]
      exact h.sorted old hmem
    · obtain rfl := List.mem_singleton.mp hmem
      rwa [hlast]
  · intro line hline
    rcases List.mem_append.mp hline with hline | hline
    · obtain ⟨old, hmem, hline⟩ := h.owned line hline
      exact ⟨old, List.mem_append_left _ hmem, hline⟩
    · exact ⟨scan, by simp, hreceipt line hline⟩

lemma eq_of_receiptId (h : stores.Holds committed) {scan scan' : CommittedScan} (hmem : scan ∈ committed)
    (hmem' : scan' ∈ committed) (hid : scan.receiptId = scan'.receiptId) : scan = scan' :=
  List.inj_on_of_nodup_map h.distinct hmem hmem' hid

end Stores.Holds

/-! ### Reading from the tables -/

/-- The integer can be the value of an `integer` column. -/
def IsInt4 (z : ℤ) : Prop := -2147483648 ≤ z ∧ z < 2147483648

lemma Int4.parse_int_eq (z : ℤ) : Int4.parse z = if h : -2147483648 ≤ z ∧ z < 2147483648 then .ok ⟨z, h⟩
    else .error (QueryFailedError "value is out of range for type integer") := by
  have hden : (z : ℚ).den = 1 := Rat.den_intCast z
  have hnum : (z : ℚ).num = z := Rat.num_intCast z
  unfold Int4.parse
  simp only [hden, hnum, if_true]

lemma Int4.parse_int {z : ℤ} (h : IsInt4 z) : Int4.parse z = .ok ⟨z, h⟩ :=
  (Int4.parse_int_eq z).trans (dif_pos h)

lemma Int4.parse_int_error {z : ℤ} (h : ¬IsInt4 z) :
    Int4.parse z = .error (QueryFailedError "value is out of range for type integer") :=
  (Int4.parse_int_eq z).trans (dif_neg h)

section Reading

variable {stores : Stores} {committed : List CommittedScan} {receiptId : ℤ} {userId : ℕ}

lemma findByIdForUser_error (h : ¬(IsInt4 receiptId ∧ IsInt4 userId)) :
    ReceiptRepository.findByIdForUser stores receiptId userId =
      .error (QueryFailedError "value is out of range for type integer") := by
  unfold ReceiptRepository.findByIdForUser
  by_cases hid : IsInt4 receiptId
  · rw [Int4.parse_int hid, ← Int.cast_natCast, Int4.parse_int_error fun huser => h ⟨hid, huser⟩]
    rfl
  · rw [Int4.parse_int_error hid]
    rfl

/-- `findByIdForUser` looks the receipt up in the ledger. -/
theorem Stores.Holds.findByIdForUser (h : stores.Holds committed) (hid : IsInt4 receiptId)
    (huser : IsInt4 userId) :
    (∃ row scan, ReceiptRepository.findByIdForUser stores receiptId userId = .ok (some row) ∧
      scan ∈ committed ∧ row.Records scan ∧ scan.receiptId.val = receiptId ∧ scan.userId = userId) ∨
    (ReceiptRepository.findByIdForUser stores receiptId userId = .ok none ∧
      ∀ scan ∈ committed, ¬(scan.receiptId.val = receiptId ∧ scan.userId = userId)) := by
  have hfind : ReceiptRepository.findByIdForUser stores receiptId userId = .ok (stores.receipts.find?
      fun receipt => receipt.id = ⟨receiptId, hid⟩ ∧ receipt.userId = ⟨userId, huser⟩) := by
    unfold ReceiptRepository.findByIdForUser
    rw [Int4.parse_int hid, ← Int.cast_natCast, Int4.parse_int huser]
    rfl
  rw [hfind]
  cases hrow : stores.receipts.find?
      fun receipt => receipt.id = ⟨receiptId, hid⟩ ∧ receipt.userId = ⟨userId, huser⟩ with
  | some row =>
    obtain ⟨hrowId, hrowUser⟩ : row.id = ⟨receiptId, hid⟩ ∧ row.userId = ⟨userId, huser⟩ := by
      simpa using List.find?_some hrow
    obtain ⟨scan, hmem, hrecords⟩ := (mem_of_forall₂ h.receipts).1 row (List.mem_of_find?_eq_some hrow)
    refine .inl ⟨row, scan, rfl, hmem, hrecords, ?_, ?_⟩
    · rw [← hrecords.id, hrowId]
    · have hscanUser : (scan.userId : ℤ) = userId :=
        hrecords.userId.symm.trans (congrArg Int4.val hrowUser)
      exact_mod_cast hscanUser
  | none =>
    refine .inr ⟨rfl, ?_⟩
    rintro scan hmem ⟨hscanId, hscanUser⟩
    obtain ⟨row, hrowMem, hrecords⟩ := (mem_of_forall₂ h.receipts).2 scan hmem
    have hrowId : row.id = ⟨receiptId, hid⟩ :=
      Int4.ext ((congrArg Int4.val hrecords.id).trans hscanId)
    have hrowUser : row.userId = ⟨userId, huser⟩ :=
      Int4.ext (hrecords.userId.trans (congrArg Nat.cast hscanUser))
    exact List.find?_eq_none.mp hrow row hrowMem (decide_eq_true ⟨hrowId, hrowUser⟩)

/-- `findByReceiptId` finds the lines of the receipt, in the order of their ids. -/
theorem Stores.Holds.findByReceiptId (h : stores.Holds committed) {scan : CommittedScan}
    (hmem : scan ∈ committed) :
    ∃ rows, ReceiptItemRepository.findByReceiptId stores scan.receiptId.val = .ok rows ∧
      ShowItems scan.scanData.items rows := by
  refine ⟨stores.linesOf scan.receiptId, ?_, h.items scan hmem⟩
  unfold ReceiptItemRepository.findByReceiptId
  rw [Int4.parse_int scan.receiptId.range]
  have hsorted : (stores.linesOf scan.receiptId).Pairwise fun a b => decide (a.id.val ≤ b.id.val) = true :=
    (h.sorted scan hmem).imp fun hlt => decide_eq_true hlt.le
  exact congrArg Except.ok (List.mergeSort_of_pairwise hsorted)

section Answers

variable {row : Receipt} {e : Exception}

lemma getReceiptForUser_some
    (h : ReceiptRepository.findByIdForUser stores receiptId userId = .ok (some row)) :
    getReceiptForUser stores receiptId userId = .ok row ∧
      getReceiptItems stores receiptId userId = ReceiptItemRepository.findByReceiptId stores receiptId := by
  unfold getReceiptForUser getReceiptItems
  rw [h]
  exact ⟨rfl, rfl⟩

lemma getReceiptForUser_none (h : ReceiptRepository.findByIdForUser stores receiptId userId = .ok none) :
    getReceiptForUser stores receiptId userId = .error (NotFoundException "Receipt not found") ∧
      getReceiptItems stores receiptId userId = .error (NotFoundException "Receipt not found") := by
  unfold getReceiptForUser getReceiptItems
  rw [h]
  exact ⟨rfl, rfl⟩

lemma getReceiptForUser_error (h : ReceiptRepository.findByIdForUser stores receiptId userId = .error e) :
    getReceiptForUser stores receiptId userId = .error e := by
  unfold getReceiptForUser
  rw [h]
  rfl

end Answers

lemma findAllForUser_isSome (stores : Stores) (userId : ℕ) :
    ∃ answer, ReceiptRepository.findAllForUser stores userId answer := by
  cases huser : Int4.parse userId with
  | error e => exact ⟨_, .fails huser⟩
  | ok user =>
    obtain ⟨found, h⟩ := Paging.exists_listing Receipt.createdAt (stores.receipts.filter (·.userId = user))
    exact ⟨_, .found huser ⟨h.perm, h.sorted⟩⟩

/-- `findAllForUser` lists the user's entries of the ledger. -/
theorem Stores.Holds.findAllForUser (h : stores.Holds committed) (huser : IsInt4 userId)
    {answer : Except Exception (List Receipt)}
    (hanswer : ReceiptRepository.findAllForUser stores userId answer) :
    ∃ found scans, answer = .ok found ∧ List.Forall₂ Receipt.Records found scans ∧
      scans.Perm (committed.filter (·.userId = userId)) := by
  have hparse : Int4.parse userId = .ok ⟨userId, huser⟩ := Int4.parse_int huser
  cases hanswer with
  | fails herror => exact absurd (hparse.symm.trans herror) (by simp)
  | found hfound h' =>
  obtain rfl := Except.ok.inj (hparse.symm.trans hfound)
  have hfilter : List.Forall₂ Receipt.Records (stores.receipts.filter (·.userId = ⟨userId, huser⟩))
      (committed.filter (·.userId = userId)) := by
    refine List.rel_filter (fun row scan hrecords => ?_) h.receipts
    simp only [decide_eq_true_eq, Int4.ext_iff, hrecords.userId]
    exact Nat.cast_inj
  obtain ⟨scans, hrecords, hscans⟩ := List.perm_comp_forall₂ h'.perm hfilter
  exact ⟨_, scans, rfl, hrecords, hscans⟩

end Reading

end NextLevelApi
