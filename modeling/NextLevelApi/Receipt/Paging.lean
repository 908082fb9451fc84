import NextLevelApi.Receipt.ReadBack
import Mathlib.Data.Int.Interval

/-!
# Receipts page by page

`findPageForUser` sorts by `createdAt` alone, and every page is a query of its own: receipts of
one moment may stand in another order in each. The number of a page has no upper bound, and the
query for a page whose offset is no bigint fails. The other pages fit together for exactly those
users and limits where no tie crosses from one page to the next.
-/

namespace NextLevelApi
open Paging

structure ReceiptPage where
  data : List Receipt
  total : ℕ
  page : ℤ
  limit : ℤ

structure PageOptions where
  skip : ℤ
  take : ℤ

/-- `LIMIT take OFFSET skip`. A `take` of 0 puts no `LIMIT` into the query. -/
def sliced {α : Type} (skip take : ℕ) (found : List α) : List α :=
  if take = 0 then found.drop skip else (found.drop skip).take take

def IsBigint (x : ℤ) : Prop := -9223372036854775808 ≤ x ∧ x ≤ 9223372036854775807

/-- `LIMIT` and `OFFSET` are bigints. -/
structure PageOptions.InRange (options : PageOptions) : Prop where
  skip : IsBigint options.skip
  take : IsBigint options.take

/-- What `findAndCount` may answer: the slice of one order of the rows, and their number. -/
inductive FindsAndCounts {α : Type} (rows : List α) (where_ : α → Bool) (order : α → α → Prop)
    (options : PageOptions) : Except Exception (List α × ℕ) → Prop
  | found {found : List α} {skip take : ℕ} (hrange : options.InRange) (hskip : options.skip = skip)
      (htake : options.take = take) (h : Finds rows where_ order found) :
    FindsAndCounts rows where_ order options (.ok (sliced skip take found, rows.countP where_))
  | outOfRange (hrange : ¬options.InRange) :
    FindsAndCounts rows where_ order options (.error (QueryFailedError "bigint out of range"))
  | negativeSkip (hrange : options.InRange) (h : options.skip < 0) :
    FindsAndCounts rows where_ order options (.error (QueryFailedError "OFFSET must not be negative"))
  | negativeTake (hrange : options.InRange) (hskip : 0 ≤ options.skip) (h : options.take < 0) :
    FindsAndCounts rows where_ order options (.error (QueryFailedError "LIMIT must not be negative"))

namespace ReceiptRepository

def findPageForUser.safeLimit (limit : ℤ) : ℤ := min (max limit 1) 100

def findPageForUser.safePage (page : ℤ) : ℤ := max page 1

def findPageForUser.options (page limit : ℤ) : PageOptions where
  skip := (safePage page - 1) * safeLimit limit
  take := safeLimit limit

/-- The answers that `findPageForUser` may give. -/
inductive findPageForUser (stores : Stores) (userId : ℕ) (page : ℤ := 1) (limit : ℤ := 20) :
    Except Exception ReceiptPage → Prop
  | found {user : Int4} {data : List Receipt} {total : ℕ} (huser : Int4.parse userId = .ok user)
      (h : FindsAndCounts stores.receipts (·.userId = user) (fun a b => b.createdAt ≤ a.createdAt)
        (findPageForUser.options page limit) (.ok (data, total))) :
    findPageForUser stores userId page limit (.ok {
      data := data
      total := total
      page := findPageForUser.safePage page
      limit := findPageForUser.safeLimit limit })
  | fails {user : Int4} {e : Exception} (huser : Int4.parse userId = .ok user)
      (h : FindsAndCounts stores.receipts (·.userId = user) (fun a b => b.createdAt ≤ a.createdAt)
        (findPageForUser.options page limit) (.error e)) :
    findPageForUser stores userId page limit (.error e)
  | refused {e : Exception} (huser : Int4.parse userId = .error e) :
    findPageForUser stores userId page limit (.error e)

end ReceiptRepository

def ReceiptService.getReceiptPageForUser (stores : Stores) (userId : ℕ) (page : ℤ := 1) (limit : ℤ := 20)
    (answer : Except Exception ReceiptPage) : Prop :=
  ReceiptRepository.findPageForUser stores userId page limit answer

open ReceiptRepository.findPageForUser ReceiptService ThreadPool

def Stores.receiptsOf (stores : Stores) (userId : ℕ) : List Receipt :=
  stores.receipts.filter (·.userId.val = userId)

def pageCount (stores : Stores) (userId : ℕ) (limit : ℤ) : ℕ :=
  (stores.receiptsOf userId).length ⌈/⌉ (safeLimit limit).toNat

/-- Paging with a limit loses and repeats nothing, as far as the numbers of `asked` go. The pages
are requested with the limit that is returned, each answered by a query of its own. -/
structure PagesFitOn (asked : Set ℤ) (stores : Stores) (userId : ℕ) (limit : ℤ) : Prop where
  limit_mem : 1 ≤ safeLimit limit ∧ safeLimit limit ≤ 100
  nonneg : ∀ page, 0 ≤ (options page limit).skip ∧ 0 ≤ (options page limit).take
  answered : ∀ page ∈ asked, ∀ answer, getReceiptPageForUser stores userId page limit answer →
    ∃ found, answer = .ok found ∧ found.limit = safeLimit limit ∧
      found.total = (stores.receiptsOf userId).length
  once : ∀ answers : ℕ → ReceiptPage,
    (∀ k, 1 ≤ k → k ≤ pageCount stores userId limit →
      getReceiptPageForUser stores userId k (safeLimit limit) (.ok (answers k))) →
    let all := (List.range (pageCount stores userId limit)).flatMap fun i => (answers (i + 1)).data
    all.Perm (stores.receiptsOf userId) ∧ all.Pairwise fun a b => b.createdAt ≤ a.createdAt
  below : ∀ page < 1, ∀ answer, getReceiptPageForUser stores userId page (safeLimit limit) answer ↔
    getReceiptPageForUser stores userId 1 (safeLimit limit) answer
  later : ∀ page ∈ asked, page > (pageCount stores userId limit : ℤ) → ∀ answer,
    getReceiptPageForUser stores userId page (safeLimit limit) answer →
      ∃ found, answer = .ok found ∧ found.data = []

/-- Whatever page is asked for. -/
def PagesFit (stores : Stores) (userId : ℕ) (limit : ℤ) : Prop :=
  PagesFitOn Set.univ stores userId limit

section Requests

variable {stores : Stores} {userId : ℕ} {page limit : ℤ}

lemma safeLimit_mem (limit : ℤ) : 1 ≤ safeLimit limit ∧ safeLimit limit ≤ 100 := by
  unfold safeLimit
  omega

lemma one_le_safePage (page : ℤ) : 1 ≤ safePage page := le_max_right page 1

@[simp] lemma safeLimit_safeLimit (limit : ℤ) : safeLimit (safeLimit limit) = safeLimit limit := by
  unfold safeLimit
  omega

lemma options_eq (page limit : ℤ) :
    (options page limit).skip = ((safePage page - 1).toNat * (safeLimit limit).toNat : ℕ) ∧
      (options page limit).take = (safeLimit limit).toNat := by
  have hlimit := (safeLimit_mem limit).1
  have hpage := one_le_safePage page
  rw [Nat.cast_mul, Int.toNat_of_nonneg (by omega), Int.toNat_of_nonneg (by omega)]
  exact ⟨rfl, rfl⟩

/-- The page as it is cut out of a listing of the user's receipts. -/
def ReceiptPage.of (total : ℕ) (page limit : ℤ) (listing : List Receipt) : ReceiptPage where
  data := Paging.page (safeLimit limit).toNat (safePage page - 1).toNat listing
  total := total
  page := safePage page
  limit := safeLimit limit

lemma receiptsOf_eq (huser : IsInt4 userId) :
    stores.receiptsOf userId = stores.receipts.filter (·.userId = ⟨userId, huser⟩) := by
  unfold Stores.receiptsOf
  simp only [Int4.ext_iff]

lemma inRange_iff (page limit : ℤ) : (options page limit).InRange ↔ IsBigint (options page limit).skip := by
  have hlimit := safeLimit_mem limit
  have htake : IsBigint (safeLimit limit) := by
    unfold IsBigint
    omega
  exact ⟨fun h => h.skip, fun h => ⟨h, htake⟩⟩

/-- What a request for a page may be answered. -/
theorem getReceiptPageForUser_iff (huser : IsInt4 userId) {answer : Except Exception ReceiptPage} :
    getReceiptPageForUser stores userId page limit answer ↔
      (IsBigint (options page limit).skip ∧
        ∃ listing, Listing Receipt.createdAt (stores.receiptsOf userId) listing ∧
          answer = .ok (.of (stores.receiptsOf userId).length page limit listing)) ∨
      (¬IsBigint (options page limit).skip ∧ answer = .error (QueryFailedError "bigint out of range")) := by
  have hparse : Int4.parse userId = .ok ⟨userId, huser⟩ := Int4.parse_int huser
  have hrows : stores.receiptsOf userId = stores.receipts.filter (·.userId = ⟨userId, huser⟩) :=
    receiptsOf_eq huser
  obtain ⟨hskip, htake⟩ := options_eq page limit
  have hpos : (safeLimit limit).toNat ≠ 0 := by
    have hlimit := safeLimit_mem limit
    omega
  have hcut : ∀ listing : List Receipt,
      sliced ((safePage page - 1).toNat * (safeLimit limit).toNat) (safeLimit limit).toNat listing =
        Paging.page (safeLimit limit).toNat (safePage page - 1).toNat listing :=
    fun listing => if_neg hpos
  constructor
  · intro h
    cases h with
    | refused herror => exact absurd (hparse.symm.trans herror) (by simp)
    | fails _ h =>
      cases h with
      | outOfRange hrange => exact .inr ⟨mt (inRange_iff page limit).mpr hrange, rfl⟩
      | negativeSkip _ h => omega
      | negativeTake _ _ h => omega
    | found hfound h =>
      obtain rfl := Except.ok.inj (hparse.symm.trans hfound)
      cases h with
      | @found listing skip take hrange hskip' htake' h =>
        obtain rfl := Int.natCast_inj.mp (hskip.symm.trans hskip')
        obtain rfl := Int.natCast_inj.mp (htake.symm.trans htake')
        refine .inl ⟨hrange.skip, listing, ⟨hrows ▸ h.perm, h.sorted⟩, ?_⟩
        rw [ReceiptPage.of, hcut, hrows, List.countP_eq_length_filter]
  · rintro (⟨hrange, listing, h, rfl⟩ | ⟨hrange, rfl⟩)
    · rw [ReceiptPage.of, ← hcut, hrows, ← List.countP_eq_length_filter]
      exact .found hparse
        (.found ((inRange_iff page limit).mpr hrange) hskip htake ⟨hrows ▸ h.perm, h.sorted⟩)
    · exact .fails hparse (.outOfRange (mt (inRange_iff page limit).mp hrange))

lemma getReceiptPageForUser_ok_iff (huser : IsInt4 userId) {found : ReceiptPage} :
    getReceiptPageForUser stores userId page limit (.ok found) ↔ IsBigint (options page limit).skip ∧
      ∃ listing, Listing Receipt.createdAt (stores.receiptsOf userId) listing ∧
        found = .of (stores.receiptsOf userId).length page limit listing := by
  simp [getReceiptPageForUser_iff huser]

/-- The pages that hold receipts lie within the range of an offset. -/
lemma isBigint_skip {total k : ℕ} (htotal : total ≤ 9223372036854775807) (hk : 1 ≤ k)
    (hcount : k ≤ total ⌈/⌉ (safeLimit limit).toNat) : IsBigint (options k limit).skip := by
  have hlimit := safeLimit_mem limit
  have hbefore : ¬total ≤ (safeLimit limit).toNat * (k - 1) := by
    rw [← ceilDiv_le_iff_le_mul (by omega)]
    omega
  have hpage : (safePage k - 1).toNat = k - 1 := by
    unfold safePage
    omega
  rw [IsBigint, (options_eq k limit).1, hpage, Nat.mul_comm]
  omega

@[simp] lemma options_safeLimit (page limit : ℤ) : options page (safeLimit limit) = options page limit := by
  rw [options, safeLimit_safeLimit]
  rfl

/-- Asking with the limit that was returned is asking with the first one. -/
lemma ReceiptPage.of_safeLimit (total : ℕ) (page limit : ℤ) (listing : List Receipt) :
    ReceiptPage.of total page (safeLimit limit) listing = .of total page limit listing := by
  rw [ReceiptPage.of, safeLimit_safeLimit]
  rfl

lemma ReceiptPage.of_succ (total i : ℕ) (limit : ℤ) (listing : List Receipt) :
    (ReceiptPage.of total (i + 1 : ℕ) (safeLimit limit) listing).data =
      Paging.page (safeLimit limit).toNat i listing := by
  have hpage : (safePage (i + 1 : ℕ) - 1).toNat = i := by
    unfold safePage
    omega
  rw [of_safeLimit, of, hpage]

/-- There are no more ids than that. -/
lemma length_receiptsOf_le (hkey : (stores.receipts.map Receipt.id).Nodup) (userId : ℕ) :
    (stores.receiptsOf userId).length ≤ 4294967296 := by
  have hvals : (stores.receipts.map fun row => row.id.val).Nodup := by
    have hvals := hkey.map fun a b h => Int4.ext h
    rwa [List.map_map] at hvals
  have hsub : (stores.receipts.map fun row => row.id.val).toFinset ⊆
      Finset.Ico (-2147483648) 2147483648 := by
    intro x hx
    obtain ⟨row, -, rfl⟩ := List.mem_map.mp (List.mem_toFinset.mp hx)
    exact Finset.mem_Ico.mpr row.id.range
  calc (stores.receiptsOf userId).length
      ≤ stores.receipts.length := List.length_filter_le _ _
    _ = (stores.receipts.map fun row => row.id.val).toFinset.card := by
        rw [List.toFinset_card_of_nodup hvals, List.length_map]
    _ ≤ (Finset.Ico (-2147483648 : ℤ) 2147483648).card := Finset.card_le_card hsub
    _ = 4294967296 := by simp

/-- A table that has its primary key holds no row twice. -/
lemma receiptsOf_nodup (hkey : (stores.receipts.map Receipt.id).Nodup) (userId : ℕ) :
    (stores.receiptsOf userId).Nodup := (hkey.of_map Receipt.id).filter _

/-- The pages are those of any listings, one for each. -/
lemma once_iff (huser : IsInt4 userId) (htotal : (stores.receiptsOf userId).length ≤ 9223372036854775807) :
    (∀ answers : ℕ → ReceiptPage,
      (∀ k, 1 ≤ k → k ≤ pageCount stores userId limit →
        getReceiptPageForUser stores userId k (safeLimit limit) (.ok (answers k))) →
      let all := (List.range (pageCount stores userId limit)).flatMap fun i => (answers (i + 1)).data
      all.Perm (stores.receiptsOf userId) ∧ all.Pairwise fun a b => b.createdAt ≤ a.createdAt) ↔
    ∀ listings : ℕ → List Receipt,
      (∀ i, Listing Receipt.createdAt (stores.receiptsOf userId) (listings i)) →
      let all := pages (safeLimit limit).toNat (pageCount stores userId limit) listings
      all.Perm (stores.receiptsOf userId) ∧ all.Pairwise fun a b => b.createdAt ≤ a.createdAt := by
  constructor
  · intro honce listings hlistings
    have hpages := honce
      (fun k => .of (stores.receiptsOf userId).length k (safeLimit limit) (listings (k - 1)))
      fun k hk hcount => (getReceiptPageForUser_ok_iff huser).mpr
        ⟨by rw [options_safeLimit]; exact isBigint_skip htotal hk hcount, _, hlistings (k - 1), rfl⟩
    simp only [ReceiptPage.of_succ, Nat.add_sub_cancel] at hpages
    exact hpages
  · intro hpages answers hanswers
    have hlisting : ∀ i, ∃ listing, Listing Receipt.createdAt (stores.receiptsOf userId) listing ∧
        (i < pageCount stores userId limit →
          (answers (i + 1)).data = Paging.page (safeLimit limit).toNat i listing) := by
      intro i
      by_cases hi : i < pageCount stores userId limit
      · obtain ⟨-, listing, hlisting, hanswer⟩ :=
          (getReceiptPageForUser_ok_iff huser).mp (hanswers (i + 1) (by omega) hi)
        exact ⟨listing, hlisting, fun _ => by rw [hanswer, ReceiptPage.of_succ]⟩
      · obtain ⟨listing, hlisting⟩ := exists_listing Receipt.createdAt (stores.receiptsOf userId)
        exact ⟨listing, hlisting, fun hi' => absurd hi' hi⟩
    choose listings hlistings hdata using hlisting
    have hall : (List.range (pageCount stores userId limit)).flatMap (fun i => (answers (i + 1)).data) =
        pages (safeLimit limit).toNat (pageCount stores userId limit) listings := by
      apply List.flatMap_congr
      intro i hi
      exact hdata i (List.mem_range.mp hi)
    rw [hall]
    exact hpages listings hlistings

end Requests

/-- Whatever scans have run, the table has its primary key. -/
theorem receiptIds_nodup_run {env : ReceiptEnv} {s3 : S3Env} {bucket : Bucket}
    {p : Pool ReceiptState ReceiptCall}
    (hrun : Run (receiptSystem env s3) ⟨ReceiptState.initial bucket, []⟩ p) :
    (p.shared.stores.receipts.map Receipt.id).Nodup :=
  (ledgerOutline_run hrun).inv.holds.receiptIds_nodup

section Fit

variable {stores : Stores} (hkey : (stores.receipts.map Receipt.id).Nodup) {userId : ℕ} {limit : ℤ}
include hkey

/-- The requests of a user, with no tie across two pages. -/
lemma pagesFitOn_of_separated (huser : IsInt4 userId)
    (hsep : ∀ k, 0 < k → k * (safeLimit limit).toNat < (stores.receiptsOf userId).length →
      Separated Receipt.createdAt (stores.receiptsOf userId) (k * (safeLimit limit).toNat)) :
    PagesFitOn {page | IsBigint (options page limit).skip} stores userId limit := by
  have hlimit := safeLimit_mem limit
  have htotal := length_receiptsOf_le hkey userId
  have hcount : (stores.receiptsOf userId).length ≤
      pageCount stores userId limit * (safeLimit limit).toNat := by
    rw [Nat.mul_comm]
    exact (ceilDiv_le_iff_le_mul (by omega)).mp le_rfl
  constructor
  case limit_mem => exact hlimit
  case nonneg =>
    intro page
    obtain ⟨hskip, htake⟩ := options_eq page limit
    omega
  case answered =>
    intro page hpage answer h
    obtain ⟨-, listing, -, rfl⟩ | ⟨hrange, -⟩ := (getReceiptPageForUser_iff huser).mp h
    · exact ⟨_, rfl, rfl, rfl⟩
    · exact absurd hpage hrange
  case once =>
    apply (once_iff huser (by omega)).mpr
    intro listings hlistings
    exact ⟨pages_perm hsep hlistings hcount, pages_sorted hsep hlistings⟩
  case below =>
    intro page hpage answer
    have hfirst : safePage page = safePage 1 := by
      unfold safePage
      omega
    simp only [getReceiptPageForUser_iff huser, ReceiptPage.of, options, hfirst]
  case later =>
    intro page hpage hlater answer h
    obtain ⟨-, listing, hlisting, rfl⟩ | ⟨hrange, -⟩ := (getReceiptPageForUser_iff huser).mp h
    · refine ⟨_, rfl, ?_⟩
      rw [ReceiptPage.of_safeLimit]
      have hbehind : pageCount stores userId limit ≤ (safePage page - 1).toNat := by
        unfold safePage
        omega
      apply page_eq_nil
      rw [hlisting.length_eq]
      exact hcount.trans (Nat.mul_le_mul_right _ hbehind)
    · rw [options_safeLimit] at hrange
      exact absurd hpage hrange

/-- Receipts that were all created at different moments are paged without loss. -/
theorem pagesFitOn_of_distinct (huser : IsInt4 userId)
    (h : ((stores.receiptsOf userId).map Receipt.createdAt).Nodup) :
    PagesFitOn {page | IsBigint (options page limit).skip} stores userId limit := by
  apply pagesFitOn_of_separated hkey huser
  intro k hk hlt
  have hlimit := safeLimit_mem limit
  exact separated_of_nodup h (Nat.mul_pos hk (by omega)) hlt

/-- As long as the offsets are bigints, the pages fit if and only if no tie crosses. -/
theorem pagesFitOn_iff : PagesFitOn {page | IsBigint (options page limit).skip} stores userId limit ↔
    IsInt4 userId ∧ ∀ k, 0 < k → k * (safeLimit limit).toNat < (stores.receiptsOf userId).length →
      Separated Receipt.createdAt (stores.receiptsOf userId) (k * (safeLimit limit).toNat) := by
  constructor
  · intro h
    have huser : IsInt4 userId := by
      by_contra huser
      have herror := Int4.parse_int_error huser
      have hfirst : IsBigint (options 1 limit).skip := by
        rw [IsBigint, (options_eq 1 limit).1]
        simp [safePage]
      obtain ⟨_, hok, -⟩ := h.answered 1 hfirst _ (.refused herror)
      exact absurd hok (by simp)
    have hlimit := safeLimit_mem limit
    have hrows := receiptsOf_nodup hkey userId
    have htotal := length_receiptsOf_le hkey userId
    exact ⟨huser, (pages_iff (by omega) hrows).mp ((once_iff huser (by omega)).mp h.once)⟩
  · rintro ⟨huser, hsep⟩
    exact pagesFitOn_of_separated hkey huser hsep

end Fit

/-- So it is in every state that scans lead to. -/
theorem pagesFitOn_run_iff {env : ReceiptEnv} {s3 : S3Env} {bucket : Bucket}
    {p : Pool ReceiptState ReceiptCall}
    (hrun : Run (receiptSystem env s3) ⟨ReceiptState.initial bucket, []⟩ p) (userId : ℕ) (limit : ℤ) :
    PagesFitOn {page | IsBigint (options page limit).skip} p.shared.stores userId limit ↔
      IsInt4 userId ∧ ∀ k, 0 < k →
        k * (safeLimit limit).toNat < (p.shared.stores.receiptsOf userId).length →
        Separated Receipt.createdAt (p.shared.stores.receiptsOf userId) (k * (safeLimit limit).toNat) :=
  pagesFitOn_iff (receiptIds_nodup_run hrun)

/-- Some page is too far behind: no user can ask for every page. -/
theorem not_pagesFit (stores : Stores) (userId : ℕ) (limit : ℤ) : ¬PagesFit stores userId limit := by
  intro h
  have hlimit := safeLimit_mem limit
  have hfails : ∃ e, getReceiptPageForUser stores userId 9223372036854775809 limit (.error e) := by
    by_cases huser : IsInt4 userId
    · have hskip : ¬IsBigint (options 9223372036854775809 limit).skip := by
        have hpage : safePage 9223372036854775809 - 1 = 9223372036854775808 := by decide
        simp only [IsBigint, options, hpage]
        omega
      exact ⟨_, (getReceiptPageForUser_iff huser).mpr (.inr ⟨hskip, rfl⟩)⟩
    · exact ⟨_, .refused (Int4.parse_int_error huser)⟩
  obtain ⟨e, hfails⟩ := hfails
  obtain ⟨found, hok, -⟩ := h.answered _ (Set.mem_univ _) _ hfails
  exact absurd hok (by simp)

namespace Sample

lemma one_range : -2147483648 ≤ (1 : ℤ) ∧ (1 : ℤ) < 2147483648 := by decide

def receiptAt (id : Int4) (createdAt : ℕ) : Receipt where
  id := id
  receiptNumber := "17"
  receiptDate := "2025-12-09"
  supplierName := "Mega"
  supplierTaxId := "RO1"
  totalAmount := ⟨1250, by decide⟩
  s3Key := "uploads/user-1/2025-12-09/a.jpg"
  userId := ⟨1, one_range⟩
  createdAt := createdAt
  updatedAt := createdAt

def firstReceipt (createdAt : ℕ) : Receipt := receiptAt ⟨1, one_range⟩ createdAt

def secondReceipt (createdAt : ℕ) : Receipt := receiptAt ⟨2, by decide⟩ createdAt

def twoReceipts (createdAt createdAt' : ℕ) : Stores where
  receipts := [firstReceipt createdAt, secondReceipt createdAt']
  receiptItems := []
  bucket _ := none

end Sample

open Sample in
example : PagesFitOn {page | IsBigint (options page 1).skip} (twoReceipts 5 9) 1 1 :=
  pagesFitOn_of_distinct (by decide) (by norm_num [IsInt4]) (by decide)

open Sample in
/-- Two receipts of one moment, one to a page: both pages may show the first of them. -/
theorem sameMoment_not_pagesFit : (∃ answers : ℕ → ReceiptPage,
    (∀ k : ℕ, 1 ≤ k → k ≤ 2 → getReceiptPageForUser (twoReceipts 5 5) 1 k 1 (.ok (answers k))) ∧
      (answers 1).data = [firstReceipt 5] ∧ (answers 2).data = [firstReceipt 5]) ∧
    ¬PagesFit (twoReceipts 5 5) 1 1 := by
  have huser : IsInt4 (1 : ℕ) := by norm_num [IsInt4]
  have hrows : (twoReceipts 5 5).receiptsOf 1 = [firstReceipt 5, secondReceipt 5] := by decide
  have hfirst : Listing Receipt.createdAt ((twoReceipts 5 5).receiptsOf 1)
      [firstReceipt 5, secondReceipt 5] :=
    ⟨by rw [hrows], by decide⟩
  have hsecond : Listing Receipt.createdAt ((twoReceipts 5 5).receiptsOf 1)
      [secondReceipt 5, firstReceipt 5] :=
    ⟨by rw [hrows]; exact .swap _ _ _, by decide⟩
  let answers : ℕ → ReceiptPage := fun k => .of 2 k 1
    (if k = 1 then [firstReceipt 5, secondReceipt 5] else [secondReceipt 5, firstReceipt 5])
  have hanswers : ∀ k : ℕ, 1 ≤ k → k ≤ 2 →
      getReceiptPageForUser (twoReceipts 5 5) 1 k 1 (.ok (answers k)) := by
    intro k hk hk'
    apply (getReceiptPageForUser_ok_iff huser).mpr
    have htwo : (2 : ℕ) ≤ 9223372036854775807 := by omega
    refine ⟨isBigint_skip htwo hk hk', _, ?_, by rw [hrows]; rfl⟩
    split <;> assumption
  have htwice : (answers 1).data = [firstReceipt 5] ∧ (answers 2).data = [firstReceipt 5] := by decide
  refine ⟨⟨answers, hanswers, htwice⟩, fun hfit => ?_⟩
  obtain ⟨hperm, -⟩ := hfit.once answers hanswers
  have hcount : pageCount (twoReceipts 5 5) 1 1 = 2 := by decide
  rw [hcount, hrows] at hperm
  exact absurd hperm (by decide)

end NextLevelApi
