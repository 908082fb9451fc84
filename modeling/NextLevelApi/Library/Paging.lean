import Mathlib.Algebra.Order.Floor.Div
import Mathlib.Data.List.Nodup
import Mathlib.Data.List.Perm.Basic
import Mathlib.Order.Defs.LinearOrder

/-!
# Pages of a sorted query

Each page is cut out of a listing of its own: all rows, those with the highest key first, where
rows that tie may stand in another order in another query. The pages fit together if and only
if no tie crosses from one page to the next.
-/

namespace Paging

variable {α β : Type} [LinearOrder β] {key : α → β} {rows found found' : List α} {L n : ℕ}

structure Listing (key : α → β) (rows found : List α) : Prop where
  perm : found.Perm rows
  sorted : found.Pairwise fun a b => key b ≤ key a

/-- Page `i` of a listing, from 0 on. -/
def page (L i : ℕ) (found : List α) : List α := (found.drop (i * L)).take L

/-- The first `count` pages, the one numbered `i` out of `listings i`. -/
def pages (L count : ℕ) (listings : ℕ → List α) : List α :=
  (List.range count).flatMap fun i => page L i (listings i)

/-- Some key tells the first `n` rows from the others. -/
def Separated (key : α → β) (rows : List α) (n : ℕ) : Prop :=
  ∃ t, (rows.countP fun a => t ≤ key a) = n

theorem exists_listing (key : α → β) (rows : List α) : ∃ found, Listing key rows found := by
  have hsorted : (rows.mergeSort fun a b => decide (key b ≤ key a)).Pairwise
      fun a b => decide (key b ≤ key a) = true := by
    apply List.pairwise_mergeSort
    · exact fun a b c hab hbc => decide_eq_true ((of_decide_eq_true hbc).trans (of_decide_eq_true hab))
    · intro a b
      simpa using le_total (key b) (key a)
  exact ⟨_, List.mergeSort_perm _ _, hsorted.imp of_decide_eq_true⟩

/-! ### The pages of one listing -/

theorem pages_const (L count : ℕ) (found : List α) :
    pages L count (fun _ => found) = found.take (count * L) := by
  induction count with
  | zero => simp [pages]
  | succ count ih =>
    unfold pages at ih ⊢
    rw [List.range_succ, List.flatMap_append, ih, Nat.succ_mul, List.take_add]
    simp [page]

lemma page_add (L k i : ℕ) (found : List α) : page L (k + i) found = page L i (found.drop (k * L)) := by
  rw [page, page, List.drop_drop, Nat.add_mul]

/-- The first `k` pages come from one listing and the others from another. -/
lemma pages_ite (L k count : ℕ) (found found' : List α) :
    pages L (k + count) (fun i => if i < k then found else found') =
      found.take (k * L) ++ (found'.drop (k * L)).take (count * L) := by
  have hfirst : (List.range k).flatMap (fun i => page L i (if i < k then found else found')) =
      pages L k fun _ => found := by
    apply List.flatMap_congr
    intro i hi
    rw [if_pos (List.mem_range.mp hi)]
  have hlast : (List.range count).flatMap (fun i => page L (k + i) (if k + i < k then found else found')) =
      pages L count fun _ => found'.drop (k * L) := by
    apply List.flatMap_congr
    intro i _
    rw [if_neg (by omega), page_add]
  rw [pages, List.range_add, List.flatMap_append, List.flatMap_map, hfirst, hlast, pages_const, pages_const]

lemma page_eq_nil {i : ℕ} (h : found.length ≤ i * L) : page L i found = [] := by
  rw [page, List.drop_eq_nil_of_le h, List.take_nil]

/-! ### No tie crosses -/

lemma filter_eq_take (h : found.Pairwise fun a b => key b ≤ key a) (t : β) :
    found.filter (fun a => t ≤ key a) = found.take (found.countP fun a => t ≤ key a) := by
  induction found with
  | nil => rfl
  | cons a found ih =>
    obtain ⟨hhead, htail⟩ := List.pairwise_cons.mp h
    by_cases ht : t ≤ key a
    · rw [List.filter_cons_of_pos (by simpa using ht), List.countP_cons_of_pos (by simpa using ht),
        List.take_succ_cons, ih htail]
    · have hlow : ∀ b ∈ a :: found, ¬t ≤ key b := by
        intro b hb hle
        obtain rfl | hb := List.mem_cons.mp hb
        · exact ht hle
        · exact ht (hle.trans (hhead b hb))
      rw [List.filter_eq_nil_iff.mpr (by simpa using hlow), List.countP_eq_zero.mpr (by simpa using hlow),
        List.take_zero]

lemma Listing.length_eq (h : Listing key rows found) : found.length = rows.length := h.perm.length_eq

lemma Listing.take_perm (h : Listing key rows found) (h' : Listing key rows found')
    (hsep : Separated key rows n) : (found.take n).Perm (found'.take n) := by
  obtain ⟨t, rfl⟩ := hsep
  have htake : ∀ {l : List α}, Listing key rows l →
      l.take (rows.countP fun a => t ≤ key a) = l.filter fun a => t ≤ key a := by
    intro l hl
    rw [filter_eq_take hl.sorted, hl.perm.countP_eq]
  rw [htake h, htake h']
  exact (h.perm.trans h'.perm.symm).filter _

section Fit

variable (hsep : ∀ k, 0 < k → k * L < rows.length → Separated key rows (k * L))
include hsep

lemma Listing.take_pages_perm (h : Listing key rows found) (h' : Listing key rows found') (k : ℕ) :
    (found.take (k * L)).Perm (found'.take (k * L)) := by
  by_cases hlt : k * L < rows.length
  · cases k with
    | zero => simp
    | succ k => exact h.take_perm h' (hsep _ k.succ_pos hlt)
  · have hlength := h.length_eq
    have hlength' := h'.length_eq
    rw [List.take_of_length_le (by omega), List.take_of_length_le (by omega)]
    exact h.perm.trans h'.perm.symm

/-- Any two listings have the same rows on a page. -/
lemma Listing.page_perm (h : Listing key rows found) (h' : Listing key rows found') (i : ℕ) :
    (page L i found).Perm (page L i found') := by
  have hnext := h.take_pages_perm hsep h' (i + 1)
  rw [Nat.succ_mul, List.take_add, List.take_add] at hnext
  have hbefore : (found'.take (i * L)).Perm (found.take (i * L)) := h'.take_pages_perm hsep h i
  exact (List.perm_append_left_iff _).mp (hnext.trans (hbefore.append_right _))

variable {listings : ℕ → List α} (hlistings : ∀ i, Listing key rows (listings i)) {count : ℕ}
include hlistings

theorem pages_perm (hcount : rows.length ≤ count * L) : (pages L count listings).Perm rows := by
  have hsame : (pages L count listings).Perm (pages L count fun _ => listings 0) :=
    List.Perm.flatMap_left _ fun i _ => (hlistings i).page_perm hsep (hlistings 0) i
  rw [pages_const, List.take_of_length_le (by rw [(hlistings 0).length_eq]; exact hcount)] at hsame
  exact hsame.trans (hlistings 0).perm

theorem pages_sorted : (pages L count listings).Pairwise fun a b => key b ≤ key a := by
  -- across two pages the rows stand as in one listing
  have hone : (pages L count fun _ => listings 0).Pairwise fun a b => key b ≤ key a := by
    rw [pages_const]
    exact (hlistings 0).sorted.sublist (List.take_sublist _ _)
  obtain ⟨-, hacross⟩ := List.pairwise_flatMap.mp hone
  apply List.pairwise_flatMap.mpr
  constructor
  · intro i _
    exact (hlistings i).sorted.sublist ((List.take_sublist _ _).trans (List.drop_sublist _ _))
  · apply hacross.imp
    intro i j hij a ha b hb
    have hperm := fun i => (hlistings i).page_perm hsep (hlistings 0) i
    exact hij a ((hperm i).mem_iff.mp ha) b ((hperm j).mem_iff.mp hb)

end Fit

/-! ### A tie crosses -/

/-- Where no key separates the first `n` rows, the last of them ties with the next row. -/
lemma Listing.tie_of_not_separated (h : Listing key rows found) (hn : 0 < n) (hlt : n < rows.length)
    (hsep : ¬Separated key rows n) :
    ∃ pre a b post, found = pre ++ a :: b :: post ∧ pre.length + 1 = n ∧ key a = key b := by
  have hlength := h.length_eq
  obtain ⟨m, rfl⟩ := Nat.exists_eq_succ_of_ne_zero hn.ne'
  obtain ⟨pre, a, b, post, rfl, rfl⟩ : ∃ pre a b post, found = pre ++ a :: b :: post ∧ pre.length = m := by
    refine ⟨found.take m, found[m], found[m + 1], found.drop (m + 2), ?_, ?_⟩
    · rw [← List.drop_eq_getElem_cons, ← List.drop_eq_getElem_cons, List.take_append_drop]
    · rw [List.length_take]
      omega
  refine ⟨pre, a, b, post, rfl, rfl, ?_⟩
  obtain ⟨-, hafter, hpre⟩ := List.pairwise_append.mp h.sorted
  obtain ⟨ha, hafter⟩ := List.pairwise_cons.mp hafter
  obtain ⟨hb, -⟩ := List.pairwise_cons.mp hafter
  apply le_antisymm _ (ha b List.mem_cons_self)
  by_contra hab
  apply hsep
  -- the rows whose key is at least that of `a` are those up to `a`
  have hhigh : pre.countP (fun c => key a ≤ key c) = pre.length :=
    List.countP_eq_length.mpr fun c hc => by simpa using hpre c hc a List.mem_cons_self
  have hlow : (b :: post).countP (fun c => key a ≤ key c) = 0 := by
    apply List.countP_eq_zero.mpr
    intro c hc
    have hle : key c ≤ key b := by
      obtain rfl | hc := List.mem_cons.mp hc
      · exact le_rfl
      · exact hb c hc
    simpa using hle.trans_lt (not_le.mp hab)
  refine ⟨key a, ?_⟩
  rw [← h.perm.countP_eq, List.countP_append, List.countP_cons_of_pos (by simp), hhigh, hlow]

/-- Where no two rows tie, every number of rows is told from the others by some key. -/
theorem separated_of_nodup (h : (rows.map key).Nodup) (hn : 0 < n) (hlt : n < rows.length) :
    Separated key rows n := by
  by_contra hsep
  obtain ⟨found, hfound⟩ := exists_listing key rows
  obtain ⟨pre, a, b, post, rfl, -, htie⟩ := hfound.tie_of_not_separated hn hlt hsep
  have hkeys := (hfound.perm.map key).nodup_iff.mpr h
  rw [List.map_append, List.map_cons, List.map_cons] at hkeys
  obtain ⟨-, hkeys, -⟩ := List.nodup_append.mp hkeys
  exact (List.nodup_cons.mp hkeys).1 (htie ▸ List.mem_cons_self)

/-- Two rows next to each other that tie may be listed the other way round. -/
lemma Listing.swap {pre post : List α} {a b : α} (h : Listing key rows (pre ++ a :: b :: post))
    (htie : key a = key b) : Listing key rows (pre ++ b :: a :: post) := by
  constructor
  · exact ((List.Perm.swap a b post).append_left pre).trans h.perm
  · have hsorted := h.sorted
    simp only [List.pairwise_append, List.pairwise_cons, List.mem_cons, forall_eq_or_imp] at hsorted ⊢
    grind

/-- The queries of the first `k` pages list `a` before `b` and the others after it, and between
the two the pages change: `a` is on both of them. -/
lemma not_perm_of_swapped {pre post : List α} {a b : α} {k count : ℕ}
    (h : Listing key rows (pre ++ a :: b :: post)) (hpre : pre.length + 1 = k * L) (hrows : rows.Nodup)
    (hcount : rows.length ≤ (k + count) * L) :
    ¬(pages L (k + count) fun i =>
      if i < k then pre ++ a :: b :: post else pre ++ b :: a :: post).Perm rows := by
  intro hperm
  have hrest : (a :: post).length ≤ count * L := by
    have hlength := h.length_eq
    rw [Nat.add_mul] at hcount
    simp only [List.length_append, List.length_cons] at hlength ⊢
    omega
  have hcut : ∀ c rest, (pre ++ c :: rest).take (k * L) = pre ++ [c] ∧
      (pre ++ c :: rest).drop (k * L) = rest := by
    intro c rest
    rw [← hpre, List.take_append, List.drop_append]
    simp
  rw [pages_ite, (hcut _ _).1, (hcut _ _).2, List.take_of_length_le hrest] at hperm
  have htwice := hperm.trans h.perm.symm
  rw [List.append_assoc, List.perm_append_left_iff, List.singleton_append, List.perm_cons] at htwice
  have honce : (pre ++ a :: b :: post).Nodup := h.perm.nodup_iff.mpr hrows
  obtain ⟨-, honce, -⟩ := List.nodup_append.mp honce
  exact (List.nodup_cons.mp honce).1 (htwice.mem_iff.mp List.mem_cons_self)

/-- Whatever order each query lists ties in, the pages hold every row once, highest key first: this
is so if and only if no tie crosses from one page to the next. -/
theorem pages_iff (hL : 0 < L) (hrows : rows.Nodup) :
    (∀ listings : ℕ → List α, (∀ i, Listing key rows (listings i)) →
      (pages L (rows.length ⌈/⌉ L) listings).Perm rows ∧
        (pages L (rows.length ⌈/⌉ L) listings).Pairwise fun a b => key b ≤ key a) ↔
    ∀ k, 0 < k → k * L < rows.length → Separated key rows (k * L) := by
  have hcount : rows.length ≤ rows.length ⌈/⌉ L * L := by
    rw [Nat.mul_comm]
    exact (ceilDiv_le_iff_le_mul hL).mp le_rfl
  constructor
  · intro hfit k hk hlt
    by_contra hsep
    obtain ⟨found, h⟩ := exists_listing key rows
    obtain ⟨pre, a, b, post, rfl, hpre, htie⟩ := h.tie_of_not_separated (Nat.mul_pos hk hL) hlt hsep
    have hswapped := h.swap htie
    have hk : k < rows.length ⌈/⌉ L := lt_of_mul_lt_mul_right (hlt.trans_le hcount) (Nat.zero_le L)
    obtain ⟨count, hsum⟩ := Nat.exists_eq_add_of_le hk.le
    rw [hsum] at hcount hfit
    apply not_perm_of_swapped h hpre hrows hcount
    apply And.left
    apply hfit
    intro i
    split <;> assumption
  · intro hsep listings hlistings
    exact ⟨pages_perm hsep hlistings hcount, pages_sorted hsep hlistings⟩

end Paging
