import NextLevelApi.Library.ThreadPool
import Mathlib.Algebra.BigOperators.Group.List.Basic
import Mathlib.Algebra.Order.Ring.Nat
import Mathlib.Algebra.Ring.Nat

/-!
# Pools that come to an end

When no new threads start, a pool whose moves use up a measure makes so many moves at most.
If in addition every thread that has not ended, or the environment in its place, can always
do something, then all threads have ended when nothing is left to do.
-/

namespace ThreadPool

variable {σ τ : Type} {M : System σ τ} {helps : σ → σ → Prop} {p q r : Pool σ τ} {n : ℕ}

/-- A step on the way to the end: a thread moves, or the environment does what helps. -/
inductive Works (M : System σ τ) (helps : σ → σ → Prop) : Pool σ τ → Pool σ τ → Prop
  | helps {p : Pool σ τ} {s' : σ} (h : M.ambient p.shared s') (hhelps : helps p.shared s') :
    Works M helps p ⟨s', p.threads⟩
  | move {p : Pool σ τ} {i : ℕ} {t t' : τ} {s' : σ} (hi : p.threads[i]? = some t)
      (hp : ∀ j u, j ≠ i → p.threads[j]? = some u → M.permits p.shared t u)
      (h : M.move p.shared t s' t') : Works M helps p ⟨s', p.threads.set i t'⟩

/-- A run without new threads, with the number of its steps that count as work. -/
inductive Closed (M : System σ τ) (helps : σ → σ → Prop) : ℕ → Pool σ τ → Pool σ τ → Prop
  | refl {p : Pool σ τ} : Closed M helps 0 p p
  | idle {n : ℕ} {p q : Pool σ τ} {s' : σ} (h : Closed M helps n p q) (hs : M.ambient q.shared s')
      (hidle : ¬helps q.shared s') : Closed M helps n p ⟨s', q.threads⟩
  | work {n : ℕ} {p q r : Pool σ τ} (h : Closed M helps n p q) (hwork : Works M helps q r) :
    Closed M helps (n + 1) p r

lemma Works.step (h : Works M helps p q) : Step M p q := by
  cases h with
  | helps h hhelps => exact .ambient h
  | move hi hp h => exact .move hi hp h

theorem Closed.run (h : Closed M helps n p q) : Run M p q := by
  induction h with
  | refl => exact .refl
  | idle _ hs _ ih => exact ih.tail (.ambient hs)
  | work _ hwork ih => exact ih.tail hwork.step

/-- From `p` on, and without new threads, the pool does no more than `bound` steps of work; when
none is left to do all threads have ended, and this can always be reached. -/
structure EndsWithin (M : System σ τ) (helps : σ → σ → Prop) (ended : τ → Prop) (bound : ℕ)
    (p : Pool σ τ) : Prop where
  bounded : ∀ n q, Closed M helps n p q → n ≤ bound
  last : ∀ n q, Closed M helps n p q → (∀ r, ¬Works M helps q r) → ∀ t ∈ q.threads, ended t
  reached : ∃ n q, Closed M helps n p q ∧ ∀ t ∈ q.threads, ended t

/-- The work that is left to the environment and to each thread. -/
structure Effort (M : System σ τ) (helps : σ → σ → Prop) where
  left : σ → ℕ
  weight : τ → ℕ
  move : ∀ {s t s' t'}, M.move s t s' t' → left s' + weight t' < left s + weight t
  ambient : ∀ {s s'}, M.ambient s s' → helps s s' → left s' < left s
  idle : ∀ {s s'}, M.ambient s s' → ¬helps s s' → left s' ≤ left s

lemma sum_map_set {ts : List τ} {i : ℕ} {t : τ} (w : τ → ℕ) (t' : τ) (hi : ts[i]? = some t) :
    ((ts.set i t').map w).sum + w t = (ts.map w).sum + w t' := by
  induction ts generalizing i with
  | nil => simp at hi
  | cons u ts ih =>
    cases i with
    | zero =>
      obtain rfl := Option.some.inj hi
      simp only [List.set_cons_zero, List.map_cons, List.sum_cons]
      omega
    | succ i =>
      have htail := ih (i := i) hi
      simp only [List.set_cons_succ, List.map_cons, List.sum_cons]
      omega

namespace Effort

def total (E : Effort M helps) (p : Pool σ τ) : ℕ := E.left p.shared + (p.threads.map E.weight).sum

variable (E : Effort M helps)

lemma total_works (h : Works M helps p q) : E.total q < E.total p := by
  cases h with
  | helps h hhelps => exact Nat.add_lt_add_right (E.ambient h hhelps) _
  | @move _ t t' s' hi hp h =>
    have hmove := E.move h
    have hset := sum_map_set E.weight t' hi
    unfold total
    dsimp only
    omega

/-- What has been done and what is left is at most what there was to do. -/
theorem le_total (h : Closed M helps n p q) : n + E.total q ≤ E.total p := by
  induction h with
  | refl => exact Nat.le_of_eq (Nat.zero_add _)
  | idle _ hs hidle ih => exact (Nat.add_le_add_left (Nat.add_le_add_right (E.idle hs hidle) _) _).trans ih
  | work _ hwork ih =>
    have hless := E.total_works hwork
    omega

/-- In a run from an empty pool no more is left than what the threads have brought with them. -/
theorem total_le_of_run {s : σ} {k : ℕ} (hstart : ∀ t, M.starts t → E.weight t ≤ k)
    (h : Run M ⟨s, []⟩ p) : E.total p ≤ E.left s + p.threads.length * k := by
  induction h with
  | refl => exact Nat.le_add_right _ _
  | @tail p q _ hstep ih =>
    cases hstep with
    | @start t hs =>
      have ht := hstart t hs
      simp only [total, List.map_append, List.map_singleton, List.sum_append, List.sum_singleton,
        List.length_append, List.length_singleton, Nat.succ_mul] at ih ⊢
      omega
    | @ambient s' hs =>
      have hleft : E.left s' ≤ E.left p.shared := by
        by_cases hhelps : helps p.shared s'
        · exact (E.ambient hs hhelps).le
        · exact E.idle hs hhelps
      exact (Nat.add_le_add_right hleft _).trans ih
    | move hi hp hmove =>
      have hless := E.total_works (.move hi hp hmove)
      rw [List.length_set]
      exact hless.le.trans ih

/-- The pool can work on until nothing is left to do. -/
theorem exists_last {k : ℕ} (h : Closed M helps n p q) (hk : E.total q ≤ k) :
    ∃ m r, Closed M helps m p r ∧ ∀ r', ¬Works M helps r r' := by
  induction k generalizing n q with
  | zero =>
    refine ⟨n, q, h, fun r hwork => ?_⟩
    have hless := E.total_works hwork
    omega
  | succ k ih =>
    by_cases hlast : ∃ r, Works M helps q r
    · obtain ⟨r, hwork⟩ := hlast
      have hless := E.total_works hwork
      exact ih (h.work hwork) (by omega)
    · exact ⟨n, q, h, fun r hwork => hlast ⟨r, hwork⟩⟩

theorem endsWithin {ended : τ → Prop} {bound : ℕ} (hbound : E.total p ≤ bound)
    (enabled : ∀ n q, Closed M helps n p q → ∀ t ∈ q.threads, ¬ended t → ∃ r, Works M helps q r) :
    EndsWithin M helps ended bound p := by
  have hlast : ∀ n q, Closed M helps n p q → (∀ r, ¬Works M helps q r) → ∀ t ∈ q.threads, ended t := by
    intro n q h hstuck t ht
    by_contra hended
    obtain ⟨r, hwork⟩ := enabled n q h t ht hended
    exact hstuck r hwork
  refine ⟨fun n q h => ?_, hlast, ?_⟩
  · have hle := E.le_total h
    omega
  · obtain ⟨n, q, h, hstuck⟩ := E.exists_last .refl (Nat.le_refl (E.total p))
    exact ⟨n, q, h, hlast n q h hstuck⟩

end Effort

end ThreadPool
