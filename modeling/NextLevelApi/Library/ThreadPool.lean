import Mathlib.Logic.Relation
import Mathlib.Data.List.Basic

/-!
# Interleaved threads over a shared state

A pool is one shared state and a list of threads, each in a local state of its own. The
threads move one at a time, in any order, new threads may start at any moment and the
environment may change the shared state between two moves. The main rule is the proof
outline `Outline`: an invariant of the shared state, an assertion for each local state
and a relation that keeps any two threads apart, checked move by move.
-/

namespace ThreadPool
open Relation

variable {σ τ : Type}

/-- A shared state and the local states of all threads started so far. -/
structure Pool (σ τ : Type) where
  shared : σ
  threads : List τ

/-- `permits s t u` says that a thread in local state `t` may move at shared state `s`
while some other thread is in local state `u`. -/
structure System (σ τ : Type) where
  starts : τ → Prop
  ambient : σ → σ → Prop
  move : σ → τ → σ → τ → Prop
  permits : σ → τ → τ → Prop := fun _ _ _ => True

/-- One step of the pool. -/
inductive Step (M : System σ τ) : Pool σ τ → Pool σ τ → Prop
  | start {p : Pool σ τ} {t : τ} (h : M.starts t) : Step M p ⟨p.shared, p.threads ++ [t]⟩
  | ambient {p : Pool σ τ} {s' : σ} (h : M.ambient p.shared s') : Step M p ⟨s', p.threads⟩
  | move {p : Pool σ τ} {i : ℕ} {t t' : τ} {s' : σ} (hi : p.threads[i]? = some t)
      (hp : ∀ j u, j ≠ i → p.threads[j]? = some u → M.permits p.shared t u)
      (h : M.move p.shared t s' t') : Step M p ⟨s', p.threads.set i t'⟩

abbrev Run (M : System σ τ) : Pool σ τ → Pool σ τ → Prop := ReflTransGen (Step M)

variable {M : System σ τ} {p q : Pool σ τ}

lemma getElem?_start {ts : List τ} {t u : τ} {j : ℕ} (h : (ts ++ [t])[j]? = some u) :
    ts[j]? = some u ∨ (ts[j]? = none ∧ u = t) := by
  by_cases hj : j < ts.length
  · rw [List.getElem?_append_left hj] at h
    exact .inl h
  · rw [List.getElem?_append_right (by omega)] at h
    refine .inr ⟨List.getElem?_eq_none (by omega), ?_⟩
    rw [List.getElem?_singleton] at h
    split at h
    · exact (Option.some.inj h).symm
    · exact absurd h (by simp)

lemma getElem?_move {ts : List τ} {i j : ℕ} {t t' u : τ} (hi : ts[i]? = some t)
    (h : (ts.set i t')[j]? = some u) : (i = j ∧ u = t') ∨ (i ≠ j ∧ ts[j]? = some u) := by
  obtain ⟨hlt, -⟩ := List.getElem?_eq_some_iff.mp hi
  by_cases hij : i = j
  · subst hij
    rw [List.getElem?_set_self hlt] at h
    exact .inl ⟨rfl, (Option.some.inj h).symm⟩
  · rw [List.getElem?_set_ne hij] at h
    exact .inr ⟨hij, h⟩

lemma getElem?_moved {ts : List τ} {i : ℕ} {t t' : τ} (hi : ts[i]? = some t) :
    (ts.set i t')[i]? = some t' := by
  obtain ⟨hlt, -⟩ := List.getElem?_eq_some_iff.mp hi
  exact List.getElem?_set_self hlt

/-- What one step can do to the thread at index `i`: nothing, start it, or move it. -/
theorem Step.thread_cases (h : Step M p q) {i : ℕ} {t' : τ} (hq : q.threads[i]? = some t') :
    p.threads[i]? = some t' ∨ (p.threads[i]? = none ∧ M.starts t') ∨
      ∃ t, p.threads[i]? = some t ∧ M.move p.shared t q.shared t' := by
  cases h with
  | start hs =>
    rcases getElem?_start hq with h | ⟨hn, rfl⟩
    · exact .inl h
    · exact .inr (.inl ⟨hn, hs⟩)
  | ambient h => exact .inl hq
  | move hi hp h =>
    rcases getElem?_move hi hq with ⟨rfl, rfl⟩ | ⟨-, hj⟩
    · exact .inr (.inr ⟨_, hi, h⟩)
    · exact .inl hj

theorem Step.thread_persists (h : Step M p q) {i : ℕ} {t : τ} (hp : p.threads[i]? = some t) :
    q.threads[i]? = some t ∨ ∃ t', q.threads[i]? = some t' ∧ M.move p.shared t q.shared t' := by
  cases h with
  | start hs =>
    obtain ⟨hlt, -⟩ := List.getElem?_eq_some_iff.mp hp
    exact .inl (by rw [List.getElem?_append_left hlt]; exact hp)
  | ambient h => exact .inl hp
  | @move j u u' s' hj hpermits h =>
    by_cases hji : j = i
    · subst hji
      obtain rfl : u = t := Option.some.inj (hj.symm.trans hp)
      exact .inr ⟨u', getElem?_moved hj, h⟩
    · exact .inl (by rw [List.getElem?_set_ne hji]; exact hp)

/-- What no move of a thread undoes stays true of it. -/
theorem thread_stable {P : τ → Prop} (stable : ∀ {s t s' t'}, P t → M.move s t s' t' → P t')
    (h : Run M p q) {i : ℕ} {t : τ} (hp : p.threads[i]? = some t) (ht : P t) :
    ∃ t', q.threads[i]? = some t' ∧ P t' := by
  induction h with
  | refl => exact ⟨t, hp, ht⟩
  | tail _ hstep ih =>
    obtain ⟨u, hu, hPu⟩ := ih
    rcases hstep.thread_persists hu with hq | ⟨u', hq, hmove⟩
    · exact ⟨u, hq, hPu⟩
    · exact ⟨u', hq, stable hPu hmove⟩

/-! ### Proof outlines -/

/-- A proof outline: `inv` holds of the shared state, `asserts` of every thread, and
`apart` of any two threads. `frame` is the interference condition: what a thread does
spoils neither the assertion of another thread nor their being apart. -/
structure Outline (M : System σ τ) where
  inv : σ → Prop
  asserts : σ → τ → Prop
  apart : τ → τ → Prop := fun _ _ => True
  apart_symm : ∀ {t u}, apart t u → apart u t := by intros; trivial
  start : ∀ {s t}, inv s → M.starts t → asserts s t
  start_apart : ∀ {s t u}, inv s → M.starts t → asserts s u → apart t u := by intros; trivial
  ambient : ∀ {s s'}, inv s → M.ambient s s' → inv s' ∧ ∀ t, asserts s t → asserts s' t
  move : ∀ {s t s' t'}, inv s → asserts s t → M.move s t s' t' → inv s' ∧ asserts s' t'
  frame : ∀ {s t u s' t'}, inv s → asserts s t → asserts s u → apart t u → M.permits s t u →
    M.move s t s' t' → asserts s' u ∧ apart t' u

namespace Outline

/-- The outline's assertions hold of the whole pool. -/
structure Holds (O : Outline M) (p : Pool σ τ) : Prop where
  inv : O.inv p.shared
  asserts : ∀ {i : ℕ} {t : τ}, p.threads[i]? = some t → O.asserts p.shared t
  apart : ∀ {i j : ℕ} {t u : τ}, i ≠ j → p.threads[i]? = some t → p.threads[j]? = some u → O.apart t u

lemma holds_empty (O : Outline M) {s : σ} (h : O.inv s) : O.Holds ⟨s, []⟩ :=
  ⟨h, fun hi => absurd hi (by simp), fun _ hi => absurd hi (by simp)⟩

theorem holds_step (O : Outline M) (hp : O.Holds p) (h : Step M p q) : O.Holds q := by
  cases h with
  | @start t hs =>
    have hnew := O.start hp.inv hs
    refine ⟨hp.inv, ?_, ?_⟩
    · intro i u hu
      rcases getElem?_start hu with hu | ⟨-, rfl⟩
      · exact hp.asserts hu
      · exact hnew
    · intro i j u v hij hu hv
      rcases getElem?_start hu with hi | ⟨-, rfl⟩ <;> rcases getElem?_start hv with hj | ⟨-, rfl⟩
      · exact hp.apart hij hi hj
      · exact O.apart_symm (O.start_apart hp.inv hs (hp.asserts hi))
      · exact O.start_apart hp.inv hs (hp.asserts hj)
      · exact O.start_apart hp.inv hs hnew
  | ambient h =>
    obtain ⟨hinv, hstable⟩ := O.ambient hp.inv h
    exact ⟨hinv, fun hi => hstable _ (hp.asserts hi), fun hij => hp.apart hij⟩
  | @move k t t' s' hk hpermits h =>
    obtain ⟨hinv, hown⟩ := O.move hp.inv (hp.asserts hk) h
    have hframe : ∀ {j u}, j ≠ k → p.threads[j]? = some u → O.asserts s' u ∧ O.apart t' u :=
      fun hjk hj => O.frame hp.inv (hp.asserts hk) (hp.asserts hj) (hp.apart hjk.symm hk hj)
        (hpermits _ _ hjk hj) h
    refine ⟨hinv, ?_, ?_⟩
    · intro i u hu
      rcases getElem?_move hk hu with ⟨rfl, rfl⟩ | ⟨hki, hu⟩
      · exact hown
      · exact (hframe hki.symm hu).1
    · intro i j u v hij hu hv
      rcases getElem?_move hk hu with ⟨rfl, rfl⟩ | ⟨hki, hi⟩ <;>
        rcases getElem?_move hk hv with ⟨rfl, rfl⟩ | ⟨hkj, hj⟩
      · exact absurd rfl hij
      · exact (hframe hkj.symm hj).2
      · exact O.apart_symm (hframe hki.symm hi).2
      · exact hp.apart hij hi hj

/-- Soundness: an outline that holds at the start of a run holds in every state it reaches. -/
theorem holds_run (O : Outline M) (hp : O.Holds p) (h : Run M p q) : O.Holds q := by
  induction h with
  | refl => exact hp
  | tail _ hstep ih => exact O.holds_step ih hstep

end Outline

/-! ### Restrictions -/

/-- The system with fewer moves: only those allowed at the state and the thread's local
state, and permitted by the local states of all other threads. -/
def System.restrict (M : System σ τ) (allowed : σ → τ → Prop) (permits : σ → τ → τ → Prop) :
    System σ τ where
  starts := M.starts
  ambient := M.ambient
  move s t s' t' := allowed s t ∧ M.move s t s' t'
  permits s t u := permits s t u ∧ M.permits s t u

/-! ### Runs of a single thread -/

abbrev Solo (M : System σ τ) : σ × τ → σ × τ → Prop :=
  ReflTransGen (fun a b => M.move a.1 a.2 b.1 b.2)

lemma solo_cons {s s' : σ} {t t' : τ} {b : σ × τ} (h : M.move s t s' t') (hb : Solo M (s', t') b) :
    Solo M (s, t) b := .head h hb

/-- A thread can run on alone as far as the local states of the others permit. -/
theorem run_solo {a b : σ × τ} (h : Solo M a b) {ts : List τ} {i : ℕ} (hi : ts[i]? = some a.2)
    (hpermits : ∀ s t j u, j ≠ i → ts[j]? = some u → M.permits s t u) :
    Run M ⟨a.1, ts⟩ ⟨b.1, ts.set i b.2⟩ := by
  obtain ⟨hlt, hget⟩ := List.getElem?_eq_some_iff.mp hi
  induction h with
  | refl =>
    have hset : ts.set i a.2 = ts := by rw [← hget, List.set_getElem_self]
    rw [hset]
  | @tail b c _ hmove ih =>
    have hb : (ts.set i b.2)[i]? = some b.2 := List.getElem?_set_self hlt
    have hothers : ∀ j u, j ≠ i → (ts.set i b.2)[j]? = some u → M.permits b.1 b.2 u := by
      intro j u hji hj
      rw [List.getElem?_set_ne hji.symm] at hj
      exact hpermits _ _ j u hji hj
    have hstep := Step.move (p := ⟨b.1, ts.set i b.2⟩) hb hothers hmove
    rw [List.set_set] at hstep
    exact ih.tail hstep

end ThreadPool
