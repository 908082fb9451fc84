import NextLevelApi.Library.ThreadPool

/-!
# Threads that do not see each other

Some threads of a pool look at one part of the shared state only, and the others never change
that part. Then the others can be left out: what remains of a run is a run of its own.
-/

namespace ThreadPool

variable {σ τ σ' : Type}

/-- Taking a step of one thread and then looking at some of the threads only is a step of it
among these, or no step at all. -/
lemma filter_moved {mine : τ → Bool} {ts : List τ} {i : ℕ} {t t' : τ} (hi : ts[i]? = some t)
    (ht : mine t = true) (ht' : mine t' = true) :
    ∃ j, (ts.filter mine)[j]? = some t ∧ (ts.set i t').filter mine = (ts.filter mine).set j t' := by
  induction ts generalizing i with
  | nil => exact absurd hi (by simp)
  | cons u ts ih =>
    cases i with
    | zero =>
      obtain rfl : u = t := Option.some.inj hi
      exact ⟨0, by simp [ht], by simp [ht, ht']⟩
    | succ i =>
      obtain ⟨j, hj, hset⟩ := ih (i := i) hi
      cases hu : mine u with
      | true => exact ⟨j + 1, by simpa [hu] using hj, by simp [hu, hset]⟩
      | false => exact ⟨j, by simpa [hu] using hj, by simp [hu, hset]⟩

lemma filter_other {mine : τ → Bool} {ts : List τ} {i : ℕ} {t t' : τ} (hi : ts[i]? = some t)
    (ht : mine t = false) (ht' : mine t' = false) : (ts.set i t').filter mine = ts.filter mine := by
  induction ts generalizing i with
  | nil => exact absurd hi (by simp)
  | cons u ts ih =>
    cases i with
    | zero =>
      obtain rfl : u = t := Option.some.inj hi
      simp [ht, ht']
    | succ i => simp [ih (i := i) hi, List.filter_cons]

/-- The threads that are `mine` see `view` of the shared state, and only they change it. The
moves are those of threads whose assertion in the outline `O` holds. -/
structure Isolates (M : System σ τ) (M' : System σ' τ) (O : Outline M) (view : σ → σ') (mine : τ → Bool) :
    Prop where
  start : ∀ {t}, M.starts t → mine t = true → M'.starts t
  ambient : ∀ {s s'}, M.ambient s s' → M'.ambient (view s) (view s')
  mine_move : ∀ {s t s' t'}, M.move s t s' t' → mine t' = mine t
  own : ∀ {s t s' t'}, O.inv s → O.asserts s t → mine t = true → M.move s t s' t' →
    M'.move (view s) t (view s') t'
  others : ∀ {s t s' t'}, O.inv s → O.asserts s t → mine t = false → M.move s t s' t' → view s' = view s
  permits : ∀ {s t u}, M'.permits s t u

namespace Isolates

variable {M : System σ τ} {M' : System σ' τ} {O : Outline M} {view : σ → σ'} {mine : τ → Bool}
  {p q : Pool σ τ}

/-- What is left of a pool without the other threads. -/
def purge (view : σ → σ') (mine : τ → Bool) (p : Pool σ τ) : Pool σ' τ :=
  ⟨view p.shared, p.threads.filter mine⟩

lemma purge_step (h : Isolates M M' O view mine) (hp : O.Holds p) (hstep : Step M p q) :
    Run M' (purge view mine p) (purge view mine q) := by
  cases hstep with
  | @start t hs =>
    cases ht : mine t with
    | true =>
      have hpurge : purge view mine ⟨p.shared, p.threads ++ [t]⟩ =
          ⟨view p.shared, p.threads.filter mine ++ [t]⟩ := by simp [purge, ht]
      rw [hpurge]
      exact .single (.start (h.start hs ht))
    | false =>
      have hpurge : purge view mine ⟨p.shared, p.threads ++ [t]⟩ = purge view mine p := by simp [purge, ht]
      rw [hpurge]
  | ambient hs => exact .single (.ambient (h.ambient hs))
  | @move i t t' s' hi hpermits hmove =>
    have ht' := h.mine_move hmove
    cases ht : mine t with
    | true =>
      obtain ⟨j, hj, hset⟩ := filter_moved hi ht (ht'.trans ht)
      have hpurge : purge view mine ⟨s', p.threads.set i t'⟩ =
          ⟨view s', (p.threads.filter mine).set j t'⟩ := by rw [purge, hset]
      rw [hpurge]
      exact .single (.move hj (fun _ _ _ _ => h.permits) (h.own hp.inv (hp.asserts hi) ht hmove))
    | false =>
      have hpurge : purge view mine ⟨s', p.threads.set i t'⟩ = purge view mine p := by
        rw [purge, filter_other hi ht (ht'.trans ht), h.others hp.inv (hp.asserts hi) ht hmove]
        rfl
      rw [hpurge]

theorem purge_run (h : Isolates M M' O view mine) (hp : O.Holds p) (hrun : Run M p q) :
    Run M' (purge view mine p) (purge view mine q) := by
  induction hrun with
  | refl => exact .refl
  | tail hrun hstep ih => exact ih.trans (h.purge_step (O.holds_run hp hrun) hstep)

end Isolates

end ThreadPool
