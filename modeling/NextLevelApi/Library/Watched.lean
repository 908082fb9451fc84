import NextLevelApi.Library.ThreadPool

/-!
# Watched pools

A record kept beside the shared state by someone who sees every step and disturbs none. Every
run can be watched, and watching it shows nothing else than the run.
-/

namespace ThreadPool
open Relation

variable {σ τ η : Type}

/-- The watcher `sees` what the environment does and `notes` what a thread does. -/
def System.watched (M : System σ τ) (sees : σ → σ → η → η → Prop) (notes : σ → τ → σ → τ → η → η) :
    System (σ × η) τ where
  starts := M.starts
  ambient a b := M.ambient a.1 b.1 ∧ sees a.1 b.1 a.2 b.2
  move a t b t' := M.move a.1 t b.1 t' ∧ b.2 = notes a.1 t b.1 t' a.2
  permits a := M.permits a.1

variable {M : System σ τ} {sees : σ → σ → η → η → Prop} {notes : σ → τ → σ → τ → η → η}

def Pool.unwatched (p : Pool (σ × η) τ) : Pool σ τ := ⟨p.shared.1, p.threads⟩

theorem step_unwatched {p q : Pool (σ × η) τ} (h : Step (M.watched sees notes) p q) :
    Step M p.unwatched q.unwatched := by
  cases h with
  | start hs => exact .start hs
  | ambient hs => exact .ambient hs.1
  | move hi hp hmove => exact .move hi hp hmove.1

theorem run_unwatched {p q : Pool (σ × η) τ} (h : Run (M.watched sees notes) p q) :
    Run M p.unwatched q.unwatched := by
  induction h with
  | refl => exact .refl
  | tail _ hstep ih => exact ih.tail (step_unwatched hstep)

/-- Every run can be watched, from any record on. -/
theorem run_watched (hsees : ∀ s s' h, M.ambient s s' → ∃ h', sees s s' h h') {p q : Pool σ τ}
    (hrun : Run M p q) (h : η) :
    ∃ h', Run (M.watched sees notes) ⟨(p.shared, h), p.threads⟩ ⟨(q.shared, h'), q.threads⟩ := by
  induction hrun with
  | refl => exact ⟨h, .refl⟩
  | @tail p q _ hstep ih =>
    obtain ⟨h₁, hwatched⟩ := ih
    cases hstep with
    | start hs => exact ⟨h₁, hwatched.tail (.start hs)⟩
    | @ambient s' hs =>
      obtain ⟨h₂, hseen⟩ := hsees _ _ h₁ hs
      have hambient : (M.watched sees notes).ambient (p.shared, h₁) (s', h₂) := ⟨hs, hseen⟩
      exact ⟨h₂, hwatched.tail (.ambient hambient)⟩
    | @move i t t' s' hi hp hmove =>
      have hwatches : (M.watched sees notes).move (p.shared, h₁) t (s', notes p.shared t s' t' h₁) t' :=
        ⟨hmove, rfl⟩
      exact ⟨_, hwatched.tail (.move hi hp hwatches)⟩

end ThreadPool
