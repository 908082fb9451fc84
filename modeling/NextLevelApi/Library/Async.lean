/-!
# Asynchronous computations over a store

A computation settles with a value or with an error, and what it has done to the store by
then stays done. `Settles x s Q E` is the weakest precondition of `x` at the store `s`, for
the postcondition `Q` of its value and `E` of its error; it is computed along the program.
-/

namespace Async

variable {ε σ α β : Type} {s : σ} {Q Q' : α → σ → Prop} {E E' : ε → σ → Prop}

/-- A step outside the store: it only settles. -/
def settle (x : Except ε α) : EStateM ε σ α :=
  match x with
  | .ok a => pure a
  | .error e => throw e

def Settles (x : EStateM ε σ α) (s : σ) (Q : α → σ → Prop) (E : ε → σ → Prop) : Prop :=
  match x.run s with
  | .ok a s' => Q a s'
  | .error e s' => E e s'

@[simp] theorem settles_pure {a : α} : Settles (pure a) s Q E ↔ Q a s := Iff.rfl

@[simp] theorem settles_throw {e : ε} : Settles (throw e) s Q E ↔ E e s := Iff.rfl

@[simp] theorem settles_settle {x : Except ε α} :
    Settles (settle x) s Q E ↔ (∀ a, x = .ok a → Q a s) ∧ ∀ e, x = .error e → E e s := by
  cases x with
  | ok a => exact ⟨fun h => ⟨fun _ ha => Except.ok.inj ha ▸ h, nofun⟩, fun h => h.1 a rfl⟩
  | error e => exact ⟨fun h => ⟨nofun, fun _ he => Except.error.inj he ▸ h⟩, fun h => h.2 e rfl⟩

@[simp] theorem settles_modify {f : σ → σ} {Q : PUnit → σ → Prop} :
    Settles (modify f) s Q E ↔ Q ⟨⟩ (f s) := Iff.rfl

@[simp] theorem settles_get {Q : σ → σ → Prop} : Settles get s Q E ↔ Q s s := Iff.rfl

@[simp] theorem settles_bind {x : EStateM ε σ α} {f : α → EStateM ε σ β} {Q : β → σ → Prop} :
    Settles (x >>= f) s Q E ↔ Settles x s (fun a s' => Settles (f a) s' Q E) E := by
  unfold Settles
  rw [EStateM.run_bind]
  cases x.run s <;> exact Iff.rfl

@[simp] theorem settles_map {x : EStateM ε σ α} {f : α → β} {Q : β → σ → Prop} :
    Settles (f <$> x) s Q E ↔ Settles x s (fun a s' => Q (f a) s') E := by
  unfold Settles
  simp only [Functor.map, EStateM.run]
  delta EStateM.map
  cases x s <;> exact Iff.rfl

@[simp] theorem settles_tryCatch {x : EStateM ε σ α} {handler : ε → EStateM ε σ α} :
    Settles (tryCatch x handler) s Q E ↔ Settles x s Q fun e s' => Settles (handler e) s' Q E := by
  unfold Settles
  simp only [tryCatch, tryCatchThe, MonadExceptOf.tryCatch, EStateM.run]
  delta EStateM.tryCatch
  cases x s <;> exact Iff.rfl

/-- The value a run has settled with meets the postcondition. -/
theorem Settles.ok {x : EStateM ε σ α} {a : α} {s' : σ} (h : Settles x s Q E) (hrun : x.run s = .ok a s') :
    Q a s' := by
  unfold Settles at h
  rwa [hrun] at h

theorem Settles.error {x : EStateM ε σ α} {e : ε} {s' : σ} (h : Settles x s Q E)
    (hrun : x.run s = .error e s') : E e s' := by
  unfold Settles at h
  rwa [hrun] at h

/-- A computation that can settle in one way only settles in this way. -/
theorem Settles.run_eq {x : EStateM ε σ α} {a : α} {s' : σ}
    (h : Settles x s (fun b s'' => b = a ∧ s'' = s') fun _ _ => False) : x.run s = .ok a s' := by
  unfold Settles at h
  cases hx : x.run s with
  | ok b s'' =>
    rw [hx] at h
    obtain ⟨rfl, rfl⟩ := h
    rfl
  | error e s'' =>
    rw [hx] at h
    exact h.elim

theorem Settles.mono {x : EStateM ε σ α} (h : Settles x s Q E) (hQ : ∀ a s', Q a s' → Q' a s')
    (hE : ∀ e s', E e s' → E' e s') : Settles x s Q' E' := by
  unfold Settles at h ⊢
  cases hx : x.run s with
  | ok a s' =>
    rw [hx] at h
    exact hQ a s' h
  | error e s' =>
    rw [hx] at h
    exact hE e s' h

theorem Settles.and {x : EStateM ε σ α} (h : Settles x s Q E) (h' : Settles x s Q' E') :
    Settles x s (fun a s' => Q a s' ∧ Q' a s') fun e s' => E e s' ∧ E' e s' := by
  unfold Settles at h h' ⊢
  cases hx : x.run s with
  | ok a s' =>
    rw [hx] at h h'
    exact ⟨h, h'⟩
  | error e s' =>
    rw [hx] at h h'
    exact ⟨h, h'⟩

/-! ### Refinement of a pure function -/

/-- Whatever is in the store, `x` returns what `r` returns and throws where `r` fails, with an error
that stands for that of `r`. -/
def Refines {ε' : Type} (Stands : ε → ε' → Prop) (x : EStateM ε σ α) (r : Except ε' α) : Prop :=
  ∀ s, Settles x s (fun a _ => r = .ok a) fun e _ => ∃ e', r = .error e' ∧ Stands e e'

section Refinement

variable {ε' : Type} {Stands : ε → ε' → Prop}

theorem refines_pure {a : α} : Refines Stands (pure a : EStateM ε σ α) (.ok a) := fun _ => rfl

theorem Refines.bind {x : EStateM ε σ α} {r : Except ε' α} {f : α → EStateM ε σ β} {g : α → Except ε' β}
    (hx : Refines Stands x r) (hf : ∀ a, Refines Stands (f a) (g a)) :
    Refines Stands (x >>= f) (r >>= g) := by
  intro s
  rw [settles_bind]
  refine (hx s).mono ?_ ?_
  · rintro a s' rfl
    exact hf a s'
  · rintro e s' ⟨e', rfl, he⟩
    exact ⟨e', rfl, he⟩

theorem Refines.map {x : EStateM ε σ α} {r : Except ε' α} (f : α → β) (hx : Refines Stands x r) :
    Refines Stands (f <$> x) (f <$> r) := by
  intro s
  rw [settles_map]
  refine (hx s).mono ?_ ?_
  · rintro a s' rfl
    rfl
  · rintro e s' ⟨e', rfl, he⟩
    exact ⟨e', rfl, he⟩

/-- `x` returns from any store exactly what `r` returns. -/
theorem Refines.ok_iff {x : EStateM ε σ α} {r : Except ε' α} (h : Refines Stands x r) (s : σ) {a : α} :
    (∃ s', x.run s = .ok a s') ↔ r = .ok a := by
  have hs := h s
  unfold Settles at hs
  cases hx : x.run s with
  | ok b s' =>
    rw [hx] at hs
    rw [hs]
    simp [eq_comm]
  | error e s' =>
    rw [hx] at hs
    obtain ⟨e', hr, -⟩ := hs
    simp [hr]

end Refinement

end Async
