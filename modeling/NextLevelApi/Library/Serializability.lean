import NextLevelApi.Library.ThreadPool
import Mathlib.Data.List.Perm.Basic

/-!
# Fresh names and serial runs

Threads that draw fresh names do not get in each other's way: nobody else has a name that a
thread owns. If a thread has its effect in one step, and up to that step depends on the shared
state only in that the names it draws are fresh, then an interleaved run shows nothing but what
a serial run shows, in which the threads run one after another in the order of their effects.
-/

namespace ThreadPool

variable {σ τ ν ω : Type} {M : System σ τ} {p q : Pool σ τ}

/-! ### Names -/

/-- Who has which names: `drawn` ones have been given to somebody, a thread `owns` some of them,
and `spent` ones have passed to the shared state. `valid` is what a thread can tell by itself. -/
structure Naming (M : System σ τ) (ν : Type) where
  drawn : σ → ν → Prop
  spent : σ → ν → Prop
  owns : τ → ν → Prop
  valid : τ → Prop
  valid_start : ∀ {t}, M.starts t → valid t ∧ ∀ n, ¬owns t n
  valid_move : ∀ {s t s' t'}, valid t → M.move s t s' t' → valid t'
  ambient : ∀ {s s'}, M.ambient s s' → (∀ n, drawn s n → drawn s' n) ∧ ∀ n, spent s' n ↔ spent s n
  drawn_move : ∀ {s t s' t'}, valid t → M.move s t s' t' → ∀ n, drawn s n → drawn s' n
  owns_move : ∀ {s t s' t'}, valid t → M.move s t s' t' →
    ∀ n, owns t' n → owns t n ∨ (¬drawn s n ∧ drawn s' n)
  spent_move : ∀ {s t s' t'}, valid t → M.move s t s' t' →
    (∀ n, spent s n → spent s' n) ∧ ∀ n, spent s' n → spent s n ∨ (owns t n ∧ ¬owns t' n)

namespace Naming

variable (N : Naming M ν)

/-- Nobody else has the names that a thread owns. -/
def outline : Outline M where
  inv s := ∀ n, N.spent s n → N.drawn s n
  asserts s t := N.valid t ∧ ∀ n, N.owns t n → N.drawn s n ∧ ¬N.spent s n
  apart t u := ∀ n, N.owns t n → ¬N.owns u n
  apart_symm h n hu ht := h n ht hu
  start _ h := ⟨(N.valid_start h).1, fun n hn => absurd hn ((N.valid_start h).2 n)⟩
  start_apart _ h _ n hn := absurd hn ((N.valid_start h).2 n)
  ambient hs h := by
    obtain ⟨hdrawn, hspent⟩ := N.ambient h
    refine ⟨fun n hn => hdrawn n (hs n ((hspent n).mp hn)), fun t ht => ⟨ht.1, fun n hn => ?_⟩⟩
    obtain ⟨hd, hns⟩ := ht.2 n hn
    exact ⟨hdrawn n hd, fun h => hns ((hspent n).mp h)⟩
  move {s t s' t'} hs ht h := by
    have hdrawn := N.drawn_move ht.1 h
    refine ⟨fun n hn => ?_, N.valid_move ht.1 h, fun n hn => ?_⟩
    · rcases (N.spent_move ht.1 h).2 n hn with hold | ⟨hown, -⟩
      · exact hdrawn n (hs n hold)
      · exact hdrawn n (ht.2 n hown).1
    · rcases N.owns_move ht.1 h n hn with hown | ⟨hfresh, hnew⟩
      · refine ⟨hdrawn n (ht.2 n hown).1, fun hspent => ?_⟩
        rcases (N.spent_move ht.1 h).2 n hspent with hold | ⟨-, hgone⟩
        · exact (ht.2 n hown).2 hold
        · exact hgone hn
      · refine ⟨hnew, fun hspent => ?_⟩
        rcases (N.spent_move ht.1 h).2 n hspent with hold | ⟨hown, -⟩
        · exact hfresh (hs n hold)
        · exact hfresh (ht.2 n hown).1
  frame {s t u s' t'} hs ht hu hapart _ h := by
    refine ⟨⟨hu.1, fun n hn => ?_⟩, fun n hn hn' => ?_⟩
    · obtain ⟨hd, hns⟩ := hu.2 n hn
      refine ⟨N.drawn_move ht.1 h n hd, fun hspent => ?_⟩
      rcases (N.spent_move ht.1 h).2 n hspent with hold | ⟨hown, -⟩
      · exact hns hold
      · exact hapart n hown hn
    · rcases N.owns_move ht.1 h n hn with hown | ⟨hfresh, -⟩
      · exact hapart n hown hn'
      · exact hfresh (hu.2 n hn').1

end Naming

/-! ### Serial runs -/

/-- A run of threads one after another, each of them alone from its start to where it is left. -/
inductive Serial (M : System σ τ) (s : σ) : σ → List τ → Prop
  | nil : Serial M s s []
  | snoc {s' s'' : σ} {ts : List τ} {t t' : τ} (h : Serial M s s' ts) (hstart : M.starts t)
      (hsolo : Solo M (s', t) (s'', t')) : Serial M s s'' (ts ++ [t'])

lemma Serial.run {s s' : σ} {ts : List τ} (h : Serial M s s' ts)
    (hpermits : ∀ s t u, M.permits s t u) : Run M ⟨s, []⟩ ⟨s', ts⟩ := by
  induction h with
  | nil => exact .refl
  | @snoc s' s'' ts t t' _ hstart hsolo ih =>
    have hlast : (ts ++ [t])[ts.length]? = some t := by simp
    have hrun := run_solo hsolo hlast fun _ _ _ _ _ _ => hpermits _ _ _
    have hset : (ts ++ [t]).set ts.length t' = ts ++ [t'] := by simp
    rw [hset] at hrun
    exact (ih.tail (.start hstart)).trans hrun

/-- Threads with one effect each. Up to the effect a step is one that can be taken whenever the
names it draws are fresh, and the effect depends on nothing but what `view` shows. -/
structure Replay (M : System σ τ) (ν ω : Type) extends Naming M ν where
  view : σ → ω
  pending : τ → Prop
  done : τ → Bool
  pending_start : ∀ {t}, M.starts t → pending t ∧ done t = false
  view_ambient : ∀ {s s'}, M.ambient s s' → view s' = view s
  done_final : ∀ {s t s' t'}, M.move s t s' t' → done t = false
  silent : ∀ {s t s' t'}, valid t → M.move s t s' t' → done t' = false → view s' = view s
  replay : ∀ {s t s' t'}, valid t → M.move s t s' t' → pending t' → pending t ∧
    (∀ n, owns t n → owns t' n) ∧
    ∀ r, (∀ n, owns t' n → ¬owns t n → ¬drawn r n) → ∃ r', M.move r t r' t' ∧ view r' = view r ∧
      ∀ n, drawn r' n → drawn r n ∨ owns t' n
  effect : ∀ {s t s' t'}, valid t → M.move s t s' t' → done t' = true → pending t ∧
    (∀ n, owns t n → spent s' n) ∧
    ∀ r, view r = view s → ∃ r', M.move r t r' t' ∧ view r' = view s' ∧ ∀ n, drawn r' n → drawn r n

namespace Replay

variable (R : Replay M ν ω)

/-- From any state where its names are fresh a thread can get to where it is, unseen. -/
def Replays (t : τ) : Prop :=
  R.pending t → ∀ r, (∀ n, R.owns t n → ¬R.drawn r n) →
    ∃ t₀ r', M.starts t₀ ∧ Solo M (r, t₀) (r', t) ∧ R.view r' = R.view r ∧
      ∀ n, R.drawn r' n → R.drawn r n ∨ R.owns t n

lemma replays_start {t : τ} (h : M.starts t) : R.Replays t :=
  fun _ r _ => ⟨t, r, h, .refl, rfl, fun _ hn => .inl hn⟩

lemma replays_move {s s' : σ} {t t' : τ} (hvalid : R.valid t) (ht : R.Replays t)
    (h : M.move s t s' t') : R.Replays t' := by
  intro hpending r hfresh
  obtain ⟨hpending', hkeeps, hstep⟩ := R.replay hvalid h hpending
  obtain ⟨t₀, r₁, hstart, hsolo, hview, hdrawn⟩ := ht hpending' r fun n hn => hfresh n (hkeeps n hn)
  have hfresh₁ : ∀ n, R.owns t' n → ¬R.owns t n → ¬R.drawn r₁ n := by
    intro n hn hnew hdrawn₁
    rcases hdrawn n hdrawn₁ with hold | hown
    · exact hfresh n hn hold
    · exact hnew hown
  obtain ⟨r', hmove, hview', hdrawn'⟩ := hstep r₁ hfresh₁
  refine ⟨t₀, r', hstart, hsolo.tail hmove, hview'.trans hview, fun n hn => ?_⟩
  rcases hdrawn' n hn with hn | hn
  · exact (hdrawn n hn).imp_right (hkeeps n)
  · exact .inr hn

/-- The names with their owners, and every thread where it can be brought again. -/
def outline : Outline M where
  inv := R.toNaming.outline.inv
  asserts s t := R.toNaming.outline.asserts s t ∧ R.Replays t
  apart := R.toNaming.outline.apart
  apart_symm := R.toNaming.outline.apart_symm
  start hs h := ⟨R.toNaming.outline.start hs h, R.replays_start h⟩
  start_apart hs h hu := R.toNaming.outline.start_apart hs h hu.1
  ambient hs h := by
    obtain ⟨hinv, hstable⟩ := R.toNaming.outline.ambient hs h
    exact ⟨hinv, fun t ht => ⟨hstable t ht.1, ht.2⟩⟩
  move hs ht h := by
    obtain ⟨hinv, hasserts⟩ := R.toNaming.outline.move hs ht.1 h
    exact ⟨hinv, hasserts, R.replays_move ht.1.1 ht.2 h⟩
  frame hs ht hu hapart hpermits h := by
    obtain ⟨hasserts, hapart'⟩ := R.toNaming.outline.frame hs ht.1 hu.1 hapart hpermits h
    exact ⟨⟨hasserts, hu.2⟩, hapart'⟩

lemma filter_set {ts : List τ} {i : ℕ} {t : τ} {f : τ → Bool} (t' : τ) (hi : ts[i]? = some t)
    (ht : f t = false) :
    ((ts.set i t').filter f).Perm (if f t' then t' :: ts.filter f else ts.filter f) := by
  induction ts generalizing i with
  | nil => simp at hi
  | cons u ts ih =>
    cases i with
    | zero =>
      obtain rfl := Option.some.inj hi
      rw [List.set_cons_zero, List.filter_cons, List.filter_cons_of_neg (by simp [ht])]
    | succ i =>
      have htail := ih (i := i) hi
      rw [List.set_cons_succ]
      by_cases hu : f u = true
      · rw [List.filter_cons_of_pos hu, List.filter_cons_of_pos hu]
        refine (htail.cons u).trans ?_
        split
        · exact .swap _ _ _
        · exact .refl _
      · rw [List.filter_cons_of_neg hu, List.filter_cons_of_neg hu]
        exact htail

/-- What a run shows, a serial run of the threads that have had their effect shows too. -/
structure Serializable (s : σ) (p : Pool σ τ) (r : σ) (ts : List τ) : Prop where
  serial : Serial M s r ts
  view : R.view r = R.view p.shared
  drawn : ∀ n, R.drawn r n → R.spent p.shared n
  done : ts.Perm (p.threads.filter R.done)

theorem serializable_step {s r : σ} {ts : List τ} (hp : R.outline.Holds p) (h : Step M p q)
    (hserial : R.Serializable s p r ts) : ∃ r' ts', R.Serializable s q r' ts' := by
  obtain ⟨hserial, hview, hdrawn, hdone⟩ := hserial
  cases h with
  | @start t hs =>
    refine ⟨r, ts, hserial, hview, hdrawn, ?_⟩
    have hnot : ¬R.done t = true := by simp [(R.pending_start hs).2]
    simpa [List.filter_append, List.filter_cons_of_neg hnot] using hdone
  | ambient hs =>
    refine ⟨r, ts, hserial, hview.trans (R.view_ambient hs).symm, fun n hn => ?_, hdone⟩
    exact ((R.ambient hs).2 n).mpr (hdrawn n hn)
  | @move i t t' s' hi hpermits hmove =>
    obtain ⟨⟨hvalid, howns⟩, hreplays⟩ := show R.outline.asserts p.shared t from hp.asserts hi
    have hfilter := filter_set t' hi (R.done_final hmove)
    have hspent : ∀ n, R.spent p.shared n → R.spent s' n := (R.spent_move hvalid hmove).1
    cases hdone' : R.done t' with
    | false =>
      rw [hdone', if_neg Bool.false_ne_true] at hfilter
      exact ⟨r, ts, hserial, hview.trans (R.silent hvalid hmove hdone').symm,
        fun n hn => hspent n (hdrawn n hn), hdone.trans hfilter.symm⟩
    | true =>
      -- the thread runs again, alone, after those that have had their effect before
      rw [hdone', if_pos rfl] at hfilter
      obtain ⟨hpending, hpasses, heffect⟩ := R.effect hvalid hmove hdone'
      obtain ⟨t₀, r₁, hstart, hsolo, hview₁, hdrawn₁⟩ :=
        hreplays hpending r fun n hn hn' => (howns n hn).2 (hdrawn n hn')
      obtain ⟨r', hmove', hview', hdrawn'⟩ := heffect r₁ (hview₁.trans hview)
      refine ⟨r', ts ++ [t'], hserial.snoc hstart (hsolo.tail hmove'), hview', fun n hn => ?_, ?_⟩
      · rcases hdrawn₁ n (hdrawn' n hn) with hold | hown
        · exact hspent n (hdrawn n hold)
        · exact hpasses n hown
      · exact (List.perm_append_singleton t' ts).trans ((hdone.cons t').trans hfilter.symm)

/-- Every run is serializable. -/
theorem serializable_run {s : σ} (hfresh : ∀ n, ¬R.drawn s n) (hspent : ∀ n, ¬R.spent s n)
    (h : Run M ⟨s, []⟩ p) : ∃ r ts, R.Serializable s p r ts := by
  have hall : R.outline.Holds p ∧ ∃ r ts, R.Serializable s p r ts := by
    induction h with
    | refl =>
      refine ⟨R.outline.holds_empty fun n hn => absurd hn (hspent n), s, [], .nil, rfl, ?_, .nil⟩
      exact fun n hn => absurd hn (hfresh n)
    | tail _ hstep ih =>
      obtain ⟨hp, r, ts, hserial⟩ := ih
      exact ⟨R.outline.holds_step hp hstep, R.serializable_step hp hstep hserial⟩
  exact hall.2

end Replay

end ThreadPool
