import Mathlib.Data.List.Basic

/-!
# The last part of a list

What stands after the last separator, and what a split of the whole list has at its end: the
same, or the whole list if it has no separator.
-/

namespace LastPart

variable {α : Type} {sep : α} {xs part part' : List α}

/-- `part` stands after the last `sep` of `xs`. -/
def AfterLast (sep : α) (xs part : List α) : Prop := ∃ front, xs = front ++ sep :: part ∧ sep ∉ part

theorem exists_afterLast_iff : (∃ part, AfterLast sep xs part) ↔ sep ∈ xs := by
  constructor
  · rintro ⟨part, front, rfl, -⟩
    simp
  · intro h
    obtain ⟨back, front, hxs, hback⟩ := List.eq_append_cons_of_mem (List.mem_reverse.mpr h)
    refine ⟨back.reverse, front.reverse, ?_, by simpa using hback⟩
    rw [← List.reverse_reverse xs, hxs]
    simp

lemma afterLast_of_suffix (h : sep :: part <:+ xs) (hpart : sep ∉ part) : AfterLast sep xs part := by
  obtain ⟨front, rfl⟩ := h
  exact ⟨front, rfl, hpart⟩

variable [BEq α] [LawfulBEq α]

theorem getLastD_splitOn (h : AfterLast sep xs part) (d : List α) : (xs.splitOn sep).getLastD d = part := by
  obtain ⟨front, rfl, hpart⟩ := h
  rw [List.splitOn_append_cons_self, List.splitOn_eq_singleton hpart]
  simp

theorem getLastD_splitOn_of_notMem (h : sep ∉ xs) (d : List α) : (xs.splitOn sep).getLastD d = xs := by
  rw [List.splitOn_eq_singleton h]
  rfl

theorem AfterLast.unique (h : AfterLast sep xs part) (h' : AfterLast sep xs part') : part = part' :=
  (getLastD_splitOn h []).symm.trans (getLastD_splitOn h' [])

end LastPart
