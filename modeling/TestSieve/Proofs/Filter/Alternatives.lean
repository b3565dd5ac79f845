import TestSieve.Proofs.Filter.Tree

namespace TestSieve

open Element

-- The groups before and after an Or node stay apart.
theorem Element.clauses_append_or (es fs : List Element) :
    clauses (es ++ .or :: fs) = clauses es ++ clauses fs := by
  simp [clauses, segments, List.splitOn_append_cons_self]

variable [Regex.Engine] {α : Type} [Selectable α] {es : List Element}

-- Whether some group that has literals holds of a test.
def someClauseHolds (t : α) (cs : List (List Literal)) : Bool :=
  cs.any fun c => !c.isEmpty && c.all (·.tree.pass t)

theorem pass_clauseTree (t : α) (c : List Literal) :
    (clauseTree c).pass t = c.all (·.tree.pass t) := by
  match c with
  | []           => rfl
  | [l]          => simp [clauseTree]
  | l :: m :: ls => simp [clauseTree, Function.comp_def]

-- A group without literals is no alternative.
theorem pass_tree (t : α) (h : .or ∈ es ∨ (clauses es).flatten ≠ []) :
    (tree es).pass t = someClauseHolds t (clauses es) := by
  unfold tree someClauseHolds
  split
  case isTrue =>
    have full (c : List Literal) : decide (c ≠ []) = !c.isEmpty := by cases c <;> rfl
    rw [Filter.pass_or, List.any_map, List.any_filter]
    simp only [Function.comp_def, pass_clauseTree, full]
  case isFalse one =>
    have len := length_clauses es
    rw [List.count_eq_zero.mpr one] at len
    have ⟨c, hc⟩ := List.length_eq_one_iff.mp len
    have full : c.isEmpty = false := by simpa [one, hc] using h
    simp only [hc, full, pass_clauseTree, List.flatten_singleton, List.any_cons, List.any_nil,
      Bool.not_false, Bool.true_and, Bool.or_false]

theorem someClauseHolds_of_full (t : α) {cs : List (List Literal)} (h : ∀ c ∈ cs, c ≠ []) :
    someClauseHolds t cs = cs.any (·.all (·.tree.pass t)) := by
  unfold someClauseHolds
  induction cs
  case nil => rfl
  case cons c cs hi =>
    obtain ⟨ne, h⟩ := List.forall_mem_cons.mp h
    have full : c.isEmpty = false := List.isEmpty_eq_false_iff.mpr ne
    rw [List.any_cons, List.any_cons, hi h, full]
    rfl

theorem pass_tree_append_or (t : α) (es fs : List Element) :
    (tree (es ++ .or :: fs)).pass t =
      (someClauseHolds t (clauses es) || someClauseHolds t (clauses fs)) := by
  rw [pass_tree t (.inl (by simp)), clauses_append_or]
  exact List.any_append

end TestSieve
