import TestSieve.Builder
import TestSieve.Proofs.Chain.Compile

namespace TestSieve

namespace Cursor

variable {es : List Element} {e : Element}

-- The cursor at the end of the chain with these elements after the root.
def ofBody (es : List Element) : Cursor where
  chain := .ofBody es
  node  := es.length

theorem push_ofBody (h : .root ∉ es) (he : e ≠ .root) :
    (ofBody es).push e = return ofBody (es ++ [e]) := by
  have ⟨c', attached, _⟩ := (Chain.reachable_ofBody es).straight.attach_last he
  have extended : Chain.ofBody (es ++ [e]) = c' := by
    rw [Chain.ofBody, List.foldl_append, ←Chain.ofBody, List.foldl_cons, Chain.extend, attached]
    rfl
  rw [Chain.size_ofBody h, Nat.add_sub_cancel] at attached
  simp only [push, ofBody, attached, extended, List.length_append, List.length_singleton]
  rfl

theorem compile_ofBody (h : .root ∉ es) : (ofBody es).compile = Chain.compileBody es :=
  Chain.compile_ofBody h

end Cursor

namespace Element

def ofClause : List Literal → List Element
  | []      => []
  | l :: ls => l.elements ++ ls.flatMap (.and :: ·.elements)

def ofClauses : List (List Literal) → List Element
  | []      => []
  | c :: cs => ofClause c ++ cs.flatMap (.or :: ofClause ·)

theorem root_notMem_elements (l : Literal) : .root ∉ l.elements := by
  simp [Literal.elements]

theorem root_notMem_ofClause (c : List Literal) : .root ∉ ofClause c := by
  cases c <;> simp [ofClause, root_notMem_elements]

theorem root_notMem_ofClauses (cs : List (List Literal)) : .root ∉ ofClauses cs := by
  cases cs <;> simp [ofClauses, root_notMem_ofClause]

-- The elements are accepted, and these are their clauses.
structure Spells (es : List Element) (cs : List (List Literal)) : Prop where
  accepted   : refusal? es = none
  clauses_eq : clauses es = cs

namespace Spells

variable {es : List Element} {cs : List (List Literal)}

theorem nil : Spells [] [[]] := ⟨rfl, rfl⟩

theorem and (h : Spells es cs) : Spells (.and :: es) cs where
  accepted   := (refusal?_cons (by simp)).trans h.accepted
  clauses_eq := clauses_and.trans h.clauses_eq

theorem or (h : Spells es cs) : Spells (.or :: es) ([] :: cs) where
  accepted   := (refusal?_cons (by simp)).trans h.accepted
  clauses_eq := by rw [clauses_or, h.clauses_eq]

theorem refusal?_literal (l : Literal) (es : List Element) :
    refusal? (l.elements ++ es) = refusal? es := by
  obtain ⟨negations, c⟩ := l
  induction negations
  case zero => exact refusal?_cons (by simp)
  case succ n hi =>
    cases n
    case zero => exact refusal?_not_criterion c
    case succ => exact refusal?_not_not.trans hi

theorem clausesAfter_literal (negations : Nat) (l : Literal) (es : List Element) :
    clausesAfter negations (l.elements ++ es) =
      (clauses es).modifyHead (⟨negations + l.negations, l.criterion⟩ :: ·) := by
  obtain ⟨more, c⟩ := l
  induction more generalizing negations
  case zero => exact clausesAfter_criterion negations c
  case succ n hi =>
    have hi := hi (negations + 1)
    simp only [Nat.add_assoc, Nat.add_comm 1] at hi
    exact (clausesAfter_not negations).trans hi

theorem literal (l : Literal) (h : Spells es cs) :
    Spells (l.elements ++ es) (cs.modifyHead (l :: ·)) where
  accepted   := (refusal?_literal l es).trans h.accepted
  clauses_eq := by
    rw [←clausesAfter_zero, clausesAfter_literal, Nat.zero_add, h.clauses_eq]

theorem literals (ls : List Literal) (h : Spells es cs) :
    Spells (ls.flatMap (.and :: ·.elements) ++ es) (cs.modifyHead (ls ++ ·)) := by
  induction ls
  case nil => cases cs <;> exact h
  case cons l ls hi => simpa [Function.comp_def] using (hi.literal l).and

theorem clause (c : List Literal) (h : Spells es cs) :
    Spells (ofClause c ++ es) (cs.modifyHead (c ++ ·)) := by
  cases c
  case nil       => cases cs <;> exact h
  case cons l ls => simpa [ofClause, Function.comp_def] using (h.literals ls).literal l

theorem clauses (cs : List (List Literal)) :
    Spells (cs.flatMap (.or :: ofClause ·)) ([] :: cs) := by
  induction cs
  case nil          => exact nil
  case cons c cs hi => simpa using (hi.clause c).or

end Spells

theorem spells_ofClauses {cs : List (List Literal)} (h : cs ≠ []) : Spells (ofClauses cs) cs := by
  cases cs
  case nil       => exact absurd rfl h
  case cons c cs => simpa [ofClauses] using (Spells.clauses cs).clause c

-- What is spelled has the clauses that were meant.
theorem clauses_ofClauses {cs : List (List Literal)} (h : cs ≠ []) : clauses (ofClauses cs) = cs :=
  (spells_ofClauses h).clauses_eq

end Element

open Element

theorem Chain.compileBody_ofClauses (cs : List (List Literal)) :
    compileBody (ofClauses cs) =
      .ok { xml := .ofList (Xml.wrap Kind.root.tag (renderBody (ofClauses cs))) } := by
  have accepted : refusal? (ofClauses cs) = none := by
    cases cs
    case nil  => rfl
    case cons => exact (spells_ofClauses (by simp)).accepted
  rw [compileBody, accepted]

end TestSieve
