import TestSieve.Definition
import TestSieve.Proofs.Chain.Cursor

namespace TestSieve

open Element

namespace Term

-- The negations around a term, and the criterion inside of them.
def nots : Term → Nat
  | not operand => operand.nots + 1
  | _           => 0

def criterion? : Term → Except FilterError Criterion
  | not operand               => operand.criterion?
  | ids list                  => Criterion.ofIds list
  | field f pattern           => Criterion.named (.field f) pattern.text pattern.isRegex
  | property name value regex => Criterion.ofProperty name value regex

def literal? (term : Term) : Except FilterError Literal := do
  return ⟨term.nots, ← term.criterion?⟩

variable {es : List Element}

theorem push_criterion (h : .root ∉ es) (made : Except FilterError Criterion) :
    (do (Cursor.ofBody es).push (.criterion (← made))) = do
      return .ofBody (es ++ Literal.elements ⟨0, ← made⟩) := by
  cases made
  case error => rfl
  case ok a  => exact Cursor.push_ofBody h (by simp)

theorem append_ofBody (h : .root ∉ es) (term : Term) :
    term.append (.ofBody es) = do return .ofBody (es ++ (← term.literal?).elements) := by
  induction term generalizing es
  case not operand hi =>
    have pushed := Cursor.push_ofBody h (e := .not) (by simp)
    have more : .root ∉ es ++ [Element.not] := by simpa using h
    have appended := hi more
    simp [append, pushed, appended, literal?, nots, criterion?, Literal.elements,
      List.replicate_succ]
  all_goals simpa [append, literal?, nots, criterion?] using push_criterion h _

end Term

namespace Conjunction

-- The clause of the group with this index.
def clause? (index : Nat) (group : Conjunction) : Except FilterError (List Literal) :=
  if group.all = [] then throw (.invalidArgument (.emptyGroup index))
  else group.all.mapM Term.literal?

variable {es : List Element}

theorem appendRest_ofBody (h : .root ∉ es) (terms : List Term) :
    appendRest (.ofBody es) terms = do
      return .ofBody (es ++ (← terms.mapM Term.literal?).flatMap (.and :: ·.elements)) := by
  induction terms generalizing es
  case nil => simp [appendRest]
  case cons t terms hi =>
    have pushed := Cursor.push_ofBody h (e := .and) (by simp)
    have more : .root ∉ es ++ [Element.and] := by simpa using h
    have most (l : Literal) : .root ∉ es ++ .and :: l.elements := by simp [h, root_notMem_elements]
    have first := t.append_ofBody more
    have rest (l : Literal) := hi (most l)
    simp [appendRest, pushed, first, rest]

theorem appendAll_ofBody (h : .root ∉ es) (t : Term) (terms : List Term) :
    (do appendRest (← t.append (.ofBody es)) terms) = do
      return .ofBody (es ++ ofClause (← (t :: terms).mapM Term.literal?)) := by
  have first := t.append_ofBody h
  have more (l : Literal) : .root ∉ es ++ l.elements := by simp [h, root_notMem_elements]
  have rest (l : Literal) := appendRest_ofBody (more l) terms
  simp [first, rest, ofClause]

theorem append_ofBody (h : .root ∉ es) (index : Nat) (group : Conjunction) :
    group.append (.ofBody es) index = do
      return .ofBody (es ++ (if index = 0 then [] else [.or]) ++
        ofClause (← group.clause? index)) := by
  obtain ⟨_ | ⟨t, terms⟩⟩ := group
  case nil =>
    simp [append, clause?]
    rfl
  case cons =>
    have clause : clause? index ⟨t :: terms⟩ = (t :: terms).mapM Term.literal? := if_neg (by simp)
    rw [clause]
    by_cases hi : index = 0
    case pos => simpa [append, hi] using appendAll_ofBody h t terms
    case neg =>
      have pushed := Cursor.push_ofBody h (e := .or) (by simp)
      have more : .root ∉ es ++ [Element.or] := by simpa using h
      have joined := appendAll_ofBody more t terms
      simpa [append, hi, pushed] using joined

end Conjunction

namespace Definition

-- The clauses of the groups from the one with this index on.
def clausesFrom? (index : Nat) : List Conjunction → Except FilterError (List (List Literal))
  | []              => return []
  | group :: groups => do return (← group.clause? index) :: (← clausesFrom? (index + 1) groups)

def clauses? (d : Definition) : Except FilterError (List (List Literal)) :=
  clausesFrom? 0 d.any

variable {es : List Element}

theorem appendFrom_ofBody (h : .root ∉ es) {index : Nat} (hi : index ≠ 0)
    (groups : List Conjunction) :
    appendFrom (.ofBody es) index groups = do
      return .ofBody (es ++ (← clausesFrom? index groups).flatMap (.or :: ofClause ·)) := by
  induction groups generalizing es index
  case nil => simp [appendFrom, clausesFrom?]
  case cons group groups hg =>
    have first := group.append_ofBody h index
    have more (c : List Literal) : .root ∉ es ++ .or :: ofClause c := by
      simp [h, root_notMem_ofClause]
    have rest (c : List Literal) := hg (more c) index.succ_ne_zero
    simp [appendFrom, clausesFrom?, hi, first, rest]

-- The compiled text of a definition depends on nothing but its clauses.
theorem build_eq (d : Definition) :
    d.build = (do Chain.compileBody (ofClauses (← d.clauses?))) := by
  have start : ({} : Cursor) = .ofBody [] := rfl
  have none : Element.root ∉ [] := List.not_mem_nil
  obtain ⟨_ | ⟨group, groups⟩⟩ := d
  case nil =>
    have compiled := Cursor.compile_ofBody none
    simp [build, appendFrom, clauses?, clausesFrom?, start, compiled, ofClauses]
  case cons =>
    have first := group.append_ofBody none 0
    have rest (c : List Literal) :=
      appendFrom_ofBody (root_notMem_ofClause c) Nat.one_ne_zero groups
    have compiled (c : List Literal) (cs : List (List Literal)) :=
      Cursor.compile_ofBody (root_notMem_ofClauses (c :: cs))
    simp only [ofClauses] at compiled
    simp [build, appendFrom, clauses?, clausesFrom?, start, first, rest, compiled, ofClauses]

end Definition

end TestSieve
