import TestSieve.Proofs.Definition.Build
import TestSieve.Proofs.Filter.Ids

namespace TestSieve

section

variable {α β ε : Type}

-- The error of what has failed.
def failure? : Except ε α → Option ε
  | .error e => some e
  | .ok _    => none

@[simp] theorem failure?_pure (a : α) : failure? (pure a : Except ε α) = none := rfl

@[simp] theorem failure?_throw (e : ε) : failure? (throw e : Except ε α) = some e := rfl

theorem failure?_eq_some_iff {x : Except ε α} {e : ε} : failure? x = some e ↔ x = .error e := by
  cases x <;> simp [failure?]

theorem failure?_eq_none_iff {x : Except ε α} : failure? x = none ↔ ∃ a, x = .ok a := by
  cases x <;> simp [failure?]

theorem failure?_map (f : α → β) (x : Except ε α) :
    failure? (do return f (← x)) = failure? x := by
  cases x <;> rfl

-- What is made one after the other fails as the first part that fails.
theorem failure?_cons (first : Except ε α) (rest : Except ε (List α)) :
    failure? (do return (← first) :: (← rest)) = (failure? first).or (failure? rest) := by
  cases first <;> cases rest <;> rfl

theorem failure?_mapM (f : α → Except ε β) (as : List α) :
    failure? (as.mapM f) = as.findSome? (failure? <| f ·) := by
  induction as
  case nil => rfl
  case cons a as hi =>
    rw [List.mapM_cons, failure?_cons, hi, List.findSome?_cons]
    cases failure? (f a) <;> rfl

end

namespace Term

-- A term can be looked for if its predicate was given what it needs.
def Valid : Term → Prop
  | not operand           => operand.Valid
  | ids list              => ∃ e ∈ list, e ≠ ""
  | field _ pattern       => pattern.text ≠ ""
  | property name value _ => name ≠ "" ∧ value ≠ ""

-- What the predicate of a term lacks.
def fault? : Term → Option ArgumentError
  | not operand           => operand.fault?
  | ids list              => if ∃ e ∈ list, e ≠ "" then none else some .noIds
  | field f pattern       => if pattern.text = "" then some (.emptyText (.field f)) else none
  | property name value _ =>
    if name = "" then some .emptyPropertyName
    else if value = "" then some (.emptyPropertyValue name)
    else none

theorem fault?_eq_none_iff {t : Term} : t.fault? = none ↔ t.Valid := by
  induction t
  case not hi => exact hi
  case ids      => simp [fault?, Valid]
  case field    => simp [fault?, Valid]
  case property =>
    simp only [fault?, Valid]
    split <;> [skip; split] <;> simp_all

theorem failure?_criterion? (t : Term) :
    failure? t.criterion? = t.fault?.map .invalidArgument := by
  induction t
  case not hi => exact hi
  case ids list =>
    by_cases listed : ∃ e ∈ list, e ≠ ""
    case pos =>
      have joined : Criterion.joinIds list ≠ "" := by simpa [joinIds_eq_empty_iff] using listed
      rw [criterion?, Criterion.ofIds, dif_pos joined, fault?, if_pos listed]
      rfl
    case neg =>
      have empty : Criterion.joinIds list = "" := by simpa [joinIds_eq_empty_iff] using listed
      rw [criterion?, Criterion.ofIds, dif_neg (not_not_intro empty), fault?, if_neg listed]
      rfl
  case field f p =>
    by_cases empty : p.text = ""
    case pos =>
      rw [criterion?, Criterion.named, dif_neg (not_not_intro empty), fault?, if_pos empty]
      rfl
    case neg =>
      rw [criterion?, Criterion.named, dif_pos empty, fault?, if_neg empty]
      rfl
  case property name value _ =>
    by_cases unnamed : name = ""
    case pos =>
      rw [criterion?, Criterion.ofProperty, dif_neg (not_not_intro unnamed), fault?,
        if_pos unnamed]
      rfl
    case neg =>
      rw [criterion?, Criterion.ofProperty, dif_pos unnamed, fault?, if_neg unnamed]
      by_cases empty : value = ""
      case pos =>
        rw [dif_neg (not_not_intro empty), if_pos empty]
        rfl
      case neg =>
        rw [dif_pos empty, if_neg empty]
        rfl

theorem failure?_literal? (t : Term) : failure? t.literal? = t.fault?.map .invalidArgument :=
  (failure?_map (Literal.mk t.nots) t.criterion?).trans t.failure?_criterion?

end Term

-- The faults of the group with this index, in order.
def Conjunction.faults (index : Nat) (group : Conjunction) : List ArgumentError :=
  if group.all = [] then [.emptyGroup index] else group.all.filterMap Term.fault?

theorem Conjunction.failure?_clause? (index : Nat) (group : Conjunction) :
    failure? (group.clause? index) = (group.faults index).head?.map .invalidArgument := by
  unfold clause? faults
  split
  case isTrue  => rfl
  case isFalse =>
    rw [failure?_mapM, List.head?_filterMap, List.map_findSome?]
    exact congrArg (List.findSome? · group.all) <| funext Term.failure?_literal?

namespace Definition

def faultsFrom (index : Nat) (groups : List Conjunction) : List ArgumentError :=
  (groups.zipIdx index).flatMap fun (group, index) => group.faults index

-- The faults of all groups, in the order in which the definition is written.
def faults (d : Definition) : List ArgumentError :=
  faultsFrom 0 d.any

theorem faultsFrom_cons (index : Nat) (group : Conjunction) (groups : List Conjunction) :
    faultsFrom index (group :: groups) = group.faults index ++ faultsFrom (index + 1) groups := by
  simp [faultsFrom]

theorem failure?_clausesFrom? (index : Nat) (groups : List Conjunction) :
    failure? (clausesFrom? index groups) =
      (faultsFrom index groups).head?.map .invalidArgument := by
  induction groups generalizing index
  case nil => rfl
  case cons group groups hi =>
    rw [clausesFrom?, failure?_cons, group.failure?_clause?, hi, faultsFrom_cons, List.head?_append,
      Option.map_or]

-- Building fails for the first fault in the order in which the definition is written.
theorem failure?_build (d : Definition) :
    failure? d.build = d.faults.head?.map .invalidArgument := by
  have clauses := failure?_clausesFrom? 0 d.any
  rw [build_eq, faults, ←clauses, ←clauses?]
  cases d.clauses?
  case error => rfl
  case ok cs => exact congrArg failure? <| Chain.compileBody_ofClauses cs

theorem faultsFrom_eq_nil_iff {index : Nat} {groups : List Conjunction} :
    faultsFrom index groups = [] ↔ ∀ g ∈ groups, g.all ≠ [] ∧ ∀ t ∈ g.all, t.Valid := by
  induction groups generalizing index
  case nil => simp [faultsFrom]
  case cons group groups hi =>
    have first : group.faults index = [] ↔ group.all ≠ [] ∧ ∀ t ∈ group.all, t.Valid := by
      unfold Conjunction.faults
      split <;> simp_all [Term.fault?_eq_none_iff]
    rw [faultsFrom_cons, List.append_eq_nil_iff, first, hi, List.forall_mem_cons]

end Definition

end TestSieve
