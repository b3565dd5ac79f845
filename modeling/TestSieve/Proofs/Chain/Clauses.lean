import TestSieve.Compile

namespace TestSieve

-- A criterion with the negations directly before it.
structure Literal where
  negations : Nat
  criterion : Criterion
  deriving DecidableEq

namespace Literal

def render (l : Literal) : List Char :=
  l.negations.repeat (Xml.wrap Kind.not.tag) l.criterion.render

-- A literal as elements, its negations first.
def elements (l : Literal) : List Element :=
  List.replicate l.negations .not ++ [.criterion l.criterion]

end Literal

namespace Element

-- The criteria of a list, when `negations` stand before it.
def literalsAfter (negations : Nat) : List Element → List Literal
  | []                  => []
  | not :: rest         => literalsAfter (negations + 1) rest
  | criterion c :: rest => ⟨negations, c⟩ :: literalsAfter 0 rest
  | _ :: rest           => literalsAfter 0 rest

def literals (es : List Element) : List Literal :=
  literalsAfter 0 es

-- The elements without And nodes, cut at the Or nodes.
def segments (es : List Element) : List (List Element) :=
  (es.filter (· ≠ .and)).splitOn .or

def clauses (es : List Element) : List (List Literal) :=
  (segments es).map literals

-- Why the elements mean nothing: a negation directly before an And or Or node comes first, then a
-- negation at the end.
def refusal? (es : List Element) : Option StateError :=
  match (es.zip es.tail).find? (fun (e, next) => e = .not ∧ (next = .and ∨ next = .or)) with
  | some (_, next) => some (.negatedContainer next.kind)
  | none           => if es.getLast? = some .not then some .missingOperand else none

-- A group of one is the literal itself.
def renderClause : List Literal → List Char
  | []  => []
  | [l] => l.render
  | ls  => Xml.wrap Kind.and.tag (ls.flatMap Literal.render)

def renderBody (es : List Element) : List Char :=
  if .or ∈ es then Xml.wrap Kind.or.tag ((clauses es).flatMap renderClause)
  else (clauses es).flatMap (·.flatMap Literal.render)

variable {e : Element} {es : List Element}

@[simp] theorem segments_nil : segments [] = [[]] := rfl

@[simp] theorem segments_and : segments (.and :: es) = segments es := by
  simp [segments]

@[simp] theorem segments_or : segments (.or :: es) = [] :: segments es := by
  simp [segments, List.splitOn_cons_eq_if_modifyHead]

theorem segments_cons (ha : e ≠ .and) (ho : e ≠ .or) :
    segments (e :: es) = (segments es).modifyHead (e :: ·) := by
  simp [segments, List.splitOn_cons_eq_if_modifyHead, ha, ho]

-- The clauses when `negations` stand before the elements.
def clausesAfter (negations : Nat) (es : List Element) : List (List Literal) :=
  match segments es with
  | []            => []
  | first :: rest => literalsAfter negations first :: rest.map literals

theorem clausesAfter_zero : clausesAfter 0 es = clauses es := by
  simp only [clausesAfter, clauses]
  cases segments es <;> rfl

theorem clausesAfter_not (negations : Nat) :
    clausesAfter negations (.not :: es) = clausesAfter (negations + 1) es := by
  simp only [clausesAfter, segments_cons (e := .not) nofun nofun]
  cases segments es <;> rfl

theorem clausesAfter_criterion (negations : Nat) (c : Criterion) :
    clausesAfter negations (.criterion c :: es) =
      (clauses es).modifyHead (⟨negations, c⟩ :: ·) := by
  simp only [clausesAfter, clauses, segments_cons (e := .criterion c) nofun nofun]
  cases segments es <;> rfl

theorem clauses_and : clauses (.and :: es) = clauses es := by
  simp [clauses]

theorem clauses_or : clauses (.or :: es) = [] :: clauses es := by
  simp [clauses, literals, literalsAfter]

-- One Or node more is one group more.
theorem length_segments (es : List Element) : (segments es).length = es.count .or + 1 := by
  induction es
  case nil => rfl
  case cons e es hi =>
    by_cases ho : e = .or
    case pos => simp [ho, hi]
    case neg =>
      by_cases ha : e = .and
      case pos => simp [ha, hi]
      case neg => simp [segments_cons ha ho, hi, ho]

theorem length_clauses (es : List Element) : (clauses es).length = es.count .or + 1 := by
  simp [clauses, length_segments]

theorem or_mem_iff : .or ∈ es ↔ 2 ≤ (clauses es).length := by
  rw [length_clauses, ←List.count_pos_iff]
  omega

theorem refusal?_cons (h : e ≠ .not) : refusal? (e :: es) = refusal? es := by
  cases es <;> simp [refusal?, h]

theorem refusal?_not_not : refusal? (.not :: .not :: es) = refusal? (.not :: es) := by
  cases es <;> simp [refusal?]

theorem refusal?_not_criterion (c : Criterion) :
    refusal? (.not :: .criterion c :: es) = refusal? es := by
  cases es <;> simp [refusal?]

theorem refusal?_not_and : refusal? (.not :: .and :: es) = some (.negatedContainer .and) := by
  simp [refusal?, kind]

theorem refusal?_not_or : refusal? (.not :: .or :: es) = some (.negatedContainer .or) := by
  simp [refusal?, kind]

theorem refusal?_not_root : refusal? (.not :: .root :: es) = refusal? es := by
  cases es <;> simp [refusal?]

-- What stands before other elements does not matter to them, unless it ends in a negation, which
-- then waits for its operand.
theorem refusal?_append (es fs : List Element) :
    (refusal? es = none → refusal? (es ++ fs) = refusal? fs) ∧
      (refusal? es = some .missingOperand → refusal? (es ++ fs) = refusal? (.not :: fs)) := by
  match es with
  | []     => exact ⟨fun _ => rfl, nofun⟩
  | [.not] => exact ⟨nofun, fun _ => rfl⟩
  | .not :: .and :: es =>
    rw [refusal?_not_and]
    exact ⟨nofun, nofun⟩
  | .not :: .or :: es =>
    rw [refusal?_not_or]
    exact ⟨nofun, nofun⟩
  | .not :: .not :: es =>
    have hi := refusal?_append (.not :: es) fs
    rwa [←refusal?_not_not, ←refusal?_not_not] at hi
  | .not :: .criterion c :: es =>
    rw [List.cons_append, List.cons_append, refusal?_not_criterion, refusal?_not_criterion]
    exact refusal?_append es fs
  | .not :: .root :: es =>
    rw [List.cons_append, List.cons_append, refusal?_not_root, refusal?_not_root]
    exact refusal?_append es fs
  | .and :: es | .or :: es | .root :: es | .criterion c :: es =>
    simpa [refusal?_cons] using refusal?_append es fs
termination_by es.length

-- The criterion that an element asks for, if it is a predicate.
@[simp] def criterion? : Element → Option Criterion
  | criterion c => some c
  | _           => none

@[simp] theorem filterMap_elements (l : Literal) :
    l.elements.filterMap criterion? = [l.criterion] := by
  simp [Literal.elements, List.filterMap_replicate]

end Element

namespace Literal

open Element

-- The groups of a run with `negations` before it: the walk of the compiler, but counting.
def groups (negations : Nat) : List Element → Except StateError (List (List Literal))
  | []                   => if negations = 0 then return [[]] else throw .missingOperand
  | .criterion c :: rest => do return (← groups 0 rest).modifyHead (⟨negations, c⟩ :: ·)
  | .not :: rest         => groups (negations + 1) rest
  | .or :: rest          =>
    if negations = 0 then do return [] :: (← groups 0 rest) else throw (.negatedContainer .or)
  | e :: rest            =>
    if negations = 0 then groups 0 rest else throw (.negatedContainer e.kind)

theorem flatten_modifyHead {gs : List (List Literal)} (h : gs ≠ []) (l : Literal) :
    (gs.modifyHead (l :: ·)).flatten = l :: gs.flatten := by
  match gs with
  | _ :: _ => rfl

-- Nothing but And and Or nodes is left out, and nothing is doubled or moved.
theorem groups_complete {negations : Nat} {es : List Element} {gs : List (List Literal)}
    (hr : .root ∉ es) (h : groups negations es = .ok gs) :
    gs ≠ [] ∧ gs.flatten.flatMap elements =
      List.replicate negations .not ++ es.filter (fun e => e ≠ .and ∧ e ≠ .or) := by
  induction es generalizing negations gs
  case nil =>
    cases negations <;> cases h
    simp
  case cons e es hi =>
    simp only [List.mem_cons, not_or] at hr
    cases e
    case root => exact absurd rfl hr.1
    case not =>
      obtain ⟨ne, eq⟩ := hi hr.2 h
      exact ⟨ne, by simp [eq, List.replicate_succ']⟩
    case criterion c =>
      simp only [groups] at h
      cases hg : groups 0 es <;> rw [hg] at h <;> cases h
      obtain ⟨ne, eq⟩ := hi hr.2 hg
      exact ⟨by simpa using ne, by simp [flatten_modifyHead ne, eq, elements]⟩
    case or =>
      simp only [groups] at h
      split at h <;> try cases h
      cases hg : groups 0 es <;> rw [hg] at h <;> cases h
      obtain ⟨_, eq⟩ := hi hr.2 hg
      exact ⟨by simp, by simpa [‹negations = 0›] using eq⟩
    case and =>
      simp only [groups] at h
      split at h <;> try cases h
      obtain ⟨ne, eq⟩ := hi hr.2 h
      exact ⟨ne, by simpa [‹negations = 0›] using eq⟩

-- The groups or the refusal, when any negations stand before the elements.
theorem groups_eq_clausesAfter {es : List Element} (negations : Nat) (h : .root ∉ es) :
    groups negations es =
      match refusal? (if negations = 0 then es else .not :: es) with
      | some e => .error e
      | none   => .ok (clausesAfter negations es) := by
  induction es generalizing negations
  case nil => cases negations <;> rfl
  case cons e es hi =>
    simp only [List.mem_cons, not_or] at h
    have hi := (hi · h.2)
    cases e
    case root => exact absurd rfl h.1
    case not =>
      cases negations <;> simp [groups, hi, clausesAfter_not, refusal?_not_not]
    case criterion c =>
      cases negations <;>
        simp [groups, hi, clausesAfter_zero, clausesAfter_criterion, refusal?_not_criterion,
          refusal?_cons] <;>
        split <;> rfl
    case and =>
      cases negations
      case zero => simp [groups, hi, clausesAfter_zero, clauses_and, refusal?_cons]
      case succ =>
        simp [groups, refusal?_not_and]
        rfl
    case or =>
      cases negations
      case zero =>
        simp [groups, hi, clausesAfter_zero, clauses_or, refusal?_cons]
        split <;> rfl
      case succ =>
        simp [groups, refusal?_not_or]
        rfl

end Literal

end TestSieve
