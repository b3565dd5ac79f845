import TestSieve.Proofs.Filter.Leaf
import TestSieve.Regex.Meaning

namespace TestSieve

namespace Literal

variable [Regex.Engine]

def tree (l : Literal) : Filter :=
  l.negations.repeat .not l.criterion.leaf

@[simp] theorem tree_zero (c : Criterion) : tree ⟨0, c⟩ = c.leaf := rfl

@[simp] theorem tree_succ (n : Nat) (c : Criterion) : tree ⟨n + 1, c⟩ = .not (tree ⟨n, c⟩) := rfl

end Literal

namespace Element

variable [Regex.Engine]

-- A group as a filter of its own.
def clauseTree : List Literal → Filter
  | []  => .empty
  | [l] => l.tree
  | ls  => .and (ls.map Literal.tree)

-- What the elements after the root stand for. Groups without literals count for nothing.
def tree (es : List Element) : Filter :=
  if .or ∈ es then .or (((clauses es).filter (· ≠ [])).map clauseTree)
  else clauseTree (clauses es).flatten

end Element

namespace Filter

theorem elim_findSome?_eq_ok_iff {α β ε : Type} {fault? : α → Option ε} {as : List α} {b c : β} :
    (as.findSome? fault?).elim (Except.ok b) .error = .ok c ↔
      (∀ a ∈ as, fault? a = none) ∧ c = b := by
  rw [←List.findSome?_eq_none_iff]
  cases as.findSome? fault? <;> simp [eq_comm]

variable [Regex.Engine]

theorem ofElements_append (es fs : List Xml.Element) :
    ofElements (es ++ fs) = do return (← ofElements es) ++ (← ofElements fs) := by
  induction es
  case nil => simp [ofElements]
  case cons e es hi => simp [ofElements, hi]

-- Elements that were written for literals are read as filters, unless a literal has a fault. The
-- first fault is the one that is found.
def Means (es : List Xml.Element) (ls : List Literal) (fs : List Filter) : Prop :=
  ofElements es = (ls.findSome? (·.criterion.fault?)).elim (.ok fs) .error

namespace Means

open Element

variable {es es' : List Xml.Element} {ls ls' : List Literal} {fs fs' : List Filter}

theorem nil : Means [] [] [] := by
  rw [Means, ofElements]
  rfl

theorem append (h : Means es ls fs) (h' : Means es' ls' fs') :
    Means (es ++ es') (ls ++ ls') (fs ++ fs') := by
  rw [Means, ofElements_append, h, h', List.findSome?_append]
  cases ls.findSome? (·.criterion.fault?) <;>
    cases ls'.findSome? (·.criterion.fault?) <;> rfl

theorem flatMap {α : Type} {elements : α → List Xml.Element} {literals : α → List Literal}
    {filters : α → List Filter} {parts : List α}
    (h : ∀ a ∈ parts, Means (elements a) (literals a) (filters a)) :
    Means (parts.flatMap elements) (parts.flatMap literals) (parts.flatMap filters) := by
  induction parts
  case nil          => exact nil
  case cons a as hi =>
    exact (h a List.mem_cons_self).append <| hi fun b hb => h b <| List.mem_cons_of_mem _ hb

theorem single {e : Xml.Element} {f : Filter}
    (h : ofElement e = (ls.findSome? (·.criterion.fault?)).elim (.ok f) .error) :
    Means [e] ls [f] := by
  rw [Means, ofElements, ofElements, h]
  cases ls.findSome? (·.criterion.fault?) <;> rfl

theorem not {e : Xml.Element} {f : Filter} (h : Means [e] ls [f]) :
    Means [⟨Kind.not.tag, [], "", [e]⟩] ls [.not f] := by
  refine single ?_
  rw [ofElement, Kind.ofTag?_tag, h]
  cases ls.findSome? (·.criterion.fault?) <;> rfl

theorem and (h : Means es ls fs) : Means [⟨Kind.and.tag, [], "", es⟩] ls [.and fs] := by
  refine single ?_
  rw [ofElement, Kind.ofTag?_tag, h]
  cases ls.findSome? (·.criterion.fault?) <;> rfl

theorem or (h : Means es ls fs) : Means [⟨Kind.or.tag, [], "", es⟩] ls [.or fs] := by
  refine single ?_
  rw [ofElement, Kind.ofTag?_tag, h]
  cases ls.findSome? (·.criterion.fault?) <;> rfl

theorem literal (l : Literal) : Means [l.element] [l] [l.tree] := by
  obtain ⟨negations, c⟩ := l
  induction negations
  case zero      => exact single <| List.findSome?_singleton ▸ c.ofElement_element
  case succ _ hi => exact hi.not

theorem literals (ls : List Literal) : Means (ls.map Literal.element) ls (ls.map Literal.tree) := by
  have read : Means (ls.flatMap ([·.element])) (ls.flatMap ([·])) (ls.flatMap ([·.tree])) :=
    flatMap fun l _ => literal l
  simpa [←List.map_eq_flatMap] using read

theorem clause (c : List Literal) :
    Means (clauseElements c) c (([c].filter (· ≠ [])).map clauseTree) := by
  match c with
  | []           => exact nil
  | [l]          => exact literal l
  | l :: m :: ls => exact (literals _).and

theorem clauses (cs : List (List Literal)) :
    Means (cs.flatMap clauseElements) cs.flatten ((cs.filter (· ≠ [])).map clauseTree) := by
  have read : Means _ (cs.flatMap id) _ := flatMap fun c _ => clause c
  simpa only [←List.map_flatMap, ←List.filter_flatMap, List.flatMap_singleton', List.flatMap_id]
    using read

theorem document (h : Means es ls fs) :
    ofDocument ⟨Kind.root.tag, [], "", es⟩ =
      (ls.findSome? (·.criterion.fault?)).elim (.ok (ofParts fs)) .error := by
  rw [ofDocument, if_neg (not_not_intro rfl), h]
  cases ls.findSome? (·.criterion.fault?) <;> rfl

end Means

open Element

-- The only clause of a filter without Or nodes needs no tag.
theorem ofParts_literals (ls : List Literal) : ofParts (ls.map Literal.tree) = clauseTree ls := by
  match ls with
  | [] | [_] | _ :: _ :: _ => rfl

theorem ofDocument_bodyElements (es : List Element) :
    ofDocument ⟨Kind.root.tag, [], "", bodyElements es⟩ =
      ((clauses es).flatten.findSome? (·.criterion.fault?)).elim (.ok (tree es)) .error := by
  unfold bodyElements tree
  split
  case isTrue  => exact (Means.clauses (clauses es)).or.document
  case isFalse =>
    rw [←ofParts_literals, ←List.map_flatMap, List.flatMap_id']
    exact (Means.literals (clauses es).flatten).document

end Filter

open Element

namespace Chain

section

variable [Regex.Engine]

-- The whole way of what was compiled: it is too deep, or a criterion has a fault, or it is read.
theorem filter_compileBody {es : List Element} {f : CompiledFilter}
    (h : compileBody es = .ok f) :
    f.filter =
      if WithinDepth es then
        ((clauses es).flatten.findSome? (·.criterion.fault?)).elim (.ok (tree es)) .error
      else .error (.malformed (.tooDeep Xml.maxDepth)) := by
  rw [CompiledFilter.filter, Filter.parse, readDocument_compileBody h]
  split
  case isTrue  => exact Filter.ofDocument_bodyElements es
  case isFalse => rfl

theorem filter_compileBody_eq_ok_iff {es : List Element} {f : CompiledFilter} {t : Filter}
    (h : compileBody es = .ok f) :
    f.filter = .ok t ↔ WithinDepth es ∧
      (∀ l ∈ (clauses es).flatten, l.criterion.fault? = none) ∧ t = tree es := by
  rw [filter_compileBody h]
  split
  case isTrue within => rw [Filter.elim_findSome?_eq_ok_iff, and_iff_right within]
  case isFalse deep  =>
    refine iff_of_false (fun read => ?_) (deep ·.1)
    cases read

end

-- The predicates of a chain, in order.
def criteria (c : Chain) : List Criterion :=
  c.body.filterMap criterion?

variable {c : Chain} {leaf : Nat} {f : CompiledFilter}

section

variable [Regex.Engine]

theorem Reachable.filter_eq (h : c.Reachable) (compiled : c.compile leaf = .ok f) :
    f.filter =
      if WithinDepth c.body then (c.criteria.findSome? (·.fault?)).elim (.ok (tree c.body)) .error
      else .error (.malformed (.tooDeep Xml.maxDepth)) := by
  have compiled := h.body_compiled compiled
  obtain ⟨accepted, _⟩ := compileBody_eq_ok compiled
  have criteria := clauses_criteria h.straight.root_notMem_body accepted
  rw [filter_compileBody compiled, Chain.criteria, ←criteria, List.findSome?_map]
  rfl

theorem Reachable.exists_filter (h : c.Reachable) (compiled : c.compile leaf = .ok f)
    (within : WithinDepth c.body) (sound : ∀ a ∈ c.criteria, a.fault? = none) :
    ∃ t, f.filter = .ok t := by
  rw [h.filter_eq compiled, if_pos within, List.findSome?_eq_none_iff.mpr sound]
  exact ⟨_, rfl⟩

-- What is read from the filter of a chain is the tree of the chain, with a leaf for every
-- predicate.
theorem filter_tree (h : c.Reachable) {t : Filter} (compiled : c.compile leaf = .ok f)
    (read : f.filter = .ok t) :
    t = tree c.body ∧ ∀ a ∈ c.criteria, a.leaf? = some a.leaf := by
  rw [h.filter_eq compiled] at read
  split at read
  case isFalse => cases read
  case isTrue =>
    cases fault : c.criteria.findSome? (·.fault?) <;> rw [fault] at read <;> cases read
    refine ⟨rfl, fun a ha => a.leaf?_eq_some_leaf ?_⟩
    exact (Criterion.fault?_eq_none_iff.mp <| List.findSome?_eq_none_iff.mp fault a ha).2

end

theorem filter_tree_two_groups :
    let kept : Criterion := .property ⟨" a ", by decide⟩ ⟨" b\n", by decide⟩ false
    let listed : Criterion := .ids ⟨"x ,, y", by decide⟩
    let c := ofBody
      [.or, .not, .not, .criterion kept, .or, .and, .criterion listed, .criterion kept]
    c.Reachable ∧ ∃ f, c.compile 8 = .ok f ∧ f.filter = .ok (.or [
      .not (.not (.property " a " (.literal "b"))),
      .and [.ids ["x", "y"], .property " a " (.literal "b")]]) := by
  intro kept listed c
  have h : c.Reachable := reachable_ofBody _
  have body : c.body = _ := body_ofBody (by simp)
  have compiled : c.compile 8 = compileBody _ := compile_ofBody (by simp)
  refine ⟨h, _, compiled, ?_⟩
  have within : WithinDepth c.body := body ▸ by decide
  have sound : ∀ a ∈ c.criteria, a.fault? = none := by
    rw [criteria, body]
    decide
  obtain ⟨t, read⟩ := h.exists_filter compiled within sound
  rw [read, (filter_tree h compiled read).1, body]
  cbv

-- A filter can be read exactly if it is not too deep and no predicate has a fault. Else its depth
-- is reported, or the first fault.
theorem filter_eq_ok_iff [Regex.Engine] (h : c.Reachable) (compiled : c.compile leaf = .ok f) :
    ((∃ t, f.filter = .ok t) ↔
      WithinDepth c.body ∧ ∀ a ∈ c.criteria, a.HasContent ∧ a.RegexAccepted) ∧
    (¬WithinDepth c.body → f.filter = .error (.malformed (.tooDeep 128))) ∧
    (WithinDepth c.body → ∀ e, f.filter = .error e ↔
      ∃ before a after, c.criteria = before ++ a :: after ∧
        (¬a.HasContent ∧ e = .malformed a.lack ∨
          a.HasContent ∧ ¬a.RegexAccepted ∧ e = .invalidRegex) ∧
        ∀ b ∈ before, b.HasContent ∧ b.RegexAccepted) ∧
    ∀ e, f.filter = .error e → (∃ s, e = .malformed s) ∨ e = .invalidRegex := by
  rw [h.filter_eq compiled]
  by_cases within : WithinDepth c.body
  case neg =>
    rw [if_neg within]
    refine ⟨iff_of_false nofun (within ·.1), fun _ => rfl, (absurd · within), fun e he => ?_⟩
    cases he
    exact .inl ⟨_, rfl⟩
  case pos =>
    rw [if_pos within]
    have found (e : FilterError) :
        (c.criteria.findSome? (·.fault?)).elim (Except.ok (tree c.body)) .error = .error e ↔
          c.criteria.findSome? (·.fault?) = some e := by
      cases c.criteria.findSome? (·.fault?) <;> simp
    refine ⟨?_, (absurd within ·), fun _ e => ?_, fun e he => ?_⟩
    · rw [and_iff_right within]
      simp only [←Criterion.fault?_eq_none_iff, ←List.findSome?_eq_none_iff]
      cases c.criteria.findSome? (·.fault?) <;> simp
    · rw [found, List.findSome?_eq_some_iff]
      simp only [Criterion.fault?_eq_some_iff, Criterion.fault?_eq_none_iff]
    · have ⟨a, _, ha⟩ := List.exists_of_findSome?_eq_some <| (found e).mp he
      rcases Criterion.fault?_eq_some_iff.mp ha with ⟨_, rfl⟩ | ⟨_, _, rfl⟩
      · exact .inl ⟨_, rfl⟩
      · exact .inr rfl

theorem filter_eq_ok_iff_two_faults :
    let blank : Criterion := .field .category ⟨" \t", by decide⟩ true
    let commas : Criterion := .ids ⟨", ", by decide⟩
    let c := ofBody [.or, .not, .criterion blank, .criterion commas]
    c.Reachable ∧ ∃ f, c.compile 4 = .ok f ∧
      f.filter = .error (.malformed (.noValue .category)) := by
  intro blank commas c
  have h : c.Reachable := reachable_ofBody _
  have body : c.body = _ := body_ofBody (by simp)
  have compiled : c.compile 4 = compileBody _ := compile_ofBody (by simp)
  refine ⟨h, _, compiled, ?_⟩
  have within : WithinDepth c.body := body ▸ by decide
  have criteria : c.criteria = [blank, commas] := by
    rw [criteria, body]
    rfl
  exact (filter_eq_ok_iff h compiled).2.2.1 within _ |>.mpr
    ⟨[], blank, _, criteria, .inl ⟨by decide, rfl⟩, nofun⟩

end Chain

end TestSieve
