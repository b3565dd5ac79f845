import TestSieve.Proofs.Chain.Clauses
import TestSieve.Proofs.Chain.Straight

namespace TestSieve

-- How the members of each group are written.
def texts {α : Type} (write : α → List Char) (groups : List (List α)) : List (List (List Char)) :=
  groups.map (·.map write)

@[simp] theorem texts_nil_cons {α : Type} (write : α → List Char) (groups : List (List α)) :
    texts write ([] :: groups) = [] :: texts write groups := rfl

theorem texts_modifyHead {α : Type} (write : α → List Char) (a : α) (groups : List (List α)) :
    texts write (groups.modifyHead (a :: ·)) = (texts write groups).modifyHead (write a :: ·) := by
  cases groups <;> simp [texts]

namespace View

open Element

-- A view of a negation is written as the literal that it begins with, whatever is asked for.
theorem renderRun_negations (tagged : Bool) (negations : Nat) (c : Criterion) (rest : View) :
    renderRun tagged (List.replicate negations .not ++ .criterion c :: rest) =
      Literal.render ⟨negations, c⟩ := by
  induction negations generalizing tagged
  case zero         => rfl
  case succ _ hi => simp [List.replicate_succ, renderRun, hi]; rfl

-- The walk over views and the walk that counts go through the same elements: outside of a negation
-- their groups are written alike, and inside they differ by the literal that is being read.
theorem texts_groups (tagged : Bool) (es : List Element) :
    texts (renderRun tagged) <$> groups false es =
      texts Literal.render <$> Literal.groups 0 es ∧
    ∀ negations, (fun gs => (texts (renderRun tagged) gs).modifyHead
        (renderRun tagged (List.replicate (negations + 1) .not ++ es) :: ·)) <$> groups true es =
      texts Literal.render <$> Literal.groups (negations + 1) es := by
  induction es
  case nil => exact ⟨rfl, fun _ => rfl⟩
  case cons e es hi =>
    have ⟨outside, inside⟩ := hi
    cases e
    case root => exact ⟨outside, fun _ => rfl⟩
    case and  => exact ⟨outside, fun _ => rfl⟩
    case or =>
      refine ⟨?_, fun _ => rfl⟩
      simpa [groups, Literal.groups] using congrArg (([] :: ·) <$> ·) outside
    case not =>
      refine ⟨?_, fun n => ?_⟩
      · simpa [groups, Literal.groups, texts_modifyHead] using inside 0
      · have := inside (n + 1)
        rw [List.replicate_succ'] at this
        simpa [groups, Literal.groups] using this
    case criterion c =>
      have literal (n : Nat) := renderRun_negations tagged n c es
      have added (n : Nat) :=
        congrArg ((List.modifyHead (Literal.render ⟨n, c⟩ :: ·)) <$> ·) outside
      refine ⟨?_, fun n => ?_⟩
      · have := literal 0
        simp only [List.replicate_zero, List.nil_append] at this
        simpa [groups, Literal.groups, texts_modifyHead, this] using added 0
      · simpa [groups, Literal.groups, texts_modifyHead, literal] using added (n + 1)

variable {es : List Element} {e : StateError}

theorem groups_of_refusal (hr : .root ∉ es) (h : refusal? es = some e) :
    groups false es = .error e := by
  have hl : Literal.groups 0 es = .error e := by simp [Literal.groups_eq_clausesAfter 0 hr, h]
  have ht := (texts_groups true es).1
  cases hg : groups false es <;> simp_all [Functor.map, Except.map]

theorem exists_groups (hr : .root ∉ es) (h : refusal? es = none) :
    ∃ gs, groups false es = .ok gs ∧
      ∀ tagged, texts (renderRun tagged) gs = texts Literal.render (clauses es) := by
  have hl : Literal.groups 0 es = .ok (clauses es) := by
    simp [Literal.groups_eq_clausesAfter 0 hr, h, clausesAfter_zero]
  have ht (tagged) := (texts_groups tagged es).1
  cases hg : groups false es <;> simp_all [Functor.map, Except.map]

end View

open Element

theorem Layout.flatMap_elements (group : List View) :
    (group.map .element).flatMap (Layout.write renderRun true) =
      (group.map (renderRun true)).flatten := by
  simp [List.flatMap_def, Function.comp_def]

-- Asked for its tag, a group of views is written as the clause that its views are written as.
theorem Layout.write_ofGroup {group : List View} {clause : List Literal}
    (h : group.map (renderRun true) = clause.map Literal.render) :
    (Layout.ofGroup group).write renderRun true = renderClause clause := by
  match clause with
  | [] =>
    have : group = [] := by simpa using h
    simp [this, Layout.ofGroup, renderClause]
  | [l] =>
    have ⟨v, hv, eq⟩ := List.map_eq_singleton_iff.mp h
    simp [hv, eq, Layout.ofGroup, renderClause]
  | l :: m :: rest =>
    have len := congrArg List.length h
    simp only [List.length_map, List.length_cons] at len
    rw [Layout.ofGroup, write_group_of_two_le _ _ _ (by simp [len]), flatMap_elements, h]
    simp [renderClause, List.flatMap_def]

-- The only group of a filter never writes its tag.
theorem Layout.write_ofGroup_bare {group : List View} {clause : List Literal}
    (h : ∀ tagged, group.map (renderRun tagged) = clause.map Literal.render) :
    (Layout.ofGroup group).write renderRun false = clause.flatMap Literal.render := by
  match clause with
  | [] =>
    have : group = [] := by simpa using h true
    simp [this, Layout.ofGroup]
  | [l] =>
    have ⟨v, hv, eq⟩ := List.map_eq_singleton_iff.mp (h false)
    simp [hv, eq, Layout.ofGroup]
  | l :: m :: rest =>
    have len := congrArg List.length (h true)
    simp only [List.length_map, List.length_cons] at len
    rw [Layout.ofGroup, write_group_of_two_le _ _ _ (by simp [len]), flatMap_elements, h]
    simp [List.flatMap_def]

theorem Layout.map_write_ofGroup {groups : List (List View)} {clauses : List (List Literal)}
    (h : texts (renderRun true) groups = texts Literal.render clauses) :
    groups.map (fun g => (Layout.ofGroup g).write renderRun true) = clauses.map renderClause := by
  induction groups generalizing clauses <;> cases clauses <;> simp [texts] at h ⊢
  case cons.cons hi _ _ => exact ⟨write_ofGroup h.left, hi h.right⟩

theorem Layout.write_ofGroups {groups : List (List View)} {clauses : List (List Literal)}
    (h : texts (renderRun true) groups = texts Literal.render clauses)
    (two : 2 ≤ clauses.length) :
    (Layout.ofGroups groups).write renderRun true =
      Xml.wrap Kind.or.tag (clauses.flatMap renderClause) := by
  have len := congrArg List.length h
  simp only [texts, List.length_map] at len
  rw [Layout.ofGroups, write_group_of_two_le _ _ _ (by simpa [len] using two)]
  simp [List.flatMap_def, ←map_write_ofGroup h, Function.comp_def]

-- What the walk leaves is written as the clauses of the elements.
theorem renderGroups_eq {groups : List (List View)} {es : List Element}
    (h : ∀ tagged, texts (renderRun tagged) groups = texts Literal.render (clauses es)) :
    renderGroups groups = renderBody es := by
  have len : groups.length = (clauses es).length := by
    simpa [texts] using congrArg List.length (h true)
  unfold renderBody
  split
  case isTrue ho =>
    have two := or_mem_iff.mp ho
    rw [←Layout.write_ofGroups (h true) two]
    match groups with
    | []          => simp only [List.length_nil] at len; omega
    | [_]         => simp only [List.length_singleton] at len; omega
    | _ :: _ :: _ => rfl
  case isFalse ho =>
    have one : (clauses es).length = 1 := by simp [length_clauses, List.count_eq_zero, ho]
    have ⟨clause, hc⟩ := List.length_eq_one_iff.mp one
    have ⟨group, hg⟩ := List.length_eq_one_iff.mp (len.trans one)
    have h (tagged) : group.map (renderRun tagged) = clause.map Literal.render := by
      simpa [hc, hg, texts] using h tagged
    simpa [hc, hg, renderGroups] using Layout.write_ofGroup_bare h

namespace Chain

variable {c : Chain} {leaf : Nat} {n : Node}

-- What compiling makes of the elements after the root.
def compileBody (es : List Element) : Except FilterError CompiledFilter :=
  match refusal? es with
  | some e => .error (.invalidState e)
  | none   => .ok { xml := .ofList (Xml.wrap Kind.root.tag (renderBody es)) }

theorem Straight.compile_leaf (s : Straight c) (h : c.get? leaf = some n) (hc : n.child = none) :
    c.compile leaf = compileBody c.body := by
  have hl : n.isLeaf := by simp [Node.isLeaf, hc]
  have walked : c.compile leaf =
      CompiledFilter.ofGroups <$> (View.groups false c.body).mapError .invalidState := by
    simp only [compile, h, hl, if_true, s.origin_eq (lt_size_of_get? h), ←s.run_tail]
    rfl
  rw [walked]
  unfold compileBody
  cases hr : refusal? c.body
  case some e => rw [View.groups_of_refusal s.root_notMem_body hr]; rfl
  case none =>
    have ⟨gs, hg, ht⟩ := View.exists_groups s.root_notMem_body hr
    rw [hg, ←renderGroups_eq ht]
    rfl

-- The last node is the one that can be compiled.
theorem Straight.compile_last (s : Straight c) : c.compile (c.size - 1) = compileBody c.body := by
  have pos := s.size_pos
  have ⟨n, hn⟩ := exists_get? (c := c) (i := c.size - 1) (by omega)
  exact s.compile_leaf hn <| s.child_eq_none_iff hn |>.mpr (by omega)

-- Compiling anything but an end of the chain is a fault of the caller.
theorem compile_unknown (h : c.get? leaf = none) :
    c.compile leaf = .error (.invalidArgument (.unknownNode leaf)) := by
  simp only [compile, h]; rfl

theorem compile_inner (h : c.get? leaf = some n) (hc : n.child ≠ none) :
    c.compile leaf = .error (.invalidArgument (.notALeaf n.kind)) := by
  have hl : ¬n.isLeaf := by simpa [Node.isLeaf] using hc
  simp only [compile, h, hl]; rfl

-- Only the end of a chain is compiled, so it does not matter which index was asked for.
theorem Reachable.body_compiled {f : CompiledFilter} (h : c.Reachable)
    (compiled : c.compile leaf = .ok f) : compileBody c.body = .ok f := by
  cases hn : c.get? leaf
  case none => cases (compile_unknown hn).symm.trans compiled
  case some n =>
    by_cases hc : n.child = none
    case pos => exact (h.straight.compile_leaf hn hc).symm.trans compiled
    case neg => cases (compile_inner hn hc).symm.trans compiled

theorem compile_ofBody {es : List Element} (h : .root ∉ es) :
    (ofBody es).compile es.length = compileBody es := by
  have compiled := (reachable_ofBody es).straight.compile_last
  rwa [size_ofBody h, body_ofBody h] at compiled

theorem compileBody_eq_ok {es : List Element} {f : CompiledFilter} (h : compileBody es = .ok f) :
    refusal? es = none ∧ f.xml = .ofList (Xml.wrap Kind.root.tag (renderBody es)) := by
  unfold compileBody at h
  split at h <;> cases h
  case h_2 hr => exact ⟨hr, rfl⟩

-- Without the And and Or nodes a chain is the literals of its clauses, one after the other.
theorem clauses_complete {es : List Element} (hr : .root ∉ es) (h : refusal? es = none) :
    (clauses es).flatten.flatMap Literal.elements = es.filter (fun e => e ≠ .and ∧ e ≠ .or) := by
  have hg : Literal.groups 0 es = .ok (clauses es) := by
    simp [Literal.groups_eq_clausesAfter 0 hr, h, clausesAfter_zero]
  simpa using (Literal.groups_complete hr hg).right

theorem clauses_criteria {es : List Element} (hr : .root ∉ es) (h : refusal? es = none) :
    (clauses es).flatten.map (·.criterion) = es.filterMap criterion? := by
  have skipped (e : Element) :
      (if decide (e ≠ .and ∧ e ≠ .or) then criterion? e else none) = criterion? e := by
    cases e <;> rfl
  have complete := congrArg (List.filterMap criterion?) <| clauses_complete hr h
  simp only [List.filterMap_flatMap, filterMap_elements, List.filterMap_filter, skipped] at complete
  rw [←complete, List.map_eq_flatMap]

-- Compiling from the last node gives the clauses of the chain, in which every predicate and every
-- negation stands once and in order. From any other index compiling is refused.
theorem compile_reachable {c : Chain} (h : c.Reachable) (leaf : Nat) :
    (c.size ≤ leaf → c.compile leaf = .error (.invalidArgument (.unknownNode leaf))) ∧
    (∀ n, c.get? leaf = some n → n.child ≠ none →
      c.compile leaf = .error (.invalidArgument (.notALeaf n.kind))) ∧
    (∀ n, c.get? leaf = some n → n.child = none →
      c.compile leaf = compileBody c.body ∧
      ∀ f, c.compile leaf = .ok f →
        (clauses c.body).flatten.flatMap Literal.elements =
          c.body.filter (fun e => e ≠ .and ∧ e ≠ .or)) := by
  have s := h.straight
  refine ⟨fun hs => compile_unknown (get?_eq_none_iff.mpr hs), fun _ => compile_inner, ?_⟩
  intro n hn hc
  have compiled := s.compile_leaf hn hc
  refine ⟨compiled, fun f hf => ?_⟩
  obtain ⟨accepted, _⟩ := compileBody_eq_ok (compiled ▸ hf)
  exact clauses_complete s.root_notMem_body accepted

theorem compile_reachable_two_groups :
    let fast : Criterion := .field .category ⟨"fast", by decide⟩ false
    let slow : Criterion := .field .category ⟨"slow", by decide⟩ false
    let c := ofBody [.criterion fast, .or, .not, .not, .criterion slow, .and, .criterion fast]
    c.Reachable ∧ c.compile 7 = .ok { xml := "<filter><or><cat>fast</cat><and>" ++
      "<not><not><cat>slow</cat></not></not><cat>fast</cat></and></or></filter>" } := by
  intro fast slow c
  have h : c.Reachable := reachable_ofBody _
  have size : c.size = 8 := size_ofBody (by simp)
  have body : c.body = _ := body_ofBody (by simp)
  obtain ⟨n, hn⟩ := exists_get? (c := c) (i := 7) (by omega)
  have hc := h.straight.child_eq_none_iff hn |>.mpr size.symm
  have compiled := (compile_reachable h 7).2.2 n hn hc |>.1
  have accepted : refusal? c.body = none := body ▸ rfl
  rw [compiled, compileBody, accepted, body]
  refine ⟨h, congrArg (Except.ok <| CompiledFilter.mk ·) ?_⟩
  decide +kernel

end Chain

end TestSieve
