import TestSieve.Proofs.Definition.Form
import TestSieve.Proofs.Filter.Tree

namespace TestSieve

theorem Criterion.leaf?_ne_some_empty [Regex.Engine] (c : Criterion) : c.leaf? ≠ some .empty := by
  cases c <;> simp [leaf?]

namespace Literal

theorem render_ne_nil (l : Literal) : l.render ≠ [] := by
  have ⟨_, _, opened, _⟩ := l.opens.exists_cons
  simp [opened]

theorem tree_ne_empty [Regex.Engine] (l : Literal) (h : l.criterion.RegexAccepted) : l.tree ≠ .empty := by
  obtain ⟨_ | n, c⟩ := l
  case zero =>
    intro none
    exact c.leaf?_ne_some_empty <| (c.leaf?_eq_some_leaf h).trans <| congrArg some none
  case succ => nofun

end Literal

namespace Element

variable {es : List Element}

theorem renderBody_eq_nil_iff :
    renderBody es = [] ↔ .or ∉ es ∧ (clauses es).flatten = [] := by
  unfold renderBody
  split
  case isTrue ho  => simp [ho, Xml.wrap, Xml.openTag]
  case isFalse ho =>
    have silent (ls : List Literal) : ls.flatMap Literal.render = [] ↔ ls = [] := by
      cases ls <;> simp [Literal.render_ne_nil]
    simp only [List.flatMap_eq_nil_iff (l := clauses es), silent, List.flatten_eq_nil_iff]
    exact ⟨fun none => ⟨ho, none⟩, And.right⟩

theorem clauseTree_eq_empty_iff [Regex.Engine] {ls : List Literal}
    (h : ∀ l ∈ ls, l.criterion.RegexAccepted) : clauseTree ls = .empty ↔ ls = [] := by
  match ls with
  | []           => simp [clauseTree]
  | [l]          => simp [clauseTree, l.tree_ne_empty (h l List.mem_cons_self)]
  | l :: m :: ls => simp [clauseTree]

theorem tree_eq_empty_iff [Regex.Engine]
    (h : ∀ l ∈ (clauses es).flatten, l.criterion.RegexAccepted) : tree es = .empty ↔ .or ∉ es ∧ (clauses es).flatten = [] := by
  unfold tree
  split
  case isTrue ho  => simp [ho]
  case isFalse ho => rw [clauseTree_eq_empty_iff h, and_iff_right ho]

-- The elements say nothing exactly if all of them are And nodes.
theorem flatten_clauses_eq_nil_iff (hr : .root ∉ es) (h : refusal? es = none) :
    .or ∉ es ∧ (clauses es).flatten = [] ↔ ∀ e ∈ es, e = .and := by
  have silent (ls : List Literal) : ls.flatMap Literal.elements = [] ↔ ls = [] := by
    cases ls <;> simp [Literal.elements]
  rw [←silent, Chain.clauses_complete hr h, List.filter_eq_nil_iff]
  constructor
  case mp =>
    rintro ⟨ho, none⟩ e he
    have ne : e ≠ .or := fun eq => ho (eq ▸ he)
    simpa [ne] using none e he
  case mpr =>
    intro ands
    refine ⟨fun ho => ?_, fun e he => by simp [ands e he]⟩
    cases ands _ ho

end Element

open Element

theorem CompiledFilter.isEmpty_wrap {f : CompiledFilter} {content : List Char}
    (h : f.xml = .ofList (Xml.wrap Kind.root.tag content)) : f.isEmpty ↔ content = [] := by
  have bare : "<filter></filter>" = .ofList (Xml.wrap Kind.root.tag []) := by decide
  rw [isEmpty, beq_iff_eq, CompiledFilter.ext_iff, h, empty, bare, String.ofList_inj]
  simp [Xml.wrap]

namespace Chain

variable {es : List Element} {f : CompiledFilter}

theorem filter_eq_empty_iff [Regex.Engine] (h : compileBody es = .ok f) :
    f.filter = .ok .empty ↔ .or ∉ es ∧ (clauses es).flatten = [] := by
  rw [filter_compileBody_eq_ok_iff h]
  constructor
  case mp =>
    rintro ⟨_, sound, none⟩
    have accepted : ∀ l ∈ (clauses es).flatten, l.criterion.RegexAccepted := fun l hl =>
      (Criterion.fault?_eq_none_iff.mp <| sound l hl).2
    exact (tree_eq_empty_iff accepted).mp none.symm
  case mpr =>
    intro silent
    have empty : ∀ l, l ∉ (clauses es).flatten := silent.2 ▸ fun _ => List.not_mem_nil
    have within : WithinDepth es := fun clause hc l hl =>
      absurd (List.mem_flatten.mpr ⟨clause, hc, hl⟩) (empty l)
    have accepted : ∀ l ∈ (clauses es).flatten, l.criterion.RegexAccepted := fun l hl =>
      absurd hl (empty l)
    exact ⟨within, fun l hl => absurd hl (empty l), ((tree_eq_empty_iff accepted).mpr silent).symm⟩

end Chain

namespace CompiledFilter

-- The text of a filter is that of the empty one, or is read as it, exactly if its chain has no node
-- but the root and And nodes. Of the definitions only the one without groups says nothing.
theorem isEmpty_iff [Regex.Engine] :
    (∀ {c : Chain} {leaf : Nat} {f : CompiledFilter}, c.Reachable → c.compile leaf = .ok f →
      (f.isEmpty ↔ ∀ e ∈ c.elements, e = .root ∨ e = .and) ∧
      (f.filter = .ok .empty ↔ ∀ e ∈ c.elements, e = .root ∨ e = .and)) ∧
    ∀ {d : Definition} {f : CompiledFilter}, d.build = .ok f → (f.isEmpty ↔ d.any = []) := by
  refine ⟨fun {c leaf f} h compiled => ?chain, fun {d f} built => ?definition⟩
  case chain =>
    have compiled := h.body_compiled compiled
    have ⟨accepted, xml⟩ := Chain.compileBody_eq_ok compiled
    have rootless := h.straight.root_notMem_body
    have ands : (∀ e ∈ c.elements, e = .root ∨ e = .and) ↔ ∀ e ∈ c.body, e = .and := by
      rw [h.straight.elements_eq, List.forall_mem_cons, and_iff_right (.inl rfl)]
      exact forall₂_congr fun e he => or_iff_right fun root => rootless (root ▸ he)
    rw [ands, ←flatten_clauses_eq_nil_iff rootless accepted]
    exact ⟨(isEmpty_wrap xml).trans renderBody_eq_nil_iff, Chain.filter_eq_empty_iff compiled⟩
  case definition =>
    have ⟨cs, xml, form, full⟩ := Definition.exists_clauses_of_build built
    have none : renderBody (ofClauses []) = [] := by rw [renderBody_ofClauses]; rfl
    have noneFull : ∀ c ∈ ([] : List (List Literal)), c ≠ [] := nofun
    have silent : renderBody (ofClauses cs) = [] ↔ cs = [] := by
      refine ⟨fun same => renderBody_inj full noneFull ?_, fun eq => eq ▸ none⟩
      rw [same, none]
    rw [isEmpty_wrap xml, silent, ←List.map_eq_nil_iff (f := List.map Literal.form), ←form]
    exact List.map_eq_nil_iff

theorem isEmpty_iff_only_groups :
    let ands := Chain.ofBody [.and, .and]
    let ors := Chain.ofBody [.or, .and, .or]
    ∃ f g k, ands.compile 2 = .ok f ∧ f.isEmpty ∧ f.filter = .ok .empty ∧
      ors.compile 3 = .ok g ∧ ¬g.isEmpty ∧ g.filter ≠ .ok .empty ∧
      Definition.build {} = .ok k ∧ k.isEmpty := by
  intro ands ors
  have compiled : ands.compile 2 = Chain.compileBody _ := Chain.compile_ofBody (by simp)
  have compiled' : ors.compile 3 = Chain.compileBody _ := Chain.compile_ofBody (by simp)
  have ⟨k, built⟩ := failure?_eq_none_iff.mp <| (Definition.failure?_build {}).trans (by decide)
  have ⟨empty, read⟩ := isEmpty_iff.1 (Chain.reachable_ofBody _) compiled
  have ⟨full, read'⟩ := isEmpty_iff.1 (Chain.reachable_ofBody _) compiled'
  rw [Chain.elements_ofBody (by simp)] at empty read full read'
  exact ⟨_, _, k, compiled, empty.mpr (by simp), read.mpr (by simp), compiled',
    mt full.mp (by simp), mt read'.mp (by simp), built, (isEmpty_iff.2 built).mpr rfl⟩

end CompiledFilter

end TestSieve
