import TestSieve.Proofs.Chain.Cursor
import TestSieve.Proofs.Filter.Document
import TestSieve.Proofs.Xml.Unambiguous

namespace TestSieve

open Xml

-- A criterion is known by its kind, its attributes and its content.
theorem Criterion.ext_parts {c d : Criterion} (kind : c.kind = d.kind)
    (attributes : c.attributes = d.attributes) (content : c.content = d.content) : c = d := by
  cases c <;> cases d <;> simp only [Criterion.kind, reduceCtorEq, Kind.field.injEq] at kind
  case ids.ids => exact congrArg ids <| Subtype.ext content
  case field.field f t regex g u regex' =>
    have text : t = u := Subtype.ext content
    cases regex <;> cases regex' <;>
      simp_all [Criterion.attributes, isRegex]
  case property.property n v regex m w regex' =>
    have value : v = w := Subtype.ext content
    cases regex <;> cases regex' <;>
      simp_all [Criterion.attributes, isRegex, Subtype.ext_iff]

theorem Criterion.render_append_inj {c d : Criterion} {s t : List Char}
    (h : c.render ++ s = d.render ++ t) : c = d ∧ s = t := by
  rw [render_eq, render_eq] at h
  have ⟨tag, attributes, rest⟩ := renderElement_append_inj c.wellNamed d.wellNamed h
  simp only [closeTag, tag, List.cons_append, List.nil_append, List.append_assoc] at rest
  obtain ⟨content, ended⟩ := escapeText_append_inj rest
  refine ⟨ext_parts (Kind.tag_injective tag) attributes ?_, by simpa using ended⟩
  exact String.toList_inj.mp content

-- The text of an element of this kind, from its opening tag on.
def Opens (k : Kind) (text : List Char) : Prop :=
  ∃ attributes content, WellNamed k.tag attributes ∧ text = renderElement k.tag attributes content

namespace Opens

variable {k l : Kind} {x y s t : List Char}

theorem wrap (k : Kind) (content : List Char) : Opens k (wrap k.tag content) :=
  ⟨[], content, ⟨k.isName_tag, by simp, by simp⟩, wrap_eq_renderElement k.tag content⟩

-- Elements of different kinds are written differently, whatever follows them.
theorem kind_eq (h : Opens k x) (h' : Opens l y) (same : x ++ s = y ++ t) : k = l := by
  obtain ⟨_, _, named, rfl⟩ := h
  obtain ⟨_, _, named', rfl⟩ := h'
  exact Kind.tag_injective (renderElement_append_inj named named' same).1

theorem exists_cons (h : Opens k x) : ∃ c cs, x = '<' :: c :: cs ∧ c ≠ '/' := by
  obtain ⟨attributes, content, named, rfl⟩ := h
  have ⟨c, cs, hc⟩ := List.exists_cons_of_ne_nil named.tag.1
  have lower : c.isLower := named.tag.2 c <| by simp [hc]
  refine ⟨c, cs ++ attributes.flatMap Attribute.render ++ '>' :: (content ++ closeTag k.tag), ?_,
    ne_of_isLower lower rfl⟩
  simp [renderElement, tagContent, closeTag, hc]

end Opens

theorem Criterion.opens (c : Criterion) : Opens c.kind c.render :=
  ⟨c.attributes, _, c.wellNamed, c.render_eq⟩

theorem Criterion.kind_ne {k : Kind} (h : k.isContainer) (c : Criterion) : c.kind ≠ k := by
  rintro rfl
  have := c.kind_isPredicate
  simp [Kind.isPredicate, h] at this

namespace Literal

-- The kind of the element that a literal is written as.
def kind (l : Literal) : Kind :=
  if l.negations = 0 then l.criterion.kind else .not

-- A literal is never written as a group.
theorem kind_ne {k : Kind} (h : k = .and ∨ k = .or) (l : Literal) : l.kind ≠ k := by
  unfold kind
  split
  case isTrue  => exact l.criterion.kind_ne <| by rcases h with rfl | rfl <;> rfl
  case isFalse => rcases h with rfl | rfl <;> nofun

theorem opens : (l : Literal) → Opens l.kind l.render
  | ⟨0, c⟩     => c.opens
  | ⟨n + 1, c⟩ => .wrap .not (render ⟨n, c⟩)

theorem render_append_inj {l m : Literal} {s t : List Char} (h : l.render ++ s = m.render ++ t) :
    l = m ∧ s = t := by
  obtain ⟨n, c⟩ := l
  obtain ⟨k, d⟩ := m
  induction n generalizing k s t
  case zero =>
    cases k
    case zero =>
      have ⟨same, rest⟩ := Criterion.render_append_inj h
      exact ⟨congrArg (Literal.mk 0) same, rest⟩
    case succ => exact absurd (c.opens.kind_eq (.wrap .not _) h) (c.kind_ne rfl)
  case succ n hi =>
    cases k
    case zero => exact absurd (d.opens.kind_eq (.wrap .not _) h.symm) (d.kind_ne rfl)
    case succ k =>
      have ⟨same, rest⟩ := hi k (wrap_append_inj h)
      simp only [mk.injEq] at same
      exact ⟨by simp [same], List.append_cancel_left rest⟩

theorem selfDelimiting : SelfDelimiting (fun _ => True) render where
  opens _          := (opens _).exists_cons
  append_inj _ _ h := render_append_inj h

end Literal

namespace Element

theorem renderClause_append_inj {c d : List Literal} {s t : List Char} (hc : c ≠ []) (hd : d ≠ [])
    (h : renderClause c ++ s = renderClause d ++ t) : c = d ∧ s = t := by
  match c, d with
  | [l], [m] =>
    have ⟨same, rest⟩ := Literal.render_append_inj h
    exact ⟨congrArg ([·]) same, rest⟩
  | [l], _ :: _ :: _ => exact absurd (l.opens.kind_eq (.wrap .and _) h) (l.kind_ne <| .inl rfl)
  | _ :: _ :: _, [m] => exact absurd (m.opens.kind_eq (.wrap .and _) h.symm) (m.kind_ne <| .inl rfl)
  | _ :: _ :: _, _ :: _ :: _ =>
    have ⟨same, rest⟩ := Literal.selfDelimiting.flatMap_append_inj (by simp) (by simp) <|
      wrap_append_inj h
    exact ⟨same, List.append_cancel_left rest⟩

theorem selfDelimiting_renderClause : SelfDelimiting (· ≠ []) renderClause where
  append_inj := renderClause_append_inj
  opens {clause} h := by
    match clause with
    | [l]        => exact l.opens.exists_cons
    | _ :: _ :: _ => exact (Opens.wrap .and _).exists_cons

-- Literals that stand alone are no disjunction.
theorem literals_ne_wrap (ls : List Literal) (content s t : List Char) :
    ls.flatMap Literal.render ++ '<' :: '/' :: s ≠ wrap Kind.or.tag content ++ t := by
  intro same
  cases ls
  case nil =>
    have ⟨c, cs, hw, hc⟩ := (Opens.wrap .or content).exists_cons
    rw [hw] at same
    exact hc (List.cons.inj (List.cons.inj same).2).1.symm
  case cons l ls =>
    rw [List.flatMap_cons, List.append_assoc] at same
    exact l.kind_ne (.inr rfl) <| l.opens.kind_eq (.wrap .or content) same

-- The content of a document is a list of literals or one disjunction.
theorem renderBody_ofClauses (cs : List (List Literal)) :
    renderBody (ofClauses cs) =
      if cs.length ≤ 1 then cs.flatten.flatMap Literal.render
      else wrap Kind.or.tag (cs.flatMap renderClause) := by
  by_cases none : cs = []
  case pos => simp [none, ofClauses, renderBody, clauses, literals, literalsAfter]
  case neg =>
    have several : .or ∈ ofClauses cs ↔ ¬cs.length ≤ 1 := by
      rw [or_mem_iff, clauses_ofClauses none, Nat.not_le]
      rfl
    have flat : cs.flatMap (·.flatMap Literal.render) = cs.flatten.flatMap Literal.render := by
      rw [←List.flatMap_id, List.flatMap_assoc]
      rfl
    simp only [renderBody, clauses_ofClauses none, several, ite_not, flat]

-- No two lists of clauses are compiled to the same text.
theorem renderBody_inj {cs ds : List (List Literal)} (hc : ∀ c ∈ cs, c ≠ []) (hd : ∀ d ∈ ds, d ≠ [])
    (h : wrap Kind.root.tag (renderBody (ofClauses cs)) =
      wrap Kind.root.tag (renderBody (ofClauses ds))) : cs = ds := by
  have same := wrap_append_inj <| congrArg (· ++ []) h
  simp only [renderBody_ofClauses] at same
  by_cases few : cs.length ≤ 1 <;> by_cases few' : ds.length ≤ 1 <;>
    simp only [few, few', if_true, if_false] at same
  case pos =>
    have ⟨flat, _⟩ := Literal.selfDelimiting.flatMap_append_inj (by simp) (by simp) same
    match cs, ds with
    | [],  []  => rfl
    | [],  [d] => exact absurd (by simpa using flat.symm) (hd d List.mem_cons_self)
    | [c], []  => exact absurd (by simpa using flat) (hc c List.mem_cons_self)
    | [c], [d] => simpa using flat
    | _ :: _ :: _, _ => simp at few
    | _, _ :: _ :: _ => simp at few'
  case neg => exact absurd same <| literals_ne_wrap _ _ _ _
  case pos => exact absurd same.symm <| literals_ne_wrap _ _ _ _
  case neg =>
    have ⟨same, _⟩ := selfDelimiting_renderClause.flatMap_append_inj hc hd <| wrap_append_inj same
    exact same

end Element

end TestSieve
