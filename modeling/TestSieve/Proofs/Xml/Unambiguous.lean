import TestSieve.Proofs.Xml.Fragment

namespace TestSieve.Xml

-- The first of two equal marks is found again if nothing before it is such a mark.
theorem append_cons_inj {mark : Char} {x y s t : List Char} (hx : mark ∉ x) (hy : mark ∉ y)
    (h : x ++ mark :: s = y ++ mark :: t) : x = y ∧ s = t := by
  rcases List.append_eq_append_iff.mp h with ⟨gap, rfl, hs⟩ | ⟨gap, rfl, ht⟩
  case inl =>
    cases gap
    case nil  => simpa using hs
    case cons => simp [List.cons.inj hs] at hy
  case inr =>
    cases gap
    case nil  => simpa using ht.symm
    case cons => simp [List.cons.inj ht] at hx

theorem escapeText_injective {x y : List Char} (h : escapeText x = escapeText y) : x = y := by
  have read := unescape_escapeText x
  rw [h, unescape_escapeText] at read
  exact (Except.ok.inj read).symm

theorem escapeText_append_inj {x y s t : List Char}
    (h : escapeText x ++ '<' :: s = escapeText y ++ '<' :: t) : x = y ∧ s = t := by
  have ⟨same, rest⟩ := append_cons_inj (notMem_escapeText x) (notMem_escapeText y) h
  exact ⟨escapeText_injective same, rest⟩

theorem gt_notMem_escapeValue (value : List Char) : '>' ∉ escapeValue value := by
  simp only [escapeValue, List.mem_flatMap, not_exists, not_and]
  intro c _
  unfold escapeValueChar
  split
  case h_1 => decide
  case h_2 => decide
  case h_3 =>
    unfold escapeTextChar
    split
    case h_4 ne _ => simpa using Ne.symm ne
    all_goals decide

section

variable {tag tag' : String} {attributes attributes' : List Attribute}
  {content content' s t : List Char}

theorem gt_notMem_tagContent (h : WellNamed tag attributes) : '>' ∉ tagContent tag attributes := by
  have name {text : String} (h : IsName text) : '>' ∉ text.toList := fun hm =>
    absurd (h.2 _ hm) (by decide)
  simp only [tagContent, List.mem_append, List.mem_flatMap, not_or, not_exists, not_and]
  refine ⟨name h.tag, fun a ha => ?_⟩
  have key := name (h.keys a ha)
  have value := gt_notMem_escapeValue a.value.toList
  simp [Attribute.render, renderAttribute, key, value]

-- What stands in a tag is read back, so it was written for one tag only.
theorem tagContent_inj (h : WellNamed tag attributes) (h' : WellNamed tag' attributes')
    (same : tagContent tag attributes = tagContent tag' attributes') :
    tag = tag' ∧ attributes = attributes' := by
  have read := Element.ofTag_tagContent h
  rw [same, Element.ofTag_tagContent h'] at read
  simp only [Except.ok.injEq, Element.mk.injEq] at read
  exact ⟨read.1.symm, read.2.1.symm⟩

theorem renderElement_append_inj (h : WellNamed tag attributes) (h' : WellNamed tag' attributes')
    (same : renderElement tag attributes content ++ s =
      renderElement tag' attributes' content' ++ t) :
    tag = tag' ∧ attributes = attributes' ∧
      content ++ closeTag tag ++ s = content' ++ closeTag tag' ++ t := by
  have opened : tagContent tag attributes ++ '>' :: (content ++ closeTag tag ++ s) =
      tagContent tag' attributes' ++ '>' :: (content' ++ closeTag tag' ++ t) := by
    simpa [renderElement, closeTag] using same
  obtain ⟨inner, rest⟩ :=
    append_cons_inj (gt_notMem_tagContent h) (gt_notMem_tagContent h') opened
  obtain ⟨ht, ha⟩ := tagContent_inj h h' inner
  exact ⟨ht, ha, rest⟩

-- What follows two equal tags begins with their contents.
theorem wrap_append_inj (h : wrap tag content ++ s = wrap tag content' ++ t) :
    content ++ (closeTag tag ++ s) = content' ++ (closeTag tag ++ t) := by
  simpa [wrap, openTag] using h

end

-- Texts that open an element, and that show where they end.
structure SelfDelimiting {α : Type} (p : α → Prop) (write : α → List Char) : Prop where
  opens      : ∀ {a}, p a → ∃ c cs, write a = '<' :: c :: cs ∧ c ≠ '/'
  append_inj : ∀ {a b s t}, p a → p b → write a ++ s = write b ++ t → a = b ∧ s = t

namespace SelfDelimiting

variable {α : Type} {p : α → Prop} {write : α → List Char} {s t : List Char}

-- An end tag is no opening tag, so it ends a list of such texts.
theorem flatMap_append_inj (h : SelfDelimiting p write) {as bs : List α} (ha : ∀ a ∈ as, p a)
    (hb : ∀ b ∈ bs, p b)
    (same : as.flatMap write ++ '<' :: '/' :: s = bs.flatMap write ++ '<' :: '/' :: t) :
    as = bs ∧ s = t := by
  have ended {b bs t s} (hb : p b) :
      '<' :: '/' :: s ≠ (b :: bs).flatMap write ++ '<' :: '/' :: t := by
    have ⟨c, cs, hw, hc⟩ := h.opens hb
    simp [hw, hc.symm]
  induction as generalizing bs
  case nil =>
    cases bs
    case nil  => simpa using same
    case cons => exact absurd same <| ended <| hb _ List.mem_cons_self
  case cons a as hi =>
    cases bs
    case nil => exact absurd same.symm <| ended <| ha _ List.mem_cons_self
    case cons b bs =>
      have ⟨pa, pas⟩ := List.forall_mem_cons.mp ha
      have ⟨pb, pbs⟩ := List.forall_mem_cons.mp hb
      simp only [List.flatMap_cons, List.append_assoc] at same
      have ⟨first, rest⟩ := h.append_inj pa pb same
      have ⟨others, ended⟩ := hi pas pbs rest
      exact ⟨List.cons_eq_cons.mpr ⟨first, others⟩, ended⟩

end SelfDelimiting

end TestSieve.Xml
