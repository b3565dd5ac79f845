import TestSieve.Xml.Document
import TestSieve.Proofs.Xml.Attribute

namespace TestSieve.Xml

namespace Reader

variable {p q : Phase} {b : Builder} {c : Char} {item : Item}

theorem step_silent (h : p.step c = .ok (q, none)) : step ⟨p, b⟩ c = .ok ⟨q, b⟩ := by
  simp only [step, h]
  rfl

theorem step_item (h : p.step c = .ok (q, some item)) :
    step ⟨p, b⟩ c = (⟨q, ·⟩) <$> b.take item := by
  have delivered : step ⟨p, b⟩ c = deliver ⟨q, b⟩ (some item) := by
    simp only [step, h]
    rfl
  rw [delivered, deliver]
  cases b.take item <;> rfl

-- A text that can stand inside of a tag: it does not end the tag, and it closes all its quotes.
def FitsTag (text : List Char) : Prop :=
  ∀ (sofar : List Char) (b : Builder), text.foldlM step ⟨.tag none sofar, b⟩ =
    .ok ⟨.tag none (text.reverse ++ sofar), b⟩

namespace FitsTag

theorem nil : FitsTag [] :=
  fun _ _ => rfl

theorem append {s t : List Char} (hs : FitsTag s) (ht : FitsTag t) : FitsTag (s ++ t) := by
  intro sofar b
  rw [foldlM_append_ok (hs sofar b), ht]
  simp

theorem cons {t : List Char} (h : c ≠ '>' ∧ c ≠ '\'' ∧ c ≠ '"') (ht : FitsTag t) :
    FitsTag (c :: t) := by
  intro sofar b
  have hs : (Phase.tag none sofar).step c = .ok (.tag none (c :: sofar), none) := by
    simp [Phase.step, Phase.tagStep, h]
    rfl
  rw [foldlM_cons_ok (step_silent hs), ht]
  simp

theorem name {cs : List Char} (h : ∀ c ∈ cs, c.isLower) : FitsTag cs := by
  induction cs
  case nil => exact nil
  case cons c cs hi =>
    have hc := h c List.mem_cons_self
    refine cons ⟨?_, ?_, ?_⟩ <| hi fun d hd => h d <| List.mem_cons_of_mem _ hd
    all_goals exact ne_of_isLower hc rfl

theorem quoted {q : Char} {cs : List Char} (hq : q = '\'' ∨ q = '"') (h : q ∉ cs) :
    FitsTag (q :: (cs ++ [q])) := by
  have inner (sofar b) : cs.foldlM step ⟨.tag (some q) sofar, b⟩ =
      .ok ⟨.tag (some q) (cs.reverse ++ sofar), b⟩ := by
    induction cs generalizing sofar
    case nil => rfl
    case cons c cs hi =>
      simp only [List.mem_cons, not_or] at h
      have hs : (Phase.tag (some q) sofar).step c = .ok (.tag (some q) (c :: sofar), none) := by
        simp [Phase.step, Phase.tagStep, Ne.symm h.1]
        rfl
      rw [foldlM_cons_ok (step_silent hs), hi h.2]
      simp
  intro sofar b
  have opened : (Phase.tag none sofar).step q = .ok (.tag (some q) (q :: sofar), none) := by
    rcases hq with rfl | rfl <;> rfl
  have closed (sofar) : (Phase.tag (some q) sofar).step q = .ok (.tag none (q :: sofar), none) := by
    simp [Phase.step, Phase.tagStep]
    rfl
  rw [foldlM_cons_ok (step_silent opened), foldlM_append_ok (inner ..),
    foldlM_cons_ok (step_silent (closed _))]
  simp
  rfl

theorem ofAttribute (a : Attribute) (h : IsName a.key) : FitsTag a.render := by
  have value := quoted (.inr rfl) (quote_notMem_escapeValue a.value.toList)
  have key := name h.2
  simpa [Attribute.render, renderAttribute] using
    cons (c := ' ') (by decide) <| key.append <| cons (c := '=') (by decide) value

theorem ofAttributes {as : List Attribute} (h : ∀ a ∈ as, IsName a.key) :
    FitsTag (as.flatMap Attribute.render) := by
  induction as
  case nil => exact nil
  case cons a as hi =>
    rw [List.flatMap_cons]
    exact (ofAttribute a (h a List.mem_cons_self)).append <|
      hi fun b hb => h b <| List.mem_cons_of_mem _ hb

end FitsTag

end Reader

-- What stands between the angle brackets of an opening tag.
def tagContent (tag : String) (attributes : List Attribute) : List Char :=
  tag.toList ++ attributes.flatMap Attribute.render

-- A tag that is read back as it was written.
structure WellNamed (tag : String) (attributes : List Attribute) : Prop where
  tag   : IsName tag
  keys  : ∀ a ∈ attributes, IsName a.key
  nodup : (attributes.map (·.key)).Nodup

theorem WellNamed.bare {tag : String} (h : IsName tag) : WellNamed tag [] where
  tag   := h
  keys  := by simp
  nodup := by simp

namespace Element

variable {tag : String} {attributes : List Attribute}

theorem takeWhile_tagContent (attributes : List Attribute) (h : IsName tag) :
    (tagContent tag attributes).takeWhile (!isBlank ·) = tag.toList ∧
      (tagContent tag attributes).dropWhile (!isBlank ·) =
        attributes.flatMap Attribute.render := by
  have name : ∀ c ∈ tag.toList, (!isBlank c) = true := fun c hc => by
    simp [not_isBlank_of_isLower (h.2 c hc)]
  rw [tagContent, List.takeWhile_append_of_pos name, List.dropWhile_append_of_pos name]
  -- What follows the name is nothing, or the blank before an attribute.
  cases attributes <;> simp [Attribute.render, renderAttribute, isBlank]

theorem ofTag_tagContent (h : WellNamed tag attributes) :
    ofTag (tagContent tag attributes) = .ok { tag, attributes, text := "", children := [] } := by
  have ⟨name, rest⟩ := takeWhile_tagContent attributes h.tag
  simp only [ofTag, name, rest, Attribute.readAll_render _ h.keys h.nodup, String.ofList_toList]
  rfl

end Element

theorem Item.ofTag_opening {content : List Char} (first : content.head? ≠ some '/')
    (last : content.getLast? ≠ some '/') : Item.ofTag content.reverse = .opening content := by
  unfold Item.ofTag
  split
  case h_1 h => simp_all
  case h_2 =>
    split
    case h_1 h =>
      have := congrArg List.head? h
      simp_all
    case h_2 => simp

theorem Item.ofTag_empty {c : Char} (first : c ≠ '/') (cs : List Char) :
    Item.ofTag (c :: (cs ++ ['/'])).reverse = .empty (c :: cs) := by
  simp [Item.ofTag, first]

theorem Item.ofTag_closing (name : List Char) :
    Item.ofTag ('/' :: name).reverse = .closing name := by
  simp [Item.ofTag]

-- An opening tag with attributes ends in a quote, and one without in its name.
theorem getLast?_tagContent {tag : String} (h : IsName tag) (attributes : List Attribute) :
    (tagContent tag attributes).getLast? ≠ some '/' := by
  cases hr : attributes.reverse
  case nil =>
    have : attributes = [] := by simpa using hr
    simp only [this, tagContent, List.flatMap_nil, List.append_nil]
    intro hl
    exact absurd (h.2 _ <| List.mem_of_getLast? hl) (by decide)
  case cons a as =>
    have last : attributes = as.reverse ++ [a] := by simpa using congrArg List.reverse hr
    have quote : tagContent tag attributes = tag.toList ++ as.reverse.flatMap Attribute.render ++
        [' '] ++ a.key.toList ++ ['=', '"'] ++ escapeValue a.value.toList ++ ['"'] := by
      simp [last, tagContent, Attribute.render, renderAttribute]
    rw [quote, List.getLast?_concat]
    decide

theorem endTagName_toList {name : String} (h : IsName name) : endTagName name.toList = name := by
  have ne : name.toList.reverse ≠ [] := by simpa using h.1
  have ⟨c, cs, hc⟩ := List.exists_cons_of_ne_nil ne
  have lower : c.isLower := h.2 c <| List.mem_reverse.mp <| hc ▸ List.mem_cons_self
  have last : trimEnd name.toList = name.toList := by
    rw [trimEnd, hc, List.dropWhile_cons_of_neg (by simp [not_isBlank_of_isLower lower]), ←hc,
      List.reverse_reverse]
  simp [endTagName, last]

namespace Reader

variable {tag : String} {attributes : List Attribute} {b : Builder} {c : Char} {cs : List Char}

theorem FitsTag.ofWellNamed (h : WellNamed tag attributes) : FitsTag (tagContent tag attributes) :=
  (FitsTag.name h.tag.2).append (.ofAttributes h.keys)

-- The way through a tag that is no mark, up to the character that ends it.
theorem foldlM_tag (plain : c ≠ '!' ∧ c ≠ '?') (fits : FitsTag (c :: cs)) :
    (c :: cs ++ ['>']).foldlM step ⟨.markup, b⟩ =
      (⟨.outside, ·⟩) <$> b.take (Item.ofTag (c :: cs).reverse) := by
  have begun : step ⟨.markup, b⟩ c = step ⟨.tag none [], b⟩ c := by
    simp [step, Phase.step, plain]
  have inside : (c :: cs).foldlM step ⟨.markup, b⟩ = .ok ⟨.tag none (c :: cs).reverse, b⟩ := by
    rw [List.foldlM_cons, begun, ←List.foldlM_cons, fits, List.append_nil]
  have ended (sofar) : (Phase.tag none sofar).step '>' = .ok (.outside, some (Item.ofTag sofar)) :=
    rfl
  rw [foldlM_append_ok inside, List.foldlM_cons, step_item (ended _)]
  simp

-- An opening tag opens its element, unless too many are open already.
theorem foldlM_opening (h : WellNamed tag attributes) :
    ('<' :: tagContent tag attributes ++ ['>']).foldlM step ⟨.outside, b⟩ =
      if b.opened.length < maxDepth then
        .ok ⟨.outside, { b with
          opened := { tag, attributes, text := "", children := [] } :: b.opened }⟩
      else .error (.malformed (.tooDeep maxDepth)) := by
  have ⟨c, cs, hc⟩ := List.exists_cons_of_ne_nil h.tag.1
  have lower : c.isLower := h.tag.2 c <| by simp [hc]
  have content : tagContent tag attributes = c :: (cs ++ attributes.flatMap Attribute.render) := by
    simp [tagContent, hc]
  have fits := FitsTag.ofWellNamed h
  have item : Item.ofTag (tagContent tag attributes).reverse =
      .opening (tagContent tag attributes) := by
    refine Item.ofTag_opening ?_ (getLast?_tagContent h.tag attributes)
    simpa [content] using ne_of_isLower lower rfl
  have mark : Phase.outside.step '<' = .ok (.markup, none) := rfl
  rw [content] at fits
  rw [List.cons_append, foldlM_cons_ok (step_silent mark), content,
    foldlM_tag ⟨ne_of_isLower lower rfl, ne_of_isLower lower rfl⟩ fits, ←content, item]
  simp only [Builder.take, Element.ofTag_tagContent h]
  by_cases deep : b.opened.length < maxDepth
  · simp [deep, Nat.not_le.mpr deep]
    rfl
  · simp [deep, Nat.not_lt.mp deep]
    rfl

-- However many elements are open, one that closes itself is placed.
theorem foldlM_selfClosed (h : WellNamed tag attributes) :
    ('<' :: tagContent tag attributes ++ ['/', '>']).foldlM step ⟨.outside, b⟩ =
      (⟨.outside, ·⟩) <$> b.place { tag, attributes, text := "", children := [] } := by
  have ⟨c, cs, hc⟩ := List.exists_cons_of_ne_nil h.tag.1
  have lower : c.isLower := h.tag.2 c <| by simp [hc]
  have content : tagContent tag attributes = c :: (cs ++ attributes.flatMap Attribute.render) := by
    simp [tagContent, hc]
  have slash : FitsTag ['/'] := FitsTag.nil.cons (by decide)
  have fits := (FitsTag.ofWellNamed h).append slash
  have split : '<' :: tagContent tag attributes ++ ['/', '>'] =
      '<' :: (tagContent tag attributes ++ ['/'] ++ ['>']) := by simp
  have mark : Phase.outside.step '<' = .ok (.markup, none) := rfl
  rw [content, List.cons_append] at fits
  rw [split, foldlM_cons_ok (step_silent mark), content, List.cons_append,
    foldlM_tag ⟨ne_of_isLower lower rfl, ne_of_isLower lower rfl⟩ fits,
    Item.ofTag_empty (ne_of_isLower lower rfl), ←content]
  simp only [Builder.take, Element.ofTag_tagContent h]
  rfl

-- The end tag of the element that is open, after its first character.
theorem foldlM_closing {e : Element} (h : IsName e.tag) (outer : List Element)
    (top : Option Element) :
    ('/' :: e.tag.toList ++ ['>']).foldlM step ⟨.markup, { opened := e :: outer, top }⟩ =
      (⟨.outside, ·⟩) <$> { opened := outer, top : Builder }.place (Builder.completed e) := by
  have fits : FitsTag ('/' :: e.tag.toList) := (FitsTag.name h.2).cons (by decide)
  rw [foldlM_tag (by decide) fits, Item.ofTag_closing]
  simp [Builder.take, endTagName_toList h]

end Reader

end TestSieve.Xml
