import TestSieve.Proofs.Xml.Text

namespace TestSieve.Xml

open Reader

-- An element as it is written, with its content between its tags.
def renderElement (tag : String) (attributes : List Attribute) (content : List Char) : List Char :=
  '<' :: tagContent tag attributes ++ ['>'] ++ (content ++ '<' :: ('/' :: tag.toList ++ ['>']))

theorem wrap_eq_renderElement (tag : String) (content : List Char) :
    wrap tag content = renderElement tag [] content := by
  simp [wrap, renderElement, openTag, closeTag, tagContent]

section

variable {tag : String} {attributes : List Attribute} {t : List Char} {text : String}
  {es : List Element} {n : Nat}

-- The content is read inside of the element that it belongs to, up to the beginning of the end tag.
def FillsElement (t : List Char) (tag : String) (attributes : List Attribute) (text : String)
    (es : List Element) (depth : Nat) : Prop :=
  ∀ (rest : List Char) (outer : List Element) (top : Option Element), outer.length < maxDepth →
    (t ++ '<' :: rest).foldlM step
      ⟨.outside, { opened := ⟨tag, attributes, "", []⟩ :: outer, top }⟩ =
      if outer.length + 1 + depth ≤ maxDepth then
        rest.foldlM step ⟨.markup, { opened := ⟨tag, attributes, text, es.reverse⟩ :: outer, top }⟩
      else .error (.malformed (.tooDeep maxDepth))

-- An element that is written is placed where it stands, or refused for its depth.
theorem foldlM_renderElement (h : WellNamed tag attributes)
    (filled : FillsElement t tag attributes text es n) (b : Builder) :
    (renderElement tag attributes t).foldlM step ⟨.outside, b⟩ =
      if b.opened.length + 1 + n ≤ maxDepth then
        (⟨.outside, ·⟩) <$> b.place ⟨tag, attributes, text, es⟩
      else .error (.malformed (.tooDeep maxDepth)) := by
  have opened := foldlM_opening (b := b) h
  by_cases deep : b.opened.length < maxDepth
  case neg =>
    rw [renderElement, foldlM_append_error (opened.trans (if_neg deep)), if_neg (by omega)]
  case pos =>
    rw [renderElement, foldlM_append_ok (opened.trans (if_pos deep)), filled _ _ _ deep]
    have closed := foldlM_closing (e := ⟨tag, attributes, text, es.reverse⟩) h.tag b.opened b.top
    simpa [Builder.completed] using
      congrArg (if b.opened.length + 1 + n ≤ maxDepth then · else _) closed

end

-- Inside of any open element the text is read as more children, in the order of `es`. They go
-- `depth` levels deeper, and the text is refused where that is too deep.
def ReadsAs (text : List Char) (es : List Element) (depth : Nat) : Prop :=
  ∀ (parent : Element) (outer : List Element) (top : Option Element), outer.length < maxDepth →
    text.foldlM step ⟨.outside, { opened := parent :: outer, top }⟩ =
      if outer.length + 1 + depth ≤ maxDepth then
        .ok ⟨.outside, { opened :=
          { parent with children := es.reverse ++ parent.children } :: outer, top }⟩
      else .error (.malformed (.tooDeep maxDepth))

namespace ReadsAs

variable {s t : List Char} {es fs : List Element} {m n : Nat}

theorem nil : ReadsAs [] [] 0 := by
  intro parent outer top h
  cases parent
  simp [Nat.succ_le_of_lt h]
  rfl

theorem append (hs : ReadsAs s es m) (ht : ReadsAs t fs n) :
    ReadsAs (s ++ t) (es ++ fs) (max m n) := by
  intro parent outer top h
  by_cases hm : outer.length + 1 + m ≤ maxDepth
  case pos =>
    rw [foldlM_append_ok ((hs parent outer top h).trans (if_pos hm)), ht _ outer top h]
    by_cases hn : outer.length + 1 + n ≤ maxDepth
    · simp [hn, show outer.length + 1 + max m n ≤ maxDepth by omega]
    · simp [hn, show ¬outer.length + 1 + max m n ≤ maxDepth by omega]
  case neg =>
    rw [foldlM_append_error ((hs parent outer top h).trans (if_neg hm)), if_neg (by omega)]

variable {tag : String} {attributes : List Attribute}

theorem of_filled {text : String} (h : WellNamed tag attributes)
    (filled : FillsElement t tag attributes text es n) :
    ReadsAs (renderElement tag attributes t) [⟨tag, attributes, text, es⟩] (n + 1) := by
  intro parent outer top _
  rw [foldlM_renderElement h filled, ←Nat.add_assoc, Nat.add_right_comm]
  rfl

-- Texts that are read as elements can stand between the tags of another one.
theorem filled (tag : String) (attributes : List Attribute) (ht : ReadsAs t es n) :
    FillsElement t tag attributes "" es n := by
  intro rest outer top deep
  have read := ht ⟨tag, attributes, "", []⟩ outer top deep
  split
  case isTrue fits =>
    have mark : Phase.outside.step '<' = .ok (.markup, none) := rfl
    rw [foldlM_append_ok (read.trans (if_pos fits)), foldlM_cons_ok (step_silent mark)]
    simp
  case isFalse deep => rw [foldlM_append_error (read.trans (if_neg deep))]

theorem element (h : WellNamed tag attributes) (ht : ReadsAs t es n) :
    ReadsAs (renderElement tag attributes t) [⟨tag, attributes, "", es⟩] (n + 1) :=
  of_filled h <| ht.filled tag attributes

theorem wrap (h : IsName tag) (ht : ReadsAs t es n) :
    ReadsAs (wrap tag t) [⟨tag, [], "", es⟩] (n + 1) := by
  rw [wrap_eq_renderElement]
  exact element (.bare h) ht

-- No depth is too deep for an element that closes itself.
theorem selfClosed (h : WellNamed tag attributes) :
    ReadsAs ('<' :: tagContent tag attributes ++ ['/', '>']) [⟨tag, attributes, "", []⟩] 0 := by
  intro parent outer top deep
  rw [foldlM_selfClosed h, if_pos (Nat.succ_le_of_lt deep)]
  rfl

-- A text between the tags loses the blanks at its ends.
theorem text (h : WellNamed tag attributes) (t : List Char) :
    ReadsAs (renderElement tag attributes (escapeText t))
      [⟨tag, attributes, .ofList (trim t), []⟩] 1 := by
  refine of_filled h fun rest outer top deep => ?_
  rw [foldlM_text, if_pos (by omega)]
  simp

end ReadsAs

-- Only the depth of a document that was written can be at fault.
theorem readDocument_wrap {tag : String} {t : List Char} {es : List Element} {n : Nat}
    (h : IsName tag) (ht : ReadsAs t es n) :
    readDocument (wrap tag t) =
      if n + 1 ≤ maxDepth then .ok { tag, attributes := [], text := "", children := es }
      else .error (.malformed (.tooDeep maxDepth)) := by
  have read := foldlM_renderElement (.bare h) (ht.filled tag []) {}
  rw [←wrap_eq_renderElement] at read
  have unmarked : withoutMark (wrap tag t) = wrap tag t := by
    simp [Xml.wrap, openTag, withoutMark]
  simp only [readDocument, unmarked, read]
  by_cases deep : n + 1 ≤ maxDepth
  · simp [deep, Nat.add_comm]
    rfl
  · simp [deep, Nat.add_comm]
    rfl

end TestSieve.Xml
