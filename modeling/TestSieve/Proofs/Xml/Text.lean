import TestSieve.Proofs.Xml.Tag

namespace TestSieve.Xml

theorem isBlank_cases {c : Char} (h : isBlank c) : c = ' ' ∨ c = '\t' ∨ c = '\r' ∨ c = '\n' := by
  simpa [isBlank, or_assoc] using h

theorem escapeTextChar_blank {c : Char} (h : isBlank c) : escapeTextChar c = [c] := by
  rcases isBlank_cases h with rfl | rfl | rfl | rfl <;> rfl

-- What is no blank is escaped to something that neither begins nor ends with one.
theorem escapeTextChar_solid {c : Char} (h : ¬isBlank c) :
    (∃ d ds, escapeTextChar c = d :: ds ∧ ¬isBlank d) ∧
      ∃ d ds, (escapeTextChar c).reverse = d :: ds ∧ ¬isBlank d := by
  unfold escapeTextChar
  split
  case h_4 => exact ⟨⟨c, [], rfl, h⟩, ⟨c, [], rfl, h⟩⟩
  all_goals exact ⟨⟨_, _, rfl, by decide⟩, ⟨_, _, rfl, by decide⟩⟩

theorem notMem_escapeText (t : List Char) : '<' ∉ escapeText t := by
  simp only [escapeText, List.mem_flatMap, not_exists, not_and]
  intro c _
  unfold escapeTextChar
  split
  case h_4 ne _ _ => simpa using Ne.symm ne
  all_goals decide

-- Blanks may be dropped before or after the other characters are replaced.
theorem dropWhile_flatMap {f : Char → List Char} (blank : ∀ c, isBlank c → f c = [c])
    (solid : ∀ c, ¬isBlank c → ∃ d ds, f c = d :: ds ∧ ¬isBlank d) (t : List Char) :
    (t.flatMap f).dropWhile isBlank = (t.dropWhile isBlank).flatMap f := by
  induction t
  case nil => rfl
  case cons c t hi =>
    by_cases hc : isBlank c
    case pos => simp [blank c hc, hc, hi]
    case neg =>
      have ⟨d, ds, hf, hd⟩ := solid c hc
      simp [hf, hc, hd]

theorem trimStart_escapeText (t : List Char) :
    trimStart (escapeText t) = escapeText (trimStart t) :=
  dropWhile_flatMap (fun _ => escapeTextChar_blank) (fun _ h => (escapeTextChar_solid h).1) t

theorem trimEnd_escapeText (t : List Char) : trimEnd (escapeText t) = escapeText (trimEnd t) := by
  have reversed := dropWhile_flatMap (f := fun c => (escapeTextChar c).reverse)
    (fun _ h => by simp [escapeTextChar_blank h]) (fun _ h => (escapeTextChar_solid h).2) t.reverse
  simp only [trimEnd, escapeText, List.reverse_flatMap, Function.comp_def, reversed]
  simp

-- Escaping leaves blanks alone and makes none, so it does not matter that a text is trimmed before
-- it is unescaped.
theorem trim_escapeText (t : List Char) : trim (escapeText t) = escapeText (trim t) := by
  rw [trim, trimStart_escapeText, trimEnd_escapeText]
  rfl

namespace Reader

variable {b : Builder} {cs : List Char}

theorem foldlM_textPhase {sofar : List Char} (h : '<' ∉ cs) :
    cs.foldlM step ⟨.text sofar, b⟩ = .ok ⟨.text (cs.reverse ++ sofar), b⟩ := by
  induction cs generalizing sofar
  case nil => rfl
  case cons c cs hi =>
    simp only [List.mem_cons, not_or] at h
    have hs : (Phase.text sofar).step c = .ok (.text (c :: sofar), none) := by
      simp [Phase.step, Ne.symm h.1]
      rfl
    rw [foldlM_cons_ok (step_silent hs), hi h.2]
    simp

-- The phase after a text without tags: the text begins with the first character that is no blank.
def phaseAfter (text : List Char) : Phase :=
  match trimStart text with
  | []      => .outside
  | c :: cs => .text (c :: cs).reverse

theorem foldlM_outside (h : '<' ∉ cs) : cs.foldlM step ⟨.outside, b⟩ = .ok ⟨phaseAfter cs, b⟩ := by
  induction cs
  case nil => rfl
  case cons c cs hi =>
    simp only [List.mem_cons, not_or] at h
    by_cases hc : isBlank c
    case pos =>
      have hs : Phase.outside.step c = .ok (.outside, none) := by
        simp [Phase.step, hc]
        rfl
      have : phaseAfter (c :: cs) = phaseAfter cs := by simp [phaseAfter, trimStart, hc]
      rw [foldlM_cons_ok (step_silent hs), hi h.2, this]
    case neg =>
      have hs : Phase.outside.step c = .ok (.text [c], none) := by
        simp [Phase.step, hc, Ne.symm h.1]
        rfl
      rw [foldlM_cons_ok (step_silent hs), foldlM_textPhase h.2]
      simp [phaseAfter, trimStart, hc]

variable {e : Element} {outer : List Element} {top : Option Element}

-- The text before a tag is added to the element that is open.
theorem foldlM_text (t rest : List Char) :
    (escapeText t ++ '<' :: rest).foldlM step ⟨.outside, { opened := e :: outer, top }⟩ =
      rest.foldlM step ⟨.markup,
        { opened := { e with text := e.text ++ .ofList (trim t) } :: outer, top }⟩ := by
  rw [foldlM_append_ok (foldlM_outside (notMem_escapeText t))]
  unfold phaseAfter
  split
  case h_1 h =>
    -- What is left of the text reads back as nothing, so it was nothing.
    have read := unescape_escapeText (trimStart t)
    rw [←trimStart_escapeText, h] at read
    have none : trim t = [] := by
      rw [trim, ←Except.ok.inj read]
      rfl
    have mark : Phase.outside.step '<' = .ok (.markup, .none) := rfl
    rw [foldlM_cons_ok (step_silent mark), none]
    cases e
    simp
  case h_2 c cs h =>
    have raw : Item.ofText (c :: cs).reverse = .text (escapeText (trim t)) := by
      rw [Item.ofText, List.reverse_reverse, ←h, ←trim_escapeText]
      rfl
    have mark : (Phase.text (c :: cs).reverse).step '<' =
        .ok (.markup, some (.text (escapeText (trim t)))) := by
      simp only [Phase.step, raw]
      rfl
    rw [List.foldlM_cons, step_item mark]
    simp only [Builder.take, unescape_escapeText]
    rfl

end Reader

end TestSieve.Xml
