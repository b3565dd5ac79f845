import TestSieve.Proofs.Filter.Tree
import TestSieve.Proofs.Xml.Outline

namespace TestSieve.Filter

-- What is accepted has the elements that its tags show, and what shows an element that is too deep
-- is refused.
theorem parse_levels [Regex.Engine] (xml : String) :
    (∀ f, parse xml = .ok f → ∃ document places,
      Xml.readDocument xml.toList = .ok document ∧ ofDocument document = .ok f ∧
      Xml.placesIn xml.toList = .ok places ∧ document.outline 1 = places.map Xml.Place.entry ∧
      ∀ p ∈ places, p.level ≤ 128 ∨ p.selfClosed ∧ p.level = 129) ∧
    ∀ places, Xml.placesIn xml.toList = .ok places →
      (∃ p ∈ places, 128 < p.level ∧ (p.selfClosed → 129 < p.level)) →
        ∃ e, parse xml = .error e := by
  refine ⟨?accepted, ?refused⟩
  case accepted =>
    intro f h
    have ⟨document, read, meant⟩ := Xml.bind_eq_ok.mp h
    have ⟨places, shown, outline, allowed⟩ := Xml.exists_placesIn read
    exact ⟨document, places, read, meant, shown, outline, allowed⟩
  case refused =>
    rintro places shown ⟨p, mem, deep, deeper⟩
    cases h : parse xml
    case error e => exact ⟨e, rfl⟩
    case ok f =>
      have ⟨_, read, _⟩ := Xml.bind_eq_ok.mp h
      have ⟨_, shown', _, allowed⟩ := Xml.exists_placesIn read
      cases shown.symm.trans shown'
      obtain few | ⟨closed, level⟩ := allowed p mem
      · exact absurd deep (Nat.not_lt.mpr few)
      · exact absurd (deeper closed) (Nat.not_lt.mpr <| Nat.le_of_eq level)

-- Groups that stand one inside of the other.
def nestedGroups (n : Nat) : List Xml.Element :=
  n.repeat (fun es => [⟨Kind.and.tag, [], "", es⟩]) []

-- The same groups as text, where `inmost` stands inside of all of them.
def nestedText (n : Nat) (inmost : List Char) : List Char :=
  Xml.wrap Kind.root.tag (n.repeat (Xml.wrap Kind.and.tag) inmost)

theorem exists_means_nested [Regex.Engine] (n : Nat) : ∃ fs, Means (nestedGroups n) [] fs := by
  induction n
  case zero      => exact ⟨[], .nil⟩
  case succ _ hi => exact hi.elim fun _ h => ⟨_, h.and⟩

theorem mem_outlines_nested (n level : Nat) :
    (Kind.and.tag, level + n) ∈ Xml.Element.outlines level (nestedGroups (n + 1)) := by
  induction n generalizing level
  case zero      => exact List.mem_cons_self
  case succ n hi =>
    have inner := hi (level + 1)
    rw [Nat.add_right_comm] at inner
    exact List.mem_append_left _ <| List.mem_cons_of_mem _ inner

theorem readDocument_nested (n : Nat) :
    Xml.readDocument (nestedText n []) =
      if n + 1 ≤ Xml.maxDepth then .ok ⟨Kind.root.tag, [], "", nestedGroups n⟩
      else .error (.malformed (.tooDeep Xml.maxDepth)) := by
  refine Xml.readDocument_wrap Kind.root.isName_tag ?_
  induction n
  case zero      => exact .nil
  case succ _ hi => exact hi.wrap Kind.and.isName_tag

theorem readDocument_selfClosed (n : Nat) :
    Xml.readDocument (nestedText n "<and/>".toList) =
      if n + 1 ≤ Xml.maxDepth then .ok ⟨Kind.root.tag, [], "", nestedGroups (n + 1)⟩
      else .error (.malformed (.tooDeep Xml.maxDepth)) := by
  refine Xml.readDocument_wrap Kind.root.isName_tag ?_
  induction n
  case zero      => exact .selfClosed (.bare Kind.and.isName_tag)
  case succ _ hi => exact hi.wrap Kind.and.isName_tag

theorem parse_of_readDocument [Regex.Engine] {xml : List Char} {n : Nat}
    (h : Xml.readDocument xml = .ok ⟨Kind.root.tag, [], "", nestedGroups n⟩) :
    ∃ f, parse (.ofList xml) = .ok f := by
  have ⟨fs, meant⟩ := exists_means_nested n
  rw [parse, String.toList_ofList, h]
  exact ⟨ofParts fs, meant.document⟩

-- The same element, at the same level, is accepted if it closes itself, and else it is not.
theorem parse_levels_selfClosed :
    (∃ f document, parse (.ofList (nestedText 127 "<and/>".toList)) = .ok f ∧
      Xml.readDocument (nestedText 127 "<and/>".toList) = .ok document ∧
      ("and", 129) ∈ document.outline 1) ∧
    parse (.ofList (nestedText 127 "<and></and>".toList)) =
      .error (.malformed (.tooDeep 128)) := by
  refine ⟨?accepted, ?refused⟩
  case accepted =>
    have read := (readDocument_selfClosed 127).trans (if_pos (by decide))
    have ⟨f, parsed⟩ := parse_of_readDocument read
    exact ⟨f, _, parsed, read, List.mem_cons_of_mem _ <| mem_outlines_nested 127 2⟩
  case refused =>
    have read := (readDocument_nested 128).trans (if_neg (by decide))
    rw [parse, String.toList_ofList]
    exact congrArg (· >>= ofDocument) read

end TestSieve.Filter
