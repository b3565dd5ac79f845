import TestSieve.Proofs.Filter.Grammar

namespace TestSieve

namespace Pattern

variable [Regex.Engine]

-- What is searched for was made from the text of the pattern.
def Compiled : Pattern → Prop
  | literal _           => True
  | regex text compiled => Regex.ofPattern? text = some compiled

theorem compiled_of {text : String} {regex : Bool} {p : Pattern} (h : of text regex = .ok p) :
    p.text = text ∧ p.Compiled := by
  unfold of at h
  split at h
  case isFalse =>
    cases h
    exact ⟨rfl, trivial⟩
  case isTrue =>
    split at h <;> cases h
    case h_1 compiled hc => exact ⟨rfl, hc⟩

end Pattern

namespace Filter

section

variable [Regex.Engine]

-- A filter that has a part for everything that it selects by. None of its parts selects every test
-- for want of content.
inductive Proper : Filter → Prop
  | and {parts : List Filter} (h : ∀ f ∈ parts, Proper f) : Proper (.and parts)
  | or {parts : List Filter} (h : ∀ f ∈ parts, Proper f) : Proper (.or parts)
  | not {operand : Filter} (h : Proper operand) : Proper (.not operand)
  | ids {list : List String} (listed : list ≠ [])
    (clean : ∀ id ∈ list, id ≠ "" ∧ ',' ∉ id.toList ∧ Bounded Unicode.isSpace id.toList) :
    Proper (.ids list)
  | field {f : Field} {p : Pattern} (text : p.text ≠ "") (compiled : p.Compiled) :
    Proper (.field f p)
  | property {name : String} {p : Pattern} (named : name ≠ "") (compiled : p.Compiled) :
    Proper (.property name p)

variable {e : Xml.Element} {f : Filter}

theorem Proper.ne_empty (h : f.Proper) : f ≠ .empty := by
  rintro rfl
  cases h

theorem proper_of_ofIds (h : ofIds e = .ok f) : f.Proper := by
  unfold ofIds at h
  split at h <;> cases h
  case h_2 listed => exact .ids listed fun _ => clean_of_mem_splitIds

theorem proper_of_ofProperty (h : ofProperty e = .ok f) : f.Proper := by
  unfold ofProperty at h
  split at h
  case h_1 => cases h
  case h_2 name named =>
    obtain ⟨p, made, h⟩ := Xml.bind_eq_ok.mp h
    cases h
    obtain ⟨_, ne⟩ := Option.filter_eq_some_iff.mp named
    exact .property (by simpa using ne) (Pattern.compiled_of made).2

theorem proper_of_ofField {g : Field} (h : ofField g e = .ok f) : f.Proper := by
  unfold ofField at h
  split at h
  case isTrue => cases h
  case isFalse ne =>
    obtain ⟨p, made, h⟩ := Xml.bind_eq_ok.mp h
    cases h
    obtain ⟨text, compiled⟩ := Pattern.compiled_of made
    exact .field (text ▸ ne) compiled

theorem proper_of_ofOperands {fs : List Filter} (proper : ∀ g ∈ fs, g.Proper)
    (h : ofOperands fs = .ok f) : f.Proper := by
  unfold ofOperands at h
  split at h <;> cases h
  case h_1 operand => exact .not <| proper operand List.mem_cons_self

mutual

theorem proper_of_ofElement {f : Filter} :
    (e : Xml.Element) → ofElement e = .ok f → f.Proper
  | ⟨tag, attributes, text, children⟩, h => by
    rw [ofElement] at h
    cases kind : Kind.ofTag? tag <;> simp only [kind] at h
    case none => cases h
    case some k =>
      cases k
      case root     => cases h
      case and      =>
        obtain ⟨fs, meant, made⟩ := Xml.map_eq_ok.mp h
        exact made ▸ .and (proper_of_ofElements children meant)
      case or       =>
        obtain ⟨fs, meant, made⟩ := Xml.map_eq_ok.mp h
        exact made ▸ .or (proper_of_ofElements children meant)
      case not      =>
        obtain ⟨fs, meant, made⟩ := Xml.bind_eq_ok.mp h
        exact proper_of_ofOperands (proper_of_ofElements children meant) made
      case id       => exact proper_of_ofIds h
      case property => exact proper_of_ofProperty h
      case field    => exact proper_of_ofField h

theorem proper_of_ofElements {fs : List Filter} :
    (es : List Xml.Element) → ofElements es = .ok fs → ∀ f ∈ fs, f.Proper
  | [],      h => by
    cases h
    exact nofun
  | e :: es, h => by
    obtain ⟨f, first, h⟩ := Xml.bind_eq_ok.mp h
    obtain ⟨rest, meant, made⟩ := Xml.bind_eq_ok.mp h
    cases made
    exact List.forall_mem_cons.mpr ⟨proper_of_ofElement e first, proper_of_ofElements es meant⟩

end

theorem ofParts_cases {fs : List Filter} (proper : ∀ f ∈ fs, f.Proper) :
    fs = [] ∧ ofParts fs = .empty ∨ fs ≠ [] ∧ (ofParts fs).Proper := by
  match fs with
  | []          => exact .inl ⟨rfl, rfl⟩
  | [f]         => exact .inr ⟨nofun, proper f List.mem_cons_self⟩
  | f :: g :: _ => exact .inr ⟨nofun, .and proper⟩

-- The filter that selects every test is read from a document without elements in its top, and from
-- no other. What is read from any other one is proper.
theorem parse_proper {xml : String} {f : Filter} (h : parse xml = .ok f) :
    ∃ document, Xml.readDocument xml.toList = .ok document ∧
      (f = .empty ↔ document.children = []) ∧ (f ≠ .empty → f.Proper) := by
  obtain ⟨document, read, meant⟩ := Xml.bind_eq_ok.mp h
  refine ⟨document, read, ?_⟩
  rw [ofDocument] at meant
  split at meant
  case isTrue => cases meant
  case isFalse =>
    obtain ⟨fs, meant, made⟩ := Xml.map_eq_ok.mp meant
    have none : fs = [] ↔ document.children = [] := by
      rw [←List.length_eq_zero_iff, length_of_ofElements meant, List.length_eq_zero_iff]
    rw [←none, ←made]
    obtain ⟨bare, empty⟩ | ⟨full, proper⟩ := ofParts_cases (proper_of_ofElements _ meant)
    · exact ⟨iff_of_true empty bare, (absurd empty ·)⟩
    · exact ⟨iff_of_false proper.ne_empty full, fun _ => proper⟩

end

-- A blank between commas is no id, but one in a section is a text.
theorem parse_proper_sections :
    let xml := "<filter><id>7 ,<!----> <![CDATA[ ,\t8]]></id><cat><![CDATA[ ]]></cat></filter>"
    parse xml = .ok (.and [.ids ["7", "8"], .field .category (.literal " ")]) ∧
      Proper (.and [.ids ["7", "8"], .field .category (.literal " ")]) := by
  intro xml
  have read : Xml.readDocument
      "<filter><id>7 ,<!----> <![CDATA[ ,\t8]]></id><cat><![CDATA[ ]]></cat></filter>".toList =
      .ok ⟨"filter", [], "", [⟨"id", [], "7 , ,\t8", []⟩, ⟨"cat", [], " ", []⟩]⟩ := by rfl
  have parsed : parse xml = .ok (.and [.ids ["7", "8"], .field .category (.literal " ")]) :=
    (parse_of_readDocument_ok read).trans (by rfl)
  obtain ⟨_, _, _, proper⟩ := parse_proper parsed
  exact ⟨parsed, proper nofun⟩

end Filter

end TestSieve
