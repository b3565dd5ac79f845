import TestSieve.Proofs.Xml.Outline
import TestSieve.Filter.Reader
import TestSieve.Regex.Meaning

namespace TestSieve

namespace Xml.Element

def IsPredicate (e : Element) : Prop :=
  ∃ k : Kind, k.tag = e.tag ∧ k.isPredicate

-- The tags that may stand below the top element.
def InVocabulary (e : Element) : Prop :=
  ∃ k : Kind, k.tag = e.tag ∧ k ≠ .root

-- The elements inside of an element, at any depth.
inductive Contains : Element → Element → Prop
  | child {e c : Element} (h : c ∈ e.children) : Contains e c
  | inner {e c d : Element} (h : c ∈ e.children) (hi : Contains c d) : Contains e d

-- Those of them that no predicate contains.
inductive Shows : Element → Element → Prop
  | child {e c : Element} (h : c ∈ e.children) : Shows e c
  | inner {e c d : Element} (h : c ∈ e.children) (hc : ¬c.IsPredicate) (hi : Shows c d) : Shows e d

mutual

-- An element without what its predicates contain.
def pruned : Element → Element
  | ⟨tag, attributes, text, children⟩ =>
    ⟨tag, attributes, text,
      if (Kind.ofTag? tag).any (·.isPredicate) then [] else prunedAll children⟩

def prunedAll : List Element → List Element
  | []      => []
  | e :: es => pruned e :: prunedAll es

end

variable {e c d : Element}

theorem isPredicate_iff : e.IsPredicate ↔ (Kind.ofTag? e.tag).any (·.isPredicate) := by
  simp only [IsPredicate, Option.any_eq_true, Kind.ofTag?_eq_some_iff]

theorem inVocabulary_iff : e.InVocabulary ↔ (Kind.ofTag? e.tag).any (· ≠ .root) := by
  simp only [InVocabulary, Option.any_eq_true, Kind.ofTag?_eq_some_iff, decide_eq_true_eq]

instance : DecidablePred IsPredicate :=
  fun _ => decidable_of_iff _ isPredicate_iff.symm

instance : DecidablePred InVocabulary :=
  fun _ => decidable_of_iff _ inVocabulary_iff.symm

theorem Shows.contains (h : Shows e d) : e.Contains d := by
  induction h
  case child h      => exact .child h
  case inner h _ _ hi => exact .inner h hi

-- What is contained is shown, or lies inside of a predicate that is.
theorem Contains.shows_or (h : Contains e d) :
    e.Shows d ∨ ∃ p, e.Shows p ∧ p.IsPredicate ∧ p.Contains d := by
  induction h
  case child h => exact .inl (.child h)
  case inner e c d h inner hi =>
    by_cases hc : c.IsPredicate
    case pos => exact .inr ⟨c, .child h, hc, inner⟩
    case neg =>
      obtain shown | ⟨p, shown, hp, hd⟩ := hi
      · exact .inl (.inner h hc shown)
      · exact .inr ⟨p, .inner h hc shown, hp, hd⟩

theorem Contains.trans (h : Contains e c) (h' : Contains c d) : Contains e d := by
  induction h
  case child h      => exact .inner h h'
  case inner h _ hi => exact .inner h (hi h')

end Xml.Element

namespace Filter

open Xml.Element

section

variable [Regex.Engine] {e : Xml.Element} {es : List Xml.Element}

-- What has a meaning has the tag of a kind, and so have its children, unless it is a predicate.
theorem exists_of_ofElement {f : Filter} (h : ofElement e = .ok f) :
    e.InVocabulary ∧ (¬e.IsPredicate → ∃ fs, ofElements e.children = .ok fs) := by
  rw [inVocabulary_iff, isPredicate_iff]
  obtain ⟨tag, attributes, text, children⟩ := e
  rw [ofElement] at h
  cases kind : Kind.ofTag? tag <;> simp only [kind] at h
  case none => cases h
  case some k =>
    cases k
    case root => cases h
    case and | or | not =>
      have ⟨fs, meant, _⟩ := Xml.bind_eq_ok.mp h
      exact ⟨by simp, fun _ => ⟨fs, meant⟩⟩
    case id | property | field => exact ⟨by simp, absurd rfl⟩

theorem exists_of_mem {fs : List Filter} (h : ofElements es = .ok fs) (he : e ∈ es) :
    ∃ f, ofElement e = .ok f := by
  induction es generalizing fs
  case nil => cases he
  case cons d es hi =>
    have ⟨f, first, h⟩ := Xml.bind_eq_ok.mp h
    have ⟨_, rest, _⟩ := Xml.bind_eq_ok.mp h
    cases he
    case head    => exact ⟨f, first⟩
    case tail he => exact hi rest he

-- The way to what is shown leads through elements whose children have a meaning.
theorem exists_of_shows {d : Xml.Element} (h : e.Shows d) {fs : List Filter}
    (meant : ofElements e.children = .ok fs) : ∃ f, ofElement d = .ok f := by
  induction h generalizing fs
  case child h => exact exists_of_mem meant h
  case inner h hc _ hi =>
    have ⟨_, hf⟩ := exists_of_mem meant h
    have ⟨_, inside⟩ := (exists_of_ofElement hf).2 hc
    exact hi inside

mutual

theorem ofElement_pruned : (e : Xml.Element) → ofElement e.pruned = ofElement e
  | ⟨tag, attributes, text, children⟩ => by
    have hc := ofElements_prunedAll children
    rw [pruned, ofElement, ofElement]
    cases kind : Kind.ofTag? tag
    case none => rfl
    case some k =>
      cases k
      case root                  => rfl
      case and | or | not        => exact congrArg (· >>= _) hc
      case id | property | field => rfl

theorem ofElements_prunedAll : (es : List Xml.Element) → ofElements (prunedAll es) = ofElements es
  | []      => rfl
  | e :: es => by
    rw [prunedAll, ofElements, ofElements, ofElement_pruned e, ofElements_prunedAll es]

end

-- What the predicates of a document contain counts for nothing.
theorem ofDocument_pruned (document : Xml.Element) :
    ofDocument document.pruned = ofDocument document := by
  obtain ⟨tag, attributes, text, children⟩ := document
  rw [ofDocument, ofDocument, pruned]
  by_cases top : tag = Kind.root.tag
  case pos =>
    cases top
    exact congrArg (fun fs => do return ofParts (← fs)) (ofElements_prunedAll children)
  case neg => rw [if_pos top, if_pos top]

theorem parse_of_readDocument_ok {xml : String} {document : Xml.Element}
    (read : Xml.readDocument xml.toList = .ok document) : parse xml = ofDocument document := by
  rw [parse, read]
  rfl

theorem exists_of_ofDocument {document : Xml.Element} {f : Filter}
    (h : ofDocument document = .ok f) :
    document.tag = Kind.root.tag ∧ ∃ fs, ofElements document.children = .ok fs := by
  rw [ofDocument] at h
  split at h
  case isTrue => cases h
  case isFalse top =>
    have ⟨fs, meant, _⟩ := Xml.bind_eq_ok.mp h
    exact ⟨Decidable.not_not.mp top, fs, meant⟩

-- The elements that are shown have tags of the vocabulary, or the document is refused. Those inside
-- of a predicate may have any tag.
theorem parse_vocabulary (xml : String) :
    (∀ f, parse xml = .ok f → ∃ document,
      Xml.readDocument xml.toList = .ok document ∧ ofDocument document = .ok f ∧
      document.tag = Kind.root.tag ∧ (∀ e, document.Shows e → e.InVocabulary) ∧
      ((∀ e, document.Contains e → e.InVocabulary) ↔
        ∀ p e, document.Shows p → p.IsPredicate → p.Contains e → e.InVocabulary)) ∧
    ∀ document, Xml.readDocument xml.toList = .ok document →
      parse xml = ofDocument document.pruned ∧
      ((document.tag ≠ Kind.root.tag ∨ ∃ e, document.Shows e ∧ ¬e.InVocabulary) →
        ∃ cause, parse xml = .error cause) := by
  have shown {document : Xml.Element} {f : Filter} (meant : ofDocument document = .ok f) :
      ∀ e, document.Shows e → e.InVocabulary := by
    intro e he
    have ⟨_, _, inside⟩ := exists_of_ofDocument meant
    have ⟨_, hf⟩ := exists_of_shows he inside
    exact (exists_of_ofElement hf).1
  refine ⟨?accepted, ?read⟩
  case accepted =>
    intro f h
    have ⟨document, read, meant⟩ := Xml.bind_eq_ok.mp h
    refine ⟨document, read, meant, (exists_of_ofDocument meant).1, shown meant, ?all, ?inside⟩
    case all => exact fun all p e hp _ he => all e (hp.contains.trans he)
    case inside =>
      intro inside e he
      obtain hs | ⟨p, hp, predicate, he⟩ := he.shows_or
      · exact shown meant e hs
      · exact inside p e hp predicate he
  case read =>
    intro document read
    refine ⟨?_, fun foreign => ?_⟩
    · rw [ofDocument_pruned, parse_of_readDocument_ok read]
    · cases h : ofDocument document
      case error cause => exact ⟨cause, (parse_of_readDocument_ok read).trans h⟩
      case ok f =>
        obtain top | ⟨e, he, out⟩ := foreign
        · exact absurd (exists_of_ofDocument h).1 top
        · exact absurd (shown h e he) out

end

-- Elements that are no part of a filter are accepted, if only a predicate contains them.
theorem parse_vocabulary_inPredicate :
    let xml := "<filter><cat>x<bogus/><filter/></cat></filter>"
    parse xml = .ok (.field .category (.literal "x")) ∧
      ∃ document, Xml.readDocument xml.toList = .ok document ∧
        (∃ e, document.Contains e ∧ e.tag = "bogus" ∧ ¬e.InVocabulary) ∧
        ∃ e, document.Contains e ∧ e.tag = Kind.root.tag := by
  intro xml
  let cat : Xml.Element := ⟨"cat", [], "x", [⟨"bogus", [], "", []⟩, ⟨"filter", [], "", []⟩]⟩
  have read : Xml.readDocument "<filter><cat>x<bogus/><filter/></cat></filter>".toList =
      .ok ⟨"filter", [], "", [cat]⟩ := by rfl
  have inside {e : Xml.Element} (he : e ∈ cat.children) :
      Contains ⟨"filter", [], "", [cat]⟩ e := .inner List.mem_cons_self (.child he)
  refine ⟨(parse_of_readDocument_ok read).trans (by rfl), _, read, ?_, ?_⟩
  · exact ⟨_, inside List.mem_cons_self, rfl, by decide⟩
  · exact ⟨_, inside (List.mem_cons_of_mem _ List.mem_cons_self), rfl⟩

end Filter

end TestSieve
