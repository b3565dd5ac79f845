import TestSieve.Proofs.Definition.Faults
import TestSieve.Proofs.Filter.Ids
import TestSieve.Proofs.Filter.Vocabulary

namespace TestSieve

namespace Xml.Element

-- The elements that combine others.
def IsConnective (e : Element) : Prop :=
  e.tag = Kind.and.tag ∨ e.tag = Kind.or.tag ∨ e.tag = Kind.not.tag

instance : DecidablePred IsConnective :=
  fun _ => inferInstanceAs (Decidable (_ ∨ _ ∨ _))

-- The elements inside of an element, as far as connectives lead to them.
inductive Reaches : Element → Element → Prop
  | child {e c : Element} (h : c ∈ e.children) : Reaches e c
  | inner {e c d : Element} (h : c ∈ e.children) (hc : c.IsConnective) (hi : Reaches c d) :
    Reaches e d

-- An element is judged twice: by its tag where it begins, and by what it holds where it ends.
inductive Check
  | tag (e : Element)
  | content (e : Element)

namespace Check

def element : Check → Element
  | tag e | content e => e

end Check

mutual

-- The checks of an element and of all that it reaches, in their order.
def checks : Element → List Check
  | ⟨tag, attributes, text, children⟩ =>
    let e : Element := ⟨tag, attributes, text, children⟩
    .tag e :: (if e.IsConnective then checksAll children else []) ++ [.content e]

def checksAll : List Element → List Check
  | []      => []
  | e :: es => checks e ++ checksAll es

end

variable {e c d : Element}

theorem checks_eq (e : Element) :
    e.checks = .tag e :: (if e.IsConnective then checksAll e.children else []) ++ [.content e] := by
  cases e
  rw [checks]

theorem checksAll_eq_flatMap (es : List Element) : checksAll es = es.flatMap checks := by
  induction es
  case nil          => rfl
  case cons e es hi => rw [checksAll, hi, List.flatMap_cons]

theorem Reaches.mem_checksAll (h : e.Reaches d) :
    .tag d ∈ checksAll e.children ∧ .content d ∈ checksAll e.children := by
  simp only [checksAll_eq_flatMap, List.mem_flatMap]
  induction h
  case child c h => exact ⟨⟨c, h, by simp [checks_eq]⟩, ⟨c, h, by simp [checks_eq]⟩⟩
  case inner c d h hc _ hi =>
    have inside {check : Check} (hm : ∃ b ∈ c.children, check ∈ b.checks) : check ∈ c.checks := by
      rw [checks_eq, if_pos hc, checksAll_eq_flatMap]
      exact List.mem_append_left _ <| List.mem_cons_of_mem _ <| List.mem_flatMap.mpr hm
    exact ⟨⟨c, h, inside hi.1⟩, ⟨c, h, inside hi.2⟩⟩

mutual

theorem reaches_of_mem_checks {check : Check} :
    (e : Element) → check ∈ e.checks →
      check.element = e ∨ e.IsConnective ∧ e.Reaches check.element
  | ⟨tag, attributes, text, children⟩, h => by
    rw [checks_eq] at h
    simp only [List.cons_append, List.mem_cons, List.mem_append, List.not_mem_nil, or_false] at h
    obtain rfl | inside | rfl := h
    · exact .inl rfl
    · split at inside
      case isTrue connective =>
        have ⟨c, hc, reached⟩ := exists_of_mem_checksAll children inside
        refine .inr ⟨connective, ?_⟩
        obtain same | ⟨inner, reached⟩ := reached
        · exact same ▸ .child hc
        · exact .inner hc inner reached
      case isFalse => cases inside
    · exact .inl rfl

theorem exists_of_mem_checksAll {check : Check} :
    (es : List Element) → check ∈ checksAll es →
      ∃ c ∈ es, check.element = c ∨ c.IsConnective ∧ c.Reaches check.element
  | [],      h => by cases h
  | e :: es, h => by
    rw [checksAll, List.mem_append] at h
    obtain h | h := h
    · exact ⟨e, List.mem_cons_self, reaches_of_mem_checks e h⟩
    · have ⟨c, hc, reached⟩ := exists_of_mem_checksAll es h
      exact ⟨c, List.mem_cons_of_mem _ hc, reached⟩

end

-- The checks below an element are those of the elements that it reaches.
theorem reaches_of_mem_checksAll {check : Check} (h : check ∈ checksAll e.children) :
    e.Reaches check.element := by
  have ⟨c, hc, reached⟩ := exists_of_mem_checksAll _ h
  obtain same | ⟨inner, reached⟩ := reached
  · exact same ▸ .child hc
  · exact .inner hc inner reached

theorem isConnective_iff {k : Kind} (h : Kind.ofTag? e.tag = some k) :
    e.IsConnective ↔ k = .and ∨ k = .or ∨ k = .not := by
  have same (l : Kind) : e.tag = l.tag ↔ k = l := by
    rw [←Kind.tag_of_ofTag? h]
    exact ⟨Kind.tag_injective, congrArg Kind.tag⟩
  simp only [IsConnective, same]

def NamesProperty (e : Element) : Prop :=
  ∃ name ∈ e.attribute? "name", name ≠ ""

def ListsIds (e : Element) : Prop :=
  ∃ piece ∈ e.text.toList.splitOn ',', Unicode.trimSpace piece ≠ []

instance : DecidablePred NamesProperty := fun e =>
  decidable_of_iff ((e.attribute? "name").any (· ≠ ""))
    (by simp [NamesProperty, Option.any_eq_true])

instance : DecidablePred ListsIds := fun e =>
  decidable_of_iff ((e.text.toList.splitOn ',').any (Unicode.trimSpace · ≠ []))
    (by simp [ListsIds])

variable [Regex.Engine]

-- Only a text that is marked has to be a regular expression.
def RegexAccepted (e : Element) : Prop :=
  e.attribute? "re" = some "1" → (Regex.ofPattern? e.text).isSome

instance : DecidablePred RegexAccepted := fun e =>
  inferInstanceAs (Decidable (e.attribute? "re" = some "1" → (Regex.ofPattern? e.text).isSome))

-- What an element of a kind must hold.
def Holds (e : Element) : Kind → Prop
  | .root | .and | .or => True
  | .not               => e.children.length = 1
  | .id                => e.ListsIds
  | .property          => e.NamesProperty ∧ e.RegexAccepted
  | .field _           => e.text ≠ "" ∧ e.RegexAccepted

structure Sound (e : Element) : Prop where
  tag   : e.InVocabulary
  holds : ∀ k : Kind, k.tag = e.tag → e.Holds k

namespace Check

-- What is missing in an element of a kind. A text is looked at before it is compiled.
def lack? (e : Element) : Kind → Option FilterError
  | .root | .and | .or => none
  | .not               =>
    if e.children.length = 1 then none else some (.malformed (.operands e.children.length))
  | .id                => if e.ListsIds then none else some (.malformed .noIds)
  | .property          =>
    if ¬e.NamesProperty then some (.malformed .noPropertyName)
    else if e.RegexAccepted then none else some .invalidRegex
  | .field f           =>
    if e.text = "" then some (.malformed (.noValue f))
    else if e.RegexAccepted then none else some .invalidRegex

def fault? : Check → Option FilterError
  | tag e     =>
    match Kind.ofTag? e.tag with
    | none       => some (.unknownElement e.tag)
    | some .root => some (.malformed .innerFilter)
    | some _     => none
  | content e => (Kind.ofTag? e.tag).bind (lack? e)

end Check

theorem lack?_eq_none_iff {k : Kind} : Check.lack? e k = none ↔ e.Holds k := by
  cases k
  case root | and | or => exact iff_of_true rfl trivial
  case not | id        => simp [Check.lack?, Holds]
  case property        =>
    by_cases named : e.NamesProperty <;> simp [Check.lack?, Holds, named]
  case field           =>
    by_cases empty : e.text = "" <;> simp [Check.lack?, Holds, empty]

-- What a fault says of the element that has it.
theorem cases_of_fault? {check : Check} {cause : FilterError} (h : check.fault? = some cause) :
    cause = .unknownElement check.element.tag ∧ Kind.ofTag? check.element.tag = none ∨
    cause = .invalidRegex ∧ ¬check.element.RegexAccepted ∧
      (∃ k : Kind, k.tag = check.element.tag ∧ k.supportsRegex) ∨
    ∃ shape, cause = .malformed shape := by
  cases check
  case tag e =>
    rw [Check.fault?] at h
    split at h <;> cases h
    case h_1 unknown => exact .inl ⟨rfl, unknown⟩
    case h_2         => exact .inr (.inr ⟨_, rfl⟩)
  case content e =>
    obtain ⟨k, kind, h⟩ := Option.bind_eq_some_iff.mp h
    have tag := Kind.tag_of_ofTag? kind
    cases k
    case root | and | or  => cases h
    case not | id         =>
      simp only [Check.lack?] at h
      split at h <;> cases h
      exact .inr (.inr ⟨_, rfl⟩)
    case property | field =>
      rw [Check.lack?] at h
      split at h
      case isTrue =>
        cases h
        exact .inr (.inr ⟨_, rfl⟩)
      case isFalse =>
        split at h <;> cases h
        exact .inr (.inl ⟨rfl, ‹_›, _, tag, rfl⟩)

theorem sound_iff : e.Sound ↔ Check.fault? (.tag e) = none ∧ Check.fault? (.content e) = none := by
  have named : (∀ k : Kind, k.tag = e.tag → e.Holds k) ↔ Check.fault? (.content e) = none := by
    simp only [←Kind.ofTag?_eq_some_iff, ←lack?_eq_none_iff, Check.fault?, Option.bind_eq_none_iff]
  have known : e.InVocabulary ↔ Check.fault? (.tag e) = none := by
    rw [inVocabulary_iff, Check.fault?]
    split <;> simp_all
  exact ⟨fun h => ⟨known.mp h.tag, named.mp h.holds⟩, fun h => ⟨known.mpr h.1, named.mpr h.2⟩⟩

theorem checks_pass_iff :
    (∀ check ∈ checksAll e.children, check.fault? = none) ↔ ∀ d, e.Reaches d → d.Sound := by
  refine ⟨fun h d reached => ?_, fun h check hm => ?_⟩
  · have ⟨tag, content⟩ := reached.mem_checksAll
    exact sound_iff.mpr ⟨h _ tag, h _ content⟩
  · have sound := sound_iff.mp <| h _ <| reaches_of_mem_checksAll hm
    cases check
    case tag     => exact sound.1
    case content => exact sound.2

end Xml.Element

namespace Filter

open Xml.Element

section

variable [Regex.Engine] {e : Xml.Element} {es : List Xml.Element}

theorem failure?_of (e : Xml.Element) :
    failure? (Pattern.of e.text e.marksRegex) =
      if e.RegexAccepted then none else some .invalidRegex := by
  have marked : e.marksRegex ↔ e.attribute? "re" = some "1" := beq_iff_eq
  unfold Pattern.of
  split
  case isFalse plain =>
    have accepted : e.RegexAccepted := fun h => absurd (marked.mpr h) plain
    rw [if_pos accepted]
    rfl
  case isTrue regex =>
    split
    case h_1 compiled h =>
      have accepted : e.RegexAccepted := fun _ => h ▸ rfl
      rw [if_pos accepted]
      rfl
    case h_2 h =>
      have refused : ¬e.RegexAccepted := fun accepted => by
        have := accepted (marked.mp regex)
        simp [h] at this
      rw [if_neg refused]
      rfl

theorem failure?_ofIds (e : Xml.Element) : failure? (ofIds e) = Check.lack? e .id := by
  have listed : splitIds e.text ≠ [] ↔ e.ListsIds := by
    simp [splitIds_ne_nil_iff, ListsIds, Unicode.trimSpace_eq_nil_iff]
  unfold ofIds Check.lack?
  split
  case h_1 empty => simp [←listed, empty]
  case h_2 full  =>
    rw [if_pos (listed.mp full)]
    rfl

theorem failure?_ofProperty (e : Xml.Element) :
    failure? (ofProperty e) = Check.lack? e .property := by
  rw [ofProperty, Check.lack?]
  cases named : (e.attribute? "name").filter (· ≠ "")
  case none =>
    have unnamed : ¬e.NamesProperty := by simpa [NamesProperty] using named
    rw [if_pos unnamed]
    rfl
  case some name =>
    have named : e.NamesProperty := ⟨name, by simpa using Option.filter_eq_some_iff.mp named⟩
    rw [if_neg (not_not_intro named)]
    exact (failure?_map ..).trans (failure?_of e)

theorem failure?_ofField (f : Field) (e : Xml.Element) :
    failure? (ofField f e) = Check.lack? e (.field f) := by
  rw [ofField, Check.lack?]
  split
  case isTrue  => rfl
  case isFalse => exact (failure?_map ..).trans (failure?_of e)

theorem length_of_ofElements {fs : List Filter} (h : ofElements es = .ok fs) :
    fs.length = es.length := by
  induction es generalizing fs
  case nil =>
    cases h
    rfl
  case cons e es hi =>
    have ⟨_, _, h⟩ := Xml.bind_eq_ok.mp h
    have ⟨_, rest, made⟩ := Xml.bind_eq_ok.mp h
    cases made
    exact congrArg (· + 1) (hi rest)

-- The operands of a negation are counted when all of them have a meaning.
theorem failure?_operands {inner : Option FilterError} (h : failure? (ofElements es) = inner) :
    failure? (do ofOperands (← ofElements es)) =
      inner.or (if es.length = 1 then none else some (.malformed (.operands es.length))) := by
  cases read : ofElements es
  case error cause =>
    cases h.symm.trans (congrArg failure? read)
    rfl
  case ok fs =>
    have none : inner = none := h.symm.trans (congrArg failure? read)
    rw [none, Option.none_or, ←length_of_ofElements read]
    match fs with
    | [] | [_]    => rfl
    | _ :: _ :: _ =>
      rw [if_neg (by simp)]
      rfl

mutual

theorem failure?_ofElement :
    (e : Xml.Element) → failure? (ofElement e) = e.checks.findSome? Check.fault?
  | ⟨tag, attributes, text, children⟩ => by
    have inner := failure?_ofElements children
    have connective {k : Kind} (h : Kind.ofTag? tag = some k) :=
      isConnective_iff (e := ⟨tag, attributes, text, children⟩) h
    rw [checks_eq, ofElement, List.cons_append, List.findSome?_cons, List.findSome?_append]
    simp only [Check.fault?, List.findSome?_singleton]
    cases kind : Kind.ofTag? tag
    case none => rfl
    case some k =>
      simp only [connective kind]
      cases k
      case root     => rfl
      case and | or => exact (failure?_map ..).trans (by simp [inner, Check.lack?])
      case not      => exact (failure?_operands inner).trans (by simp [Check.lack?])
      case id       => exact (failure?_ofIds _).trans (by simp)
      case property => exact (failure?_ofProperty _).trans (by simp)
      case field f  => exact (failure?_ofField f _).trans (by simp)

theorem failure?_ofElements :
    (es : List Xml.Element) → failure? (ofElements es) = (checksAll es).findSome? Check.fault?
  | []      => rfl
  | e :: es => by
    rw [ofElements, failure?_cons, failure?_ofElement e, failure?_ofElements es, checksAll,
      List.findSome?_append]

end

theorem failure?_ofDocument (document : Xml.Element) :
    failure? (ofDocument document) =
      if document.tag ≠ Kind.root.tag then some (.malformed (.wrongTop document.tag))
      else (checksAll document.children).findSome? Check.fault? := by
  rw [ofDocument]
  split
  case isTrue  => rfl
  case isFalse => exact (failure?_map ..).trans (failure?_ofElements _)

-- A document is a filter if the elements that are reached are sound. Else the first check that
-- fails is the one that is reported, and it is one of an element that is reached.
theorem parse_grammar {xml : String} {document : Xml.Element}
    (read : Xml.readDocument xml.toList = .ok document) :
    ((∃ f, parse xml = .ok f) ↔
      document.tag = Kind.root.tag ∧ ∀ e, document.Reaches e → e.Sound) ∧
    (∀ cause, parse xml = .error cause ↔
      document.tag ≠ Kind.root.tag ∧ cause = .malformed (.wrongTop document.tag) ∨
      document.tag = Kind.root.tag ∧ ∃ before check after,
        checksAll document.children = before ++ check :: after ∧
        check.fault? = some cause ∧ ∀ c ∈ before, c.fault? = none) ∧
    ∀ cause, parse xml = .error cause →
      (∃ e, document.Reaches e ∧ cause = .unknownElement e.tag ∧ Kind.ofTag? e.tag = none) ∨
      (∃ e, document.Reaches e ∧ cause = .invalidRegex ∧ ¬e.RegexAccepted ∧
        ∃ k : Kind, k.tag = e.tag ∧ k.supportsRegex) ∨
      ∃ shape, cause = .malformed shape := by
  have failed := failure?_ofDocument document
  rw [←parse_of_readDocument_ok read] at failed
  have refused (cause : FilterError) : parse xml = .error cause ↔
      document.tag ≠ Kind.root.tag ∧ cause = .malformed (.wrongTop document.tag) ∨
      document.tag = Kind.root.tag ∧ ∃ before check after,
        checksAll document.children = before ++ check :: after ∧
        check.fault? = some cause ∧ ∀ c ∈ before, c.fault? = none := by
    rw [←failure?_eq_some_iff, failed]
    split
    case isTrue top  => simp [top, eq_comm]
    case isFalse top => simp [not_not.mp top, List.findSome?_eq_some_iff]
  refine ⟨?_, refused, fun cause h => ?_⟩
  · rw [←failure?_eq_none_iff, failed, ←checks_pass_iff]
    split
    case isTrue top  => simp [top]
    case isFalse top => simp [not_not.mp top]
  · obtain ⟨_, rfl⟩ | ⟨_, before, check, after, all, fault, _⟩ := (refused cause).mp h
    case inl => exact .inr (.inr ⟨_, rfl⟩)
    case inr =>
      have reached : document.Reaches check.element := reaches_of_mem_checksAll (by simp [all])
      exact (cases_of_fault? fault).imp (⟨_, reached, ·⟩) (.imp_left (⟨_, reached, ·⟩))

end

-- In a negation of two operands the second one is looked at first, and there the missing name comes
-- before the text that is no regular expression.
theorem parse_grammar_two_operands :
    let xml := "<filter><not><cat>a</cat><prop re='1'>(</prop></not></filter>"
    (∃ document, Xml.readDocument xml.toList = .ok document) ∧
      parse xml = .error (.malformed .noPropertyName) := by
  intro xml
  let cat : Xml.Element := ⟨"cat", [], "a", []⟩
  let prop : Xml.Element := ⟨"prop", [⟨"re", "1"⟩], "(", []⟩
  let negation : Xml.Element := ⟨"not", [], "", [cat, prop]⟩
  have read : Xml.readDocument
      "<filter><not><cat>a</cat><prop re='1'>(</prop></not></filter>".toList =
      .ok ⟨"filter", [], "", [negation]⟩ := by rfl
  refine ⟨⟨_, read⟩, (parse_grammar read).2.1 _ |>.mpr <| .inr ⟨rfl, ?_⟩⟩
  refine ⟨[.tag negation, .tag cat, .content cat, .tag prop], .content prop, [.content negation],
    rfl, ?_, ?_⟩
  · decide
  · decide

end Filter

end TestSieve
