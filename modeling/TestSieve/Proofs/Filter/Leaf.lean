import TestSieve.Proofs.Filter.Document
import TestSieve.Proofs.Filter.Ids

namespace TestSieve

namespace Criterion

-- The text that is left of the content when it is read.
def keptText (c : Criterion) : String :=
  .ofList (Xml.trim c.content.toList)

-- Whether something is left to look for when blanks are dropped.
def HasContent : Criterion → Prop
  | ids l          => ∃ piece ∈ l.val.toList.splitOn ',', ∃ c ∈ piece, ¬Unicode.isSpace c
  | field _ t _    => ∃ c ∈ t.val.toList, ¬Xml.isBlank c
  | property _ _ _ => True

instance : DecidablePred HasContent
  | ids l          =>
    decidable_of_iff ((l.val.toList.splitOn ',').any (·.any (!Unicode.isSpace ·)))
      (by simp [HasContent])
  | field _ t _    => decidable_of_iff (t.val.toList.any (!Xml.isBlank ·)) (by simp [HasContent])
  | property _ _ _ => inferInstanceAs (Decidable True)

-- What is wrong with a criterion that has no content.
def lack : Criterion → ShapeError
  | field f _ _ => .noValue f
  | _           => .noIds

variable {c : Criterion}

theorem marksRegex_element (c : Criterion) : c.element.marksRegex = c.isRegex := by
  rcases c with _ | ⟨_, _, _ | _⟩ | ⟨_, _, _ | _⟩ <;> rfl

theorem keptText_eq_empty_iff : c.keptText = "" ↔ ∀ ch ∈ c.content.toList, Xml.isBlank ch := by
  rw [keptText, ←Xml.trim_eq_nil_iff]
  simp

theorem hasContent_ids_iff {l : NonemptyText} : (ids l).HasContent ↔ splitIds l.val ≠ [] :=
  splitIds_ne_nil_iff.symm

variable [Regex.Engine]

-- What is compared with the kept text, if that is a regular expression where there should be one.
def pattern? (c : Criterion) : Option Pattern :=
  if c.isRegex then (Regex.ofPattern? c.keptText).map (.regex c.keptText)
  else some (.literal c.keptText)

-- Names and values lose the blanks at their ends, but the name of a property is kept as it is.
def leaf? (c : Criterion) : Option Filter :=
  match c with
  | ids l          => some (.ids (splitIds l.val))
  | field f _ _    => c.pattern?.map (.field f)
  | property n _ _ => c.pattern?.map (.property n.val)

def leaf (c : Criterion) : Filter :=
  c.leaf?.getD .empty

def RegexAccepted (c : Criterion) : Prop :=
  c.isRegex → (Regex.ofPattern? c.keptText).isSome

instance : DecidablePred RegexAccepted := fun c =>
  inferInstanceAs (Decidable (c.isRegex → (Regex.ofPattern? c.keptText).isSome))

-- Why a criterion cannot be read, where its content counts before its pattern.
def fault? (c : Criterion) : Option FilterError :=
  if ¬c.HasContent then some (.malformed c.lack)
  else if ¬c.RegexAccepted then some .invalidRegex
  else none

theorem fault?_eq_none_iff : c.fault? = none ↔ c.HasContent ∧ c.RegexAccepted := by
  unfold fault?
  split <;> simp_all

theorem fault?_eq_some_iff {e : FilterError} :
    c.fault? = some e ↔
      ¬c.HasContent ∧ e = .malformed c.lack ∨
        c.HasContent ∧ ¬c.RegexAccepted ∧ e = .invalidRegex := by
  unfold fault?
  split
  case isTrue => simp_all [eq_comm]
  case isFalse => split <;> simp_all [eq_comm]

theorem pattern_of (c : Criterion) :
    Pattern.of c.keptText c.isRegex = c.pattern?.elim (.error .invalidRegex) .ok := by
  unfold Pattern.of pattern?
  split
  case isTrue  => cases Regex.ofPattern? c.keptText <;> rfl
  case isFalse => rfl

theorem regexAccepted_iff : c.RegexAccepted ↔ c.pattern?.isSome := by
  unfold RegexAccepted pattern?
  split <;> simp_all

theorem leaf?_eq_some_leaf (h : c.RegexAccepted) : c.leaf? = some c.leaf := by
  obtain ⟨p, hp⟩ := Option.isSome_iff_exists.mp <| regexAccepted_iff.mp h
  cases c <;> simp [leaf, leaf?, hp]

-- With content, all depends on the pattern.
theorem read_compared {wrap : Pattern → Filter} (content : c.HasContent)
    (h : c.leaf? = c.pattern?.map wrap) :
    (do return wrap (← Pattern.of c.element.text c.element.marksRegex)) =
      c.fault?.elim (.ok c.leaf) .error := by
  have compared : Pattern.of c.element.text c.element.marksRegex = _ :=
    (marksRegex_element c).symm ▸ pattern_of c
  rw [compared, fault?, if_neg (not_not_intro content), leaf, h]
  simp only [regexAccepted_iff]
  cases c.pattern? <;> rfl

theorem regexAccepted_ids {l : NonemptyText} : (ids l).RegexAccepted := nofun

theorem fault?_ids_eq_none_iff {l : NonemptyText} :
    (ids l).fault? = none ↔ splitIds l.val ≠ [] := by
  rw [fault?_eq_none_iff, hasContent_ids_iff, and_iff_left regexAccepted_ids]

theorem ofIds_element (l : NonemptyText) :
    Filter.ofIds (ids l).element = (ids l).fault?.elim (.ok (ids l).leaf) .error := by
  have kept : splitIds (ids l).element.text = splitIds l.val := splitIds_trim _
  unfold Filter.ofIds fault?
  rw [kept]
  split
  case h_1 empty =>
    simp [hasContent_ids_iff, empty, lack]
    rfl
  case h_2 list full =>
    have full : splitIds l.val ≠ [] := full
    simp [hasContent_ids_iff, full, regexAccepted_ids, leaf, leaf?]
    rfl

theorem ofField_element (f : Field) (t : NonemptyText) (regex : Bool) :
    Filter.ofField f (field f t regex).element =
      (field f t regex).fault?.elim (.ok (field f t regex).leaf) .error := by
  have blank : (field f t regex).element.text = "" ↔ ¬(field f t regex).HasContent := by
    rw [show (field f t regex).element.text = keptText _ from rfl, keptText_eq_empty_iff]
    simp [HasContent, content, name]
  rw [Filter.ofField]
  split
  case isTrue empty =>
    rw [fault?, if_pos (blank.mp empty)]
    rfl
  case isFalse solid => exact read_compared (not_not.mp <| blank.not.mp solid) rfl

theorem ofProperty_element (n v : NonemptyText) (regex : Bool) :
    Filter.ofProperty (property n v regex).element =
      (property n v regex).fault?.elim (.ok (property n v regex).leaf) .error := by
  have named : (property n v regex).element.attribute? "name" = some n.val := by
    cases regex <;> rfl
  have kept : (some n.val).filter (· ≠ "") = some n.val := by simpa using n.property
  rw [Filter.ofProperty, named, kept]
  exact read_compared trivial rfl

-- A criterion is read back as its leaf, unless it has a fault.
theorem ofElement_element (c : Criterion) :
    Filter.ofElement c.element = c.fault?.elim (.ok c.leaf) .error := by
  rw [element, Filter.ofElement, Kind.ofTag?_tag]
  cases c
  case ids l          => exact ofIds_element l
  case field f t r    => exact ofField_element f t r
  case property n v r => exact ofProperty_element n v r

end Criterion

end TestSieve
