import TestSieve.Filter

namespace TestSieve

-- What an atom of a filter looks at.
inductive Aspect
  | id
  | field (f : Field)
  | property (name : String)
  deriving DecidableEq

def Aspect.texts {α : Type} [Selectable α] (t : α) : Aspect → List String
  | id            => [Selectable.id t]
  | field f       => f.texts t
  | property name => Selectable.properties t name

namespace Filter

-- The aspect of an atom. What only puts filters together looks at nothing itself.
def aspect? : Filter → Option Aspect
  | ids _           => some .id
  | field f _       => some (.field f)
  | property name _ => some (.property name)
  | _               => none

@[elab_as_elim]
theorem induct {motive : Filter → Prop} (empty : motive .empty)
    (atom : ∀ f a, f.aspect? = some a → motive f)
    (and : ∀ parts, (∀ f ∈ parts, motive f) → motive (.and parts))
    (or : ∀ parts, (∀ f ∈ parts, motive f) → motive (.or parts))
    (not : ∀ operand, motive operand → motive (.not operand)) (f : Filter) : motive f :=
  match f with
  | .empty           => empty
  | .and parts       => and parts fun f _ => induct empty atom and or not f
  | .or parts        => or parts fun f _ => induct empty atom and or not f
  | .not operand     => not operand <| induct empty atom and or not operand
  | .ids list        => atom (.ids list) .id rfl
  | .field f p       => atom (.field f p) (.field f) rfl
  | .property name p => atom (.property name p) (.property name) rfl

variable {α β : Type} [Selectable α] [Selectable β] {t : α} {u : β} {a : Aspect} {f : Filter}

-- An atom holds if one of the texts at its aspect is accepted. Where there are none, it fails.
theorem exists_pass_eq_any (h : f.aspect? = some a) :
    ∃ accepts : String → Bool, ∀ {α : Type} [Selectable α] (t : α),
      f.pass t = (a.texts t).any accepts := by
  cases f <;> cases h
  case ids list      => exact ⟨list.contains, fun t => by simp [pass, Aspect.texts]⟩
  case field f p     => exact ⟨p.isMatch, fun t => by simp [pass, Aspect.texts]⟩
  case property _ p  => exact ⟨p.isMatch, fun t => by simp [pass, Aspect.texts]⟩

-- Tests with the same texts at every aspect are the same to every filter.
theorem pass_congr (h : ∀ a : Aspect, a.texts t = a.texts u) (f : Filter) :
    f.pass t = f.pass u := by
  induction f using Filter.induct
  case empty => rw [pass_empty, pass_empty]
  case atom f a ha =>
    obtain ⟨accepts, pass⟩ := exists_pass_eq_any ha
    rw [pass t, pass u, h a]
  case and parts hi =>
    rw [pass_and, pass_and, Bool.eq_iff_iff, List.all_eq_true, List.all_eq_true]
    exact forall₂_congr fun f hf => by rw [hi f hf]
  case or parts hi =>
    rw [pass_or, pass_or, Bool.eq_iff_iff, List.any_eq_true, List.any_eq_true]
    exact exists_congr fun f => and_congr_right fun hf => by rw [hi f hf]
  case not operand hi => rw [pass_not, pass_not, hi]

end Filter

end TestSieve
