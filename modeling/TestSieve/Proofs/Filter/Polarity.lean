import Mathlib.Algebra.Ring.Parity
import TestSieve.Proofs.TestCase.Changes

namespace TestSieve

namespace Filter

mutual

-- For every atom that looks at an aspect, how many negations it lies under.
def negationsOver (a : Aspect) : Filter → List Nat
  | and parts | or parts => negationsOverAll a parts
  | not operand          => (negationsOver a operand).map (· + 1)
  | f                    => if f.aspect? = some a then [0] else []

def negationsOverAll (a : Aspect) : List Filter → List Nat
  | []            => []
  | part :: parts => negationsOver a part ++ negationsOverAll a parts

end

variable {a b : Aspect} {f : Filter}

theorem negationsOverAll_eq_flatMap (a : Aspect) (parts : List Filter) :
    negationsOverAll a parts = parts.flatMap (negationsOver a) := by
  induction parts
  case nil             => rfl
  case cons part _ hi => rw [negationsOverAll, hi, List.flatMap_cons]

@[simp] theorem negationsOver_and (parts : List Filter) :
    negationsOver a (.and parts) = parts.flatMap (negationsOver a) := by
  rw [negationsOver, negationsOverAll_eq_flatMap]

@[simp] theorem negationsOver_or (parts : List Filter) :
    negationsOver a (.or parts) = parts.flatMap (negationsOver a) := by
  rw [negationsOver, negationsOverAll_eq_flatMap]

@[simp] theorem negationsOver_not (operand : Filter) :
    negationsOver a (.not operand) = (negationsOver a operand).map (· + 1) := by
  rw [negationsOver]

theorem negationsOver_atom (h : f.aspect? = some b) :
    negationsOver a f = if b = a then [0] else [] := by
  cases f <;> cases h <;> simp [negationsOver, aspect?]

end Filter

-- A test that says all that another one says, and more about one aspect only.
structure Extends {α β : Type} [Selectable α] [Selectable β] (a : Aspect) (t : α) (u : β) :
    Prop where
  more : a.texts t ⊆ a.texts u
  same : ∀ b ≠ a, b.texts u = b.texts t

namespace Filter

variable {α β : Type} [Selectable α] [Selectable β] {a : Aspect} {t : α} {u : β}

-- Both directions are proved at once, since a negation exchanges them.
theorem pass_extends (h : Extends a t u) (f : Filter) :
    ((∀ n ∈ f.negationsOver a, Even n) → f.pass t → f.pass u) ∧
      ((∀ n ∈ f.negationsOver a, Odd n) → f.pass u → f.pass t) := by
  induction f using Filter.induct
  case empty => exact ⟨fun _ => id, fun _ => id⟩
  case atom f b hb =>
    obtain ⟨accepts, pass⟩ := exists_pass_eq_any hb
    rw [negationsOver_atom hb, pass t, pass u]
    by_cases eq : b = a
    case pos =>
      subst eq
      refine ⟨fun _ holds => ?_, fun odd => absurd (odd 0 (by simp)) (by decide)⟩
      have ⟨text, found, accepted⟩ := List.any_eq_true.mp holds
      exact List.any_eq_true.mpr ⟨text, h.more found, accepted⟩
    case neg =>
      rw [h.same b eq]
      exact ⟨fun _ => id, fun _ => id⟩
  case and parts hi =>
    simp only [negationsOver_and, List.forall_mem_flatMap, pass_and, List.all_eq_true]
    constructor
    case left  => exact fun even holds f hf => (hi f hf).1 (even f hf) (holds f hf)
    case right => exact fun odd holds f hf => (hi f hf).2 (odd f hf) (holds f hf)
  case or parts hi =>
    simp only [negationsOver_or, List.forall_mem_flatMap, pass_or, List.any_eq_true]
    constructor
    case left =>
      rintro even ⟨f, hf, holds⟩
      exact ⟨f, hf, (hi f hf).1 (even f hf) holds⟩
    case right =>
      rintro odd ⟨f, hf, holds⟩
      exact ⟨f, hf, (hi f hf).2 (odd f hf) holds⟩
  case not operand hi =>
    simp only [negationsOver_not, List.forall_mem_map, pass_not, Bool.not_eq_true',
      Nat.even_add_one, Nat.odd_add_one, Nat.not_even_iff_odd, Nat.not_odd_iff_even, ←Bool.not_eq_true]
    exact ⟨fun odd => mt (hi.2 odd), fun even => mt (hi.1 even)⟩

end Filter

namespace Enlargement

-- A field with one value is only enlarged if it has been absent; else the call replaces it.
def Fits (t : TestCase) : Enlargement → Prop
  | category _ | property _ _ => True
  | className _               => t.className = none
  | methodName _              => t.methodName = none
  | namespaceName _           => t.namespaceName = none

variable {e : Enlargement} {t : TestCase}

theorem Fits.extends (h : e.Fits t) : Extends e.aspect t (e.apply t) where
  more := by
    have absent {f : Field} {texts : List String} (none : f.texts t = []) : f.texts t ⊆ texts :=
      none ▸ List.nil_subset texts
    cases e
    case category name => exact List.subset_append_left t.categories [name]
    case property name value =>
      have added : (t.properties.add name value).get name = t.properties.get name ++ [value] :=
        (PropertyMap.get_add ..).trans <| if_pos rfl
      have kept : t.properties.get name ⊆ (t.properties.add name value).get name :=
        added ▸ List.subset_append_left ..
      exact kept
    case className     => exact absent (f := .className) <| congrArg Option.toList h
    case methodName    => exact absent (f := .methodName) <| congrArg Option.toList h
    case namespaceName => exact absent (f := .namespaceName) <| congrArg Option.toList h
  same b hb := by
    cases b
    case id            => cases e <;> rfl
    case field f       =>
      cases e <;> cases f <;> try rfl
      all_goals exact absurd rfl hb
    case property name =>
      cases e <;> try rfl
      case property other value =>
        have ne : name ≠ other := fun eq => hb (congrArg Aspect.property eq)
        exact (PropertyMap.get_add ..).trans <| if_neg ne

end Enlargement

namespace Filter

variable {e : Enlargement} {t : TestCase}

-- A test that says more is not lost by a filter whose atoms on that aspect are all under an even
-- number of negations, and not won by one whose atoms are all under an odd number. It makes no
-- difference to a filter that never looks there.
theorem pass_enlarged (h : e.Fits t) (f : Filter) :
    ((∀ n ∈ f.negationsOver e.aspect, Even n) → f.pass t → f.pass (e.apply t)) ∧
    ((∀ n ∈ f.negationsOver e.aspect, Odd n) → f.pass (e.apply t) → f.pass t) ∧
    (f.negationsOver e.aspect = [] → f.pass (e.apply t) = f.pass t) := by
  have ⟨kept, refused⟩ := f.pass_extends h.extends
  refine ⟨kept, refused, fun none => ?_⟩
  have unasked (p : Nat → Prop) : ∀ n ∈ f.negationsOver e.aspect, p n := none ▸ nofun
  exact Bool.eq_iff_iff.mpr ⟨refused (unasked Odd), kept (unasked Even)⟩

theorem pass_enlarged_class :
    let t := (TestCase.new "1" "T").withCategory "slow"
    let e := Enlargement.className "C"
    let twice : Filter := .or [.not (.not (.field .className (.literal "C"))),
      .field .category (.literal "slow")]
    let once : Filter := .and [.not (.field .className (.literal "C")),
      .not (.field .category (.literal "slow"))]
    e.Fits t ∧ twice.negationsOver e.aspect = [2] ∧ once.negationsOver e.aspect = [1] ∧
      twice.pass t ∧ twice.pass (e.apply t) ∧ ¬once.pass t ∧ ¬once.pass (e.apply t) := by
  intro t e twice once
  have fits : e.Fits t := rfl
  have selected : twice.pass t := by decide
  have rejected : ¬once.pass t := by decide
  have kept := (pass_enlarged fits twice).1 (by decide) selected
  have refused := mt ((pass_enlarged fits once).2.1 (by decide)) rejected
  exact ⟨fits, rfl, rfl, selected, kept, rejected, refused⟩

end Filter

end TestSieve
