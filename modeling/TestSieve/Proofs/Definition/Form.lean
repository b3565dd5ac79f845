import Mathlib.Data.List.Forall2
import TestSieve.Proofs.Definition.Faults
import TestSieve.Proofs.Filter.Unambiguous
import TestSieve.Proofs.Xml.Outline

namespace TestSieve

open Element

-- What a term asks for; only a property has a value.
structure Form where
  negations : Nat
  kind      : Kind
  text      : String
  value     : Option String
  isRegex   : Bool
  deriving DecidableEq

def Term.form : Term → Form
  | not operand               => { operand.form with negations := operand.form.negations + 1 }
  | ids list                  => ⟨0, .id, Criterion.joinIds list, none, false⟩
  | field f pattern           => ⟨0, .field f, pattern.text, none, pattern.isRegex⟩
  | property name value regex => ⟨0, .property, name, some value, regex⟩

-- The forms of the terms, group by group.
def Definition.form (d : Definition) : List (List Form) :=
  d.any.map (·.all.map Term.form)

namespace Literal

def form (l : Literal) : Form :=
  ⟨l.negations, l.criterion.kind, l.criterion.name, l.criterion.value?, l.criterion.isRegex⟩

theorem form_injective {l m : Literal} (h : l.form = m.form) : l = m := by
  obtain ⟨n, c⟩ := l
  obtain ⟨k, d⟩ := m
  simp only [form, Form.mk.injEq] at h
  obtain ⟨rfl, kind, text, value, regex⟩ := h
  refine congrArg (mk n) ?_
  cases c <;> cases d <;> cases kind
  case ids.ids           => exact congrArg _ <| Subtype.ext text
  case field.field       => simp_all [Criterion.name, Criterion.isRegex, Subtype.ext_iff]
  case property.property =>
    simp_all [Criterion.name, Criterion.value?, Criterion.isRegex, Subtype.ext_iff]

end Literal

namespace Term

theorem form_eq {t : Term} {c : Criterion} (h : t.criterion? = .ok c) :
    t.form = Literal.form ⟨t.nots, c⟩ := by
  induction t
  case not hi => rw [form, hi h]; rfl
  case ids list =>
    simp only [criterion?, Criterion.ofIds] at h
    split at h <;> cases h
    rfl
  case field =>
    simp only [criterion?, Criterion.named] at h
    split at h <;> cases h
    rfl
  case property =>
    simp only [criterion?, Criterion.ofProperty] at h
    split at h <;> [split at h; skip] <;> cases h
    rfl

theorem form_of_literal? {t : Term} {l : Literal} (h : t.literal? = .ok l) : t.form = l.form := by
  unfold literal? at h
  cases made : t.criterion? <;> rw [made] at h <;> cases h
  exact form_eq made

end Term

section

variable {α β γ ε : Type} {make : α → Except ε β} {as : List α} {bs : List β}

-- Making the parts of a list succeeds exactly if it does for each part.
theorem mapM_eq_ok_iff :
    as.mapM make = .ok bs ↔ List.Forall₂ (fun a b => make a = .ok b) as bs := by
  induction as generalizing bs
  case nil => cases bs <;> simp [pure, Except.pure]
  case cons a as hi =>
    simp only [List.mapM_cons, List.forall₂_cons_left_iff, Xml.bind_eq_ok, hi, pure, Except.pure,
      Except.ok.injEq]
    grind

-- What is made of the parts, part by part, is known by what the parts are known by.
theorem map_eq_of_mapM_eq_ok {f : α → γ} {g : β → γ} (h : ∀ {a b}, make a = .ok b → f a = g b)
    (made : as.mapM make = .ok bs) : as.map f = bs.map g := by
  rw [mapM_eq_ok_iff] at made
  induction made
  case nil             => rfl
  case cons first _ hi => rw [List.map_cons, List.map_cons, h first, hi]

end

namespace Definition

-- The clauses are those that the groups spell, each of which must have terms.
theorem clauses?_eq_ok_iff {d : Definition} {cs : List (List Literal)} :
    d.clauses? = .ok cs ↔
      List.Forall₂ (fun terms c => terms ≠ [] ∧ terms.mapM Term.literal? = .ok c)
        (d.any.map (·.all)) cs := by
  unfold clauses?
  generalize d.any = groups, 0 = index
  induction groups generalizing index cs
  case nil => cases cs <;> simp [clausesFrom?, pure, Except.pure]
  case cons group groups hi =>
    have first (c : List Literal) : group.clause? index = .ok c ↔
        group.all ≠ [] ∧ group.all.mapM Term.literal? = .ok c := by
      unfold Conjunction.clause?
      split <;> simp_all [throw, throwThe, MonadExceptOf.throw]
    simp only [clausesFrom?, List.map_cons, List.forall₂_cons_left_iff, Xml.bind_eq_ok, hi, first,
      pure, Except.pure, Except.ok.injEq]
    grind

theorem form_of_clauses? {d : Definition} {cs : List (List Literal)} (h : d.clauses? = .ok cs) :
    d.form = cs.map (·.map Literal.form) ∧ ∀ c ∈ cs, c ≠ [] := by
  rw [clauses?_eq_ok_iff, List.forall₂_map_left_iff] at h
  unfold form
  generalize d.any = groups at h ⊢
  induction h
  case nil => exact ⟨rfl, nofun⟩
  case cons group c groups cs here _ hi =>
    obtain ⟨full, made⟩ := here
    have forms := map_eq_of_mapM_eq_ok Term.form_of_literal? made
    have some : c ≠ [] := by
      rintro rfl
      exact full (by simpa using forms)
    exact ⟨by rw [List.map_cons, List.map_cons, forms, hi.1], List.forall_mem_cons.mpr ⟨some, hi.2⟩⟩

-- What is built is written for clauses that have the form of the definition.
theorem exists_clauses_of_build {d : Definition} {f : CompiledFilter} (h : d.build = .ok f) :
    ∃ cs : List (List Literal),
      f.xml = .ofList (Xml.wrap Kind.root.tag (renderBody (ofClauses cs))) ∧
      d.form = cs.map (·.map Literal.form) ∧ ∀ c ∈ cs, c ≠ [] := by
  rw [build_eq] at h
  cases made : d.clauses? <;> rw [made] at h
  case error => cases h
  case ok cs =>
    have compiled := (Chain.compileBody_ofClauses cs).symm.trans h
    cases compiled
    exact ⟨cs, rfl, form_of_clauses? made⟩

-- Two definitions are built to the same filter exactly if they have the same form.
theorem build_inj_iff {d d' : Definition} {f f' : CompiledFilter} (h : d.build = .ok f)
    (h' : d'.build = .ok f') : f = f' ↔ d.form = d'.form := by
  have ⟨cs, xml, form, full⟩ := exists_clauses_of_build h
  have ⟨cs', xml', form', full'⟩ := exists_clauses_of_build h'
  have unambiguous : f = f' ↔ cs = cs' := by
    rw [CompiledFilter.ext_iff, xml, xml', String.ofList_inj]
    exact ⟨renderBody_inj full full', fun same => same ▸ rfl⟩
  rw [unambiguous, form, form']
  have injective : Function.Injective (List.map <| List.map Literal.form) :=
    List.map_injective_iff.mpr <| List.map_injective_iff.mpr fun _ _ => Literal.form_injective
  exact injective.eq_iff.symm

theorem build_inj_iff_rejoined_ids :
    let d : Definition := { any := [⟨[.not (.ids ["a", "", "b,c"])]⟩,
      ⟨[.field .namespaceName (.literal "x"), .not (.not (.property "k" "v" true))]⟩] }
    let same : Definition := { any := [⟨[.not (.ids ["a,b", "c"])]⟩,
      ⟨[.field .namespaceName (.detailed "x" false), .not (.not (.property "k" "v" true))]⟩] }
    let other : Definition := { any := [⟨[.not (.ids ["a", "", "b,c"])]⟩,
      ⟨[.field .namespaceName (.literal "x"), .not (.property "k" "v" true)]⟩] }
    ∃ f g k, d.build = .ok f ∧ same.build = .ok g ∧ other.build = .ok k ∧ f = g ∧ f ≠ k := by
  intro d same other
  have ⟨f, hf⟩ := failure?_eq_none_iff.mp <| d.failure?_build.trans (by decide)
  have ⟨g, hg⟩ := failure?_eq_none_iff.mp <| same.failure?_build.trans (by decide)
  have ⟨k, hk⟩ := failure?_eq_none_iff.mp <| other.failure?_build.trans (by decide)
  exact ⟨f, g, k, hf, hg, hk, (build_inj_iff hf hg).mpr (by decide +kernel),
    mt (build_inj_iff hf hk).mp (by decide +kernel)⟩

end Definition

end TestSieve
