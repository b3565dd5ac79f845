import TestSieve.Proofs.Chain.Cursor
import TestSieve.Proofs.Filter.Tree

namespace TestSieve

open Element

-- A filter of one criterion is read as the leaf of the criterion, unless this has a fault.
theorem Handle.exists_filter_predicate [Regex.Engine] (a : Criterion) :
    ∃ c, (do (← Handle.new.predicate a).build) = .ok c ∧
      ((∃ g, c.filter = .ok g) ↔ a.fault? = none) ∧ ∀ g, c.filter = .ok g → g = a.leaf := by
  have only : [Element.criterion a] = ofClauses [[⟨0, a⟩]] := by
    simp [ofClauses, ofClause, Literal.elements]
  have clauses : clauses [Element.criterion a] = [[⟨0, a⟩]] := only ▸ clauses_ofClauses (by simp)
  have within : WithinDepth [Element.criterion a] := by simp [WithinDepth, clauses]
  have compiled := only ▸ Chain.compileBody_ofClauses [[⟨0, a⟩]]
  have built : (do (← Handle.new.predicate a).build) = Chain.compileBody [.criterion a] := by
    have start : Handle.new.cursor = Cursor.ofBody [] := rfl
    have pushed : (Cursor.ofBody []).push (.criterion a) = return .ofBody [.criterion a] :=
      Cursor.push_ofBody List.not_mem_nil (by simp)
    have compiled : (Cursor.ofBody [.criterion a]).compile = _ := Cursor.compile_ofBody (by simp)
    simp [Handle.predicate, Handle.build, start, pushed, compiled]
  refine ⟨_, built.trans compiled, ?_⟩
  rw [Chain.filter_compileBody compiled, if_pos within, tree, clauses]
  cases fault : a.fault? <;> simp [clauseTree, fault]

-- What a predicate that compares texts looks at.
inductive Subject
  | field (f : Field)
  | property (name : NonemptyText)

namespace Subject

def texts {α : Type} [Selectable α] (s : Subject) (t : α) : List String :=
  match s with
  | field f       => f.texts t
  | property name => Selectable.properties t name.val

-- The filter that asks for a text which is no regular expression.
def build (text : String) : Subject → Except FilterError CompiledFilter
  | field f       => do (← Handle.new.field f text false).build
  | property name => do (← Handle.new.property name.val text false).build

def criterion (text : NonemptyText) : Subject → Criterion
  | field f       => .field f text false
  | property name => .property name text false

-- A test that has the text where the subject is looked for.
def only (text : String) : Subject → TestCase
  | field .fullName      => .new "" text
  | field .shortName     => (TestCase.new "" "").withName text
  | field .className     => (TestCase.new "" "").withClass text
  | field .methodName    => (TestCase.new "" "").withMethod text
  | field .namespaceName => (TestCase.new "" "").withNamespace text
  | field .category      => (TestCase.new "" "").withCategory text
  | property name        => (TestCase.new "" "").withProperty name.val text

theorem texts_only (s : Subject) {text : String} (h : text ≠ "") :
    s.texts (s.only text) = [text] := by
  cases s
  case property => exact (PropertyMap.get_add ..).trans <| by simp [TestCase.new]
  case field f =>
    cases f
    case shortName => exact congrArg ([·]) <| if_neg h
    all_goals rfl

variable (s : Subject) (text : NonemptyText)

theorem build_eq :
    s.build text = (do (← Handle.new.predicate (s.criterion text)).build) := by
  cases s
  case field f =>
    have made : Criterion.named (.field f) text false = .ok (.field f text false) :=
      dif_pos text.property
    simp only [build, Handle.field, made]
    rfl
  case property name =>
    have made : Criterion.ofProperty name text false = .ok (.property name text false) :=
      (dif_pos name.property).trans <| dif_pos text.property
    simp only [build, Handle.property, made]
    rfl

theorem fault?_criterion_eq_none_iff [Regex.Engine] :
    (s.criterion text).fault? = none ↔
      (∃ name, s = .property name) ∨ ∃ ch ∈ text.val.toList, ¬Xml.isBlank ch := by
  rw [Criterion.fault?_eq_none_iff]
  cases s <;> simp [criterion, Criterion.HasContent, Criterion.RegexAccepted, Criterion.isRegex]

theorem pass_leaf_criterion [Regex.Engine] {α : Type} [Selectable α] (t : α) :
    (s.criterion text).leaf.pass t ↔ .ofList (Xml.trim text.val.toList) ∈ s.texts t := by
  have kept : (s.criterion text).keptText = .ofList (Xml.trim text.val.toList) := by
    cases s <;> rfl
  rw [←kept]
  cases s <;>
    simp [criterion, Criterion.leaf, Criterion.leaf?, Criterion.pattern?, Criterion.isRegex,
      Filter.pass, Pattern.isMatch, texts]

-- A text is looked for without the blanks at its ends, so it is found as it is exactly if it has
-- none there. Where nothing is left, only a property can be asked for.
theorem filter_build [Regex.Engine] :
    ∃ c, s.build text = .ok c ∧
      ((∃ g, c.filter = .ok g) ↔
        (∃ name, s = .property name) ∨ ∃ ch ∈ text.val.toList, ¬Xml.isBlank ch) ∧
      (∀ g, c.filter = .ok g → ∀ {α : Type} [Selectable α] (t : α),
        g.pass t ↔ .ofList (Xml.trim text.val.toList) ∈ s.texts t) ∧
      ((∃ g, c.filter = .ok g ∧ ∀ t : TestCase, g.pass t ↔ text.val ∈ s.texts t) ↔
        Bounded Xml.isBlank text.val.toList) := by
  have ⟨c, built, sound, leaf⟩ := Handle.exists_filter_predicate (s.criterion text)
  have read := sound.trans <| s.fault?_criterion_eq_none_iff text
  have pass : ∀ g, c.filter = .ok g → ∀ {α : Type} [Selectable α] (t : α),
      g.pass t ↔ .ofList (Xml.trim text.val.toList) ∈ s.texts t := by
    intro g hg _ _ t
    rw [leaf g hg, pass_leaf_criterion]
  refine ⟨c, (s.build_eq text).trans built, read, pass, ⟨?bounded, fun h => ?exact⟩⟩
  case bounded =>
    -- A test that has the text has to have what is left of it.
    rintro ⟨g, hg, same⟩
    have alone := s.texts_only text.property
    have found := (pass g hg _).mp <| (same (s.only text)).mpr <| by simp [alone]
    rw [alone, List.mem_singleton] at found
    exact Xml.trim_eq_self_iff.mp <| by simpa using congrArg String.toList found
  case exact =>
    have solid := h.exists_solid <| mt String.toList_eq_nil_iff.mp text.property
    have ⟨g, hg⟩ := read.mpr <| .inr solid
    refine ⟨g, hg, fun t => ?_⟩
    rw [pass g hg, h.trim_eq, String.ofList_toList]

theorem filter_build_leading_blank :
    let blank := (TestCase.new "1" "T").withClass " a"
    let solid := (TestCase.new "2" "T").withClass "a"
    ∃ c g, (field .className).build " a" = .ok c ∧ c.filter = .ok g ∧
      " a" ∈ (field .className).texts blank ∧ ¬g.pass blank ∧
      " a" ∉ (field .className).texts solid ∧ g.pass solid := by
  intro blank solid
  let text : NonemptyText := ⟨" a", by decide⟩
  let s := field .className
  have ⟨c, built, sound, leaf⟩ := Handle.exists_filter_predicate (s.criterion text)
  have said : ∃ ch ∈ text.val.toList, ¬Xml.isBlank ch := ⟨'a', by decide, by decide⟩
  have ⟨g, hg⟩ := sound.mpr <| (s.fault?_criterion_eq_none_iff text).mpr <| .inr said
  have pass (t : TestCase) : g.pass t ↔ _ := leaf g hg ▸ s.pass_leaf_criterion text t
  exact ⟨c, g, (s.build_eq text).trans built, hg, by decide, mt (pass blank).mp (by decide),
    by decide, (pass solid).mpr (by decide)⟩

end Subject

-- The ids that are looked for are those in the entries. These are the entries themselves exactly
-- if none has a comma, or space at its ends.
theorem Handle.filter_ids [Regex.Engine] {entries : List String} (some : ∃ e ∈ entries, e ≠ "") :
    ∃ c, (do (← Handle.new.ids entries).build) = .ok c ∧
      ((∃ g, c.filter = .ok g) ↔ ∃ e ∈ entries, splitIds e ≠ []) ∧
      (∀ g, c.filter = .ok g → ∀ {α : Type} [Selectable α] (t : α),
        g.pass t ↔ ∃ e ∈ entries, Selectable.id t ∈ splitIds e) ∧
      ((∃ g, c.filter = .ok g ∧ ∀ t : TestCase, g.pass t ↔ t.id ∈ entries ∧ t.id ≠ "") ↔
        ∀ e ∈ entries, e ≠ "" → ',' ∉ e.toList ∧ Bounded Unicode.isSpace e.toList) := by
  have joined : Criterion.joinIds entries ≠ "" := by simpa [joinIds_eq_empty_iff] using some
  let a := Criterion.ids ⟨Criterion.joinIds entries, joined⟩
  have asked : Criterion.ofIds entries = .ok a := dif_pos joined
  obtain ⟨c, made, sound, leaf⟩ := Handle.exists_filter_predicate a
  have built : (do (← Handle.new.ids entries).build) = .ok c := by
    simp only [Handle.ids, asked]
    exact made
  have read : (∃ g, c.filter = .ok g) ↔ ∃ e ∈ entries, splitIds e ≠ [] := by
    rw [sound, Criterion.fault?_ids_eq_none_iff, splitIds_joinIds]
    simp
  have pass : ∀ g, c.filter = .ok g → ∀ {α : Type} [Selectable α] (t : α),
      g.pass t ↔ ∃ e ∈ entries, Selectable.id t ∈ splitIds e := by
    intro g hg _ _ t
    simp [leaf g hg, a, Criterion.leaf, Criterion.leaf?, Filter.pass, splitIds_joinIds]
  refine ⟨c, built, read, pass, ⟨?clean, fun clean => ?exact⟩⟩
  case clean =>
    -- A test whose id is the entry has to be found by it.
    rintro ⟨g, hg, same⟩ e he ne
    obtain ⟨_, _, found⟩ := (pass g hg _).mp <| (same (.new e "")).mpr ⟨he, ne⟩
    exact (clean_of_mem_splitIds found).2
  case exact =>
    obtain ⟨e, he, ne⟩ := some
    obtain ⟨g, hg⟩ := read.mpr ⟨e, he, by simp [splitIds_of_clean ne (clean e he ne)]⟩
    have kept : entries.flatMap splitIds = entries.filter (· ≠ "") :=
      (splitIds_joinIds entries).symm.trans <| splitIds_joinIds_of_clean clean
    refine ⟨g, hg, fun t => ?_⟩
    rw [pass g hg, ←List.mem_flatMap, kept]
    simp [Selectable.id]

theorem Handle.filter_ids_three_entries :
    ∃ c g, (do (← Handle.new.ids ["7", "", " a,b"]).build) = .ok c ∧ c.filter = .ok g ∧
      ∀ t : TestCase, g.pass t ↔ t.id ∈ ["7", "a", "b"] := by
  have some : ∃ e ∈ ["7", "", " a,b"], e ≠ "" := by decide
  have ⟨c, built, read, pass, _⟩ := Handle.filter_ids some
  have ⟨g, hg⟩ := read.mpr (by decide)
  have found : ["7", "", " a,b"].flatMap splitIds = ["7", "a", "b"] := by decide
  exact ⟨c, g, built, hg, fun t => (pass g hg t).trans <| found ▸ List.mem_flatMap.symm⟩

theorem Handle.filter_ids_comma :
    let pair := TestCase.new "a,b" "T"
    let single := TestCase.new "a" "T"
    ∃ c g, (do (← Handle.new.ids ["a,b"]).build) = .ok c ∧ c.filter = .ok g ∧
      ¬g.pass pair ∧ g.pass single := by
  intro pair single
  let a : Criterion := .ids ⟨"a,b", by decide⟩
  have ⟨c, built, sound, leaf⟩ := Handle.exists_filter_predicate a
  have ⟨g, hg⟩ := sound.mpr <| Criterion.fault?_ids_eq_none_iff.mpr (by decide)
  have asked : Criterion.ofIds ["a,b"] = .ok a := by decide
  refine ⟨c, g, ?_, hg, ?_⟩
  · simp only [Handle.ids, asked]
    exact built
  · rw [leaf g hg]
    decide

end TestSieve
