import TestSieve.Proofs.Definition.Build
import TestSieve.Proofs.Filter.Alternatives

namespace TestSieve

open Element

section

variable {cs : List (List Literal)}

-- Whether there are alternatives is known from the number of clauses.
theorem or_mem_ofClauses_iff : .or ∈ ofClauses cs ↔ 2 ≤ cs.length := by
  cases cs
  case nil  => simp [ofClauses]
  case cons => rw [or_mem_iff, clauses_ofClauses (List.cons_ne_nil _ _)]

-- No clauses are read like a clause without literals.
theorem forall_mem_clauses_iff {p : Literal → Nat → Prop} :
    (∀ c ∈ clauses (ofClauses cs), ∀ l ∈ c, p l c.length) ↔ ∀ c ∈ cs, ∀ l ∈ c, p l c.length := by
  cases cs
  case nil  => simp [ofClauses, clauses, literals, literalsAfter]
  case cons => rw [clauses_ofClauses (List.cons_ne_nil _ _)]

end

section

variable [Regex.Engine]

-- Whether a value is the text, or is found by it.
def compares (text : String) (regex : Bool) (value : String) : Bool :=
  if regex then (Regex.ofPattern? text).any (·.isMatch value) else text == value

def NamePattern.compares (p : NamePattern) (value : String) : Bool :=
  TestSieve.compares p.text p.isRegex value

def Term.holds (t : TestCase) : Term → Bool
  | not operand               => !operand.holds t
  | ids list                  => (list.filter (· ≠ "")).contains t.id
  | field .fullName p         => p.compares t.fullName
  | field .shortName p        => p.compares t.shownName
  | field .className p        => t.className.any p.compares
  | field .methodName p       => t.methodName.any p.compares
  | field .namespaceName p    => t.namespaceName.any p.compares
  | field .category p         => t.categories.any p.compares
  | property name value regex => (t.properties.get name).any (compares value regex)

-- No groups at all select everything.
def Definition.holds (d : Definition) (t : TestCase) : Bool :=
  d.any.isEmpty || d.any.any (·.all.all (·.holds t))

-- A text that is kept as it is and can be compared with.
structure SoundText (text : String) (regex : Bool) : Prop where
  ne_empty : text ≠ ""
  bounded  : Bounded Xml.isBlank text.toList
  accepted : regex → (Regex.ofPattern? text).isSome

-- A list of ids whose entries are kept as they are.
structure SoundIds (list : List String) : Prop where
  entry : ∃ e ∈ list, e ≠ ""
  clean : ∀ e ∈ list, e ≠ "" → ',' ∉ e.toList ∧ Bounded Unicode.isSpace e.toList

def Term.Sound : Term → Prop
  | not operand               => operand.Sound
  | ids list                  => SoundIds list
  | field _ p                 => SoundText p.text p.isRegex
  | property name value regex => name ≠ "" ∧ SoundText value regex

-- Terms that can be read back, even where they stand deepest.
structure Definition.Sound (d : Definition) : Prop where
  groups : ∀ g ∈ d.any, g.all ≠ []
  terms  : ∀ g ∈ d.any, ∀ t ∈ g.all, t.Sound ∧ t.nots ≤ 124

section

variable {c : Criterion}

theorem SoundText.keptText_eq (h : SoundText c.content c.isRegex) : c.keptText = c.content := by
  rw [Criterion.keptText, h.bounded.trim_eq, String.ofList_toList]

theorem SoundText.exists_pattern (h : SoundText c.content c.isRegex) :
    ∃ p, c.pattern? = some p ∧ p.isMatch = compares c.content c.isRegex := by
  unfold Criterion.pattern? compares
  rw [h.keptText_eq]
  split
  case isTrue regex =>
    have ⟨r, hr⟩ := Option.isSome_iff_exists.mp <| h.accepted regex
    exact ⟨.regex c.content r, by simp [hr], by funext v; simp [hr, Pattern.isMatch]⟩
  case isFalse => exact ⟨_, rfl, rfl⟩

theorem SoundText.exists_solid {text : String} {regex : Bool} (h : SoundText text regex) :
    ∃ ch ∈ text.toList, ¬Xml.isBlank ch :=
  h.bounded.exists_solid <| mt String.toList_eq_nil_iff.mp h.ne_empty

theorem SoundText.fault?_eq (h : SoundText c.content c.isRegex) (content : c.HasContent) :
    c.fault? = none := by
  rw [Criterion.fault?_eq_none_iff, Criterion.regexAccepted_iff]
  have ⟨p, hp, _⟩ := h.exists_pattern
  exact ⟨content, by simp [hp]⟩

end

-- A literal that can be read and holds of the same tests as a term.
structure Literal.Says (l : Literal) (term : Term) : Prop where
  fault_eq : l.criterion.fault? = none
  pass_eq  : ∀ t : TestCase, l.tree.pass t = term.holds t

theorem Literal.Says.not {n : Nat} {c : Criterion} {term : Term} (h : Says ⟨n, c⟩ term) :
    Says ⟨n + 1, c⟩ (.not term) where
  fault_eq := h.fault_eq
  pass_eq t := by rw [tree_succ, Filter.pass_not, h.pass_eq, Term.holds]

open Criterion

theorem SoundIds.exists_criterion {list : List String} (h : SoundIds list) :
    ∃ a, Criterion.ofIds list = .ok a ∧ Literal.Says ⟨0, a⟩ (.ids list) := by
  have ⟨e, he, ne⟩ := h.entry
  have some : list.filter (· ≠ "") ≠ [] :=
    List.ne_nil_of_mem <| List.mem_filter.mpr ⟨he, by simpa using ne⟩
  have split := splitIds_joinIds_of_clean h.clean
  have joined : joinIds list ≠ "" := fun eq => some <| by rw [←split, eq]; rfl
  refine ⟨ids ⟨joinIds list, joined⟩, dif_pos joined, ?_, fun t => ?_⟩
  · exact fault?_ids_eq_none_iff.mpr (split ▸ some)
  · rw [Literal.tree_zero, leaf, leaf?, split]
    rfl

-- A part that a test has at most once is looked at like a list of such parts.
theorem holds_field (f : Field) (p : NamePattern) (t : TestCase) :
    (Term.field f p).holds t = (f.texts t).any p.compares := by
  have option (o : Option String) : o.any p.compares = o.toList.any p.compares := by
    cases o <;> simp
  cases f
  case fullName      => exact (Bool.or_false _).symm
  case shortName     => exact (Bool.or_false _).symm
  case className     => exact option _
  case methodName    => exact option _
  case namespaceName => exact option _
  case category      => rfl

theorem SoundText.exists_field {f : Field} {p : NamePattern}
    (h : SoundText p.text p.isRegex) :
    ∃ a, Criterion.named (.field f) p.text p.isRegex = .ok a ∧
      Literal.Says ⟨0, a⟩ (.field f p) := by
  let a := field f ⟨p.text, h.ne_empty⟩ p.isRegex
  have ⟨pattern, hp, compared⟩ := SoundText.exists_pattern (c := a) h
  refine ⟨a, dif_pos h.ne_empty, SoundText.fault?_eq (c := a) h h.exists_solid, fun t => ?_⟩
  have read : a.leaf = .field f pattern := by simp [a, leaf, leaf?, hp]
  rw [Literal.tree_zero, read, Filter.pass, compared, holds_field]
  rfl

theorem SoundText.exists_property {name value : String} {regex : Bool} (hn : name ≠ "")
    (h : SoundText value regex) :
    ∃ a, Criterion.ofProperty name value regex = .ok a ∧
      Literal.Says ⟨0, a⟩ (.property name value regex) := by
  let a := property ⟨name, hn⟩ ⟨value, h.ne_empty⟩ regex
  have ⟨pattern, hp, compared⟩ := SoundText.exists_pattern (c := a) h
  refine ⟨a, ?_, SoundText.fault?_eq (c := a) h trivial, fun t => ?_⟩
  · rw [Criterion.ofProperty, dif_pos hn, dif_pos h.ne_empty]
    rfl
  have read : a.leaf = .property name pattern := by simp [a, leaf, leaf?, hp]
  rw [Literal.tree_zero, read, Filter.pass, compared]
  rfl

theorem Term.Sound.exists_criterion {term : Term} (h : term.Sound) :
    ∃ a, term.criterion? = .ok a ∧ Literal.Says ⟨term.nots, a⟩ term := by
  induction term
  case not hi         => exact (hi h).imp fun _ => And.imp_right Literal.Says.not
  case ids            => exact SoundIds.exists_criterion h
  case field          => exact SoundText.exists_field h
  case property hn hv => exact SoundText.exists_property h.1 h.2

-- A literal that can be read wherever it stands.
def Literal.Readable (l : Literal) : Prop :=
  l.criterion.fault? = none ∧ l.negations ≤ 124

theorem exists_clause {terms : List Term} (h : ∀ t ∈ terms, t.Sound ∧ t.nots ≤ 124) :
    ∃ ls, terms.mapM Term.literal? = .ok ls ∧ ls.length = terms.length ∧ (∀ l ∈ ls, l.Readable) ∧
      ∀ t : TestCase, ls.all (·.tree.pass t) = terms.all (·.holds t) := by
  induction terms
  case nil => exact ⟨[], rfl, rfl, nofun, fun _ => rfl⟩
  case cons term terms hi =>
    obtain ⟨⟨sound, few⟩, h⟩ := List.forall_mem_cons.mp h
    have ⟨a, made, said⟩ := sound.exists_criterion
    have ⟨ls, rest, len, readable, pass⟩ := hi h
    have first : term.literal? = .ok ⟨term.nots, a⟩ := by
      rw [Term.literal?, made]
      rfl
    refine ⟨⟨term.nots, a⟩ :: ls, ?_, by simp [len], ?_, fun t => ?_⟩
    · rw [List.mapM_cons, first, rest]
      rfl
    · exact List.forall_mem_cons.mpr ⟨⟨said.fault_eq, few⟩, readable⟩
    · rw [List.all_cons, List.all_cons, said.pass_eq, pass]

theorem exists_clauses {groups : List Conjunction} (hg : ∀ g ∈ groups, g.all ≠ [])
    (ht : ∀ g ∈ groups, ∀ t ∈ g.all, t.Sound ∧ t.nots ≤ 124) (index : Nat) :
    ∃ cs, Definition.clausesFrom? index groups = .ok cs ∧ cs.length = groups.length ∧
      (∀ c ∈ cs, c ≠ [] ∧ ∀ l ∈ c, l.Readable) ∧
      ∀ t : TestCase, cs.any (·.all (·.tree.pass t)) = groups.any (·.all.all (·.holds t)) := by
  induction groups generalizing index
  case nil => exact ⟨[], rfl, rfl, nofun, fun _ => rfl⟩
  case cons group groups hi =>
    have ⟨ne, hg⟩ := List.forall_mem_cons.mp hg
    have ⟨terms, ht⟩ := List.forall_mem_cons.mp ht
    have ⟨c, made, clen, creadable, cpass⟩ := exists_clause terms
    have ⟨cs, rest, len, readable, pass⟩ := hi hg ht (index + 1)
    have first : group.clause? index = .ok c := by rw [Conjunction.clause?, if_neg ne, made]
    have full : c ≠ [] := List.ne_nil_of_length_pos <| clen ▸ List.length_pos_iff.mpr ne
    refine ⟨c :: cs, ?_, by simp [len], ?_, fun t => ?_⟩
    · rw [Definition.clausesFrom?, first, rest]
      rfl
    · exact List.forall_mem_cons.mpr ⟨⟨full, creadable⟩, readable⟩
    · rw [List.any_cons, List.any_cons, cpass, pass]

section

variable {α : Type} [Selectable α]

theorem pass_ofClauses (t : α) {cs : List (List Literal)} (h : ∀ c ∈ cs, c ≠ []) :
    (tree (ofClauses cs)).pass t = (cs.isEmpty || cs.any (·.all (·.tree.pass t))) := by
  cases cs
  case nil => rfl
  case cons c cs =>
    have spelled := clauses_ofClauses (List.cons_ne_nil c cs)
    have some : (c :: cs).flatten ≠ [] := by simp [h c List.mem_cons_self]
    rw [pass_tree t (.inr (by rwa [spelled])), spelled, someClauseHolds_of_full t h]
    rfl

end

-- A literal that can be read in a group of so many, where there are so many groups.
def Literal.ReadableAmong (groups group : Nat) (l : Literal) : Prop :=
  l.criterion.fault? = none ∧
    l.negations + (if groups < 2 then 2 else if group = 1 then 3 else 4) ≤ 128

theorem Literal.Readable.among {l : Literal} (h : l.Readable) (groups group : Nat) :
    l.ReadableAmong groups group := by
  obtain ⟨sound, few⟩ := h
  refine ⟨sound, ?_⟩
  split <;> [skip; split] <;> omega

section

variable {cs : List (List Literal)} {f : CompiledFilter} {t : Filter}

-- A filter of clauses can be read if each literal can be read where it stands.
theorem filter_ofClauses_eq_ok_iff (h : Chain.compileBody (ofClauses cs) = .ok f) :
    f.filter = .ok t ↔
      (∀ c ∈ cs, ∀ l ∈ c, l.ReadableAmong cs.length c.length) ∧ t = tree (ofClauses cs) := by
  have within : WithinDepth (ofClauses cs) ↔ ∀ c ∈ cs, ∀ l ∈ c,
      l.negations + (if cs.length < 2 then 2 else if c.length = 1 then 3 else 4) ≤ 128 := by
    unfold WithinDepth
    simp only [or_mem_ofClauses_iff, Nat.not_le]
    exact forall_mem_clauses_iff (p := fun l n =>
      l.negations + (if cs.length < 2 then 2 else if n = 1 then 3 else 4) ≤ 128)
  have sound : (∀ l ∈ (clauses (ofClauses cs)).flatten, l.criterion.fault? = none) ↔
      ∀ c ∈ cs, ∀ l ∈ c, l.criterion.fault? = none := by
    rw [List.forall_mem_flatten]
    exact forall_mem_clauses_iff (p := fun l _ => l.criterion.fault? = none)
  simp only [Literal.ReadableAmong, forall_and, ←within, ←sound]
  rw [Chain.filter_compileBody_eq_ok_iff h, and_assoc, and_left_comm]

-- What is readable everywhere is readable where it is spelled.
theorem filter_ofClauses (h : Chain.compileBody (ofClauses cs) = .ok f)
    (readable : ∀ c ∈ cs, ∀ l ∈ c, l.Readable) : f.filter = .ok (tree (ofClauses cs)) :=
  (filter_ofClauses_eq_ok_iff h).mpr ⟨fun c hc l hl => (readable c hc l hl).among _ _, rfl⟩

end

end

namespace Definition

-- A sound definition is built, its filter can be read, and what it selects are the tests of which
-- some group holds, in their order.
theorem select_build [Regex.Engine] {d : Definition} (h : d.Sound) (tests : List TestCase) :
    ∃ f, d.build = .ok f ∧ (∃ g, f.filter = .ok g) ∧
      f.select tests = .ok (tests.filter d.holds) := by
  have ⟨cs, made, len, readable, pass⟩ := exists_clauses h.groups h.terms 0
  have compiled := Chain.compileBody_ofClauses cs
  have built : d.build = Chain.compileBody (ofClauses cs) := by
    rw [build_eq, clauses?, made]
    rfl
  have read := filter_ofClauses compiled fun c hc => (readable c hc).2
  have meant (t : TestCase) : (tree (ofClauses cs)).pass t = d.holds t := by
    have none : cs.isEmpty = d.any.isEmpty := by
      rw [Bool.eq_iff_iff, List.isEmpty_iff_length_eq_zero, len, List.isEmpty_iff_length_eq_zero]
    rw [pass_ofClauses t fun c hc => (readable c hc).1, pass, none]
    rfl
  refine ⟨_, built.trans compiled, ⟨_, read⟩, ?_⟩
  rw [CompiledFilter.select, read]
  exact congrArg Except.ok <| List.filter_congr fun t _ => meant t

theorem select_build_two_groups :
    let quick : Term := .not (.field .category (.literal "slow"))
    let reading : Term := .field .shortName (.detailed "^re" true)
    let d : Definition := { any := [⟨[quick, reading]⟩, ⟨[.ids ["", "7"]]⟩] }
    let read := TestCase.new "1" "A.read"
    let write := TestCase.new "7" "A.write"
    let reset := (TestCase.new "2" "A.reset").withCategory "slow"
    d.Sound ∧ ∃ f, d.build = .ok f ∧ (∃ g, f.filter = .ok g) ∧
      f.select [write, reset, read, write] = .ok [write, read, write] := by
  intro quick reading d read write reset
  have slow : SoundText "slow" false := ⟨by decide, by decide, nofun⟩
  have pattern : SoundText "^re" true := ⟨by decide, by decide, fun _ => by decide +kernel⟩
  have listed : SoundIds ["", "7"] := ⟨by decide, by decide⟩
  have sound : d.Sound := by
    constructor <;> simp [d, quick, reading, Term.Sound, Term.nots]
    exact ⟨⟨slow, pattern⟩, listed⟩
  obtain ⟨f, built, parsed, selected⟩ := select_build sound [write, reset, read, write]
  have kept : [write, reset, read, write].filter d.holds = [write, read, write] := by
    decide +kernel
  exact ⟨sound, f, built, parsed, selected.trans <| congrArg Except.ok kept⟩

end Definition

end TestSieve
