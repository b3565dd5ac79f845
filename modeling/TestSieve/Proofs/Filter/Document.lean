import TestSieve.Proofs.Chain.Compile
import TestSieve.Proofs.Xml.Fragment

namespace TestSieve

-- The depth of the deepest part.
def deepest {α : Type} (depth : α → Nat) (parts : List α) : Nat :=
  parts.foldr (fun a n => max (depth a) n) 0

theorem deepest_le_iff {α : Type} {depth : α → Nat} {parts : List α} {n : Nat} :
    deepest depth parts ≤ n ↔ ∀ a ∈ parts, depth a ≤ n := by
  induction parts
  case nil          => simp [deepest]
  case cons a as hi =>
    simp only [deepest, List.foldr_cons, Nat.max_le, List.forall_mem_cons] at hi ⊢
    rw [hi]

theorem Xml.ReadsAs.flatMap {α : Type} {write : α → List Char} {elements : α → List Xml.Element}
    {depth : α → Nat} {parts : List α}
    (h : ∀ a ∈ parts, ReadsAs (write a) (elements a) (depth a)) :
    ReadsAs (parts.flatMap write) (parts.flatMap elements) (deepest depth parts) := by
  induction parts
  case nil          => exact .nil
  case cons a as hi =>
    rw [List.flatMap_cons, List.flatMap_cons]
    exact (h a List.mem_cons_self).append <| hi fun b hb => h b <| List.mem_cons_of_mem _ hb

theorem Kind.isName_tag (k : Kind) : Xml.IsName k.tag := by
  cases k
  case field f => cases f <;> decide
  all_goals decide

namespace Criterion

def attributes (c : Criterion) : List Xml.Attribute :=
  (if c.isRegex then [⟨"re", "1"⟩] else []) ++
    match c with
    | property n _ _ => [⟨"name", n.val⟩]
    | _              => []

-- What stands between the tags: the value of a property, else the name.
def content : Criterion → String
  | property _ v _ => v.val
  | c              => c.name

def element (c : Criterion) : Xml.Element where
  tag        := c.kind.tag
  attributes := c.attributes
  text       := .ofList (Xml.trim c.content.toList)
  children   := []

theorem wellNamed (c : Criterion) : Xml.WellNamed c.kind.tag c.attributes where
  tag   := c.kind.isName_tag
  keys  := by
    rcases c with _ | ⟨_, _, _ | _⟩ | ⟨_, _, _ | _⟩ <;> simp [attributes, isRegex] <;>
      decide
  nodup := by
    rcases c with _ | ⟨_, _, _ | _⟩ | ⟨_, _, _ | _⟩ <;> simp [attributes, isRegex]

theorem render_eq (c : Criterion) :
    c.render = Xml.renderElement c.kind.tag c.attributes (Xml.escapeText c.content.toList) := by
  rcases c with _ | ⟨_, _, _ | _⟩ | ⟨_, _, _ | _⟩ <;>
    simp [render, attributes, isRegex, content, Xml.renderElement, Xml.tagContent,
      Xml.Attribute.render, Xml.closeTag]

theorem readsAs_render (c : Criterion) : Xml.ReadsAs c.render [c.element] 1 :=
  c.render_eq ▸ .text c.wellNamed c.content.toList

end Criterion

namespace Literal

def element (l : Literal) : Xml.Element :=
  l.negations.repeat (fun e => ⟨Kind.not.tag, [], "", [e]⟩) l.criterion.element

def depth (l : Literal) : Nat :=
  l.negations + 1

theorem readsAs_render (l : Literal) : Xml.ReadsAs l.render [l.element] l.depth := by
  obtain ⟨negations, c⟩ := l
  induction negations
  case zero      => exact c.readsAs_render
  case succ _ hi => exact hi.wrap Kind.not.isName_tag

theorem readsAs_flatMap_render (ls : List Literal) :
    Xml.ReadsAs (ls.flatMap render) (ls.map element) (deepest depth ls) := by
  rw [List.map_eq_flatMap]
  exact .flatMap fun l _ => l.readsAs_render

end Literal

namespace Element

-- A group as elements: none, the only one, or one for all of them.
def clauseElements (clause : List Literal) : List Xml.Element :=
  match clause with
  | []  => []
  | [l] => [l.element]
  | ls  => [⟨Kind.and.tag, [], "", ls.map Literal.element⟩]

-- Literals lie one level deeper if their group is an element of its own.
def clauseDepth (clause : List Literal) : Nat :=
  match clause with
  | []  => 0
  | [l] => l.depth
  | ls  => deepest Literal.depth ls + 1

theorem readsAs_renderClause (clause : List Literal) :
    Xml.ReadsAs (renderClause clause) (clauseElements clause) (clauseDepth clause) := by
  match clause with
  | []           => exact .nil
  | [l]          => exact l.readsAs_render
  | l :: m :: ls => exact (Literal.readsAs_flatMap_render _).wrap Kind.and.isName_tag

-- The children of the top element.
def bodyElements (es : List Element) : List Xml.Element :=
  if .or ∈ es then [⟨Kind.or.tag, [], "", (clauses es).flatMap clauseElements⟩]
  else (clauses es).flatMap (·.map Literal.element)

def bodyDepth (es : List Element) : Nat :=
  if .or ∈ es then deepest clauseDepth (clauses es) + 1
  else deepest (deepest Literal.depth) (clauses es)

theorem readsAs_renderBody (es : List Element) :
    Xml.ReadsAs (renderBody es) (bodyElements es) (bodyDepth es) := by
  unfold renderBody bodyElements bodyDepth
  split
  case isTrue =>
    exact (Xml.ReadsAs.flatMap fun c _ => readsAs_renderClause c).wrap Kind.or.isName_tag
  case isFalse => exact .flatMap fun c _ => Literal.readsAs_flatMap_render c

-- How deep the literals of a chain may go: the top element is one level, and every negation is one
-- more, and so are the elements for the disjunction and for a group of several literals.
def WithinDepth (es : List Element) : Prop :=
  ∀ clause ∈ clauses es, ∀ l ∈ clause,
    l.negations + (if .or ∉ es then 2 else if clause.length = 1 then 3 else 4) ≤ 128

instance (es : List Element) : Decidable (WithinDepth es) :=
  inferInstanceAs (Decidable (∀ clause ∈ clauses es, ∀ l ∈ clause, _))

theorem clauseDepth_le_iff {clause : List Literal} {n : Nat} :
    clauseDepth clause ≤ n ↔
      ∀ l ∈ clause, l.depth + (if clause.length = 1 then 0 else 1) ≤ n := by
  match clause with
  | []           => simp [clauseDepth]
  | [l]          => simp [clauseDepth]
  | l :: m :: ls =>
    have len : (l :: m :: ls).length ≠ 1 := by simp
    simp only [if_neg len]
    cases n
    case zero   =>
      exact iff_of_false (Nat.not_succ_le_zero _) fun h =>
        Nat.not_succ_le_zero _ <| h l List.mem_cons_self
    case succ n =>
      simp only [clauseDepth, Nat.add_le_add_iff_right]
      exact deepest_le_iff

theorem bodyDepth_le_iff (es : List Element) :
    bodyDepth es + 1 ≤ Xml.maxDepth ↔ WithinDepth es := by
  unfold bodyDepth WithinDepth
  split
  case isTrue ho =>
    have split : deepest clauseDepth (clauses es) + 1 + 1 ≤ Xml.maxDepth ↔
        ∀ clause ∈ clauses es, clauseDepth clause ≤ 126 := by
      rw [← deepest_le_iff, Xml.maxDepth]
      omega
    rw [split]
    refine forall₂_congr fun clause _ => clauseDepth_le_iff.trans <| forall₂_congr fun l _ => ?_
    simp only [Literal.depth]
    split <;> omega
  case isFalse ho =>
    have split : deepest (deepest Literal.depth) (clauses es) + 1 ≤ Xml.maxDepth ↔
        ∀ clause ∈ clauses es, deepest Literal.depth clause ≤ 127 := by
      rw [← deepest_le_iff, Xml.maxDepth]
      omega
    rw [split]
    refine forall₂_congr fun clause _ => deepest_le_iff.trans <| forall₂_congr fun l _ => ?_
    simp only [Literal.depth]
    omega

end Element

open Element

-- What compiling gives can be read, unless it is too deep.
theorem Chain.readDocument_compileBody {es : List Element} {f : CompiledFilter}
    (h : compileBody es = .ok f) :
    Xml.readDocument f.xml.toList =
      if WithinDepth es then .ok ⟨Kind.root.tag, [], "", bodyElements es⟩
      else .error (.malformed (.tooDeep Xml.maxDepth)) := by
  have ⟨_, hx⟩ := compileBody_eq_ok h
  rw [hx, String.toList_ofList,
    Xml.readDocument_wrap Kind.root.isName_tag (readsAs_renderBody es)]
  simp only [bodyDepth_le_iff]

end TestSieve
