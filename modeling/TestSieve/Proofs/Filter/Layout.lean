import TestSieve.Proofs.Filter.Tree

namespace TestSieve

namespace Layout

section

variable {α β : Type} {tag : String} {items : List (Layout α)}

@[elab_as_elim]
theorem induct {motive : Layout α → Prop} (element : ∀ a, motive (.element a))
    (group : ∀ tag items, (∀ i ∈ items, motive i) → motive (.group tag items)) (l : Layout α) :
    motive l :=
  match l with
  | .element a       => element a
  | .group tag items => group tag items fun i _ => induct element group i

-- What is laid out, in order.
def toList : Layout α → List α
  | element a     => [a]
  | group _ items => items.flatMap toList

-- The tags of all groups.
def tags : Layout α → List String
  | element _       => []
  | group tag items => tag :: items.flatMap tags

-- How many levels the text of a layout has. Only groups of several items add one.
def depth : Layout α → Nat
  | element _     => 1
  | group _ items => (items.map depth).foldr max 0 + if items.length ≤ 1 then 0 else 1

-- What a layout stands for. An element is a leaf and a group of several items a node, but a group
-- of one stands for what its item stands for, and an empty one for nothing.
def trees (leaf : α → β) (node : String → List β → β) : Layout α → List β
  | element a       => [leaf a]
  | group tag items =>
    if items.length ≤ 1 then items.flatMap (trees leaf node)
    else [node tag (items.flatMap (trees leaf node))]

theorem depth_group (tag : String) (items : List (Layout α)) :
    depth (group tag items) = deepest depth items + if items.length ≤ 1 then 0 else 1 := by
  rw [depth, List.foldr_map]
  rfl

-- A group is opened up only where this leaves at most one tree.
theorem length_trees_le (leaf : α → β) (node : String → List β → β) (l : Layout α) :
    (l.trees leaf node).length ≤ 1 := by
  induction l using Layout.induct
  case element => simp [trees]
  case group tag items hi =>
    rw [trees]
    split
    case isFalse    => simp
    case isTrue few =>
      match items with
      | []  => simp
      | [i] => simpa using hi i List.mem_cons_self

theorem render_group (item : α → List Char) (tag : String) (items : List (Layout α)) :
    (group tag items).render item true =
      if items.length ≤ 1 then items.flatMap (render item true)
      else Xml.wrap tag (items.flatMap (render item true)) := by
  match items with
  | []             => simp [render]
  | [i]            => simp [render]
  | i :: j :: rest =>
    rw [render, write_group_of_two_le _ _ _ (by simp), if_pos rfl, if_neg (by simp)]
    rfl

-- All groups are conjunctions or disjunctions.
def Connects (l : Layout α) : Prop :=
  ∀ tag ∈ l.tags, tag = "and" ∨ tag = "or"

theorem connects_group :
    (group tag items).Connects ↔ (tag = "and" ∨ tag = "or") ∧ ∀ i ∈ items, i.Connects := by
  simp only [Connects, tags, List.forall_mem_cons, List.forall_mem_flatMap]

end

-- The elements that a layout of criteria is written as.
def elements (l : Layout Criterion) : List Xml.Element :=
  l.trees Criterion.element fun tag children => ⟨tag, [], "", children⟩

variable {tag : String} {items : List (Layout Criterion)} {l : Layout Criterion}

theorem readsAs_render (h : l.Connects) :
    Xml.ReadsAs (l.render Criterion.render true) l.elements l.depth := by
  induction l using Layout.induct
  case element c => simpa [render, elements, trees, depth] using c.readsAs_render
  case group tag items hi =>
    obtain ⟨connective, h⟩ := connects_group.mp h
    have read : Xml.ReadsAs (items.flatMap (render Criterion.render true))
        (items.flatMap elements) (deepest depth items) := .flatMap fun i hm => hi i hm (h i hm)
    have named : Xml.IsName tag := by
      rcases connective with rfl | rfl
      · exact Kind.and.isName_tag
      · exact Kind.or.isName_tag
    rw [render_group, depth_group, elements, trees]
    split
    case isTrue  => exact read
    case isFalse => exact read.wrap named

-- A group of several items that leaves its own tag out is written as its items are.
theorem readsAs_render_bare (h : (group tag items).Connects) (several : 2 ≤ items.length) :
    Xml.ReadsAs ((group tag items).render Criterion.render false) (items.flatMap elements)
      (deepest depth items) := by
  rw [render, write_group_of_two_le _ _ _ several]
  exact .flatMap fun i hm => readsAs_render <| (connects_group.mp h).2 i hm

variable [Regex.Engine]

def connect (tag : String) (parts : List Filter) : Filter :=
  if tag = "or" then .or parts else .and parts

-- The filters that a layout of criteria stands for.
def content (l : Layout Criterion) : List Filter :=
  l.trees Criterion.leaf connect

theorem means_elements (h : l.Connects) :
    Filter.Means l.elements (l.toList.map (Literal.mk 0)) l.content := by
  induction l using Layout.induct
  case element c =>
    rw [elements, trees, toList, content, trees]
    exact Filter.Means.literal ⟨0, c⟩
  case group tag items hi =>
    obtain ⟨connective, h⟩ := connects_group.mp h
    have meant : Filter.Means (items.flatMap elements)
        (items.flatMap (·.toList.map (Literal.mk 0))) (items.flatMap content) :=
      .flatMap fun i hm => hi i hm (h i hm)
    rw [←List.map_flatMap] at meant
    rw [elements, trees, toList, content, trees]
    split
    case isTrue  => exact meant
    case isFalse =>
      rcases connective with rfl | rfl
      · exact meant.and
      · exact meant.or

theorem means_items (h : (group tag items).Connects) :
    Filter.Means (items.flatMap elements) ((group tag items).toList.map (Literal.mk 0))
      (items.flatMap content) := by
  rw [toList, List.map_flatMap]
  exact .flatMap fun i hm => means_elements <| (connects_group.mp h).2 i hm

end Layout

theorem Criterion.leaf?_eq_some_leaf_iff [Regex.Engine] {c : Criterion} :
    c.leaf? = some c.leaf ↔ c.RegexAccepted := by
  refine ⟨fun h => ?_, leaf?_eq_some_leaf⟩
  rw [regexAccepted_iff]
  cases c
  case ids => rfl
  all_goals
    obtain ⟨p, hp, _⟩ := Option.map_eq_some_iff.mp h
    exact Option.isSome_of_eq_some hp

namespace Filter

theorem ofParts_eq_iff {fs : List Filter} {f : Filter} :
    ofParts fs = f ↔ fs = [] ∧ f = .empty ∨ fs = [f] ∨ 2 ≤ fs.length ∧ f = .and fs := by
  match fs with
  | []          => simp [ofParts, eq_comm]
  | [g]         => simp [ofParts]
  | g :: h :: _ => simp [ofParts, eq_comm]

section

variable [Regex.Engine] {t : List Char} {es : List Xml.Element} {cs : List Criterion}
  {fs : List Filter} {f : Filter} {n : Nat}

-- A document of elements that mean something is read, unless it is too deep or has a fault in it.
theorem parse_wrap_eq_ok_iff (read : Xml.ReadsAs t es n)
    (meant : Means es (cs.map (Literal.mk 0)) fs) :
    parse ("<filter>" ++ .ofList t ++ "</filter>") = .ok f ↔
      n + 1 ≤ 128 ∧ (∀ c ∈ cs, c.HasContent ∧ c.leaf? = some c.leaf) ∧
        (fs = [] ∧ f = .empty ∨ fs = [f] ∨ 2 ≤ fs.length ∧ f = .and fs) := by
  have text : ("<filter>" ++ .ofList t ++ "</filter>").toList = Xml.wrap Kind.root.tag t := by
    simp [Xml.wrap]
    rfl
  simp only [Criterion.leaf?_eq_some_leaf_iff, ←Criterion.fault?_eq_none_iff, ←ofParts_eq_iff]
  rw [parse, text, Xml.readDocument_wrap Kind.root.isName_tag read, Xml.maxDepth]
  by_cases deep : n + 1 ≤ 128
  case neg =>
    rw [if_neg deep]
    refine iff_of_false (fun read => ?_) (deep ·.1)
    cases read
  case pos =>
    rw [if_pos deep, and_iff_right deep]
    refine (iff_of_eq <| congrArg (· = Except.ok f) meant.document).trans ?_
    rw [elim_findSome?_eq_ok_iff, List.forall_mem_map, eq_comm (a := f)]

-- A layout is read as what it stands for. Where the outermost group leaves its tag out, what its
-- items stand for is one conjunction, as in any document.
theorem parse_layout {tag : String} {items : List (Layout Criterion)}
    (h : (Layout.group tag items).Connects) :
    let l := Layout.group tag items
    let document (tagged : Bool) : String :=
      "<filter>" ++ .ofList (l.render Criterion.render tagged) ++ "</filter>"
    let sound := ∀ c ∈ l.toList, c.HasContent ∧ c.leaf? = some c.leaf
    (∀ f, parse (document true) = .ok f ↔
      l.depth + 1 ≤ 128 ∧ sound ∧ (l.content = [] ∧ f = .empty ∨ l.content = [f])) ∧
    (2 ≤ items.length → ∀ f, parse (document false) = .ok f ↔
      let parts := items.flatMap Layout.content
      deepest Layout.depth items + 1 ≤ 128 ∧ sound ∧
        (parts = [] ∧ f = .empty ∨ parts = [f] ∨ 2 ≤ parts.length ∧ f = .and parts)) := by
  intro l document sound
  refine ⟨fun f => ?tagged, fun several f => ?bare⟩
  case tagged =>
    have single : ¬2 ≤ (Layout.group tag items).content.length :=
      Nat.not_le_of_lt <| Nat.lt_succ_of_le <| Layout.length_trees_le ..
    have read := parse_wrap_eq_ok_iff (f := f) (Layout.readsAs_render h) (Layout.means_elements h)
    simpa only [single, false_and, or_false] using read
  case bare =>
    exact parse_wrap_eq_ok_iff (Layout.readsAs_render_bare h several) (Layout.means_items h)

end

theorem parse_layout_nested :
    let fast : Criterion := .field .category ⟨" fast\n", by decide⟩ false
    let listed : Criterion := .ids ⟨"7, ,8", by decide⟩
    let owned : Criterion := .property ⟨" k", by decide⟩ ⟨"v<", by decide⟩ false
    let items : List (Layout Criterion) := [
      .group "and" [.element fast, .group "or" [], .group "or" [.element listed]],
      .group "or" [.group "and" [.element owned]],
      .group "and" [.group "or" [], .group "and" []]]
    let l := Layout.group "or" items
    let document (tagged : Bool) : String :=
      "<filter>" ++ .ofList (l.render Criterion.render tagged) ++ "</filter>"
    let parts : List Filter := [.and [.field .category (.literal "fast"), .ids ["7", "8"]],
      .property " k" (.literal "v<"), .and []]
    l.Connects ∧ 2 ≤ items.length ∧
      document false = "<filter><and><cat> fast\n</cat><id>7, ,8</id></and>" ++
        "<prop name=\" k\">v&lt;</prop><and></and></filter>" ∧
      parse (document true) = .ok (.or parts) ∧ parse (document false) = .ok (.and parts) := by
  intro fast listed owned items l document parts
  have h : l.Connects := by simp [l, items, Layout.Connects, Layout.tags]
  have leaves : fast.leaf = .field .category (.literal "fast") ∧ listed.leaf = .ids ["7", "8"] ∧
      owned.leaf = .property " k" (.literal "v<") := by
    refine ⟨?_, ?_, ?_⟩ <;> cbv
  have content : items.flatMap Layout.content = parts := by
    simp [items, parts, Layout.content, Layout.trees, Layout.connect, leaves]
  have whole : l.content = [.or parts] := by
    simp [l, Layout.content, Layout.trees, Layout.connect, ←content, items]
  have depth : l.depth + 1 ≤ 128 := by simp [l, items, Layout.depth]
  have depth' : deepest Layout.depth items + 1 ≤ 128 := by simp [items, deepest, Layout.depth]
  have sound : ∀ c ∈ l.toList, c.HasContent ∧ c.leaf? = some c.leaf := by
    have listed : l.toList = [fast, listed, owned] := by simp [l, items, Layout.toList]
    simp only [listed, Criterion.leaf?_eq_some_leaf_iff]
    decide
  obtain ⟨tagged, bare⟩ := parse_layout h
  refine ⟨h, by decide, by decide +kernel, ?_, ?_⟩
  · exact (tagged _).mpr ⟨depth, sound, .inr whole⟩
  · rw [content] at bare
    exact (bare (by decide) _).mpr ⟨depth', sound, .inr <| .inr ⟨by decide, rfl⟩⟩

end Filter

end TestSieve
