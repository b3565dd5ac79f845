import TestSieve.Xml.Document

namespace TestSieve.Xml

theorem bind_eq_ok {ε α β : Type} {x : Except ε α} {f : α → Except ε β} {b : β} :
    x >>= f = .ok b ↔ ∃ a, x = .ok a ∧ f a = .ok b := by
  cases x <;> simp [bind, Except.bind]

theorem map_eq_ok {ε α β : Type} {x : Except ε α} {f : α → β} {b : β} :
    f <$> x = .ok b ↔ ∃ a, x = .ok a ∧ f a = b := by
  cases x <;> simp [Functor.map, Except.map]

theorem ok_of_mapError {ε ε' α : Type} {x : Except ε α} {f : ε → ε'} {a : α}
    (h : x.mapError f = .ok a) : x = .ok a := by
  cases x <;> cases h
  rfl

-- The items that come from a phase on.
def Phase.items : Phase → List Char → Except Error (List Item)
  | p, []      => do return (← p.finish).toList
  | p, c :: cs => do
    let (q, item) ← p.step c
    return item.toList ++ (← q.items cs)

-- The document that is built of certain items.
def Builder.build (b : Builder) (items : List Item) : Except FilterError Element := do
  (← items.foldlM take b).finish

theorem Builder.build_append_ok {b b' : Builder} {items more : List Item}
    (h : items.foldlM take b = .ok b') : b.build (items ++ more) = b'.build more := by
  rw [build, List.foldlM_append, h]
  rfl

namespace Reader

variable {p : Phase} {b : Builder}

theorem deliver_eq (item : Option Item) :
    deliver ⟨p, b⟩ item = (⟨p, ·⟩) <$> item.toList.foldlM Builder.take b := by
  cases item <;> simp [deliver]

theorem exists_of_step {c : Char} {r : Reader} (h : step ⟨p, b⟩ c = .ok r) :
    ∃ q item b', p.step c = .ok (q, item) ∧ item.toList.foldlM Builder.take b = .ok b' ∧
      r = ⟨q, b'⟩ := by
  have ⟨(q, item), moved, delivered⟩ := bind_eq_ok.mp h
  have ⟨b', taken, made⟩ := map_eq_ok.mp <| (deliver_eq item).symm.trans delivered
  exact ⟨q, item, b', ok_of_mapError moved, taken, made.symm⟩

theorem exists_of_finish {document : Element} (h : finish ⟨p, b⟩ = .ok document) :
    ∃ item, p.finish = .ok item ∧ b.build item.toList = .ok document := by
  have ⟨item, last, h⟩ := bind_eq_ok.mp h
  rw [deliver_eq, bind_map_left] at h
  exact ⟨item, ok_of_mapError last, h⟩

-- The items are handed on one by one, but it can be told beforehand which they are.
theorem exists_items {text : List Char} {document : Element}
    (h : (do (← text.foldlM step ⟨p, b⟩).finish) = .ok document) :
    ∃ items, p.items text = .ok items ∧ b.build items = .ok document := by
  induction text generalizing p b
  case nil =>
    have ⟨item, last, built⟩ := exists_of_finish h
    refine ⟨item.toList, ?_, built⟩
    rw [Phase.items, last]
    rfl
  case cons c cs hi =>
    rw [List.foldlM_cons, bind_assoc] at h
    have ⟨_, stepped, h⟩ := bind_eq_ok.mp h
    obtain ⟨q, item, b', moved, taken, rfl⟩ := exists_of_step stepped
    have ⟨items, rest, built⟩ := hi h
    refine ⟨item.toList ++ items, ?_, (Builder.build_append_ok taken).trans built⟩
    simp only [Phase.items, bind_eq_ok]
    exact ⟨_, moved, _, rest, rfl⟩

end Reader

-- An element as its tag shows it, and the level that it stands at.
structure Place where
  tag        : String
  level      : Nat
  selfClosed : Bool

namespace Place

def entry (p : Place) : String × Nat :=
  (p.tag, p.level)

-- What is held to the limit is how many elements are open, so one that closes itself may still
-- stand inside of the last of them.
def Allowed (p : Place) : Prop :=
  p.level ≤ maxDepth ∨ p.selfClosed ∧ p.level = maxDepth + 1

end Place

namespace Item

def tagName (content : List Char) : String :=
  .ofList (content.takeWhile (!isBlank ·))

-- The element that begins with an item, where `n` elements are open.
def place? (n : Nat) : Item → Option Place
  | opening content => some ⟨tagName content, n + 1, false⟩
  | empty content   => some ⟨tagName content, n + 1, true⟩
  | _               => none

-- How many elements are open after an item.
def opened (n : Nat) : Item → Nat
  | opening _ => n + 1
  | closing _ => n - 1
  | _         => n

def places (n : Nat) : List Item → List Place
  | []            => []
  | item :: items => (item.place? n).toList ++ places (item.opened n) items

end Item

-- The elements that the tags of a text show. The top element stands at level 1.
def placesIn (text : List Char) : Except Error (List Place) :=
  Item.places 0 <$> Phase.outside.items (withoutMark text)

namespace Element

mutual

-- An element and all that it contains, each with its level.
def outline (level : Nat) : Element → List (String × Nat)
  | ⟨tag, _, _, children⟩ => (tag, level) :: outlines (level + 1) children

def outlines (level : Nat) : List Element → List (String × Nat)
  | []      => []
  | e :: es => outline level e ++ outlines level es

end

theorem outlines_concat (level : Nat) (es : List Element) (e : Element) :
    outlines level (es ++ [e]) = outlines level es ++ outline level e := by
  induction es
  case nil          => simp [outlines]
  case cons f es hi => simp [outlines, hi]

-- The elements that are open, and what they contain so far.
def openOutline : List Element → List (String × Nat)
  | []         => []
  | e :: outer =>
    openOutline outer ++ (e.tag, outer.length + 1) :: outlines (outer.length + 2) e.children.reverse

theorem openOutline_cons (e : Element) (outer : List Element) :
    openOutline (e :: outer) =
      openOutline outer ++ outline (outer.length + 1) (Builder.completed e) := rfl

theorem openOutline_child (e parent : Element) (outer : List Element) :
    openOutline ({ parent with children := e :: parent.children } :: outer) =
      openOutline (parent :: outer) ++ outline (outer.length + 2) e := by
  simp [openOutline, outlines_concat]

end Element

namespace Builder

open Xml.Element

variable {b b' : Builder} {e : Element} {item : Item} {items : List Item}

def outline (b : Builder) : List (String × Nat) :=
  b.top.elim [] (Element.outline 1) ++ openOutline b.opened

-- The elements of two builders, where the second one has more of them.
structure Adds (b b' : Builder) (opened : Nat) (more : List (String × Nat)) : Prop where
  length_opened : b'.opened.length = opened
  outline_eq    : b'.outline = b.outline ++ more

theorem adds_of_place (h : b.place e = .ok b') :
    Adds b b' b.opened.length (e.outline (b.opened.length + 1)) := by
  unfold place at h
  split at h <;> cases h
  case h_1 parent outer _ opened =>
    exact ⟨by simp [opened], by simp [outline, opened, openOutline_child]⟩
  case h_2 opened top => exact ⟨by simp [opened], by simp [outline, opened, top, openOutline]⟩

theorem adds_of_addText {text : List Char} (h : b.addText text = .ok b') :
    Adds b b' b.opened.length [] := by
  unfold addText at h
  split at h <;> cases h
  case h_1 e outer opened => exact ⟨by simp [opened], by simp [outline, opened, openOutline]⟩

theorem tag_of_ofTag {content : List Char} (h : Element.ofTag content = .ok e) :
    e.tag = Item.tagName content ∧ e.children = [] := by
  have ⟨_, _, made⟩ := bind_eq_ok.mp h
  cases made
  exact ⟨rfl, rfl⟩

theorem outline_of_ofTag {content : List Char} (h : Element.ofTag content = .ok e) (level : Nat) :
    e.outline level = [(Item.tagName content, level)] := by
  have ⟨tag, bare⟩ := tag_of_ofTag h
  rw [←tag]
  cases e
  cases bare
  rfl

theorem exists_of_opening {content : List Char} (h : b.take (.opening content) = .ok b') :
    b.opened.length < maxDepth ∧
      ∃ e, Element.ofTag content = .ok e ∧ b' = { b with opened := e :: b.opened } := by
  simp only [take] at h
  split at h
  case isTrue => cases h
  case isFalse few =>
    have ⟨e, made, h⟩ := bind_eq_ok.mp h
    cases h
    exact ⟨Nat.not_le.mp few, e, ok_of_mapError made, rfl⟩

theorem exists_of_closing {content : List Char} (h : b.take (.closing content) = .ok b') :
    ∃ e outer, b.opened = e :: outer ∧
      { b with opened := outer }.place (completed e) = .ok b' := by
  simp only [take] at h
  split at h
  case h_1 => cases h
  case h_2 e outer opened =>
    split at h <;> try cases h
    exact ⟨e, outer, opened, h⟩

-- What a builder takes adds the element that the item shows.
theorem adds_of_take (h : b.take item = .ok b') :
    Adds b b' (item.opened b.opened.length)
      ((item.place? b.opened.length).toList.map Place.entry) := by
  cases item
  case text raw =>
    have ⟨_, _, h⟩ := bind_eq_ok.mp h
    exact adds_of_addText h
  case literal content => exact adds_of_addText h
  case opening content =>
    obtain ⟨_, e, made, rfl⟩ := exists_of_opening h
    have ⟨tag, bare⟩ := tag_of_ofTag made
    refine ⟨rfl, ?_⟩
    simp [outline, openOutline, outlines, Item.place?, Place.entry, tag, bare]
  case empty content =>
    have ⟨e, made, h⟩ := bind_eq_ok.mp h
    have added := adds_of_place h
    rwa [outline_of_ofTag (ok_of_mapError made)] at added
  case closing content =>
    have ⟨e, outer, opened, h⟩ := exists_of_closing h
    have added := adds_of_place h
    refine ⟨?_, ?_⟩
    · rw [added.length_opened, opened]
      rfl
    · rw [added.outline_eq, outline, outline, opened, openOutline_cons]
      simp [Item.place?]

theorem allowed_of_take (h : b.take item = .ok b') (within : b.opened.length ≤ maxDepth) :
    b'.opened.length ≤ maxDepth ∧ ∀ p ∈ item.place? b.opened.length, p.Allowed := by
  rw [(adds_of_take h).length_opened]
  cases item
  case opening content =>
    have few := (exists_of_opening h).1
    refine ⟨few, fun p hp => ?_⟩
    cases hp
    exact .inl few
  case empty content =>
    refine ⟨within, fun p hp => ?_⟩
    cases hp
    exact (Nat.lt_or_eq_of_le within).imp id fun full => ⟨rfl, congrArg (· + 1) full⟩
  case closing content => exact ⟨Nat.le_trans (Nat.sub_le _ _) within, nofun⟩
  all_goals exact ⟨within, nofun⟩

-- What is taken in a whole run are the elements that the items show, and each is allowed where it
-- stands.
theorem adds_of_foldlM (h : items.foldlM take b = .ok b') (within : b.opened.length ≤ maxDepth) :
    b'.outline = b.outline ++ (Item.places b.opened.length items).map Place.entry ∧
      ∀ p ∈ Item.places b.opened.length items, p.Allowed := by
  induction items generalizing b
  case nil =>
    cases h
    simp [Item.places]
  case cons item items hi =>
    rw [List.foldlM_cons] at h
    have ⟨c, taken, h⟩ := bind_eq_ok.mp h
    have added := adds_of_take taken
    have ⟨within', first⟩ := allowed_of_take taken within
    have ⟨rest, allowed⟩ := hi h within'
    rw [added.length_opened] at rest allowed
    refine ⟨?_, ?_⟩
    · rw [rest, added.outline_eq, Item.places, List.map_append, List.append_assoc]
    · rw [Item.places, List.forall_mem_append]
      exact ⟨fun p hp => first p <| Option.mem_toList.mp hp, allowed⟩

theorem outline_of_finish {document : Element} (h : b.finish = .ok document) :
    b.outline = document.outline 1 := by
  unfold finish at h
  split at h <;> cases h
  case h_2 opened top => simp [outline, opened, top, openOutline]

end Builder

-- The elements of a document that is read are those that its tags show, in their order.
theorem exists_placesIn {text : List Char} {document : Element}
    (h : readDocument text = .ok document) :
    ∃ places, placesIn text = .ok places ∧ document.outline 1 = places.map Place.entry ∧
      ∀ p ∈ places, p.Allowed := by
  have ⟨items, come, built⟩ := Reader.exists_items h
  have ⟨b, taken, finished⟩ := bind_eq_ok.mp built
  have ⟨added, allowed⟩ := Builder.adds_of_foldlM taken (Nat.zero_le _)
  refine ⟨Item.places 0 items, ?_, ?_, allowed⟩
  · rw [placesIn, come]
    rfl
  · rw [←Builder.outline_of_finish finished, added]
    rfl

example : placesIn "<a><b/>c<b></b></a>".toList =
    .ok [⟨"a", 1, false⟩, ⟨"b", 2, true⟩, ⟨"b", 2, false⟩] := by
  rfl

end TestSieve.Xml
