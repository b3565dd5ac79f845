import Mathlib.Data.List.Nodup
import TestSieve.Proofs.Filter.Vocabulary

namespace TestSieve

namespace Xml

section

variable {ε α β γ : Type} {f : α → β} {x y : Except ε α}

-- Results that agree on what counts cannot be told apart by what looks at nothing else.
theorem bind_congr_of_map {g h : α → Except ε γ} (eq : f <$> x = f <$> y)
    (same : ∀ a b, f a = f b → g a = h b) : x >>= g = y >>= h := by
  cases x <;> cases y
  case error.error => exact congrArg Except.error (Except.error.inj eq)
  case error.ok    => cases eq
  case ok.error    => cases eq
  case ok.ok a b   => exact same a b (Except.ok.inj eq)

end

namespace Element

-- The attributes that are asked for, as far as an element has them.
def asked (e : Element) : List Attribute :=
  ["re", "name"].filterMap fun key => (e.attribute? key).map fun value => { key, value }

mutual

-- An element without the attributes that are never asked for.
def essential : Element → Element
  | ⟨tag, attributes, text, children⟩ =>
    ⟨tag, asked ⟨tag, attributes, text, children⟩, text, essentialAll children⟩

def essentialAll : List Element → List Element
  | []      => []
  | e :: es => essential e :: essentialAll es

end

theorem essentialAll_eq_map (es : List Element) : essentialAll es = es.map essential := by
  induction es
  case nil          => rfl
  case cons e es hi => rw [essentialAll, hi, List.map_cons]

variable {e e' : Element}

theorem essential_eq_iff : e.essential = e'.essential ↔ e.tag = e'.tag ∧
    e.asked = e'.asked ∧ e.text = e'.text ∧
    e.children.map essential = e'.children.map essential := by
  obtain ⟨tag, attributes, text, children⟩ := e
  obtain ⟨tag', attributes', text', children'⟩ := e'
  rw [essential, essential, essentialAll_eq_map, essentialAll_eq_map]
  exact (Element.mk.injEq ..).to_iff

theorem attribute?_essential (e : Element) {key : String} (h : key ∈ ["re", "name"]) :
    e.essential.attribute? key = e.attribute? key := by
  obtain ⟨tag, attributes, text, children⟩ := e
  rw [essential, attribute?, asked]
  rw [List.mem_cons, List.mem_singleton] at h
  cases re : attribute? ⟨tag, attributes, text, children⟩ "re" <;>
    cases name : attribute? ⟨tag, attributes, text, children⟩ "name" <;>
    rcases h with rfl | rfl <;> simp [re, name]

theorem attribute?_eq_some_iff {key value : String} (nodup : (e.attributes.map (·.key)).Nodup) :
    e.attribute? key = some value ↔ ⟨key, value⟩ ∈ e.attributes := by
  rw [attribute?, Option.map_eq_some_iff]
  refine ⟨fun h => ?_, fun h => ?_⟩
  · obtain ⟨a, found, eq⟩ := h
    have named : a.key = key := by simpa using List.find?_some found
    rw [←named, ←eq]
    exact List.mem_of_find?_eq_some found
  · -- With different keys, the attribute that is found is the only one with its key.
    have some : (e.attributes.find? (·.key = key)).isSome :=
      List.find?_isSome.mpr ⟨_, h, decide_eq_true rfl⟩
    obtain ⟨a, found⟩ := Option.isSome_iff_exists.mp some
    have named : a.key = key := by simpa using List.find?_some found
    have same := List.inj_on_of_nodup_map nodup (List.mem_of_find?_eq_some found) h named
    exact ⟨a, found, same ▸ rfl⟩

theorem asked_congr (nodup : (e.attributes.map (·.key)).Nodup)
    (nodup' : (e'.attributes.map (·.key)).Nodup)
    (same : ∀ key ∈ ["re", "name"], ∀ value,
      ⟨key, value⟩ ∈ e.attributes ↔ ⟨key, value⟩ ∈ e'.attributes) : e.asked = e'.asked := by
  have eq {key : String} (hk : key ∈ ["re", "name"]) : e.attribute? key = e'.attribute? key :=
    Option.ext fun value => by
      rw [attribute?_eq_some_iff nodup, attribute?_eq_some_iff nodup', same key hk]
  simp only [asked, List.filterMap_cons, List.filterMap_nil, eq List.mem_cons_self,
    eq (List.mem_cons_of_mem _ List.mem_cons_self)]

end Element

namespace Builder

-- What is open and what is complete, without what is never asked for.
def essential (b : Builder) : List Element × Option Element :=
  (b.opened.map Element.essential, b.top.map Element.essential)

variable {b b' : Builder} {e e' : Element}

theorem place_congr (hb : b.essential = b'.essential) (he : e.essential = e'.essential) :
    essential <$> b.place e = essential <$> b'.place e' := by
  obtain ⟨opened, top⟩ := b
  obtain ⟨opened', top'⟩ := b'
  obtain ⟨ho, ht⟩ := Prod.mk.inj hb
  cases opened <;> cases opened'
  case nil.cons | cons.nil => cases ho
  case nil.nil =>
    cases top <;> cases top'
    case none.some | some.none => cases ht
    case some.some => rfl
    case none.none => exact congrArg (fun e => Except.ok ([], some e)) he
  case cons.cons parent outer parent' outer' =>
    obtain ⟨hp, ho⟩ := List.cons.inj ho
    obtain ⟨tag, asked, text, children⟩ := Element.essential_eq_iff.mp hp
    have grown : Element.essential { parent with children := e :: parent.children } =
        Element.essential { parent' with children := e' :: parent'.children } := by
      refine Element.essential_eq_iff.mpr ⟨tag, asked, text, ?_⟩
      rw [List.map_cons, List.map_cons, he, children]
    simp only [place]
    refine congrArg Except.ok (Prod.ext ?_ ht)
    exact List.cons_eq_cons.mpr ⟨grown, ho⟩

theorem addText_congr (text : List Char) (hb : b.essential = b'.essential) :
    essential <$> b.addText text = essential <$> b'.addText text := by
  obtain ⟨opened, top⟩ := b
  obtain ⟨opened', top'⟩ := b'
  obtain ⟨ho, ht⟩ := Prod.mk.inj hb
  cases opened <;> cases opened'
  case nil.cons | cons.nil => cases ho
  case nil.nil             => rfl
  case cons.cons e outer e' outer' =>
    obtain ⟨he, ho⟩ := List.cons.inj ho
    obtain ⟨tag, asked, same, children⟩ := Element.essential_eq_iff.mp he
    have grown : Element.essential { e with text := e.text ++ .ofList text } =
        Element.essential { e' with text := e'.text ++ .ofList text } :=
      Element.essential_eq_iff.mpr ⟨tag, asked, congrArg (· ++ _) same, children⟩
    exact congrArg Except.ok (Prod.ext (List.cons_eq_cons.mpr ⟨grown, ho⟩) ht)

-- Tags whose elements agree on what counts are taken alike.
theorem take_tag_congr (b : Builder) {content content' : List Char}
    (he : Element.ofTag content = .ok e) (he' : Element.ofTag content' = .ok e')
    (same : e.essential = e'.essential) :
    essential <$> b.take (.opening content) = essential <$> b.take (.opening content') ∧
      essential <$> b.take (.empty content) = essential <$> b.take (.empty content') := by
  simp only [take, he, he']
  refine ⟨?opening, place_congr rfl same⟩
  split
  case isTrue  => rfl
  case isFalse => exact congrArg (fun e => Except.ok (e :: _, _)) same

-- Builders that agree on what counts take an item alike.
theorem take_congr (item : Item) (hb : b.essential = b'.essential) :
    essential <$> b.take item = essential <$> b'.take item := by
  obtain ⟨ho, ht⟩ := Prod.mk.inj hb
  cases item
  case text raw        => simp only [take, map_bind, addText_congr _ hb]
  case literal content => exact addText_congr content hb
  case empty content   => simp only [take, map_bind, place_congr hb rfl]
  case opening content =>
    have length := congrArg List.length ho
    rw [List.length_map, List.length_map] at length
    have opens (e : Element) : essential { b with opened := e :: b.opened } =
        essential { b' with opened := e :: b'.opened } :=
      Prod.ext (congrArg (e.essential :: ·) ho) ht
    simp only [take, length]
    split
    case isTrue  => rfl
    case isFalse => simp only [map_bind, map_pure, opens]
  case closing content =>
    obtain ⟨opened, top⟩ := b
    obtain ⟨opened', top'⟩ := b'
    cases opened <;> cases opened'
    case nil.cons | cons.nil => cases ho
    case nil.nil             => rfl
    case cons.cons e outer e' outer' =>
      obtain ⟨he, ho⟩ := List.cons.inj ho
      obtain ⟨tag, asked, text, children⟩ := Element.essential_eq_iff.mp he
      have complete : (completed e).essential = (completed e').essential := by
        refine Element.essential_eq_iff.mpr ⟨tag, asked, text, ?_⟩
        rw [completed, completed, List.map_reverse, List.map_reverse, children]
      simp only [take, tag]
      split
      case isTrue  => exact place_congr (Prod.ext ho ht) complete
      case isFalse => rfl

theorem finish_congr (hb : b.essential = b'.essential) :
    Element.essential <$> b.finish = Element.essential <$> b'.finish := by
  obtain ⟨opened, top⟩ := b
  obtain ⟨opened', top'⟩ := b'
  obtain ⟨ho, ht⟩ := Prod.mk.inj hb
  cases opened <;> cases opened'
  case nil.cons | cons.nil => cases ho
  case cons.cons e outer e' outer' =>
    obtain ⟨tag, _⟩ := Element.essential_eq_iff.mp (List.cons.inj ho).1
    exact congrArg (fun tag => Except.error (FilterError.malformed (.unclosed tag))) tag
  case nil.nil =>
    cases top <;> cases top'
    case none.some | some.none => cases ht
    case none.none             => rfl
    case some.some             => exact congrArg Except.ok (Option.some.inj ht)

end Builder

namespace Reader

def essential (r : Reader) : Phase × List Element × Option Element :=
  (r.phase, r.builder.essential)

variable {r r' : Reader}

theorem deliver_congr (item : Option Item) (h : r.essential = r'.essential) :
    essential <$> r.deliver item = essential <$> r'.deliver item := by
  obtain ⟨hp, hb⟩ := Prod.mk.inj h
  cases item
  case none      => exact congrArg Except.ok h
  case some item =>
    have taken := congrArg ((r.phase, ·) <$> ·) (Builder.take_congr item hb)
    simpa only [deliver, map_bind, map_pure, bind_pure_comp, Functor.map_map, essential, hp]
      using taken

theorem step_congr (c : Char) (h : r.essential = r'.essential) :
    essential <$> r.step c = essential <$> r'.step c := by
  obtain ⟨hp, hb⟩ := Prod.mk.inj h
  simp only [step, map_bind, hp]
  exact congrArg (_ >>= ·) <| funext fun next => deliver_congr next.2 <| Prod.ext rfl hb

-- The readers of one text go the same way.
theorem foldlM_congr (t : List Char) (h : r.essential = r'.essential) :
    essential <$> t.foldlM step r = essential <$> t.foldlM step r' := by
  induction t generalizing r r'
  case nil => exact congrArg Except.ok h
  case cons c t hi =>
    rw [List.foldlM_cons, List.foldlM_cons, map_bind, map_bind]
    exact bind_congr_of_map (step_congr c h) fun _ _ same => hi same

theorem finish_congr (h : r.essential = r'.essential) :
    Element.essential <$> r.finish = Element.essential <$> r'.finish := by
  obtain ⟨hp, hb⟩ := Prod.mk.inj h
  simp only [finish, map_bind, hp]
  refine congrArg (_ >>= ·) <| funext fun item => ?_
  exact bind_congr_of_map (deliver_congr item h) fun _ _ same =>
    Builder.finish_congr (Prod.mk.inj same).2

end Reader

end Xml

namespace Filter

open Xml.Element

variable [Regex.Engine]

mutual

theorem ofElement_essential : (e : Xml.Element) → ofElement e.essential = ofElement e
  | ⟨tag, attributes, text, children⟩ => by
    have hc := ofElements_essentialAll children
    have ask {key : String} := @attribute?_essential ⟨tag, attributes, text, children⟩ key
    rw [essential] at ask ⊢
    rw [ofElement, ofElement]
    cases kind : Kind.ofTag? tag
    case none => rfl
    case some k =>
      cases k
      case root           => rfl
      case id             => rfl
      case and | or | not => exact congrArg (· >>= _) hc
      case property | field =>
        simp only [ofProperty, ofField, marksRegex, ask List.mem_cons_self,
          ask (List.mem_cons_of_mem _ List.mem_cons_self)]

theorem ofElements_essentialAll : (es : List Xml.Element) →
    ofElements (essentialAll es) = ofElements es
  | []      => rfl
  | e :: es => by
    rw [essentialAll, ofElements, ofElements, ofElement_essential e, ofElements_essentialAll es]

end

-- What is never asked for counts for nothing.
theorem ofDocument_congr {e e' : Xml.Element} (h : e.essential = e'.essential) :
    ofDocument e = ofDocument e' := by
  obtain ⟨tag, _, _, children⟩ := essential_eq_iff.mp h
  have inside : ofElements e.children = ofElements e'.children := by
    rw [←ofElements_essentialAll, essentialAll_eq_map, children, ←essentialAll_eq_map,
      ofElements_essentialAll]
  rw [ofDocument, ofDocument, tag, inside]

end Filter

end TestSieve
