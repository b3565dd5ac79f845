import Mathlib.Data.List.Nodup
import TestSieve.Proofs.Xml.Quotes

namespace TestSieve.Xml

namespace Written

variable {a b : Written} {s t : List Char}

theorem exists_text (a : Written) : ∃ c cs, isBlank c ∧ a.text = c :: cs := by
  obtain ⟨c, cs, hc⟩ := List.exists_cons_of_ne_nil a.gap_ne
  have blank : isBlank c := a.gap_blank c (hc ▸ List.mem_cons_self)
  exact ⟨c, cs ++ a.key.toList ++ a.before ++ ['='] ++ a.quoted, blank, by simp [text, label, hc]⟩

theorem plain_label (h : Plain a.key.toList) : Plain a.label :=
  (((Plain.blanks a.gap_blank).append h).append (.blanks a.before_blank)).append (by simp [Plain])

theorem tagText_text (h : Plain a.key.toList) : TagText a.text := by
  have value : TagText (a.quote :: (a.raw ++ [a.quote])) := by
    simpa using TagText.quoted a.quotes a.closed .nil
  exact (plain_label h).tagText.append <| (Plain.blanks a.after_blank).tagText.append value

theorem neutral_quoted (h : Plain a.raw) : Neutral a.quoted :=
  (Plain.blanks a.after_blank).neutral.append (.quoted a.quotes h)

theorem neutral_text (hk : Plain a.key.toList) (hr : Plain a.raw) : Neutral a.text :=
  (plain_label hk).neutral.append (neutral_quoted hr)

-- Where the value is plain, only the key tells how the tag goes on.
theorem tagText_insert_iff (h : Plain a.raw) : TagText (s ++ (a.text ++ t)) ↔
    TagText (s ++ a.key.toList ++ '=' :: t) := by
  have split : s ++ (a.text ++ t) =
      s ++ (a.gap ++ (a.key.toList ++ (a.before ++ '=' :: (a.quoted ++ t)))) := by
    simp [text, label]
  rw [split, (Plain.blanks a.gap_blank).neutral.tagText_iff, ←List.append_assoc,
    (Plain.blanks a.before_blank).neutral.tagText_iff, List.append_cons,
    (neutral_quoted h).tagText_iff, ←List.append_cons]

-- Outside of quotes a key has no closing bracket in it.
theorem plain_keys {as : List Written} (keys : ∀ a ∈ as, Unquoted a.key.toList)
    (whole : TagText (as.flatMap text ++ t)) : ∀ a ∈ as, Plain a.key.toList := by
  induction as
  case nil => exact List.forall_mem_nil _
  case cons a as hi =>
    obtain ⟨key, keys⟩ := List.forall_mem_cons.mp keys
    have split : (a :: as).flatMap text ++ t = a.gap ++ (a.key.toList ++
        (a.before ++ ['='] ++ a.quoted ++ (as.flatMap text ++ t))) := by simp [text, label]
    have named := (Plain.blanks a.gap_blank).tagText.of_append (split ▸ whole)
    have plain := named.plain_of_unquoted key
    refine List.forall_mem_cons.mpr ⟨plain, hi keys ?_⟩
    rw [List.flatMap_cons, List.append_assoc] at whole
    exact (tagText_text plain).of_append whole

end Written

-- A tag as it may be spelled, with blanks behind its attributes and with or without a slash.
structure WrittenTag where
  name         : List Char
  attributes   : List Written
  blanks       : List Char
  slash        : Bool
  name_solid   : ∀ c ∈ name, ¬isBlank c
  blanks_blank : ∀ c ∈ blanks, isBlank c

namespace WrittenTag

def content (t : WrittenTag) : List Char :=
  t.name ++ (t.attributes.flatMap Written.text ++ t.blanks)

def text (t : WrittenTag) : List Char :=
  t.content ++ if t.slash then ['/'] else []

-- What the tag is read as if it begins an element.
def item (t : WrittenTag) : Item :=
  if t.slash then .empty t.content else .opening t.content

-- Other attributes in the same tag.
def withAttributes (t : WrittenTag) (as : List Written) : WrittenTag :=
  { t with attributes := as }

-- A tag that begins an element. Other markup has other first characters.
structure Begins (t : WrittenTag) : Prop where
  whole : TagText t.text
  first : t.text.head? ∉ [some '!', some '?', some '/']
  last  : t.slash = false → t.content.getLast? ≠ some '/'

variable {t : WrittenTag} {as : List Written}

theorem Begins.ofTag (h : t.Begins) : Item.ofTag t.text.reverse = t.item := by
  obtain ⟨_, first, last⟩ := h
  rw [text] at first ⊢
  rw [item]
  cases slash : t.slash
  case false =>
    simp only [slash, Bool.false_eq_true, if_false, List.append_nil] at first ⊢
    exact Item.ofTag_opening (fun hc => first (by simp [hc])) (last slash)
  case true =>
    simp only [slash, if_true] at first ⊢
    cases content : t.content
    case nil       => simp [content] at first
    case cons c cs =>
      refine Item.ofTag_empty (fun hc => first ?_) cs
      simp [content, hc]

-- What follows the name is nothing, or begins with a blank.
theorem span_name (t : WrittenTag) : t.content.takeWhile (!isBlank ·) = t.name ∧
    t.content.dropWhile (!isBlank ·) = t.attributes.flatMap Written.text ++ t.blanks := by
  have name : ∀ c ∈ t.name, (!isBlank c) = true := by simpa using t.name_solid
  rw [content, List.takeWhile_append_of_pos name, List.dropWhile_append_of_pos name]
  cases t.attributes
  case nil =>
    have blank := t.blanks_blank
    cases blanks : t.blanks
    case nil       => simp
    case cons c cs => simp [blank c (blanks ▸ List.mem_cons_self)]
  case cons a as =>
    obtain ⟨c, cs, blank, text⟩ := a.exists_text
    simp [text, blank]

theorem ofTag_content (t : WrittenTag) {e : Element} : Element.ofTag t.content = .ok e ↔
    (t.attributes.map (·.key)).Nodup ∧
      e = ⟨.ofList t.name, t.attributes.map Written.toAttribute, "", []⟩ := by
  obtain ⟨name, rest⟩ := t.span_name
  simp only [Element.ofTag, name, rest]
  rw [bind_eq_ok]
  simp only [Attribute.readAll_flatMap_text _ _ t.blanks_blank]
  constructor
  case mp =>
    rintro ⟨_, ⟨nodup, rfl⟩, made⟩
    cases made
    exact ⟨nodup, rfl⟩
  case mpr =>
    rintro ⟨nodup, rfl⟩
    exact ⟨_, ⟨nodup, rfl⟩, rfl⟩

-- A tag with attributes has a blank behind its name, and at its end a quote or a blank.
theorem Begins.withAttributes (h : t.Begins) (some : t.attributes ≠ [] → as ≠ [])
    (whole : TagText (t.withAttributes as).text) : (t.withAttributes as).Begins := by
  by_cases none : as = []
  case pos =>
    have same : t.attributes = as := by
      rw [none]
      exact Classical.not_not.mp fun ne => some ne none
    rw [←same]
    exact h
  case neg =>
    refine ⟨whole, ?first, fun _ slash => ?last⟩
    case first =>
      cases name : t.name
      case cons c cs => simpa [text, content, WrittenTag.withAttributes, name] using h.first
      case nil =>
        obtain ⟨a, as', ha⟩ := List.exists_cons_of_ne_nil none
        obtain ⟨c, cs, blank, begun⟩ := a.exists_text
        have head : (t.withAttributes as).text.head? = .some c := by
          simp [text, content, WrittenTag.withAttributes, name, ha, begun]
        rw [head]
        simp only [List.mem_cons, Option.some.injEq, List.not_mem_nil, or_false]
        rintro (rfl | rfl | rfl) <;> cases blank
    case last =>
      obtain ⟨init, a, rfl⟩ : ∃ init a, as = init ++ [a] :=
        ⟨_, _, (List.dropLast_concat_getLast none).symm⟩
      have last : (t.withAttributes (init ++ [a])).content = t.name ++ init.flatMap Written.text ++
          a.label ++ a.after ++ a.quote :: a.raw ++ a.quote :: t.blanks := by
        simp [WrittenTag.withAttributes, content, Written.text, Written.quoted]
      rw [last, List.getLast?_append_cons] at slash
      obtain eq | blank := List.mem_cons.mp (List.mem_of_getLast? slash)
      · exact absurd (eq ▸ a.quotes) (by decide)
      · exact absurd (t.blanks_blank _ blank) (by decide)

theorem Begins.gives (h : t.Begins) : Reader.Gives (t.text ++ ['>']) (some t.item) := by
  have first : t.text.head? ≠ some '!' ∧ t.text.head? ≠ some '?' := by
    have := h.first
    simp_all
  exact h.ofTag ▸ Reader.gives_tag first h.whole

-- Neither the name nor a key opens quotes.
structure Unquoted (t : WrittenTag) : Prop where
  name : Xml.Unquoted t.name
  keys : ∀ a ∈ t.attributes, Xml.Unquoted a.key.toList

-- The attributes of a tag in another spelling: in another order, one of them with other quotes and
-- blanks, or one more that is never asked for, such as letters for its key and letters and digits
-- for its value. Where the name or a key opens quotes, these may end at the quotes of a value, so
-- there the order stands, and so do the quotes around a value with a closing bracket in it.
inductive Respelled (t : WrittenTag) : List Written → Prop
  | reorder {as : List Written} (plain : t.Unquoted) (h : as.Perm t.attributes) : Respelled t as
  | rewrite {l r : List Written} {a b : Written} (safe : t.Unquoted ∨ Plain a.raw)
    (h : t.attributes = l ++ a :: r) (key : b.key = a.key) (raw : b.raw = a.raw) :
    Respelled t (l ++ b :: r)
  | extend {l r : List Written} {a : Written} (h : t.attributes = l ++ r)
    (new : ∀ b ∈ t.attributes, b.key ≠ a.key) (idle : a.key ≠ "re" ∧ a.key ≠ "name")
    (key : Plain a.key.toList) (raw : Plain a.raw) : Respelled t (l ++ a :: r)

theorem text_eq (t : WrittenTag) : t.text = t.name ++
    (t.attributes.flatMap Written.text ++ (t.blanks ++ if t.slash then ['/'] else [])) := by
  rw [text, content, List.append_assoc, List.append_assoc]

theorem text_withAttributes (t : WrittenTag) (as : List Written) : (t.withAttributes as).text =
    t.name ++ (as.flatMap Written.text ++ (t.blanks ++ if t.slash then ['/'] else [])) :=
  text_eq _

theorem plain_tail (t : WrittenTag) : Plain (t.blanks ++ if t.slash then ['/'] else []) := by
  refine (Plain.blanks t.blanks_blank).append ?_
  split
  case isTrue  => simp [Plain]
  case isFalse => exact List.forall_mem_nil _

-- Outside of quotes a name and keys have no closing brackets in them.
theorem Unquoted.plain (h : t.Unquoted) (whole : TagText t.text) :
    Plain t.name ∧ ∀ a ∈ t.attributes, Plain a.key.toList := by
  rw [text_eq] at whole
  have plain := whole.plain_of_unquoted h.name
  exact ⟨plain, Written.plain_keys h.keys (plain.tagText.of_append whole)⟩

theorem tagText_of_plain (name : Plain t.name) (keys : ∀ a ∈ as, Plain a.key.toList) :
    TagText (t.withAttributes as).text := by
  rw [text_withAttributes]
  refine name.tagText.append <| .append ?_ t.plain_tail.tagText
  induction as
  case nil => exact .nil
  case cons a as hi =>
    obtain ⟨key, keys⟩ := List.forall_mem_cons.mp keys
    exact (Written.tagText_text key).append (hi keys)

namespace Respelled

-- It is still a whole tag.
theorem tagText (h : t.Respelled as) (whole : TagText t.text) :
    TagText (t.withAttributes as).text := by
  cases h
  case reorder plain h =>
    obtain ⟨name, keys⟩ := plain.plain whole
    exact tagText_of_plain name fun a ha => keys a (h.mem_iff.mp ha)
  case rewrite l r a b safe h key raw =>
    rcases safe with plain | safe
    case inl =>
      obtain ⟨name, keys⟩ := plain.plain whole
      rw [h] at keys
      simp only [List.forall_mem_append, List.forall_mem_cons, ←key] at keys
      exact tagText_of_plain name (by simpa [or_imp, forall_and] using keys)
    case inr =>
      rw [text_eq, h, List.flatMap_append, List.flatMap_cons, List.append_assoc, List.append_assoc,
        ←List.append_assoc, Written.tagText_insert_iff safe] at whole
      rwa [text_withAttributes, List.flatMap_append, List.flatMap_cons, List.append_assoc,
        List.append_assoc, ←List.append_assoc, Written.tagText_insert_iff (raw ▸ safe), key]
  case extend l r a h _ _ key raw =>
    rw [text_eq, h, List.flatMap_append, List.append_assoc, ←List.append_assoc] at whole
    rwa [text_withAttributes, List.flatMap_append, List.flatMap_cons, List.append_assoc,
      List.append_assoc, ←List.append_assoc, (Written.neutral_text key raw).tagText_iff]

theorem ne_nil (h : t.Respelled as) (ne : t.attributes ≠ []) : as ≠ [] := by
  cases h
  case reorder h     => exact fun nil => ne (List.nil_perm.mp (nil ▸ h))
  case rewrite | extend => simp

theorem begins (h : t.Respelled as) (ht : t.Begins) : (t.withAttributes as).Begins :=
  ht.withAttributes h.ne_nil (h.tagText ht.whole)

-- Attributes with different keys keep different keys.
theorem nodup (h : t.Respelled as) (nodup : (t.attributes.map (·.key)).Nodup) :
    (as.map (·.key)).Nodup := by
  cases h
  case reorder h => exact (h.map _).nodup_iff.mpr nodup
  case rewrite h key _ => simpa [h, key] using nodup
  case extend l r a h new _ _ _ =>
    rw [h] at nodup new
    rw [List.map_append, List.map_cons, List.nodup_middle, List.nodup_cons, ←List.map_append]
    refine ⟨fun known => ?_, nodup⟩
    obtain ⟨b, hb, same⟩ := List.mem_map.mp known
    exact new b hb same

theorem mem_iff (h : t.Respelled as) {key value : String} (asked : key ∈ ["re", "name"]) :
    ⟨key, value⟩ ∈ as.map Written.toAttribute ↔
      ⟨key, value⟩ ∈ t.attributes.map Written.toAttribute := by
  cases h
  case reorder h => exact (h.map _).mem_iff
  case rewrite l r a b _ h key raw =>
    have same : b.toAttribute = a.toAttribute := by
      have value := Except.ok.inj (b.reads.symm.trans (raw ▸ a.reads))
      rw [Written.toAttribute, key, value]
      rfl
    simp [h, same]
  case extend l r a h _ idle _ _ =>
    have other : ⟨key, value⟩ ≠ a.toAttribute := by
      rintro eq
      simp_all [Written.toAttribute]
    simp [h, other]

end Respelled

end WrittenTag

-- Opening an element and closing it again puts it where one goes that closes itself.
theorem Builder.take_pair {b : Builder} {content : List Char} {name : String} (hn : IsName name)
    (tag : Item.tagName content = name) (room : b.opened.length < maxDepth) :
    (b.take (.opening content) >>= (·.take (.closing name.toList))) = b.take (.empty content) := by
  have few : ¬b.opened.length ≥ maxDepth := Nat.not_le.mpr room
  simp only [take, if_neg few]
  cases made : Element.ofTag content
  case error => rfl
  case ok e =>
    obtain ⟨named, bare⟩ := tag_of_ofTag made
    have same : completed e = e := by
      obtain ⟨_, _, _, _⟩ := e
      cases bare
      rfl
    have fits : e.tag = endTagName name.toList := by rw [endTagName_toList hn, named, tag]
    change (if e.tag = endTagName name.toList then b.place (completed e) else _) = b.place e
    rw [if_pos fits, same]

-- A text behind which a bracket begins markup, as far as it can be read.
def BeforeMarkup (s : List Char) : Prop :=
  ∀ r, (withoutMark (s ++ ['<'])).foldlM Reader.step {} = .ok r → r.phase = .markup

namespace Reader

theorem Gives.append {t : List Char} {item : Item} (h : Gives t (some item)) (after : List Char)
    (b : Builder) : (t ++ after).foldlM step ⟨.markup, b⟩ =
      b.take item >>= fun b => after.foldlM step ⟨.outside, b⟩ := by
  rw [List.foldlM_append, h, deliver, bind_assoc]
  rfl

end Reader

open Reader

variable {s : List Char}

theorem BeforeMarkup.exists_builder (h : BeforeMarkup s) : ∃ x : Except FilterError Builder,
    (∀ b, x = .ok b → (withoutMark (s ++ ['<'])).foldlM step {} = .ok ⟨.markup, b⟩) ∧
    ∀ rest, (withoutMark (s ++ '<' :: rest)).foldlM step {} =
      x >>= fun b => rest.foldlM step ⟨.markup, b⟩ := by
  have split (rest) : withoutMark (s ++ '<' :: rest) = withoutMark (s ++ ['<']) ++ rest := by
    rw [List.append_cons, withoutMark_append (by simp)]
  refine ⟨(·.builder) <$> (withoutMark (s ++ ['<'])).foldlM step {}, fun b hb => ?_, ?_⟩
  · obtain ⟨r, read, hb⟩ := map_eq_ok.mp hb
    rw [read, ←hb, ←h r read]
  · intro rest
    rw [split, List.foldlM_append]
    cases read : (withoutMark (s ++ ['<'])).foldlM step {}
    case error => rfl
    case ok r =>
      obtain ⟨p, b⟩ := r
      cases h _ read
      rfl

theorem IsName.tagName {name : String} {rest : List Char} (h : IsName name)
    (first : ∀ c ∈ rest.head?, isBlank c) : Item.tagName (name.toList ++ rest) = name := by
  have solid : ∀ c ∈ name.toList, (!isBlank c) = true := fun c hc => by
    simp [not_isBlank_of_isLower (h.2 c hc)]
  rw [Item.tagName, List.takeWhile_append_of_pos solid]
  cases rest
  case nil       => simp
  case cons c cs => simp [first c rfl]

namespace IsName

variable {name : String} {rest : List Char}

-- The tags of an element whose name is one.
theorem gives (hn : IsName name) (whole : TagText rest) :
    Gives (name.toList ++ rest ++ ['>']) (some (Item.ofTag (name.toList ++ rest).reverse)) := by
  obtain ⟨c, cs, hc⟩ := List.exists_cons_of_ne_nil hn.1
  have lower : c.isLower := hn.2 c (hc ▸ List.mem_cons_self)
  refine gives_tag ?_ (hn.plain.tagText.append whole)
  simp [hc, ne_of_isLower lower (d := '!') rfl, ne_of_isLower lower (d := '?') rfl]

theorem gives_opening (hn : IsName name) (last : rest.getLast? ≠ some '/') (whole : TagText rest) :
    Gives (name.toList ++ rest ++ ['>']) (some (.opening (name.toList ++ rest))) := by
  obtain ⟨c, cs, hc⟩ := List.exists_cons_of_ne_nil hn.1
  have slash : c ≠ '/' := ne_of_isLower (hn.2 c (hc ▸ List.mem_cons_self)) rfl
  have opening : Item.ofTag (name.toList ++ rest).reverse = .opening (name.toList ++ rest) := by
    refine Item.ofTag_opening (by simp [hc, slash]) ?_
    rw [List.getLast?_append]
    cases ends : rest.getLast?
    case none => exact fun hl => absurd (hn.2 _ <| List.mem_of_getLast? hl) (by decide)
    case some => exact fun hl => last (ends.trans hl)
  exact opening ▸ hn.gives whole

theorem gives_empty (hn : IsName name) (whole : TagText rest) :
    Gives (name.toList ++ (rest ++ ['/']) ++ ['>']) (some (.empty (name.toList ++ rest))) := by
  obtain ⟨c, cs, hc⟩ := List.exists_cons_of_ne_nil hn.1
  have slash : c ≠ '/' := ne_of_isLower (hn.2 c (hc ▸ List.mem_cons_self)) rfl
  have empty : Item.ofTag (name.toList ++ (rest ++ ['/'])).reverse =
      .empty (name.toList ++ rest) := by
    rw [←List.append_assoc, hc]
    exact Item.ofTag_empty slash _
  exact empty ▸ hn.gives (whole.append (.plain (by decide) .nil))

theorem gives_closing (hn : IsName name) :
    Gives ('/' :: name.toList ++ ['>']) (some (.closing name.toList)) :=
  Item.ofTag_closing name.toList ▸ gives_tag (by simp) (.plain (by decide) hn.plain.tagText)

end IsName

-- A tag of an element without content, that closes itself or is closed by an end tag.
theorem readDocument_pair {name : String} {rest after : List Char} (h : BeforeMarkup s)
    (room : ∀ r, (withoutMark (s ++ ['<'])).foldlM Reader.step {} = .ok r →
      r.builder.opened.length < maxDepth)
    (hn : IsName name) (first : ∀ c ∈ rest.head?, isBlank c) (last : rest.getLast? ≠ some '/')
    (whole : TagText rest) :
    readDocument (s ++ '<' :: (name.toList ++ rest ++ "/>".toList ++ after)) =
      readDocument (s ++ '<' :: (name.toList ++ rest ++ "></".toList ++ name.toList ++ ['>'] ++
        after)) := by
  obtain ⟨x, reads, run⟩ := h.exists_builder
  have alone : name.toList ++ rest ++ "/>".toList ++ after =
      name.toList ++ (rest ++ ['/']) ++ ['>'] ++ after := by simp
  have pair : name.toList ++ rest ++ "></".toList ++ name.toList ++ ['>'] ++ after =
      name.toList ++ rest ++ ['>'] ++ '<' :: ('/' :: name.toList ++ ['>'] ++ after) := by simp
  have mark (b) : step ⟨.outside, b⟩ '<' = .ok ⟨.markup, b⟩ := rfl
  rw [readDocument, readDocument, run, run, alone, pair]
  cases hx : x
  case error => rfl
  case ok b =>
    have taken := b.take_pair hn (hn.tagName first) (room _ (reads b hx))
    have same : (name.toList ++ (rest ++ ['/']) ++ ['>'] ++ after).foldlM step ⟨.markup, b⟩ =
        (name.toList ++ rest ++ ['>'] ++ '<' :: ('/' :: name.toList ++ ['>'] ++ after)).foldlM step
          ⟨.markup, b⟩ := by
      rw [(hn.gives_empty whole).append, (hn.gives_opening last whole).append, ←taken]
      simp only [bind_assoc, foldlM_cons_ok (mark _), hn.gives_closing.append]
    exact congrArg (· >>= finish) same

end TestSieve.Xml
