import TestSieve.Proofs.Filter.Document
import TestSieve.Proofs.Filter.Essential
import TestSieve.Proofs.Xml.Spelling

namespace TestSieve.Filter

open Xml

-- The place of the first element in a document.
theorem read_filter : (withoutMark ("<filter>".toList ++ ['<'])).foldlM Reader.step {} =
    .ok ⟨.markup, ⟨[⟨"filter", [], "", []⟩], none⟩⟩ := by
  rfl

theorem beforeMarkup_filter : BeforeMarkup "<filter>".toList := by
  intro r read
  cases read_filter.symm.trans read
  rfl

section

variable [Regex.Engine] {s after : List Char} {t u : WrittenTag}

theorem parse_ofList (xml : List Char) : parse (.ofList xml) = readDocument xml >>= ofDocument := by
  rw [parse, String.toList_ofList]

-- What is read of a document behind one of its tags.
theorem exists_parse_tag (h : BeforeMarkup s) (after : List Char) :
    ∃ x : Except FilterError Builder, ∀ t : WrittenTag, t.Begins →
      parse (.ofList (s ++ '<' :: (t.text ++ ['>'] ++ after))) =
        x >>= fun b => b.take t.item >>= fun b =>
          after.foldlM Reader.step ⟨.outside, b⟩ >>= fun r => r.finish >>= ofDocument := by
  obtain ⟨x, _, run⟩ := h.exists_builder
  refine ⟨x, fun t ht => ?_⟩
  simp only [parse_ofList, readDocument, run, ht.gives.append, bind_assoc]

-- Elements that agree on what counts are as good as each other in a document.
theorem parse_congr_tag (h : BeforeMarkup s) (ht : t.Begins) (hu : u.Begins)
    (slash : u.slash = t.slash) {e e' : Xml.Element} (he : Element.ofTag t.content = .ok e)
    (he' : Element.ofTag u.content = .ok e') (same : e.essential = e'.essential) :
    parse (.ofList (s ++ '<' :: (t.text ++ ['>'] ++ after))) =
      parse (.ofList (s ++ '<' :: (u.text ++ ['>'] ++ after))) := by
  obtain ⟨x, run⟩ := exists_parse_tag h after
  have taken (b : Builder) : Builder.essential <$> b.take t.item =
      Builder.essential <$> b.take u.item := by
    obtain ⟨opening, closed⟩ := Builder.take_tag_congr b he he' same
    rw [WrittenTag.item, WrittenTag.item, slash]
    split
    case isTrue  => exact closed
    case isFalse => exact opening
  rw [run t ht, run u hu]
  refine congrArg (x >>= ·) <| funext fun b => bind_congr_of_map (taken b) fun b b' hb => ?_
  refine bind_congr_of_map (Reader.foldlM_congr after (Prod.ext rfl hb)) fun r r' hr => ?_
  exact bind_congr_of_map (Reader.finish_congr hr) fun _ _ => ofDocument_congr

theorem exists_ofTag_of_parse (h : BeforeMarkup s) (ht : t.Begins) {f : Filter}
    (parsed : parse (.ofList (s ++ '<' :: (t.text ++ ['>'] ++ after))) = .ok f) :
    ∃ e, Element.ofTag t.content = .ok e := by
  obtain ⟨x, run⟩ := exists_parse_tag h after
  rw [run t ht] at parsed
  obtain ⟨b, _, parsed⟩ := bind_eq_ok.mp parsed
  obtain ⟨b', taken, _⟩ := bind_eq_ok.mp parsed
  rw [WrittenTag.item] at taken
  split at taken
  case isTrue =>
    obtain ⟨e, made, _⟩ := bind_eq_ok.mp taken
    exact ⟨e, ok_of_mapError made⟩
  case isFalse =>
    obtain ⟨_, e, made, _⟩ := Builder.exists_of_opening taken
    exact ⟨e, made⟩

-- The attributes of a tag may be spelled in another way.
theorem parse_respelled (h : BeforeMarkup s) (ht : t.Begins) {as : List Written}
    (respelled : t.Respelled as) {f : Filter}
    (parsed : parse (.ofList (s ++ '<' :: (t.text ++ ['>'] ++ after))) = .ok f) :
    parse (.ofList (s ++ '<' :: ((t.withAttributes as).text ++ ['>'] ++ after))) = .ok f := by
  obtain ⟨e, made⟩ := exists_ofTag_of_parse h ht parsed
  obtain ⟨nodup, rfl⟩ := t.ofTag_content.mp made
  have nodup' := respelled.nodup nodup
  have made' := (t.withAttributes as).ofTag_content.mpr ⟨nodup', rfl⟩
  have keys (as : List Written) : as.map (·.key) = (as.map Written.toAttribute).map (·.key) := by
    simp [Written.toAttribute]
  refine (parse_congr_tag h ht (respelled.begins ht) rfl made made' ?_).symm.trans parsed
  refine Element.essential_eq_iff.mpr ⟨rfl, ?_, rfl, rfl⟩
  exact Element.asked_congr (keys _ ▸ nodup) (keys _ ▸ nodup') fun key asked value =>
    (respelled.mem_iff asked).symm

-- An element without content may close itself or have an end tag, and the attributes of any element
-- may be spelled in another way, and the same filter is read.
theorem parse_spelling :
    (∀ (k : Kind) (s rest after : List Char), BeforeMarkup s →
      (∀ r, (withoutMark (s ++ ['<'])).foldlM Reader.step {} = .ok r →
        r.builder.opened.length < maxDepth) →
      (∀ c ∈ rest.head?, isBlank c) → rest.getLast? ≠ some '/' → TagText rest →
      parse (.ofList (s ++ '<' :: (k.tag.toList ++ rest ++ "/>".toList ++ after))) =
        parse (.ofList (s ++ '<' :: (k.tag.toList ++ rest ++ "></".toList ++ k.tag.toList ++
          ['>'] ++ after)))) ∧
    ∀ (s after : List Char) (t : WrittenTag) (as : List Written) (f : Filter), BeforeMarkup s →
      t.Begins → t.Respelled as →
      parse (.ofList (s ++ '<' :: (t.text ++ ['>'] ++ after))) = .ok f →
      parse (.ofList (s ++ '<' :: ((t.withAttributes as).text ++ ['>'] ++ after))) = .ok f := by
  refine ⟨?pair, fun s after t as f h ht respelled => parse_respelled h ht respelled⟩
  intro k s rest after h room first last whole
  rw [parse_ofList, parse_ofList, readDocument_pair h room k.isName_tag first last whole]

end

theorem parse_spelling_two_orders :
    let re := Written.spaced "re" '\'' ['0'] ['0'] (by decide) ⟨.inl rfl, by decide, rfl⟩
    let k := Written.spaced "k" '"' ['>'] ['>'] (by decide) ⟨.inr rfl, by decide, rfl⟩
    let t : WrittenTag := ⟨"cat".toList, [re, k], [], false, by simp [isBlank], nofun⟩
    BeforeMarkup "<filter>".toList ∧ TagText " k='>'".toList ∧ t.Begins ∧ t.Respelled [k, re] ∧
      parse "<filter><and k='>'></and></filter>" = .ok (.and []) ∧
      parse "<filter><cat k=\">\" re='0'>a</cat></filter>" =
        .ok (.field .category (.literal "a")) := by
  intro re k t
  have room (r) (read : (withoutMark ("<filter>".toList ++ ['<'])).foldlM Reader.step {} = .ok r) :
      r.builder.opened.length < maxDepth := by
    cases read_filter.symm.trans read
    decide
  have quoted : TagText " k='>'".toList := tagText_iff.mpr (by decide)
  have text : t.text = "cat re='0' k=\">\"".toList := by decide
  have whole : TagText t.text := tagText_iff.mpr (text ▸ by decide)
  have first : t.text.head? ∉ [some '!', some '?', some '/'] := text ▸ by decide
  have begins : t.Begins := ⟨whole, first, fun _ => by decide⟩
  have plain : t.Unquoted :=
    ⟨by simp [t, Unquoted], by simp [t, re, k, Written.spaced, Unquoted]⟩
  have respelled : t.Respelled [k, re] := .reorder plain (.swap re k [])
  refine ⟨beforeMarkup_filter, quoted, begins, respelled, ?pair, ?order⟩
  case pair =>
    have same := parse_spelling.1 .and "<filter>".toList " k='>'".toList "</filter>".toList
      beforeMarkup_filter room (by simp [isBlank]) (by decide) quoted
    have alone : String.ofList ("<filter>".toList ++ '<' :: (Kind.and.tag.toList ++
        " k='>'".toList ++ "/>".toList ++ "</filter>".toList)) =
        "<filter><and k='>'/></filter>" := by decide
    have pair : String.ofList ("<filter>".toList ++ '<' :: (Kind.and.tag.toList ++
        " k='>'".toList ++ "></".toList ++ Kind.and.tag.toList ++ ['>'] ++ "</filter>".toList)) =
        "<filter><and k='>'></and></filter>" := by decide
    have read : readDocument "<filter><and k='>'/></filter>".toList =
        .ok ⟨"filter", [], "", [⟨"and", [⟨"k", ">"⟩], "", []⟩]⟩ := by rfl
    rw [alone, pair] at same
    exact same.symm.trans <| (parse_of_readDocument_ok read).trans (by rfl)
  case order =>
    have same := parse_spelling.2 "<filter>".toList "a</cat></filter>".toList t [k, re]
      (.field .category (.literal "a")) beforeMarkup_filter begins respelled
    have given : String.ofList ("<filter>".toList ++ '<' :: (t.text ++ ['>'] ++
        "a</cat></filter>".toList)) = "<filter><cat re='0' k=\">\">a</cat></filter>" := by
      decide
    have written : String.ofList ("<filter>".toList ++ '<' :: ((t.withAttributes [k, re]).text ++
        ['>'] ++ "a</cat></filter>".toList)) =
        "<filter><cat k=\">\" re='0'>a</cat></filter>" := by decide
    have read : readDocument "<filter><cat re='0' k=\">\">a</cat></filter>".toList =
        .ok ⟨"filter", [], "", [⟨"cat", [⟨"re", "0"⟩, ⟨"k", ">"⟩], "a", []⟩]⟩ := by rfl
    rw [given, written] at same
    exact same <| (parse_of_readDocument_ok read).trans (by rfl)

-- A quote in a key makes the quotes around another value end where they should begin.
theorem parse_requoted :
    let a := Written.spaced "it's" '"' ['>'] ['>'] (by decide) ⟨.inr rfl, by decide, rfl⟩
    let b := Written.spaced "it's" '\'' ['>'] ['>'] (by decide) ⟨.inl rfl, by decide, rfl⟩
    let c := Written.spaced "he's" '"' ['2'] ['2'] (by decide) ⟨.inr rfl, by decide, rfl⟩
    let t : WrittenTag := ⟨"cat".toList, [a, c], [], false, by simp [isBlank], nofun⟩
    BeforeMarkup "<filter>".toList ∧ t.Begins ∧
      b.key = a.key ∧ b.raw = a.raw ∧ b.quote ≠ a.quote ∧
      t.text = "cat it's=\">\" he's=\"2\"".toList ∧
      (t.withAttributes [b, c]).text = "cat it's='>' he's=\"2\"".toList ∧
      parse "<filter><cat it's=\">\" he's=\"2\">a</cat></filter>" =
        .ok (.field .category (.literal "a")) ∧
      parse "<filter><cat it's='>' he's=\"2\">a</cat></filter>" =
        .error (.xml (.badAttribute (.unclosed 10 '\''))) := by
  intro a b c t
  have text : t.text = "cat it's=\">\" he's=\"2\"".toList := by decide
  have whole : TagText t.text := tagText_iff.mpr (text ▸ by decide)
  have first : t.text.head? ∉ [some '!', some '?', some '/'] := text ▸ by decide
  have begins : t.Begins := ⟨whole, first, fun _ => by decide⟩
  refine ⟨beforeMarkup_filter, begins, rfl, rfl, by decide, text, by decide, ?given, ?written⟩
  case given =>
    have read : readDocument "<filter><cat it's=\">\" he's=\"2\">a</cat></filter>".toList =
        .ok ⟨"filter", [], "", [⟨"cat", [⟨"it's", ">"⟩, ⟨"he's", "2"⟩], "a", []⟩]⟩ := by rfl
    exact (parse_of_readDocument_ok read).trans (by rfl)
  case written =>
    have read : readDocument "<filter><cat it's='>' he's=\"2\">a</cat></filter>".toList =
        .error (.xml (.badAttribute (.unclosed 10 '\''))) := by rfl
    exact congrArg (· >>= ofDocument) read

end TestSieve.Filter
