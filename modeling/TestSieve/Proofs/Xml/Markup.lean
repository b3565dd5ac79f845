import Mathlib.Data.List.Induction
import TestSieve.Filter.Reader
import TestSieve.Proofs.Xml.Outline
import TestSieve.Proofs.Xml.Text
import TestSieve.Regex.Meaning

namespace TestSieve.Xml

-- What may stand in a tag: a closing bracket only between quotes.
inductive TagText : List Char → Prop
  | nil : TagText []
  | plain {c : Char} {t : List Char} (h : c ≠ '>' ∧ c ≠ '\'' ∧ c ≠ '"') (ht : TagText t) :
    TagText (c :: t)
  | quoted {q : Char} {v t : List Char} (hq : q = '\'' ∨ q = '"') (hv : q ∉ v) (ht : TagText t) :
    TagText (q :: (v ++ [q]) ++ t)

-- Brackets in pairs, as in a document type.
inductive Paired : List Char → Prop
  | nil : Paired []
  | plain {c : Char} {t : List Char} (h : c ≠ '<' ∧ c ≠ '>') (ht : Paired t) : Paired (c :: t)
  | pair {s t : List Char} (hs : Paired s) (ht : Paired t) : Paired ('<' :: s ++ '>' :: t)

def comment (t : List Char) : List Char :=
  "<!--".toList ++ t ++ "-->".toList

def instruction (t : List Char) : List Char :=
  "<?".toList ++ t ++ "?>".toList

-- The items of markup. Except for tags and document types, an item ends with its first end mark.
inductive Markup : List Char → Prop
  | tag {t : List Char} (first : t.head? ≠ some '!' ∧ t.head? ≠ some '?') (h : TagText t) :
    Markup ('<' :: (t ++ ['>']))
  | literal {t : List Char} (h : ¬"]]>".toList <:+: t) :
    Markup ("<![CDATA[".toList ++ t ++ "]]>".toList)
  | doctype {keyword t : List Char} (hk : keyword.map Phase.lowerAscii = "doctype".toList)
    (named : ∃ c ∈ t, ¬isBlank c) (ht : Paired t) : Markup ('<' :: '!' :: keyword ++ t ++ ['>'])
  | comment {t : List Char} (h : ¬"-->".toList <:+: t) : Markup (comment t)
  | instruction {t : List Char} (first : t.head? ≠ some '>') (h : ¬"?>".toList <:+: t) :
    Markup (instruction t)

-- Texts and markup items up to the end of an item.
inductive UpToMarkup : List Char → Prop
  | first {t m : List Char} (ht : '<' ∉ t) (hm : Markup m) : UpToMarkup (t ++ m)
  | next {s t m : List Char} (hs : UpToMarkup s) (ht : '<' ∉ t) (hm : Markup m) :
    UpToMarkup (s ++ t ++ m)

-- What says nothing between two items.
inductive Misc : List Char → Prop
  | blanks {t : List Char} (h : ∀ c ∈ t, isBlank c) : Misc t
  | comment {t : List Char} (h : ¬"-->".toList <:+: t) : Misc (comment t)
  | instruction {t : List Char} (first : t.head? ≠ some '>') (h : ¬"?>".toList <:+: t) :
    Misc (instruction t)

theorem TagText.plain_append {s t : List Char}
    (hs : s.all fun c => c ≠ '>' ∧ c ≠ '\'' ∧ c ≠ '"') (ht : TagText t) : TagText (s ++ t) := by
  induction s
  case nil => exact ht
  case cons c s hi =>
    rw [List.all_cons, Bool.and_eq_true, decide_eq_true_eq] at hs
    exact .plain hs.1 (hi hs.2)

theorem Paired.plain_append {s t : List Char} (hs : ∀ c ∈ s, c ≠ '<' ∧ c ≠ '>') (ht : Paired t) :
    Paired (s ++ t) := by
  induction s
  case nil => exact ht
  case cons c s hi =>
    obtain ⟨hc, hs⟩ := List.forall_mem_cons.mp hs
    exact .plain hc (hi hs)

namespace Phase

theorem eq_of_lowerAscii {c : Char} (h : lowerAscii c = 'd') : c = 'D' ∨ c = 'd' := by
  unfold lowerAscii at h
  split at h
  case isTrue upper =>
    have letters : ∀ n ≤ 90, 65 ≤ n → Char.ofNat (n + 32) = 'd' → Char.ofNat n = 'D' := by decide
    have same := letters c.toNat upper.2 upper.1 h
    rw [Char.ofNat_toNat] at same
    exact .inl same
  case isFalse => exact .inr h

theorem checkDoctype_named {keyword t : List Char}
    (hk : keyword.map lowerAscii = "doctype".toList) (named : ∃ c ∈ t, ¬isBlank c) :
    checkDoctype ('!' :: (keyword ++ t)).reverse = .ok () := by
  have mark : "!doctype".toList = ('!' :: keyword).map lowerAscii := by
    rw [List.map_cons, hk]
    decide
  have marked : "!doctype".toList.isPrefixOf (('!' :: (keyword ++ t)).map lowerAscii) := by
    rw [List.isPrefixOf_iff_prefix, mark, ←List.cons_append, List.map_append]
    exact List.prefix_append ..
  have len : "!doctype".toList.length = ('!' :: keyword).length := by rw [mark, List.length_map]
  rw [checkDoctype, List.reverse_reverse, if_pos marked, len, ←List.cons_append, List.drop_left,
    if_neg (by simpa using named)]
  rfl

end Phase

theorem Item.ofLiteral_collected (t : List Char) :
    ofLiteral (']' :: ']' :: (t.reverse ++ "[ATADC[!".toList)) = .ok (.literal t) := by
  have content : (']' :: ']' :: (t.reverse ++ "[ATADC[!".toList)).reverse =
      "![CDATA[".toList ++ (t ++ [']', ']']) := by simp
  have marked : "![CDATA[".toList.isPrefixOf ("![CDATA[".toList ++ (t ++ [']', ']'])) :=
    List.isPrefixOf_iff_prefix.mpr (List.prefix_append ..)
  rw [ofLiteral, content, if_pos marked, List.drop_left, List.dropLast_append_cons]
  simp
  rfl

namespace Reader

variable {p q : Phase} {s t : List Char}

-- A text that takes the reader from one phase to another and gives no item.
def Passes (p : Phase) (t : List Char) (q : Phase) : Prop :=
  ∀ b, t.foldlM step ⟨p, b⟩ = .ok ⟨q, b⟩

namespace Passes

variable {r : Phase} {c : Char}

theorem nil : Passes p [] p :=
  fun _ => rfl

theorem cons (h : p.step c = .ok (q, none)) (ht : Passes q t r) : Passes p (c :: t) r := by
  intro b
  rw [foldlM_cons_ok (step_silent h), ht]

theorem single (h : p.step c = .ok (q, none)) : Passes p [c] q :=
  cons h nil

theorem append (hs : Passes p s q) (ht : Passes q t r) : Passes p (s ++ t) r := by
  intro b
  rw [foldlM_append_ok (hs b), ht]

-- A phase that only collects characters goes on as long as none of them ends it.
theorem collect {phase : List Char → Phase} {sofar : List Char}
    (h : ∀ s c, s ++ [c] <+: t →
      (phase (s.reverse ++ sofar)).step c = .ok (phase (c :: (s.reverse ++ sofar)), none)) :
    Passes (phase sofar) t (phase (t.reverse ++ sofar)) := by
  induction t using List.reverseRecOn
  case nil => exact nil
  case append_singleton t c hi =>
    rw [List.reverse_concat]
    refine append (hi fun s d hs => h s d ?_) (single <| h t c (List.prefix_refl _))
    exact hs.trans (List.prefix_append t [c])

theorem blanks (h : ∀ c ∈ t, isBlank c) : Passes .outside t .outside := by
  induction t
  case nil => exact nil
  case cons c t hi =>
    obtain ⟨hc, ht⟩ := List.forall_mem_cons.mp h
    refine cons ?_ (hi ht)
    simp [Phase.step, hc]
    rfl

end Passes

-- An end mark that is seen among the characters so far stands in the text itself, if that has room
-- for it.
theorem infix_of_collected (mark sofar : List Char) {c : Char} (hs : s ++ [c] <+: t)
    (hm : mark.reverse <+: s.reverse ++ sofar) (room : mark.length ≤ s.length) :
    mark ++ [c] <:+: t := by
  have seen : mark.reverse <+: s.reverse :=
    List.prefix_of_prefix_length_le hm (List.prefix_append ..) (by simpa using room)
  have ⟨before, eq⟩ := List.reverse_prefix.mp seen
  have whole : mark ++ [c] <:+ s ++ [c] := ⟨before, by rw [←eq, List.append_assoc]⟩
  exact whole.isInfix.trans hs.isInfix

-- A text that becomes an item, or nothing, when the reader is behind its opening bracket.
def Gives (t : List Char) (item : Option Item) : Prop :=
  ∀ b, t.foldlM step ⟨.markup, b⟩ = deliver ⟨.outside, b⟩ item

theorem Passes.gives (h : Passes .markup t .outside) : Gives t none :=
  h

theorem Passes.gives_concat {c : Char} {item : Option Item} (ht : Passes .markup t p)
    (h : p.step c = .ok (.outside, item)) : Gives (t ++ [c]) item := by
  intro b
  have ended : step ⟨p, b⟩ c = deliver ⟨.outside, b⟩ item := by
    simp only [step, h]
    rfl
  rw [foldlM_append_ok (ht b), List.foldlM_cons, ended]
  simp

theorem passes_comment (h : ¬"-->".toList <:+: t) :
    Passes .markup ("!--".toList ++ t ++ "-->".toList) .outside := by
  have begun : Passes .markup "!--".toList (.comment "--!".toList) := fun _ => rfl
  have inside : Passes (.comment "--!".toList) t (.comment (t.reverse ++ "--!".toList)) := by
    refine .collect fun s c hs => ?_
    rw [Phase.step, if_neg]
    case hnc =>
      simp only [Bool.and_eq_true, decide_eq_true_eq, List.isPrefixOf_iff_prefix, not_and]
      rintro ⟨rfl, hm⟩ room
      exact absurd (infix_of_collected "--".toList _ hs hm (by simpa using room)) h
    rfl
  have ended : Passes (.comment (t.reverse ++ "--!".toList)) "-->".toList .outside := by
    refine .cons (q := .comment _) rfl <| .cons (q := .comment _) rfl <| .single ?_
    simp [Phase.step, Phase.checkComment]
    rfl
  exact (begun.append inside).append ended

theorem passes_instruction (first : t.head? ≠ some '>') (h : ¬"?>".toList <:+: t) :
    Passes .markup ("?".toList ++ t ++ "?>".toList) .outside := by
  have begun : Passes .markup "?".toList (.instruction ['?']) := fun _ => rfl
  have inside : Passes (.instruction ['?']) t (.instruction (t.reverse ++ ['?'])) := by
    refine .collect fun s c hs => ?_
    rw [Phase.step, if_neg]
    case hnc =>
      simp only [Bool.and_eq_true, decide_eq_true_eq, not_and]
      rintro rfl hm
      cases s
      case nil =>
        obtain ⟨rest, eq⟩ := hs
        exact first (eq ▸ rfl)
      case cons d s =>
        refine h (infix_of_collected ['?'] ['?'] hs ?_ (by simp))
        obtain ⟨rest, eq⟩ := List.head?_eq_some_iff.mp hm
        exact ⟨rest, eq.symm⟩
    rfl
  have ended : Passes (.instruction (t.reverse ++ ['?'])) "?>".toList .outside := by
    refine .cons (q := .instruction _) rfl <| .single ?_
    simp [Phase.step]
    rfl
  exact (begun.append inside).append ended

theorem gives_literal (h : ¬"]]>".toList <:+: t) :
    Gives ("![CDATA[".toList ++ t ++ "]]>".toList) (some (.literal t)) := by
  have begun : Passes .markup "![CDATA[".toList (.literal "[ATADC[!".toList) := fun _ => rfl
  have inside : Passes (.literal "[ATADC[!".toList) t
      (.literal (t.reverse ++ "[ATADC[!".toList)) := by
    refine .collect fun s c hs => ?_
    rw [Phase.step, if_neg]
    case hnc =>
      simp only [Bool.and_eq_true, decide_eq_true_eq, List.isPrefixOf_iff_prefix, not_and]
      rintro rfl hm
      have room : 2 ≤ s.reverse.length := by
        -- Before the text stands a bracket that opens.
        rcases hr : s.reverse with _ | ⟨_, _ | ⟨_, _⟩⟩
        · simp [hr] at hm
        · simp [hr] at hm
        · simp
      exact h (infix_of_collected "]]".toList _ hs hm (by simpa using room))
    rfl
  have closed : Passes (.literal (t.reverse ++ "[ATADC[!".toList)) "]]".toList
      (.literal (']' :: ']' :: (t.reverse ++ "[ATADC[!".toList))) :=
    .cons (q := .literal _) rfl <| .single rfl
  have ended : (Phase.literal (']' :: ']' :: (t.reverse ++ "[ATADC[!".toList))).step '>' =
      .ok (.outside, some (.literal t)) := by
    have taken := Item.ofLiteral_collected t
    simp only [Phase.step, taken]
    rfl
  have whole := ((begun.append inside).append closed).gives_concat ended
  simpa using whole

theorem passes_doctype (depth : Nat) (sofar : List Char) (h : Paired t) :
    Passes (.doctype depth sofar) t (.doctype depth (t.reverse ++ sofar)) := by
  induction h generalizing depth sofar
  case nil => exact .nil
  case plain c t h _ hi =>
    have hc : (Phase.doctype depth sofar).step c = .ok (.doctype depth (c :: sofar), none) := by
      simp [Phase.step, h]
      rfl
    simpa using (hi depth (c :: sofar)).cons hc
  case pair s t _ _ hs ht =>
    have inner : Passes (.doctype depth sofar) ('<' :: s)
        (.doctype (depth + 1) (s.reverse ++ '<' :: sofar)) :=
      .cons rfl (hs _ _)
    have outer : Passes (.doctype (depth + 1) (s.reverse ++ '<' :: sofar)) ('>' :: t)
        (.doctype depth (t.reverse ++ '>' :: (s.reverse ++ '<' :: sofar))) :=
      .cons rfl (ht _ _)
    simpa using inner.append outer

theorem gives_doctype {keyword : List Char} (hk : keyword.map Phase.lowerAscii = "doctype".toList)
    (named : ∃ c ∈ t, ¬isBlank c) (ht : Paired t) : Gives ('!' :: keyword ++ t ++ ['>']) none := by
  have plain : ∀ c ∈ keyword, c ≠ '<' ∧ c ≠ '>' := by
    intro c hc
    have lower : Phase.lowerAscii c ∈ "doctype".toList := hk ▸ List.mem_map_of_mem hc
    constructor <;> rintro rfl <;> exact absurd lower (by decide)
  have checked := Phase.checkDoctype_named hk named
  cases keyword
  case nil => cases hk
  case cons k rest =>
    obtain ⟨_, plain⟩ := List.forall_mem_cons.mp plain
    have initial : k = 'D' ∨ k = 'd' := Phase.eq_of_lowerAscii (List.head_eq_of_cons_eq hk)
    have begun : Passes .markup ['!', k] (.doctype 0 [k, '!']) := by
      rcases initial with rfl | rfl <;> exact fun _ => rfl
    have inside := passes_doctype 0 [k, '!'] (ht.plain_append plain)
    have ended : (Phase.doctype 0 ((rest ++ t).reverse ++ [k, '!'])).step '>' =
        .ok (.outside, none) := by
      have sofar : (rest ++ t).reverse ++ [k, '!'] = ('!' :: (k :: rest ++ t)).reverse := by simp
      rw [sofar]
      simp only [Phase.step, checked]
      rfl
    simpa using (begun.append inside).gives_concat ended

theorem FitsTag.ofTagText (h : TagText t) : FitsTag t := by
  induction h
  case nil                => exact nil
  case plain h _ hi       => exact hi.cons h
  case quoted hq hv _ hi  => exact (quoted hq hv).append hi

theorem gives_tag (first : t.head? ≠ some '!' ∧ t.head? ≠ some '?') (h : TagText t) :
    Gives (t ++ ['>']) (some (Item.ofTag t.reverse)) := by
  cases t
  case nil => exact Passes.nil.gives_concat rfl
  case cons c cs =>
    have plain : c ≠ '!' ∧ c ≠ '?' := by simpa using first
    have fits := FitsTag.ofTagText h
    refine Passes.gives_concat (p := .tag none (c :: cs).reverse) (fun b => ?_) rfl
    have begun : step ⟨.markup, b⟩ c = step ⟨.tag none [], b⟩ c := by
      simp [step, Phase.step, plain]
    rw [List.foldlM_cons, begun, ←List.foldlM_cons, fits, List.append_nil]

end Reader

open Reader

variable {s t m : List Char}

-- Behind its opening bracket an item is read to its end, whatever was read before.
theorem Markup.exists_gives (h : Markup m) : ∃ rest item, m = '<' :: rest ∧ Gives rest item := by
  cases h
  case tag first h         => exact ⟨_, _, rfl, gives_tag first h⟩
  case literal h           => exact ⟨_, _, rfl, gives_literal h⟩
  case doctype hk named ht => exact ⟨_, _, rfl, gives_doctype hk named ht⟩
  case comment h           => exact ⟨_, _, rfl, (passes_comment h).gives⟩
  case instruction first h => exact ⟨_, _, rfl, (passes_instruction first h).gives⟩

theorem Misc.passes (h : Misc t) : Passes .outside t .outside := by
  have mark : Phase.outside.step '<' = .ok (.markup, none) := rfl
  cases h
  case blanks h            => exact .blanks h
  case comment h           => exact (passes_comment h).cons mark
  case instruction first h => exact (passes_instruction first h).cons mark

-- A text that brings the reader out of all markup, if it can be read.
def LeadsOutside (s : List Char) : Prop :=
  ∀ b r, s.foldlM step ⟨.outside, b⟩ = .ok r → r.phase = .outside

theorem LeadsOutside.append (hs : LeadsOutside s) (ht : LeadsOutside t) :
    LeadsOutside (s ++ t) := by
  intro b r h
  rw [List.foldlM_append] at h
  have ⟨⟨p, b'⟩, first, h⟩ := bind_eq_ok.mp h
  cases hs b _ first
  exact ht b' r h

theorem phase_of_deliver {p : Phase} {b : Builder} {item : Option Item} {r : Reader}
    (h : deliver ⟨p, b⟩ item = .ok r) : r.phase = p := by
  rw [deliver_eq] at h
  have ⟨_, _, made⟩ := map_eq_ok.mp h
  exact made ▸ rfl

theorem Markup.leadsOutside (ht : '<' ∉ t) (hm : Markup m) : LeadsOutside (t ++ m) := by
  intro b r h
  obtain ⟨rest, item, rfl, gives⟩ := hm.exists_gives
  rw [foldlM_append_ok (foldlM_outside ht), List.foldlM_cons] at h
  have ⟨_, stepped, h⟩ := bind_eq_ok.mp h
  obtain ⟨q, found, b', moved, _, rfl⟩ := exists_of_step stepped
  have mark : q = .markup := by
    unfold phaseAfter at moved
    split at moved <;> cases moved <;> rfl
  rw [mark, gives] at h
  exact phase_of_deliver h

theorem UpToMarkup.leadsOutside (h : UpToMarkup s) : LeadsOutside s := by
  induction h
  case first ht hm => exact hm.leadsOutside ht
  case next s t m _ ht hm hi =>
    rw [List.append_assoc]
    exact hi.append (hm.leadsOutside ht)

theorem withoutMark_append (h : s ≠ []) : withoutMark (s ++ t) = withoutMark s ++ t := by
  cases s
  case nil => exact absurd rfl h
  case cons c s =>
    simp only [List.cons_append, withoutMark]
    split <;> rfl

theorem UpToMarkup.ne_nil (h : UpToMarkup s) : s ≠ [] := by
  cases h
  all_goals
    obtain ⟨_, _, rfl, _⟩ := Markup.exists_gives ‹_›
    simp

theorem UpToMarkup.withoutMark (h : UpToMarkup s) : UpToMarkup (withoutMark s) := by
  induction h
  case first t m ht hm =>
    cases t
    case nil =>
      obtain ⟨_, _, rfl, _⟩ := hm.exists_gives
      exact .first List.not_mem_nil hm
    case cons c t =>
      simp only [List.cons_append, Xml.withoutMark]
      split
      · exact .first (mt (List.mem_cons_of_mem c) ht) hm
      · exact .first ht hm
  case next s t m hs ht hm hi =>
    rw [List.append_assoc, withoutMark_append hs.ne_nil, ←List.append_assoc]
    exact .next hi ht hm

-- A text with a fault. What stands behind the fault is not looked at.
def Unreadable (s : List Char) : Prop :=
  ∃ e, (withoutMark s).foldlM step {} = .error e

theorem readDocument_insert {blanks misc after : List Char} (hs : UpToMarkup s ∨ Unreadable s)
    (hb : ∀ c ∈ blanks, isBlank c) (hm : Misc misc) :
    readDocument (s ++ blanks ++ misc ++ after) = readDocument (s ++ blanks ++ after) := by
  have ne : s ≠ [] := by
    rcases hs with hs | ⟨_, failed⟩
    · exact hs.ne_nil
    · rintro rfl
      cases failed
  have long : withoutMark (s ++ blanks ++ misc ++ after) =
      withoutMark s ++ (blanks ++ (misc ++ after)) := by
    simp [withoutMark_append ne]
  have short : withoutMark (s ++ blanks ++ after) = withoutMark s ++ (blanks ++ after) := by
    simp [withoutMark_append ne]
  rw [readDocument, readDocument, long, short]
  cases read : (withoutMark s).foldlM step {}
  case error e => rw [foldlM_append_error read, foldlM_append_error read]
  case ok r =>
    obtain ⟨p, b⟩ := r
    have outside : p = .outside := by
      rcases hs with hs | ⟨_, failed⟩
      · exact hs.withoutMark.leadsOutside _ _ read
      · cases read.symm.trans failed
    subst outside
    have passed : Passes .outside blanks .outside := .blanks hb
    rw [foldlM_append_ok read, foldlM_append_ok read, foldlM_append_ok (passed b),
      foldlM_append_ok (passed b), foldlM_append_ok (hm.passes b)]

end TestSieve.Xml

namespace TestSieve.Filter

open Xml

-- Blanks, comments and instructions behind a markup item, and blanks after it, change nothing: not
-- the filter that is read, and not the error.
theorem parse_insert [Regex.Engine] {s blanks misc after : List Char} (hs : UpToMarkup s ∨ Unreadable s)
    (hb : ∀ c ∈ blanks, isBlank c) (hm : Misc misc) :
    parse (.ofList (s ++ blanks ++ misc ++ after)) = parse (.ofList (s ++ blanks ++ after)) := by
  rw [parse, parse, String.toList_ofList, String.toList_ofList, readDocument_insert hs hb hm]

theorem parse_insert_comment :
    let s := "<filter><cat k='>'>a</cat>".toList
    let misc := comment "><cat> --".toList
    let after := "\t<cat>b</cat></filter>".toList
    UpToMarkup s ∧ Misc misc ∧
      parse (.ofList (s ++ ['\n'] ++ misc ++ after)) = .ok (.and [
        .field .category (.literal "a"), .field .category (.literal "b")]) := by
  intro s misc after
  have none : '<' ∉ [] := List.not_mem_nil
  have filter : Markup ('<' :: (("filter".toList ++ []) ++ ['>'])) :=
    .tag (by decide) (TagText.nil.plain_append rfl)
  have quoted : TagText "'>'".toList := TagText.nil.quoted (.inl rfl) (v := ['>']) (by decide)
  have cat : Markup ('<' :: (("cat k=".toList ++ "'>'".toList) ++ ['>'])) :=
    .tag (by decide) (quoted.plain_append rfl)
  have catEnd : Markup ('<' :: (("/cat".toList ++ []) ++ ['>'])) :=
    .tag (by decide) (TagText.nil.plain_append rfl)
  have hs := ((UpToMarkup.first none filter).next none cat).next (t := ['a']) (by decide) catEnd
  have hm : Misc misc := .comment (by simp [List.infix_cons_iff])
  have blank : ∀ c ∈ ['\n'], isBlank c := List.forall_mem_singleton.mpr rfl
  refine ⟨hs, hm, (parse_insert (.inl hs) blank hm).trans ?_⟩
  have read : readDocument "<filter><cat k='>'>a</cat>\n\t<cat>b</cat></filter>".toList =
      .ok ⟨"filter", [], "", [⟨"cat", [⟨"k", ">"⟩], "a", []⟩, ⟨"cat", [], "b", []⟩]⟩ := by rfl
  exact congrArg (· >>= ofDocument) read

end TestSieve.Filter
