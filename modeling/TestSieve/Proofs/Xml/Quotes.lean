import Mathlib.Data.List.Basic
import TestSieve.Proofs.Xml.Markup

namespace TestSieve.Xml

section

variable {s t u v : List Char} {q : Char}

-- The quote that is open behind one more character of a tag, unless the character ends the tag.
def quoteStep (quote : Option Char) (c : Char) : Option (Option Char) :=
  match quote with
  | some q => some (if c = q then none else some q)
  | none   => if c = '>' then none else some (if c = '\'' ∨ c = '"' then some c else none)

theorem quoteStep_plain {c : Char} (h : c ≠ '>' ∧ c ≠ '\'' ∧ c ≠ '"') :
    quoteStep none c = some none := by
  simp [quoteStep, h]

theorem quoteStep_opening (hq : q = '\'' ∨ q = '"') : quoteStep none q = some (some q) := by
  rcases hq with rfl | rfl <;> rfl

theorem quoteStep_closing (q : Char) : quoteStep (some q) q = some none := by
  simp [quoteStep]

theorem foldlM_quoteStep_inside (h : q ∉ v) : v.foldlM quoteStep (some q) = some (some q) := by
  induction v
  case nil => rfl
  case cons c v hi =>
    simp only [List.mem_cons, not_or] at h
    simp [quoteStep, Ne.symm h.1, hi h.2]

-- A tag that goes on from outside of quotes, and one that goes on inside of them.
theorem tagText_of_foldlM : (t.foldlM quoteStep none = some none → TagText t) ∧
    ∀ q, q = '\'' ∨ q = '"' → t.foldlM quoteStep (some q) = some none →
      ∃ v u, t = v ++ q :: u ∧ q ∉ v ∧ TagText u := by
  induction t
  case nil => exact ⟨fun _ => .nil, nofun⟩
  case cons c t hi =>
    refine ⟨fun h => ?outside, fun q hq h => ?inside⟩
    case outside =>
      by_cases hc : c = '\'' ∨ c = '"'
      case pos =>
        rw [List.foldlM_cons, quoteStep_opening hc] at h
        obtain ⟨v, u, rfl, hv, hu⟩ := hi.2 c hc h
        simpa using TagText.quoted hc hv hu
      case neg =>
        by_cases ended : c = '>'
        case pos =>
          subst ended
          cases h
        case neg =>
          have plain := And.intro ended (not_or.mp hc)
          rw [List.foldlM_cons, quoteStep_plain plain] at h
          exact .plain plain (hi.1 h)
    case inside =>
      by_cases hc : c = q
      case pos =>
        subst hc
        rw [List.foldlM_cons, quoteStep_closing] at h
        exact ⟨[], t, rfl, List.not_mem_nil, hi.1 h⟩
      case neg =>
        have inner : quoteStep (some q) c = some (some q) := by simp [quoteStep, hc]
        rw [List.foldlM_cons, inner] at h
        obtain ⟨v, u, rfl, hv, hu⟩ := hi.2 q hq h
        exact ⟨c :: v, u, rfl, by simp [hv, Ne.symm hc], hu⟩

theorem tagText_iff : TagText t ↔ t.foldlM quoteStep none = some none := by
  refine ⟨fun h => ?_, tagText_of_foldlM.1⟩
  induction h
  case nil => rfl
  case plain h _ hi      => simpa [quoteStep_plain h] using hi
  case quoted hq hv _ hi =>
    simp [quoteStep_opening hq, quoteStep_closing, foldlM_quoteStep_inside hv, hi]

theorem TagText.append (hs : TagText s) (ht : TagText t) : TagText (s ++ t) := by
  rw [tagText_iff] at hs ht ⊢
  rw [List.foldlM_append, hs]
  exact ht

-- Characters that neither end a tag nor open quotes in it.
def Plain (t : List Char) : Prop :=
  ∀ c ∈ t, c ≠ '>' ∧ c ≠ '\'' ∧ c ≠ '"'

-- A text that makes no difference in a tag, outside of quotes or inside.
def Neutral (t : List Char) : Prop :=
  ∀ quote ∈ [none, some '\'', some '"'], t.foldlM quoteStep quote = some quote

theorem Plain.neutral (h : Plain t) : Neutral t := by
  intro quote hq
  induction t
  case nil => rfl
  case cons c t hi =>
    obtain ⟨hc, ht⟩ := List.forall_mem_cons.mp h
    have same : quoteStep quote c = some quote := by
      simp only [List.mem_cons, List.not_mem_nil, or_false] at hq
      rcases hq with rfl | rfl | rfl <;> simp [quoteStep, hc]
    rw [List.foldlM_cons, same]
    exact hi ht

theorem Neutral.append (hs : Neutral s) (ht : Neutral t) : Neutral (s ++ t) := by
  intro quote hq
  rw [List.foldlM_append, hs quote hq]
  exact ht quote hq

theorem Neutral.quoted (hq : q = '\'' ∨ q = '"') (h : Plain v) : Neutral (q :: (v ++ [q])) := by
  have inner := h.neutral
  simp only [Neutral, List.forall_mem_cons, List.not_mem_nil, false_implies, implies_true,
    and_true] at inner ⊢
  rcases hq with rfl | rfl <;> simp [quoteStep, inner]

theorem quoteStep_mem {quote next : Option Char} {c : Char}
    (hq : quote ∈ [none, some '\'', some '"']) (h : quoteStep quote c = some next) :
    next ∈ [none, some '\'', some '"'] := by
  unfold quoteStep at h
  split at h
  case h_1 q =>
    cases h
    split
    case isTrue  => exact List.mem_cons_self
    case isFalse => exact hq
  case h_2 =>
    split at h <;> cases h
    split
    case isTrue hc => rcases hc with rfl | rfl <;> simp
    case isFalse   => exact List.mem_cons_self

-- Behind any part of a tag either no quote is open, or one of the two kinds.
theorem foldlM_quoteStep_mem {quote next : Option Char}
    (hq : quote ∈ [none, some '\'', some '"']) (h : t.foldlM quoteStep quote = some next) :
    next ∈ [none, some '\'', some '"'] := by
  induction t generalizing quote
  case nil =>
    cases h
    exact hq
  case cons c t hi =>
    obtain ⟨after, stepped, h⟩ := Option.bind_eq_some_iff.mp h
    exact hi (quoteStep_mem hq stepped) h

theorem Neutral.tagText_iff (h : Neutral u) : TagText (s ++ (u ++ t)) ↔ TagText (s ++ t) := by
  rw [Xml.tagText_iff, Xml.tagText_iff, List.foldlM_append, List.foldlM_append]
  cases run : s.foldlM quoteStep none
  case none => rfl
  case some quote =>
    have known := foldlM_quoteStep_mem List.mem_cons_self run
    change (u ++ t).foldlM quoteStep quote = _ ↔ _
    rw [List.foldlM_append, h quote known]

theorem Plain.tagText (h : Plain t) : TagText t :=
  tagText_iff.mpr <| h.neutral none List.mem_cons_self

theorem Plain.append (hs : Plain s) (ht : Plain t) : Plain (s ++ t) :=
  List.forall_mem_append.mpr ⟨hs, ht⟩

theorem Plain.blanks (h : ∀ c ∈ t, isBlank c) : Plain t := by
  intro c hc
  refine ⟨?_, ?_, ?_⟩ <;> rintro rfl <;> exact absurd (h _ hc) (by decide)

theorem IsName.plain {name : String} (h : IsName name) : Plain name.toList := fun c hc =>
  ⟨ne_of_isLower (h.2 c hc) rfl, ne_of_isLower (h.2 c hc) rfl, ne_of_isLower (h.2 c hc) rfl⟩

-- Characters that open no quotes.
def Unquoted (t : List Char) : Prop :=
  ∀ c ∈ t, c ≠ '\'' ∧ c ≠ '"'

-- Outside of quotes they do not end the tag, if it goes on.
theorem TagText.plain_of_unquoted (hs : Unquoted s) (h : TagText (s ++ t)) : Plain s := by
  induction s
  case nil => exact List.forall_mem_nil _
  case cons c s hi =>
    obtain ⟨hc, hs⟩ := List.forall_mem_cons.mp hs
    by_cases ended : c = '>'
    case pos =>
      subst ended
      cases tagText_iff.mp h
    case neg =>
      rw [tagText_iff, List.cons_append, List.foldlM_cons, quoteStep_plain ⟨ended, hc⟩] at h
      exact List.forall_mem_cons.mpr ⟨⟨ended, hc⟩, hi hs (tagText_iff.mpr h)⟩

theorem TagText.of_append (hs : TagText s) (h : TagText (s ++ t)) : TagText t := by
  rw [tagText_iff] at *
  rwa [List.foldlM_append, hs] at h

end

end TestSieve.Xml
