import Mathlib.Data.List.DropRight
import TestSieve.Filter.Reader

namespace TestSieve

section

variable {p : Char → Bool} {t : List Char}

-- Dropping from both ends leaves nothing only where there is nothing else.
theorem rdropWhile_dropWhile_eq_nil_iff :
    (t.dropWhile p).rdropWhile p = [] ↔ ∀ c ∈ t, p c := by
  rw [List.rdropWhile_eq_nil_iff]
  refine ⟨fun h c hc => ?_, fun h c hc => h c <| (List.dropWhile_sublist p).subset hc⟩
  rw [←List.takeWhile_append_dropWhile (p := p) (l := t), List.mem_append] at hc
  exact hc.elim List.mem_takeWhile_imp (h c)

-- A text with nothing to drop at its ends.
def Bounded (p : Char → Bool) (t : List Char) : Prop :=
  (∀ c ∈ t.head?, ¬p c) ∧ ∀ c ∈ t.getLast?, ¬p c

instance : Decidable (Bounded p t) :=
  decidable_of_iff (t.head?.all (!p ·) ∧ t.getLast?.all (!p ·)) <| by
    simp [Bounded, Option.all_eq_true]

-- Where both ends were dropped, nothing is left to drop.
theorem bounded_rdropWhile_dropWhile : Bounded p ((t.dropWhile p).rdropWhile p) := by
  constructor <;> intro c hc
  case left =>
    have ⟨dropped, eq⟩ := List.rdropWhile_prefix p (t.dropWhile p)
    have first := List.head?_dropWhile_not p t
    rw [←eq, List.head?_append, hc] at first
    exact ne_true_of_eq_false first
  case right =>
    have ⟨ne, last⟩ := List.mem_getLast?_eq_getLast hc
    exact last ▸ List.rdropWhile_last_not p _ ne

theorem rdropWhile_dropWhile_subset : (t.dropWhile p).rdropWhile p ⊆ t :=
  List.Subset.trans (List.rdropWhile_prefix p _).subset (List.dropWhile_suffix p).subset

theorem Bounded.dropWhile_eq (h : Bounded p t) : t.dropWhile p = t := by
  cases t
  case nil      => rfl
  case cons c _ => exact List.dropWhile_cons_of_neg (h.1 c rfl)

theorem Bounded.rdropWhile_eq (h : Bounded p t) : t.rdropWhile p = t :=
  List.rdropWhile_eq_self_iff.mpr fun hl => h.2 _ (List.getLast?_eq_some_getLast hl)

theorem Bounded.exists_solid (h : Bounded p t) (ne : t ≠ []) : ∃ c ∈ t, ¬p c := by
  have ⟨c, rest, eq⟩ := List.exists_cons_of_ne_nil ne
  exact ⟨c, by simp [eq], h.1 c (by simp [eq])⟩

theorem Bounded.trimSpace_eq (h : Bounded Unicode.isSpace t) : Unicode.trimSpace t = t := by
  rw [Unicode.trimSpace, h.dropWhile_eq]
  exact h.rdropWhile_eq

theorem Bounded.trim_eq (h : Bounded Xml.isBlank t) : Xml.trim t = t := by
  rw [Xml.trim, Xml.trimStart, h.dropWhile_eq]
  exact h.rdropWhile_eq

end

theorem Xml.trim_eq_nil_iff {t : List Char} : trim t = [] ↔ ∀ c ∈ t, isBlank c :=
  rdropWhile_dropWhile_eq_nil_iff

theorem Xml.trim_eq_self_iff {t : List Char} : trim t = t ↔ Bounded isBlank t :=
  ⟨fun h => h ▸ bounded_rdropWhile_dropWhile, Bounded.trim_eq⟩

namespace Unicode

theorem trimSpace_eq_nil_iff {t : List Char} : trimSpace t = [] ↔ ∀ c ∈ t, isSpace c :=
  rdropWhile_dropWhile_eq_nil_iff

theorem trimSpace_cons {c : Char} (h : isSpace c) (t : List Char) :
    trimSpace (c :: t) = trimSpace t := by
  rw [trimSpace, List.dropWhile_cons_of_pos h]
  rfl

theorem trimSpace_concat {c : Char} (h : isSpace c) (t : List Char) :
    trimSpace (t ++ [c]) = trimSpace t := by
  rw [trimSpace, List.dropWhile_append]
  split
  case isTrue none => simp [trimSpace, h, List.isEmpty_iff.mp none]
  case isFalse     => simp [trimSpace, h]

end Unicode

open Unicode

theorem isSpace_of_isBlank {c : Char} (h : Xml.isBlank c) : isSpace c := by
  simp only [Xml.isBlank, Bool.or_eq_true, beq_iff_eq] at h
  rcases h with ((rfl | rfl) | rfl) | rfl <;> decide

-- The pieces of a list, of which `splitIds` keeps those that are not empty.
def pieces (t : List Char) : List (List Char) :=
  (t.splitOn ',').map trimSpace

theorem splitIds_eq (text : String) :
    splitIds text = ((pieces text.toList).map String.ofList).filter (· ≠ "") := by
  simp [splitIds, pieces, Function.comp_def]

theorem pieces_append (s t : List Char) : pieces (s ++ ',' :: t) = pieces s ++ pieces t := by
  simp [pieces, List.splitOn_append_cons_self]

theorem pieces_of_notMem {t : List Char} (h : ',' ∉ t) : pieces t = [trimSpace t] := by
  simp [pieces, List.splitOn_eq_singleton h]

theorem ne_comma_of_isSpace {c : Char} (h : isSpace c) : ',' ≠ c :=
  fun eq => absurd (eq ▸ h) (by decide)

theorem pieces_cons {c : Char} (h : isSpace c) (t : List Char) : pieces (c :: t) = pieces t := by
  have hc := ne_comma_of_isSpace h
  by_cases ht : ',' ∈ t
  case neg => rw [pieces_of_notMem (by simp [ht, hc]), pieces_of_notMem ht, trimSpace_cons h]
  case pos =>
    have ⟨first, rest, eq, hf⟩ := List.eq_append_cons_of_mem ht
    rw [eq, ←List.cons_append, pieces_append, pieces_append, pieces_of_notMem (by simp [hf, hc]),
      pieces_of_notMem hf, trimSpace_cons h]

theorem pieces_concat {c : Char} (h : isSpace c) (t : List Char) :
    pieces (t ++ [c]) = pieces t := by
  have hc := ne_comma_of_isSpace h
  by_cases ht : ',' ∈ t
  case neg => rw [pieces_of_notMem (by simp [ht, hc]), pieces_of_notMem ht, trimSpace_concat h]
  case pos =>
    -- The last comma of the text is the first one from behind.
    have ⟨behind, before, eq, hb⟩ := List.eq_append_cons_of_mem (List.mem_reverse.mpr ht)
    have eq : t = before.reverse ++ ',' :: behind.reverse := by simpa using congrArg List.reverse eq
    have last : ',' ∉ behind.reverse := by simpa using hb
    have longer : ',' ∉ behind.reverse ++ [c] := by simpa [hc] using hb
    rw [eq, List.append_assoc, List.cons_append, pieces_append, pieces_append,
      pieces_of_notMem last, pieces_of_notMem longer, trimSpace_concat h]

theorem pieces_trim (t : List Char) : pieces (Xml.trim t) = pieces t := by
  have start (t : List Char) : pieces (t.dropWhile Xml.isBlank) = pieces t := by
    induction t
    case nil => rfl
    case cons c t hi =>
      rw [List.dropWhile_cons]
      split
      case isTrue hc => rw [hi, pieces_cons (isSpace_of_isBlank hc)]
      case isFalse   => rfl
  have finish (t : List Char) : pieces (t.rdropWhile Xml.isBlank) = pieces t := by
    induction t using List.reverseRecOn
    case nil => rfl
    case append_singleton t c hi =>
      rw [List.rdropWhile_concat]
      split
      case isTrue hc => rw [hi, pieces_concat (isSpace_of_isBlank hc)]
      case isFalse   => rfl
  exact (finish _).trans (start t)

-- Blanks around the whole list change nothing.
theorem splitIds_trim (text : String) :
    splitIds (.ofList (Xml.trim text.toList)) = splitIds text := by
  rw [splitIds_eq, splitIds_eq, String.toList_ofList, pieces_trim]

theorem splitIds_ne_nil_iff {text : String} :
    splitIds text ≠ [] ↔ ∃ piece ∈ text.toList.splitOn ',', ∃ c ∈ piece, ¬isSpace c := by
  simp [splitIds_eq, pieces, trimSpace_eq_nil_iff]

theorem intercalate_cons {α : Type} (a : α) (first : List α) (parts : List (List α)) :
    [a].intercalate (first :: parts) = first ++ parts.flatMap (a :: ·) := by
  induction parts generalizing first
  case nil            => simp
  case cons next _ hi => simp [List.intercalate_cons_cons, hi]

theorem joinIds_eq_empty_iff {entries : List String} :
    Criterion.joinIds entries = "" ↔ ∀ e ∈ entries, e = "" := by
  have kept : entries.filter (· ≠ "") = [] ↔ ∀ e ∈ entries, e = "" := by simp
  rw [←kept, Criterion.joinIds, ←String.toList_eq_nil_iff, String.toList_intercalate]
  cases hk : entries.filter (· ≠ "")
  case nil => simp
  case cons e rest =>
    have ne : e ≠ "" := by
      have := List.of_mem_filter (hk ▸ List.mem_cons_self : e ∈ entries.filter (· ≠ ""))
      simpa using this
    simp [intercalate_cons, ne]

theorem pieces_intercalate {parts : List (List Char)} (h : parts ≠ []) :
    pieces ([','].intercalate parts) = parts.flatMap pieces := by
  induction parts
  case nil => exact absurd rfl h
  case cons first parts hi =>
    match parts with
    | []           => simp
    | next :: more =>
      have rest := hi (List.cons_ne_nil next more)
      rw [List.intercalate_cons_cons, List.append_assoc, List.singleton_append, pieces_append,
        rest, ←List.flatMap_cons]

theorem flatMap_splitIds_filter (entries : List String) :
    (entries.filter (· ≠ "")).flatMap splitIds = entries.flatMap splitIds := by
  have none : splitIds "" = [] := by decide
  induction entries
  case nil         => rfl
  case cons e _ hi => by_cases he : e = "" <;> simpa [he, none] using hi

-- The ids of joined entries are those of the entries, one entry after the other.
theorem splitIds_joinIds (entries : List String) :
    splitIds (Criterion.joinIds entries) = entries.flatMap splitIds := by
  rw [←flatMap_splitIds_filter, Criterion.joinIds]
  by_cases none : entries.filter (· ≠ "") = []
  case pos =>
    rw [none]
    decide
  case neg =>
    have some : (entries.filter (· ≠ "")).map String.toList ≠ [] := mt List.map_eq_nil_iff.mp none
    have comma : ",".toList = [','] := rfl
    rw [splitIds_eq, String.toList_intercalate, comma, pieces_intercalate some]
    simp only [List.flatMap_map, List.map_flatMap, List.filter_flatMap, funext splitIds_eq]

theorem notMem_of_mem_splitOn {a : Char} {t part : List Char} (h : part ∈ t.splitOn a) :
    a ∉ part := by
  induction t generalizing part
  case nil => simp_all
  case cons c t hi =>
    have ⟨first, rest, eq⟩ := List.exists_cons_of_ne_nil <| List.splitOn_ne_nil a t
    rw [List.splitOn_cons_eq_if_modifyHead, eq] at h
    rw [eq] at hi
    split at h
    case isTrue  => grind
    case isFalse => grind [List.modifyHead_cons]

-- What is found in a list stands between two commas, without space around it.
theorem clean_of_mem_splitIds {text id : String} (h : id ∈ splitIds text) :
    id ≠ "" ∧ ',' ∉ id.toList ∧ Bounded isSpace id.toList := by
  rw [splitIds_eq, pieces, List.map_map, List.mem_filter, List.mem_map] at h
  obtain ⟨⟨part, hp, rfl⟩, some⟩ := h
  simp only [Function.comp_apply, String.toList_ofList]
  refine ⟨by simpa using some, fun comma => ?_, bounded_rdropWhile_dropWhile⟩
  exact notMem_of_mem_splitOn hp <| rdropWhile_dropWhile_subset comma

-- An entry that can stand in a list as it is.
theorem splitIds_of_clean {id : String} (some : id ≠ "")
    (h : ',' ∉ id.toList ∧ Bounded isSpace id.toList) : splitIds id = [id] := by
  rw [splitIds_eq, pieces_of_notMem h.1, h.2.trimSpace_eq]
  simpa using some

theorem splitIds_joinIds_of_clean {entries : List String}
    (h : ∀ e ∈ entries, e ≠ "" → ',' ∉ e.toList ∧ Bounded isSpace e.toList) :
    splitIds (Criterion.joinIds entries) = entries.filter (· ≠ "") := by
  have alone : ∀ e ∈ entries.filter (· ≠ ""), splitIds e = [e] := by
    intro e he
    have ⟨listed, kept⟩ := List.mem_filter.mp he
    have some : e ≠ "" := by simpa using kept
    exact splitIds_of_clean some (h e listed some)
  rw [splitIds_joinIds, ←flatMap_splitIds_filter, List.flatMap_congr alone,
    List.flatMap_singleton']

end TestSieve
