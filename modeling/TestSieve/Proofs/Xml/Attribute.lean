import TestSieve.Xml.Attribute

namespace TestSieve.Xml

section

variable {α ε : Type} {step : α → Char → Except ε α} {a b : α} {c : Char} {s t : List Char}

theorem foldlM_cons_ok (h : step a c = .ok b) : (c :: t).foldlM step a = t.foldlM step b := by
  rw [List.foldlM_cons, h]
  rfl

theorem foldlM_append_ok (h : s.foldlM step a = .ok b) :
    (s ++ t).foldlM step a = t.foldlM step b := by
  rw [List.foldlM_append, h]
  rfl

theorem foldlM_append_error {e : ε} (h : s.foldlM step a = .error e) :
    (s ++ t).foldlM step a = .error e := by
  rw [List.foldlM_append, h]
  rfl

end

-- Names of tags and attributes as they are written here.
def IsName (name : String) : Prop :=
  name.toList ≠ [] ∧ ∀ c ∈ name.toList, c.isLower

-- Only the characters of the name are tried.
instance (name : String) : Decidable (IsName name) :=
  decidable_of_iff (name.toList ≠ [] ∧ name.toList.all (·.isLower)) (by simp [IsName])

theorem not_isBlank_of_isLower {c : Char} (h : c.isLower) : isBlank c = false := by
  refine Bool.eq_false_iff.mpr fun hb => ?_
  simp only [isBlank, Bool.or_eq_true, beq_iff_eq] at hb
  rcases hb with ((rfl | rfl) | rfl) | rfl <;> exact absurd h (by decide)

theorem ne_of_isLower {c d : Char} (h : c.isLower) (hd : d.isLower = false) : c ≠ d := by
  rintro rfl
  simp [h] at hd

theorem quote_notMem_escapeValue (value : List Char) : '"' ∉ escapeValue value := by
  simp only [escapeValue, List.mem_flatMap, not_exists, not_and]
  intro c _
  unfold escapeValueChar
  split
  case h_1 => decide
  case h_2 => decide
  case h_3 ne =>
    unfold escapeTextChar
    split <;> first | decide | simpa using Ne.symm ne

-- An attribute as it may be spelled: blanks, the key, an equals sign between blanks, and a text
-- between two equal quotes that stands for the value.
structure Written where
  gap          : List Char
  key          : String
  before       : List Char
  after        : List Char
  quote        : Char
  raw          : List Char
  value        : List Char
  gap_ne       : gap ≠ []
  gap_blank    : ∀ c ∈ gap, isBlank c
  key_ne       : key.toList ≠ []
  key_solid    : ∀ c ∈ key.toList, ¬isBlank c
  -- The first character of a key may be any, also an equals sign.
  key_tail     : '=' ∉ key.toList.tail
  before_blank : ∀ c ∈ before, isBlank c
  after_blank  : ∀ c ∈ after, isBlank c
  quotes       : quote = '\'' ∨ quote = '"'
  closed       : quote ∉ raw
  reads        : unescape raw = .ok value

namespace Written

-- An attribute up to its equals sign, and from there on.
def label (a : Written) : List Char :=
  a.gap ++ a.key.toList ++ a.before ++ ['=']

def quoted (a : Written) : List Char :=
  a.after ++ a.quote :: (a.raw ++ [a.quote])

def text (a : Written) : List Char :=
  a.label ++ a.quoted

def toAttribute (a : Written) : Attribute :=
  { key := a.key, value := .ofList a.value }

-- An attribute behind a single space, with no other blanks.
def spaced (key : String) (quote : Char) (raw value : List Char)
    (hk : key.toList ≠ [] ∧ key.toList.all (!isBlank ·) ∧ '=' ∉ key.toList.tail)
    (hv : (quote = '\'' ∨ quote = '"') ∧ quote ∉ raw ∧ unescape raw = .ok value) : Written where
  gap          := [' ']
  key          := key
  before       := []
  after        := []
  quote        := quote
  raw          := raw
  value        := value
  gap_ne       := List.cons_ne_nil _ _
  gap_blank    := List.forall_mem_singleton.mpr rfl
  key_ne       := hk.1
  key_solid    := by simpa using hk.2.1
  key_tail     := hk.2.2
  before_blank := nofun
  after_blank  := nofun
  quotes       := hv.1
  closed       := hv.2.1
  reads        := hv.2.2

end Written

namespace Attribute

def render (a : Attribute) : List Char :=
  renderAttribute a.key a.value

namespace Progress

variable {position start : Nat} {key : String} {sofar : List Char} {phase : Phase}
variable {found : List (Nat × Attribute)} {as : List Written}

-- Blanks are passed over where the reader waits for something.
theorem foldlM_blanks {cs : List Char} (h : ∀ c ∈ cs, isBlank c)
    (waits : ∀ position c, isBlank c → step ⟨position, phase, found⟩ c =
      .ok ⟨position + c.utf8Size, phase, found⟩) :
    cs.foldlM step ⟨position, phase, found⟩ = .ok ⟨position + byteLength cs, phase, found⟩ := by
  induction cs generalizing position
  case nil => rfl
  case cons c cs hi =>
    obtain ⟨hc, hs⟩ := List.forall_mem_cons.mp h
    rw [foldlM_cons_ok (waits position c hc), hi hs]
    simp [byteLength, Nat.add_assoc]

theorem foldlM_between {cs : List Char} (h : ∀ c ∈ cs, isBlank c) :
    cs.foldlM step ⟨position, .between, found⟩ =
      .ok ⟨position + byteLength cs, .between, found⟩ := by
  refine foldlM_blanks h fun position c hc => ?_
  simp [step, hc]
  rfl

theorem foldlM_afterKey {cs : List Char} (h : ∀ c ∈ cs, isBlank c) :
    cs.foldlM step ⟨position, .afterKey start key, found⟩ =
      .ok ⟨position + byteLength cs, .afterKey start key, found⟩ := by
  refine foldlM_blanks h fun position c hc => ?_
  have ne : c ≠ '=' := by rintro rfl; cases hc
  simp [step, hc, ne]
  rfl

theorem foldlM_beforeValue {cs : List Char} (h : ∀ c ∈ cs, isBlank c) :
    cs.foldlM step ⟨position, .beforeValue start key, found⟩ =
      .ok ⟨position + byteLength cs, .beforeValue start key, found⟩ := by
  refine foldlM_blanks h fun position c hc => ?_
  simp [step, hc]
  rfl

theorem foldlM_key {cs : List Char} (h : ∀ c ∈ cs, ¬isBlank c) (ends : '=' ∉ cs) :
    cs.foldlM step ⟨position, .key start sofar, found⟩ =
      .ok ⟨position + byteLength cs, .key start (cs.reverse ++ sofar), found⟩ := by
  induction cs generalizing position sofar
  case nil => rfl
  case cons c cs hi =>
    obtain ⟨hc, hs⟩ := List.forall_mem_cons.mp h
    simp only [List.mem_cons, not_or] at ends
    have hs' : step ⟨position, .key start sofar, found⟩ c =
        .ok ⟨position + c.utf8Size, .key start (c :: sofar), found⟩ := by
      simp [step, hc, Ne.symm ends.1]
      rfl
    rw [foldlM_cons_ok hs', hi hs ends.2]
    simp [byteLength, Nat.add_assoc]

theorem foldlM_value {quote : Char} {cs : List Char} (h : quote ∉ cs) :
    cs.foldlM step ⟨position, .value start key quote sofar, found⟩ =
      .ok ⟨position + byteLength cs, .value start key quote (cs.reverse ++ sofar), found⟩ := by
  induction cs generalizing position sofar
  case nil => rfl
  case cons c cs hi =>
    simp only [List.mem_cons, not_or] at h
    have hs : step ⟨position, .value start key quote sofar, found⟩ c =
        .ok ⟨position + c.utf8Size, .value start key quote (c :: sofar), found⟩ := by
      simp [step, Ne.symm h.1]
      rfl
    rw [foldlM_cons_ok hs, hi h.2]
    simp [byteLength, Nat.add_assoc]

theorem step_key_equals : step ⟨position, .key start sofar, found⟩ '=' =
    (⟨position + 1, ·, found⟩) <$>
      withKey ⟨position, .between, found⟩ start (.ofList sofar.reverse) := by
  simp only [step, if_pos, withKey]
  cases found.find? (·.2.key = .ofList sofar.reverse) <;> rfl

theorem step_afterKey_equals : step ⟨position, .afterKey start key, found⟩ '=' =
    (⟨position + 1, ·, found⟩) <$> withKey ⟨position, .between, found⟩ start key := by
  simp only [step, if_pos, withKey]
  cases found.find? (·.2.key = key) <;> rfl

-- At the equals sign it is decided whether the key is new.
theorem foldlM_label (position : Nat) (found : List (Nat × Attribute)) (a : Written) :
    ∃ next start, a.label.foldlM step ⟨position, .between, found⟩ =
      (⟨next, ·, found⟩) <$> withKey ⟨position, .between, found⟩ start a.key := by
  have ⟨c, cs, hc⟩ := List.exists_cons_of_ne_nil a.key_ne
  have solid := a.key_solid
  have ends := a.key_tail
  rw [hc] at solid ends
  obtain ⟨first, solid⟩ := List.forall_mem_cons.mp solid
  have same : String.ofList (cs.reverse ++ [c]).reverse = a.key := by simp [←hc]
  have begun (position) : step ⟨position, .between, found⟩ c =
      .ok ⟨position + c.utf8Size, .key position [c], found⟩ := by
    simp [step, first]
    rfl
  rw [Written.label, hc, List.append_assoc, List.append_assoc,
    foldlM_append_ok (foldlM_between a.gap_blank), List.cons_append, foldlM_cons_ok (begun _),
    foldlM_append_ok (foldlM_key solid ends)]
  cases before : a.before
  case nil =>
    rw [List.nil_append, List.foldlM_cons, step_key_equals, same]
    simp only [List.foldlM_nil, bind_pure]
    exact ⟨_, _, rfl⟩
  case cons d ds =>
    obtain ⟨hd, hds⟩ := List.forall_mem_cons.mp (before ▸ a.before_blank)
    have left (position start) : step ⟨position, .key start (cs.reverse ++ [c]), found⟩ d =
        .ok ⟨position + d.utf8Size, .afterKey start a.key, found⟩ := by
      have ne : d ≠ '=' := by rintro rfl; cases hd
      simp only [step, if_neg ne, if_pos hd, same]
      rfl
    rw [List.cons_append, foldlM_cons_ok (left ..), foldlM_append_ok (foldlM_afterKey hds),
      List.foldlM_cons, step_afterKey_equals]
    simp only [List.foldlM_nil, bind_pure]
    exact ⟨_, _, rfl⟩

-- An attribute with a new key is found at the end of its text.
theorem foldlM_text (position : Nat) (a : Written) (hn : ∀ b ∈ found, b.2.key ≠ a.key) :
    ∃ next start, a.text.foldlM step ⟨position, .between, found⟩ =
      .ok ⟨next, .between, (start, a.toAttribute) :: found⟩ := by
  have ⟨next, start, h⟩ := foldlM_label position found a
  have new : withKey ⟨position, .between, found⟩ start a.key = .ok (.beforeValue start a.key) := by
    have none : found.find? (·.2.key = a.key) = none := by simpa using hn
    simp only [withKey, none]
    rfl
  have opened (position) : step ⟨position, .beforeValue start a.key, found⟩ a.quote =
      .ok ⟨position + a.quote.utf8Size, .value start a.key a.quote [], found⟩ := by
    rcases a.quotes with eq | eq <;> rw [eq] <;> rfl
  have ended (position) : step ⟨position, .value start a.key a.quote (a.raw.reverse ++ []), found⟩
      a.quote = .ok ⟨position + a.quote.utf8Size, .between, (start, a.toAttribute) :: found⟩ := by
    simp [step, a.reads]
    rfl
  rw [new] at h
  rw [Written.text, foldlM_append_ok h, Written.quoted,
    foldlM_append_ok (foldlM_beforeValue a.after_blank), foldlM_cons_ok (opened _),
    foldlM_append_ok (foldlM_value a.closed), foldlM_cons_ok (ended _)]
  exact ⟨_, _, rfl⟩

-- One with a key that was found before is refused.
theorem foldlM_text_known (position : Nat) (a : Written) (hn : ¬∀ b ∈ found, b.2.key ≠ a.key) :
    ∃ e, a.text.foldlM step ⟨position, .between, found⟩ = .error e := by
  have ⟨next, start, h⟩ := foldlM_label position found a
  cases seen : found.find? (·.2.key = a.key)
  case none => exact absurd (by simpa using seen) hn
  case some b =>
    have known : withKey ⟨position, .between, found⟩ start a.key =
        .error (.badAttribute (.duplicated start b.1)) := by
      simp only [withKey, seen]
      rfl
    rw [known] at h
    exact ⟨_, foldlM_append_error h⟩

-- The keys are different, and none was found before.
def Fresh (found : List (Nat × Attribute)) (as : List Written) : Prop :=
  (as.map (·.key)).Nodup ∧ ∀ a ∈ as, ∀ b ∈ found, b.2.key ≠ a.key

theorem fresh_cons {a : Written} (start : Nat) : Fresh found (a :: as) ↔
    (∀ b ∈ found, b.2.key ≠ a.key) ∧ Fresh ((start, a.toAttribute) :: found) as := by
  simp only [Fresh, Written.toAttribute, List.map_cons, List.nodup_cons, List.mem_map, not_exists,
    not_and, List.forall_mem_cons]
  refine ⟨fun ⟨⟨differ, nodup⟩, new, rest⟩ => ?_, fun ⟨new, nodup, rest⟩ => ?_⟩
  · exact ⟨new, nodup, fun b hb => ⟨Ne.symm (differ b hb), rest b hb⟩⟩
  · exact ⟨⟨fun b hb => Ne.symm (rest b hb).1, nodup⟩, new, fun b hb => (rest b hb).2⟩

-- A list of attributes is read from its first one on, or refused at the first key that is not new.
theorem foldlM_flatMap_text (position : Nat) (found : List (Nat × Attribute)) (as : List Written) :
    (∃ e, (as.flatMap Written.text).foldlM step ⟨position, .between, found⟩ = .error e) ∧
      ¬Fresh found as ∨
    (∃ next after, (as.flatMap Written.text).foldlM step ⟨position, .between, found⟩ =
      .ok ⟨next, .between, after⟩ ∧
      after.map (·.2) = (as.map Written.toAttribute).reverse ++ found.map (·.2)) ∧
      Fresh found as := by
  induction as generalizing position found
  case nil => exact .inr ⟨⟨_, _, rfl, rfl⟩, .nil, by simp⟩
  case cons a as hi =>
    rw [List.flatMap_cons]
    by_cases new : ∀ b ∈ found, b.2.key ≠ a.key
    case neg =>
      have ⟨e, h⟩ := foldlM_text_known position a new
      exact .inl ⟨⟨e, foldlM_append_error h⟩, fun fresh => new (fresh.2 a List.mem_cons_self)⟩
    case pos =>
      have ⟨next, start, h⟩ := foldlM_text position a new
      rw [foldlM_append_ok h, fresh_cons start]
      obtain ⟨failed, known⟩ | ⟨⟨next', after, read, eq⟩, fresh⟩ :=
        hi next ((start, a.toAttribute) :: found)
      · exact .inl ⟨failed, fun fresh => known fresh.2⟩
      · exact .inr ⟨⟨next', after, read, by simp [eq]⟩, new, fresh⟩

end Progress

-- Attributes are read if their keys are different, and as what they stand for.
theorem readAll_flatMap_text (position : Nat) (as : List Written) {blanks : List Char}
    (h : ∀ c ∈ blanks, isBlank c) {attributes : List Attribute} :
    readAll position (as.flatMap Written.text ++ blanks) = .ok attributes ↔
      (as.map (·.key)).Nodup ∧ attributes = as.map Written.toAttribute := by
  have differ : (as.map (·.key)).Nodup ↔ Progress.Fresh [] as := by simp [Progress.Fresh]
  rw [differ]
  obtain ⟨⟨e, failed⟩, known⟩ | ⟨⟨next, after, read, eq⟩, fresh⟩ :=
    Progress.foldlM_flatMap_text position [] as
  case inl =>
    rw [readAll, foldlM_append_error failed]
    exact ⟨nofun, fun fresh => absurd fresh.1 known⟩
  case inr =>
    have found : after.reverse.map (·.2) = as.map Written.toAttribute := by
      rw [List.map_reverse, eq]
      simp
    have whole : readAll position (as.flatMap Written.text ++ blanks) =
        .ok (after.reverse.map (·.2)) := by
      rw [readAll, foldlM_append_ok read, Progress.foldlM_between h]
      rfl
    rw [whole, found, Except.ok.injEq, eq_comm]
    exact (and_iff_right fresh).symm

-- Attributes as they are written here.
def rendered (a : Attribute) (h : IsName a.key) : Written :=
  have solid : a.key.toList.all (!isBlank ·) :=
    List.all_eq_true.mpr fun c hc => by simp [not_isBlank_of_isLower (h.2 c hc)]
  have tail : '=' ∉ a.key.toList.tail :=
    fun hc => ne_of_isLower (h.2 _ (List.mem_of_mem_tail hc)) rfl rfl
  .spaced a.key '"' (escapeValue a.value.toList) a.value.toList ⟨h.1, solid, tail⟩
    ⟨.inr rfl, quote_notMem_escapeValue _, unescape_escapeValue _⟩

-- Attributes with different keys are read back as they were written.
theorem readAll_render {attributes : List Attribute} (position : Nat)
    (names : ∀ a ∈ attributes, IsName a.key) (nodup : (attributes.map (·.key)).Nodup) :
    readAll position (attributes.flatMap render) = .ok attributes := by
  have each {β : Type} (g : Written → β) (g' : Attribute → β)
      (h : ∀ a ha, g (rendered a ha) = g' a) :
      (attributes.pmap rendered names).map g = attributes.map g' := by
    simp only [List.map_pmap, h, List.pmap_eq_map]
  have text := each Written.text render fun a ha => by
    simp [Written.text, Written.label, Written.quoted, Written.spaced, rendered, render,
      renderAttribute]
  have keys := each (·.key) (·.key) fun _ _ => rfl
  have same := each Written.toAttribute id fun a ha => by
    simp [Written.toAttribute, Written.spaced, rendered]
  rw [List.map_id] at same
  have read := (readAll_flatMap_text position (attributes.pmap rendered names)
    (@List.forall_mem_nil _ _)).mpr ⟨keys ▸ nodup, same.symm⟩
  rwa [List.append_nil, List.flatMap_def, text, ←List.flatMap_def] at read

end Attribute

end TestSieve.Xml
