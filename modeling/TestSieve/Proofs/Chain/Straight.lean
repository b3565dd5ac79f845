import TestSieve.Compile

namespace TestSieve.Chain

variable {c c' : Chain} {parent i : Nat} {e : Element} {n : Node}

theorem get?_eq_none_iff : c.get? i = none ↔ c.size ≤ i :=
  List.getElem?_eq_none_iff

theorem exists_get? (h : i < c.size) : ∃ n, c.get? i = some n :=
  ⟨c.nodes[i], List.getElem?_eq_getElem h⟩

theorem lt_size_of_get? (h : c.get? i = some n) : i < c.size :=
  (List.getElem?_eq_some_iff.mp h).1

theorem get?_grow {p : Node} (h : c.get? parent = some p) (e : Element) (i : Nat) :
    (c.grow h e).get? i =
      if i = c.size then some { element := e, parent := some parent }
      else if i = parent then some { p with child := some c.size }
      else c.get? i :=
  getElem?_grown h e i

theorem size_grow {p : Node} (h : c.get? parent = some p) (e : Element) :
    (c.grow h e).size = c.size + 1 :=
  length_grown ..

-- All that a successful call can have done.
theorem attach_eq_ok (h : c.attach parent e = .ok (i, c')) :
    e ≠ .root ∧ i = c.size ∧
      ∃ (p : Node) (hp : c.get? parent = some p), p.child = none ∧ c' = c.grow hp e := by
  unfold attach at h
  split at h
  case isTrue => cases h
  case isFalse ne =>
    split at h
    case h_1 => cases h
    case h_2 p hp =>
      split at h
      case isTrue => cases h
      case isFalse hc =>
        cases h
        exact ⟨ne, rfl, p, hp, by simpa using hc, rfl⟩

theorem attach_eq {p : Node} (he : e ≠ .root) (h : c.get? parent = some p) (hc : p.child = none) :
    c.attach parent e = .ok (c.size, c.grow h e) := by
  rw [attach, if_neg he]
  split
  case h_1 none => cases none.symm.trans h
  case h_2 some =>
    cases some.symm.trans h
    simp [hc]
    rfl

theorem origin_of_root (h : c.get? i = some n) (hp : n.parent = none) (hk : n.kind = .root) :
    c.origin i = .ok i := by
  rw [origin]
  split
  case h_1 hn => cases hn.symm.trans h
  case h_2 m hn =>
    cases hn.symm.trans h
    split
    case h_1    => exact if_pos hk
    case h_2 hs => cases hs.symm.trans hp

theorem origin_of_parent {p : Node} (h : c.get? i = some n) (hp : n.parent = some parent)
    (ha : c.get? parent = some p) (hc : p.child = some i) : c.origin i = c.origin parent := by
  rw [origin]
  split
  case h_1 hn => cases hn.symm.trans h
  case h_2 m hn =>
    cases hn.symm.trans h
    split
    case h_1 hs => cases hs.symm.trans hp
    case h_2 hs =>
      cases hs.symm.trans hp
      simp only [ha, hc, if_true]

-- The chains that calls of `attach` lead to. A call that fails leaves the chain as it was.
inductive Reachable : Chain → Prop
  | start : Reachable .start
  | attach {c c' : Chain} {parent i : Nat} {e : Element} (reachable : Reachable c)
      (attached : c.attach parent e = .ok (i, c')) : Reachable c'

-- Every node follows the one before it, and only the first is a root.
structure Straight (c : Chain) : Prop where
  size_pos  : 0 < c.size
  root_iff  : ∀ {i n}, c.get? i = some n → (n.element = .root ↔ i = 0)
  parent_eq : ∀ {i n}, c.get? i = some n → n.parent = if i = 0 then none else some (i - 1)
  child_eq  : ∀ {i n}, c.get? i = some n → n.child = if i + 1 < c.size then some (i + 1) else none

theorem straight_start : Straight .start where
  size_pos := by decide
  root_iff {i n} h := by
    cases i <;> simp [start, get?] at h
    case zero => simp [← h]
  parent_eq {i n} h := by
    cases i <;> simp [start, get?] at h
    case zero => simp [← h]
  child_eq {i n} h := by
    cases i <;> simp [start, get?] at h
    case zero => simp [← h, size, start]

namespace Straight

-- The only node without a successor is the last one.
theorem child_eq_none_iff (s : Straight c) (h : c.get? i = some n) :
    n.child = none ↔ i + 1 = c.size := by
  have := lt_size_of_get? h
  rw [s.child_eq h]
  split <;> simp <;> omega

theorem grow (s : Straight c) {p : Node} (h : c.get? parent = some p) (hc : p.child = none)
    (he : e ≠ .root) : Straight (c.grow h e) := by
  have last := s.child_eq_none_iff h |>.mp hc
  have pos := s.size_pos
  constructor
  case size_pos => simp [size_grow]
  case root_iff =>
    intro i n hi
    rw [get?_grow] at hi
    split at hi
    case isTrue => simp [← Option.some.inj hi, he]; omega
    case isFalse =>
      split at hi
      case isTrue eq => simpa [← Option.some.inj hi, eq] using s.root_iff h
      case isFalse => exact s.root_iff hi
  case parent_eq =>
    intro i n hi
    rw [get?_grow] at hi
    split at hi
    case isTrue => simp [← Option.some.inj hi]; omega
    case isFalse =>
      split at hi
      case isTrue eq => simpa [← Option.some.inj hi, eq] using s.parent_eq h
      case isFalse => exact s.parent_eq hi
  case child_eq =>
    intro i n hi
    rw [get?_grow] at hi
    rw [size_grow]
    split at hi
    case isTrue eq => simp [← Option.some.inj hi, eq]
    case isFalse =>
      split at hi
      case isTrue eq => simp [← Option.some.inj hi, eq, last]
      case isFalse ne ne' =>
        have := lt_size_of_get? hi
        rw [s.child_eq hi]
        grind

theorem attach (s : Straight c) (h : c.attach parent e = .ok (i, c')) : Straight c' := by
  have ⟨he, _, _, hp, hc, eq⟩ := attach_eq_ok h
  exact eq ▸ s.grow hp hc he

end Straight

-- Wherever attaching is tried, and whether or not it succeeds, every node follows the one before
-- it.
theorem Reachable.straight (h : Reachable c) : Straight c := by
  induction h
  case start             => exact straight_start
  case attach attached s => exact s.attach attached

def elements (c : Chain) : List Element :=
  c.nodes.map (·.element)

-- What the chain says: its elements after the root.
def body (c : Chain) : List Element :=
  c.elements.tail

theorem elements_getElem? (c : Chain) (i : Nat) :
    c.elements[i]? = (c.get? i).map (·.element) := by
  simp [elements, get?]

@[simp] theorem length_elements (c : Chain) : c.elements.length = c.size := by
  simp [elements, size]

theorem drop_elements (h : c.get? i = some n) :
    c.elements.drop i = n.element :: c.elements.drop (i + 1) := by
  have lt : i < c.elements.length := by simpa using lt_size_of_get? h
  have eq : c.elements[i]? = some n.element := by simp [elements_getElem?, h]
  rw [List.drop_eq_getElem_cons lt, List.getElem_eq_iff lt |>.mpr eq]

theorem elements_grow {p : Node} (h : c.get? parent = some p) (e : Element) :
    (c.grow h e).elements = c.elements ++ [e] := by
  have same : (c.elements.set parent p.element) = c.elements := by
    have lt := lt_size_of_get? h
    apply List.ext_getElem?
    intro i
    rw [List.getElem?_set]
    split
    case isTrue eq  => rw [if_pos (by simpa using lt), elements_getElem?, ←eq, h]; rfl
    case isFalse    => rfl
  simpa [elements, grow, grown, List.map_set] using same

namespace Straight

variable (s : Straight c)
include s

theorem runUpTo_eq {bound : Nat} (h : c.size ≤ bound + i) :
    c.runUpTo bound i = c.elements.drop i := by
  induction bound generalizing i
  case zero => simp [runUpTo]; omega
  case succ bound ih =>
    unfold runUpTo
    split
    case h_1 none => simp [List.drop_eq_nil_of_le, get?_eq_none_iff.mp none]
    case h_2 n hn =>
      rw [drop_elements hn, s.child_eq hn]
      split
      case isTrue  => simp [ih (i := i + 1) (by omega)]
      case isFalse => simp; omega

theorem run_eq (i : Nat) : c.run i = c.elements.drop i :=
  s.runUpTo_eq (by omega)

theorem run_tail : (c.run 0).tail = c.body := by
  simp [s.run_eq, body]

theorem elements_eq : c.elements = .root :: c.body := by
  have ⟨n, hn⟩ := exists_get? s.size_pos
  have root : n.element = .root := s.root_iff hn |>.mpr rfl
  have whole := drop_elements hn
  rwa [List.drop_zero, root, List.drop_one] at whole

theorem root_notMem_body : Element.root ∉ c.body := by
  intro h
  have ⟨i, hi⟩ := List.mem_iff_getElem?.mp h
  rw [body, List.getElem?_tail, elements_getElem?] at hi
  have ⟨n, hn, eq⟩ := Option.map_eq_some_iff.mp hi
  exact absurd (s.root_iff hn |>.mp eq) (by omega)

theorem body_grow {p : Node} (h : c.get? parent = some p) (e : Element) :
    (c.grow h e).body = c.body ++ [e] := by
  have pos := s.size_pos
  simp only [body, elements_grow]
  exact List.tail_append_of_ne_nil <| List.ne_nil_of_length_pos (by simpa)

-- Both ends of every link agree, so the way up never breaks off, and it ends at the root.
theorem origin_eq (h : i < c.size) : c.origin i = .ok 0 := by
  obtain ⟨n, hn⟩ := exists_get? h
  have hp := s.parent_eq hn
  induction i generalizing n
  case zero =>
    have hk : n.kind = .root := congrArg Element.kind <| s.root_iff hn |>.mpr rfl
    exact origin_of_root hn hp hk
  case succ i hi =>
    obtain ⟨above, ha⟩ := exists_get? (c := c) (i := i) (by omega)
    have hc : above.child = some (i + 1) := by rw [s.child_eq ha, if_pos h]
    exact (origin_of_parent hn hp ha hc).trans <| hi (by omega) above ha <| s.parent_eq ha

-- The last node takes every element but a second root.
theorem attach_last (he : e ≠ .root) :
    ∃ c', c.attach (c.size - 1) e = .ok (c.size, c') ∧
      c'.Straight ∧ c'.size = c.size + 1 ∧ c'.body = c.body ++ [e] := by
  have pos := s.size_pos
  have ⟨p, hp⟩ := exists_get? (c := c) (i := c.size - 1) (by omega)
  have hc : p.child = none := s.child_eq_none_iff hp |>.mpr (by omega)
  exact ⟨_, attach_eq he hp hc, s.grow hp hc he, size_grow .., s.body_grow hp e⟩

end Straight

-- The chain with an element after its last node.
def extend (c : Chain) (e : Element) : Chain :=
  match c.attach (c.size - 1) e with
  | .ok (_, c') => c'
  | .error _    => c

-- The chain in which elements follow the root one by one.
def ofBody (es : List Element) : Chain :=
  es.foldl extend .start

theorem Reachable.extend (h : Reachable c) (e : Element) : Reachable (c.extend e) := by
  unfold Chain.extend
  split
  case h_1 attached => exact .attach h attached
  case h_2          => exact h

theorem Reachable.foldl_extend (h : Reachable c) (es : List Element) :
    Reachable (es.foldl Chain.extend c) :=
  List.foldlRecOn es Chain.extend h fun _ h e _ => h.extend e

theorem reachable_ofBody (es : List Element) : Reachable (ofBody es) :=
  Reachable.start.foldl_extend es

theorem Straight.foldl_extend (s : Straight c) {es : List Element} (h : .root ∉ es) :
    (es.foldl Chain.extend c).size = c.size + es.length ∧
      (es.foldl Chain.extend c).body = c.body ++ es := by
  induction es generalizing c
  case nil => simp
  case cons e es hi =>
    simp only [List.mem_cons, not_or] at h
    have ⟨c', attached, s', size, body⟩ := s.attach_last (Ne.symm h.1)
    have : c.extend e = c' := by simp [Chain.extend, attached]
    rw [List.foldl_cons, this]
    have ⟨size', body'⟩ := hi s' h.2
    constructor
    · simp [size', size]
      omega
    · simp [body', body]

theorem size_ofBody {es : List Element} (h : .root ∉ es) : (ofBody es).size = es.length + 1 := by
  rw [ofBody, (straight_start.foldl_extend h).1, Nat.add_comm]
  rfl

theorem body_ofBody {es : List Element} (h : .root ∉ es) : (ofBody es).body = es := by
  rw [ofBody, (straight_start.foldl_extend h).2]
  rfl

theorem elements_ofBody {es : List Element} (h : .root ∉ es) :
    (ofBody es).elements = .root :: es := by
  rw [(reachable_ofBody es).straight.elements_eq, body_ofBody h]

end TestSieve.Chain
