import TestSieve.Proofs.Chain.Straight

namespace TestSieve.Chain

variable {c : Chain} {parent : Nat} {e : Element} {n : Node}

-- Attaches an element by overwriting the nodes: first the link of the parent, then the new node.
def attachInPlace (parent : Nat) (element : Element) :
    ExceptT FilterError (StateM (List Node)) Nat := do
  if element = .root then throw (.invalidArgument .innerRoot)
  let nodes ← get
  match nodes[parent]? with
  | none   => throw (.invalidArgument (.unknownNode parent))
  | some p =>
    if p.child.isSome then throw (.invalidState (.hasSuccessor p.kind))
    set (nodes.set parent { p with child := some nodes.length })
    modify (· ++ [{ element, parent := some parent }])
    return nodes.length

-- The nodes after some calls, each made on what the call before it has left.
def attachEach (calls : List (Nat × Element)) (nodes : List Node) : List Node :=
  calls.foldl (fun nodes call => ((attachInPlace call.1 call.2).run nodes).2) nodes

theorem attach_root (c : Chain) (parent : Nat) :
    c.attach parent .root = .error (.invalidArgument .innerRoot) :=
  if_pos rfl

theorem attach_unknown (he : e ≠ .root) (h : c.get? parent = none) :
    c.attach parent e = .error (.invalidArgument (.unknownNode parent)) := by
  rw [attach, if_neg he]
  split
  case h_1      => rfl
  case h_2 some => cases some.symm.trans h

theorem attach_taken (he : e ≠ .root) (h : c.get? parent = some n) (hc : n.child ≠ none) :
    c.attach parent e = .error (.invalidState (.hasSuccessor n.kind)) := by
  rw [attach, if_neg he]
  split
  case h_1 none => cases none.symm.trans h
  case h_2 some =>
    cases some.symm.trans h
    exact if_pos (Option.isSome_iff_ne_none.mpr hc)

theorem run_get_bind {σ ε α : Type} (k : σ → ExceptT ε (StateM σ) α) (s : σ) :
    (do k (← get)).run s = (k s).run s := rfl

-- What a call gives does not depend on where the chain is kept. A call that fails has not written
-- anything.
theorem run_attachInPlace (c : Chain) (parent : Nat) (e : Element) :
    (attachInPlace parent e).run c.nodes =
      match c.attach parent e with
      | .ok (i, c')  => (.ok i, c'.nodes)
      | .error cause => (.error cause, c.nodes) := by
  by_cases he : e = .root
  case pos =>
    rw [he, attach_root]
    rfl
  case neg =>
    have stored : c.nodes[parent]? = c.get? parent := rfl
    rw [attachInPlace, if_neg he, run_get_bind, stored]
    cases h : c.get? parent
    case none =>
      rw [attach_unknown he h]
      rfl
    case some n =>
      dsimp only
      by_cases hc : n.child = none
      case pos =>
        rw [attach_eq he h hc, hc]
        rfl
      case neg =>
        rw [attach_taken he h hc, if_pos (Option.isSome_iff_ne_none.mpr hc)]
        rfl

theorem Reachable.exists_attachEach (h : c.Reachable) (calls : List (Nat × Element)) :
    ∃ c', Reachable c' ∧ attachEach calls c.nodes = c'.nodes := by
  induction calls generalizing c
  case nil => exact ⟨c, h, rfl⟩
  case cons call calls hi =>
    rw [attachEach, List.foldl_cons, run_attachInPlace]
    cases attached : c.attach call.1 call.2
    case error => exact hi h
    case ok r  => exact hi <| .attach h attached

namespace Straight

theorem isLeaf_iff (s : Straight c) {i : Nat} (h : c.get? i = some n) :
    n.isLeaf ↔ i + 1 = c.size := by
  rw [Node.isLeaf, Option.isNone_iff_eq_none, s.child_eq_none_iff h]

-- A call that is refused meets a second root, a node that is not there, or one that is not the last.
theorem attach_refused (s : Straight c) (h : ¬(e ≠ .root ∧ parent + 1 = c.size)) :
    ∃ cause, c.attach parent e = .error cause ∧
      (e = .root → cause = .invalidArgument .innerRoot) ∧
      (e ≠ .root → c.size ≤ parent → cause = .invalidArgument (.unknownNode parent)) ∧
      (e ≠ .root → parent < c.size →
        ∃ p, c.get? parent = some p ∧ cause = .invalidState (.hasSuccessor p.kind)) := by
  by_cases he : e = .root
  case pos => exact ⟨_, he ▸ attach_root c parent, fun _ => rfl, absurd he, absurd he⟩
  case neg =>
    cases hp : c.get? parent
    case none =>
      have out := get?_eq_none_iff.mp hp
      exact ⟨_, attach_unknown he hp, (absurd · he), fun _ _ => rfl, fun _ => (absurd · (by omega))⟩
    case some p =>
      have inside := lt_size_of_get? hp
      have taken : p.child ≠ none := fun none => h ⟨he, s.child_eq_none_iff hp |>.mp none⟩
      refine ⟨_, attach_taken he hp taken, (absurd · he), fun _ => (absurd · (by omega)), ?_⟩
      exact fun _ _ => ⟨p, rfl, rfl⟩

end Straight

-- Wherever attaching is tried, the chain stays one straight line from the root to its only leaf. The
-- leaf takes every element but a second root; every other call fails and changes nothing.
theorem attachEach_straight (calls : List (Nat × Element)) :
    ∃ c : Chain, attachEach calls start.nodes = c.nodes ∧ c.Straight ∧
      (∀ i n, c.get? i = some n → (n.isLeaf ↔ i + 1 = c.size)) ∧
      ∀ parent e,
        (e ≠ .root ∧ parent + 1 = c.size → ∃ p c', c.get? parent = some p ∧
          c.attach parent e = .ok (c.size, c') ∧
          (attachInPlace parent e).run c.nodes = (.ok c.size, c'.nodes) ∧
          c'.nodes = c.nodes.set parent { p with child := some c.size } ++
            [{ element := e, parent := some parent }]) ∧
        (¬(e ≠ .root ∧ parent + 1 = c.size) → ∃ cause, c.attach parent e = .error cause ∧
          (attachInPlace parent e).run c.nodes = (.error cause, c.nodes) ∧
          (e = .root → cause = .invalidArgument .innerRoot) ∧
          (e ≠ .root → c.size ≤ parent → cause = .invalidArgument (.unknownNode parent)) ∧
          (e ≠ .root → parent < c.size →
            ∃ p, c.get? parent = some p ∧ cause = .invalidState (.hasSuccessor p.kind))) := by
  have ⟨c, reachable, hc⟩ := Reachable.start.exists_attachEach calls
  have s := reachable.straight
  refine ⟨c, hc, s, fun _ _ => s.isLeaf_iff, fun parent e => ⟨?taken, ?refused⟩⟩
  case taken =>
    rintro ⟨he, last⟩
    have ⟨p, hp⟩ := exists_get? (c := c) (i := parent) (by omega)
    have attached := attach_eq he hp <| s.child_eq_none_iff hp |>.mpr last
    exact ⟨p, _, hp, attached, by rw [run_attachInPlace, attached], rfl⟩
  case refused =>
    intro h
    have ⟨cause, failed, which⟩ := s.attach_refused h
    exact ⟨cause, failed, by rw [run_attachInPlace, failed], which⟩

end TestSieve.Chain
