import Mathlib.Data.List.TakeWhile
import TestSieve.Proofs.Builder.Calls
import TestSieve.Proofs.Definition.Faults

namespace TestSieve

open Element

-- Parts that are made one after the other stay joined as they were.
theorem mapM_intercalate {α β γ δ : Type} {ε : Type} {make : α → Except ε β} {parts : γ → List α}
    {part : γ → Except ε δ} {whole : δ → List β} {joint : α} {b : β}
    (hp : ∀ c, (parts c).mapM make = do return whole (← part c)) (hj : make joint = return b)
    (cs : List γ) :
    ([joint].intercalate (cs.map parts)).mapM make = do
      return [b].intercalate ((← cs.mapM part).map whole) := by
  induction cs
  case nil => simp
  case cons c cs hi =>
    match cs with
    | []        => simp [hp]
    | d :: rest =>
      rw [List.map_cons, List.map_cons, List.intercalate_cons_cons, ←List.map_cons,
        List.mapM_append, List.mapM_append, hi]
      simp [hp, hj]

namespace Term

-- The calls of a term: one of `not` for every negation, and the one of its predicate.
def calls : Term → List Call
  | not operand               => .not :: operand.calls
  | ids list                  => [.ids list]
  | field f pattern           => [.field f pattern.text pattern.isRegex]
  | property name value regex => [.property name value regex]

theorem complete_calls (t : Term) : Call.Complete t.calls := by
  induction t
  case not hi => exact hi.not
  all_goals
    intro s hs
    cases s <;> first | exact absurd rfl hs | exact ⟨⟨rfl, trivial⟩, rfl⟩

theorem mapM_calls (t : Term) :
    t.calls.mapM Call.element? = do return (← t.literal?).elements := by
  induction t
  case not operand hi =>
    simp [calls, hi, Call.element?, literal?, nots, criterion?, Literal.elements,
      List.replicate_succ]
  all_goals simp [calls, Call.element?, literal?, nots, criterion?, Literal.elements]

end Term

theorem ofClause_eq (ls : List Literal) :
    ofClause ls = [Element.and].intercalate (ls.map Literal.elements) := by
  cases ls <;> simp [ofClause, intercalate_cons, List.flatMap_map]

theorem ofClauses_eq (cs : List (List Literal)) :
    ofClauses cs = [Element.or].intercalate (cs.map ofClause) := by
  cases cs <;> simp [ofClauses, intercalate_cons, List.flatMap_map]

namespace Conjunction

def calls (group : Conjunction) : List Call :=
  [Call.and].intercalate (group.all.map Term.calls)

theorem complete_calls {group : Conjunction} (h : group.all ≠ []) :
    Call.Complete group.calls :=
  .intercalate rfl rfl (mt List.map_eq_nil_iff.mp h) <|
    List.forall_mem_map.mpr fun t _ => t.complete_calls

theorem mapM_calls (group : Conjunction) :
    group.calls.mapM Call.element? = do return ofClause (← group.all.mapM Term.literal?) := by
  simp only [ofClause_eq]
  exact mapM_intercalate Term.mapM_calls rfl group.all

end Conjunction

namespace Definition

def calls (d : Definition) : List Call :=
  [Call.or].intercalate (d.any.map Conjunction.calls)

theorem mapM_calls (d : Definition) :
    d.calls.mapM Call.element? = do
      return ofClauses (← d.any.mapM (·.all.mapM Term.literal?)) := by
  simp only [ofClauses_eq]
  exact mapM_intercalate Conjunction.mapM_calls rfl d.any

-- Handles offer the calls, and the last one can be built.
theorem offered_calls {d : Definition} (h : ∀ g ∈ d.any, g.all ≠ []) :
    Call.Offered .start d.calls ∧ (Call.stageAfter .start d.calls).builds := by
  by_cases none : d.any = []
  case pos => simp [calls, none, Call.Offered, Call.stageAfter, Stage.builds]
  case neg =>
    have complete : Call.Complete d.calls :=
      .intercalate rfl rfl (mt List.map_eq_nil_iff.mp none) <|
        List.forall_mem_map.mpr fun g hg => Conjunction.complete_calls (h g hg)
    obtain ⟨offered, after⟩ := complete .start (by simp)
    exact ⟨offered, after ▸ rfl⟩

-- The definition up to its first group without terms.
def filled (d : Definition) : Definition where
  any := d.any.takeWhile (·.all ≠ [])

theorem clausesFrom?_eq (index : Nat) (groups : List Conjunction) :
    clausesFrom? index groups = (do
      let filled := groups.takeWhile (·.all ≠ [])
      let cs ← filled.mapM (·.all.mapM Term.literal?)
      if filled = groups then return cs
      else throw (.invalidArgument (.emptyGroup (index + filled.length)))) := by
  induction groups generalizing index
  case nil => simp [clausesFrom?]
  case cons group groups hi =>
    by_cases hg : group.all = []
    case pos =>
      simp [clausesFrom?, Conjunction.clause?, hg]
      rfl
    case neg =>
      simp [clausesFrom?, Conjunction.clause?, hg, hi, Nat.add_assoc, Nat.add_comm 1]
      refine bind_congr fun c => bind_congr fun cs => ?_
      split <;> rfl

theorem filled_eq_iff {d : Definition} : d.filled = d ↔ d.filled.any = d.any := by
  cases d
  simp [filled]

theorem filled_ne {d : Definition} : ∀ g ∈ d.filled.any, g.all ≠ [] := by
  intro g hg
  simpa using List.mem_takeWhile_imp hg

theorem clauses?_eq (d : Definition) :
    d.clauses? = (do
      let cs ← d.filled.any.mapM (·.all.mapM Term.literal?)
      if d.filled = d then return cs
      else throw (.invalidArgument (.emptyGroup d.filled.any.length))) := by
  simp only [clauses?, clausesFrom?_eq, Nat.zero_add, filled_eq_iff]
  rfl

-- Building is making the calls up to the first group without terms.
theorem build_eq_run (d : Definition) :
    ∃ (ok : Call.Offered .start d.filled.calls)
        (last : (Call.stageAfter .start d.filled.calls).builds),
      d.build = (do
        let h ← Handle.new.run d.filled.calls ok
        if d.filled = d then h.build last
        else throw (.invalidArgument (.emptyGroup d.filled.any.length))) := by
  have ⟨ok, last⟩ := offered_calls d.filled_ne
  refine ⟨ok, last, ?_⟩
  let finish (c : Cursor) : Except FilterError CompiledFilter :=
    if d.filled = d then c.compile
    else throw (.invalidArgument (.emptyGroup d.filled.any.length))
  have run := bind_map_left Handle.cursor (Handle.new.run d.filled.calls ok) finish
  rw [Handle.run_new, mapM_calls] at run
  refine .trans ?_ run
  have compiled (cs : List (List Literal)) :
      (Cursor.ofBody (ofClauses cs)).compile = Chain.compileBody (ofClauses cs) :=
    Cursor.compile_ofBody (root_notMem_ofClauses cs)
  rw [build_eq, clauses?_eq]
  by_cases full : d.filled = d
  case pos => simp [finish, full, compiled]
  case neg =>
    simp [finish, full]
    rfl

-- A definition is built as its calls are, up to the first group without terms. It fails for the
-- first of its faults, if it has one.
theorem build_as_calls (d : Definition) :
    (∃ (ok : Call.Offered .start d.filled.calls)
        (last : (Call.stageAfter .start d.filled.calls).builds),
      d.build = (do
        let h ← Handle.new.run d.filled.calls ok
        if d.filled = d then h.build last
        else throw (.invalidArgument (.emptyGroup d.filled.any.length)))) ∧
    ((∃ f, d.build = .ok f) ↔ ∀ g ∈ d.any, g.all ≠ [] ∧ ∀ t ∈ g.all, t.Valid) ∧
    ∀ e, d.build = .error e ↔ ∃ cause, d.faults.head? = some cause ∧ .invalidArgument cause = e := by
  refine ⟨d.build_eq_run, ?_, fun e => ?_⟩
  · rw [←failure?_eq_none_iff, failure?_build, Option.map_eq_none_iff, List.head?_eq_none_iff,
      faults, faultsFrom_eq_nil_iff]
  · rw [←failure?_eq_some_iff, failure?_build, Option.map_eq_some_iff]

end Definition

end TestSieve
