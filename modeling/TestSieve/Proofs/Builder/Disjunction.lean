import TestSieve.Proofs.Builder.Stages
import TestSieve.Proofs.Filter.Alternatives

namespace TestSieve

open Element

-- Handles at the second stage take the place of those at the first: they offer the same calls.
def Stage.Like (s s' : Stage) : Prop :=
  s' = s ∨ s = .start ∧ s' = .group

theorem Stage.Like.offered {s s' : Stage} (like : s.Like s') {call : Call}
    (ok : call.offered s) : call.offered s' := by
  rcases like with rfl | ⟨rfl, rfl⟩
  · exact ok
  · cases call <;> rfl

namespace Handle

section

variable {s s' t : Stage} {h : Handle s} {h' : Handle s'} {g : Handle t} {es es' : List Element}
  {call : Call} {e : Element} {calls : List Call} {m n : Nat}

theorem exists_apply (ok : call.offered s) (hr : .root ∉ es) (hc : h.cursor = .ofBody es)
    (he : call.element? = .ok e) :
    ∃ g, call.apply h ok = .ok g ∧ g.cursor = .ofBody (es ++ [e]) := by
  rw [apply_ofBody hr hc, he]
  exact ⟨_, rfl, rfl⟩

theorem apply_error {cause : FilterError} (ok : call.offered s) (hr : .root ∉ es)
    (hc : h.cursor = .ofBody es) (he : call.element? = .error cause) :
    call.apply h ok = .error cause := by
  rw [apply_ofBody hr hc, he]
  rfl

namespace Leads

-- Which calls can be made and which of them fail depends on the stage, not on the chain.
theorem elsewhere (l : Leads h calls n g) (like : s.Like s') (hc : h.cursor = .ofBody es)
    (he : s.Ends es) (hc' : h'.cursor = .ofBody es') (he' : s'.Ends es') :
    ∃ (t' : Stage) (g' : Handle t'), t.Like t' ∧ Leads h' calls n g' := by
  induction l generalizing es es' s' h'
  case done => exact ⟨s', h', like, .done⟩
  case made ok applied _ hi =>
    have ⟨e, asked, next⟩ := apply_eq_ok he.root_notMem hc applied
    have ok' := like.offered ok
    have ⟨k, applied', next'⟩ := exists_apply ok' he'.root_notMem hc' asked
    have ⟨t', g', like', rest⟩ :=
      hi (.inl rfl) next (he.concat ok asked) next' (he'.concat ok' asked)
    exact ⟨t', g', like', .made ok' applied' rest⟩
  case failed ok applied _ hi =>
    have asked := apply_eq_error he.root_notMem hc applied
    have ok' := like.offered ok
    have ⟨t', g', like', rest⟩ := hi like hc he hc' he'
    exact ⟨t', g', like', .failed ok' (apply_error ok' he'.root_notMem hc' asked) rest⟩

theorem append {more : List Call} {u : Stage} {k : Handle u} (l : Leads h calls m g)
    (l' : Leads g more n k) : Leads h (calls ++ more) (m + n) k := by
  induction l
  case done => simpa using l'
  case made m ok applied _ hi =>
    rw [Nat.add_right_comm]
    exact .made ok applied (hi l')
  case failed ok applied _ hi => exact .failed ok applied (hi l')

end Leads

end

end Handle

section

variable {s : Stage} {es : List Element} {f : CompiledFilter} {t : Filter}

-- There is a last element, which the stage tells, unless nothing was added yet.
theorem Stage.Ends.nil_or_exists (h : s.Ends es) :
    es = [] ∧ s = .start ∨ ∃ e ∈ es, e.stage = s := by
  have last := h.stage_last
  cases ends : es.getLast? <;> rw [ends] at last
  case none   => exact .inl ⟨List.getLast?_eq_none_iff.mp ends, last.symm⟩
  case some e => exact .inr ⟨e, List.mem_of_getLast? ends, last⟩

theorem Stage.Ends.eq_nil (h : start.Ends es) : es = [] := by
  obtain ⟨none, _⟩ | ⟨e, mem, he⟩ := h.nil_or_exists
  · exact none
  · cases e <;> cases he
    exact absurd mem h.root_notMem

-- A predicate at the end is a literal of some group.
theorem Stage.Ends.exists_literal (h : predicate.Ends es) : (clauses es).flatten ≠ [] := by
  obtain ⟨_, hs⟩ | ⟨e, mem, he⟩ := h.nil_or_exists
  · cases hs
  · cases e <;> cases he
    case refl c =>
      have asked : c ∈ es.filterMap criterion? := List.mem_filterMap.mpr ⟨_, mem, rfl⟩
      rw [←Chain.clauses_criteria h.root_notMem h.refusal?_eq] at asked
      exact fun none => by simp [none] at asked

end

namespace Handle

variable {s : Stage} {h : Handle s} {g : Handle .predicate} {calls more : List Call} {m n : Nat}

-- What leads from a new handle to a predicate does so after a call of `or` too.
theorem Leads.after_or (l : Leads .new calls m h) (l' : Leads .new more n g) (ok : s.builds) :
    ∃ k : Handle .predicate, Leads .new (calls ++ .or :: more) (m + (n + 1)) k := by
  have ⟨hc, ends, _⟩ := l.ends_of_new
  have offered : Call.or.offered s := by cases s <;> first | rfl | cases ok
  have ⟨j, applied, hc'⟩ := exists_apply offered ends.root_notMem hc rfl
  have ends' := ends.concat offered rfl
  have ⟨t, k, like, rest⟩ := l'.elsewhere (.inr ⟨rfl, rfl⟩) rfl Stage.ends_nil hc' ends'
  obtain rfl | ⟨other, _⟩ := like
  · exact ⟨k, l.append <| .made offered applied rest⟩
  · cases other

-- A handle that offers to be built stands for the filter of its chain.
theorem Leads.tree_of_build [Regex.Engine] {f : CompiledFilter} {t : Filter}
    (l : Leads .new calls m h) (ok : s.builds) (built : h.build ok = .ok f) (read : f.filter = .ok t) :
    t = tree (calls.filterMap Call.added?) := by
  exact ((Chain.filter_compileBody_eq_ok_iff <| l.build_eq ok ▸ built).mp read).2.2

theorem Leads.exists_filter [Regex.Engine] (l : Leads .new calls m h) (ok : s.builds)
    (within : WithinDepth (calls.filterMap Call.added?))
    (sound : ∀ c ∈ (calls.filterMap Call.added?).filterMap criterion?, c.fault? = none) :
    ∃ f, h.build ok = .ok f ∧ f.filter = .ok (tree (calls.filterMap Call.added?)) := by
  have ⟨_, ends, _⟩ := l.ends_of_new
  have ⟨f, built⟩ := l.exists_build ok
  have compiled := (l.build_eq ok).symm.trans built
  have ⟨accepted, _⟩ := Chain.compileBody_eq_ok compiled
  rw [←Chain.clauses_criteria ends.root_notMem accepted, List.forall_mem_map] at sound
  exact ⟨f, built, (Chain.filter_compileBody_eq_ok_iff compiled).mpr ⟨within, sound, rfl⟩⟩

-- A call of `or` gives the disjunction with all that comes before it. If nothing does, what comes
-- after it stands alone, although a chain without predicates selects every test.
theorem Leads.pass_append_or [Regex.Engine] (l : Leads .new calls m h)
    (l' : Leads .new more n g) (ok : s.builds) :
    ∃ (k : Handle .predicate) (a b c : CompiledFilter),
      Leads .new (calls ++ .or :: more) (m + (n + 1)) k ∧
      h.build ok = .ok a ∧ g.build = .ok b ∧ k.build = .ok c ∧
      ∀ ta tb tc : Filter, a.filter = .ok ta → b.filter = .ok tb → c.filter = .ok tc →
        ∀ (α : Type) [Selectable α] (t : α),
          (s = .predicate → tc.pass t = (ta.pass t || tb.pass t)) ∧
          (s = .start → ta.pass t ∧ tc.pass t = tb.pass t) := by
  have ⟨k, joined⟩ := l.after_or l' ok
  have ⟨a, builtA⟩ := l.exists_build ok
  have ⟨b, builtB⟩ := l'.exists_build rfl
  have ⟨c, builtC⟩ := joined.exists_build rfl
  refine ⟨k, a, b, c, joined, builtA, builtB, builtC, ?_⟩
  rintro _ _ _ readA readB readC α _ t
  obtain rfl := l.tree_of_build ok builtA readA
  obtain rfl := l'.tree_of_build rfl builtB readB
  obtain rfl := joined.tree_of_build rfl builtC readC
  have ⟨_, ends, _⟩ := l.ends_of_new
  have ⟨_, ends', _⟩ := l'.ends_of_new
  have body : (calls ++ .or :: more).filterMap Call.added? =
      calls.filterMap Call.added? ++ .or :: more.filterMap Call.added? := by
    rw [List.filterMap_append]
    rfl
  rw [body, pass_tree_append_or, pass_tree t (.inr ends'.exists_literal)]
  constructor
  case left =>
    rintro rfl
    rw [pass_tree t (.inr ends.exists_literal)]
  case right =>
    rintro rfl
    rw [ends.eq_nil]
    exact ⟨Filter.pass_empty t, Bool.false_or _⟩

theorem Leads.pass_append_or_three_groups :
    let left : List Call := [.field .category "slow" false, .or, .not, .ids [""], .ids ["7"]]
    let right : List Call := [.field .shortName "read" false]
    ∃ (h g k : Handle .predicate) (a b c : CompiledFilter) (ta tb tc : Filter),
      Leads .new left 4 h ∧ Leads .new right 1 g ∧ Leads .new (left ++ .or :: right) 6 k ∧
      (h.build = .ok a ∧ a.filter = .ok ta) ∧ (g.build = .ok b ∧ b.filter = .ok tb) ∧
      (k.build = .ok c ∧ c.filter = .ok tc) ∧
      ∀ t : TestCase, tc.pass t = (ta.pass t || tb.pass t) := by
  intro left right
  have ⟨h, l⟩ : ∃ h : Handle .predicate, Leads .new left 4 h :=
    ⟨_, .made rfl rfl <| .made rfl rfl <| .made rfl rfl <| .failed rfl rfl <| .made rfl rfl .done⟩
  have ⟨g, l'⟩ : ∃ g : Handle .predicate, Leads .new right 1 g := ⟨_, .made rfl rfl .done⟩
  have ⟨k, a, b, c, joined, builtA, builtB, builtC, law⟩ := l.pass_append_or l' rfl
  have ⟨_, builtA', readA⟩ := l.exists_filter rfl (by decide) (by decide)
  have ⟨_, builtB', readB⟩ := l'.exists_filter rfl (by decide) (by decide)
  have ⟨_, builtC', readC⟩ := joined.exists_filter rfl (by decide) (by decide)
  cases builtA.symm.trans builtA'
  cases builtB.symm.trans builtB'
  cases builtC.symm.trans builtC'
  exact ⟨h, g, k, a, b, c, _, _, _, l, l', joined, ⟨builtA, readA⟩, ⟨builtB, readB⟩,
    ⟨builtC, readC⟩, fun t => (law _ _ _ readA readB readC TestCase t).1 rfl⟩

-- With nothing before the `or` there is no disjunction.
theorem Leads.pass_append_or_of_start :
    ∃ (g k : Handle .predicate) (a b c : CompiledFilter) (ta tb tc : Filter) (t : TestCase),
      Leads .new [] 0 new ∧ Leads .new [.field .category "x" false] 1 g ∧
      Leads .new [.or, .field .category "x" false] 2 k ∧
      (new.build = .ok a ∧ a.filter = .ok ta) ∧ (g.build = .ok b ∧ b.filter = .ok tb) ∧
      (k.build = .ok c ∧ c.filter = .ok tc) ∧
      tc.pass t ≠ (ta.pass t || tb.pass t) := by
  have ⟨g, l'⟩ : ∃ g : Handle .predicate, Leads .new [.field .category "x" false] 1 g :=
    ⟨_, .made rfl rfl .done⟩
  have ⟨k, joined⟩ := Leads.done.after_or l' rfl
  have ⟨a, readA⟩ := Leads.done.exists_filter rfl (by decide) (by decide)
  have ⟨b, readB⟩ := l'.exists_filter rfl (by decide) (by decide)
  have ⟨c, readC⟩ := joined.exists_filter rfl (by decide) (by decide)
  exact ⟨g, k, a, b, c, _, _, _, TestCase.new "1" "T", .done, l', joined, readA, readB, readC,
    by decide⟩

end Handle

end TestSieve
