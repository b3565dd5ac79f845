import TestSieve.Proofs.Builder.Calls

namespace TestSieve

open Element

-- The stage of a handle for a node with this element.
def Element.stage : Element → Stage
  | root        => .start
  | and | or    => .group
  | not         => .negation
  | criterion _ => .predicate

-- Elements that leave a handle at a stage: the stage is that of the last one, and a negation that
-- lacks its operand can only be the last one.
structure Stage.Ends (s : Stage) (es : List Element) : Prop where
  root_notMem : .root ∉ es
  stage_last  : (es.getLast?.getD .root).stage = s
  refusal?_eq : refusal? es = if s = .negation then some .missingOperand else none

namespace Call

variable {call : Call} {e : Element}

-- The element that a call adds, unless it fails.
def added? (call : Call) : Option Element :=
  call.element?.toOption

theorem stage_element (h : call.element? = .ok e) : e.stage = call.stage := by
  have made {c : Except FilterError Criterion} (h : Element.criterion <$> c = .ok e) :
      e.stage = .predicate := by
    cases c <;> cases h
    rfl
  cases call
  case ids      => exact made h
  case field    => exact made h
  case property => exact made h
  all_goals
    cases h
    rfl

end Call

namespace Stage

theorem ends_nil : start.Ends [] where
  root_notMem := List.not_mem_nil
  stage_last  := rfl
  refusal?_eq := rfl

variable {s : Stage} {es : List Element} {call : Call} {e : Element}

-- A negation takes no And or Or node after it, so an element that is added either is its operand or
-- another negation.
theorem Ends.concat (h : s.Ends es) (ok : call.offered s) (he : call.element? = .ok e) :
    call.stage.Ends (es ++ [e]) where
  root_notMem := by simp [h.root_notMem, (Call.element?_ne_root he).symm]
  stage_last  := by simpa using Call.stage_element he
  refusal?_eq := by
    rw [←Call.stage_element he]
    have ne := Call.element?_ne_root he
    have grouped (hs : s = .negation) : e.stage ≠ .group := by
      rw [Call.stage_element he]
      cases call <;> simp_all [Call.offered, Call.stage, takesGroup]
    have ⟨free, waiting⟩ := refusal?_append es [e]
    have hr := h.refusal?_eq
    split at hr
    case isTrue hs =>
      rw [waiting hr]
      have := grouped hs
      cases e <;> simp_all [stage, refusal?]
    case isFalse =>
      rw [free hr]
      cases e <;> simp_all [stage, refusal?]

end Stage

namespace Handle

variable {s t : Stage} {h : Handle s} {g : Handle t} {es : List Element} {call : Call}
  {calls : List Call} {n : Nat}

-- A call on the end of a chain adds its element, and fails only where it cannot be made of what the
-- call is given.
theorem apply_ofBody (hr : .root ∉ es) (hc : h.cursor = .ofBody es) (ok : call.offered s) :
    call.apply h ok = do return ⟨.ofBody (es ++ [← call.element?])⟩ := by
  have cursor_inj (made : Except FilterError (Handle call.stage)) :
      made = mk <$> cursor <$> made := by
    cases made <;> rfl
  rw [cursor_inj (call.apply h ok), cursor_apply, hc]
  cases he : call.element?
  case error => rfl
  case ok e  =>
    change mk <$> (Cursor.ofBody es).push e = _
    rw [Cursor.push_ofBody hr (Call.element?_ne_root he)]
    rfl

-- Calls that handles offer, one after the other, where `n` of them succeed. A call that fails
-- leaves the handle as it was.
inductive Leads : {s t : Stage} → Handle s → List Call → Nat → Handle t → Prop
  | done {s : Stage} {h : Handle s} : Leads h [] 0 h
  | made {s t : Stage} {h : Handle s} {g : Handle t} {call : Call} {h' : Handle call.stage}
      {calls : List Call} {n : Nat} (ok : call.offered s) (applied : call.apply h ok = .ok h')
      (rest : Leads h' calls n g) : Leads h (call :: calls) (n + 1) g
  | failed {s t : Stage} {h : Handle s} {g : Handle t} {call : Call} {cause : FilterError}
      {calls : List Call} {n : Nat} (ok : call.offered s) (applied : call.apply h ok = .error cause)
      (rest : Leads h calls n g) : Leads h (call :: calls) n g

theorem apply_eq_ok {h' : Handle call.stage} {ok : call.offered s} (hr : .root ∉ es)
    (hc : h.cursor = .ofBody es) (applied : call.apply h ok = .ok h') :
    ∃ e, call.element? = .ok e ∧ h'.cursor = .ofBody (es ++ [e]) := by
  rw [apply_ofBody hr hc] at applied
  cases he : call.element? <;> rw [he] at applied <;> cases applied
  exact ⟨_, rfl, rfl⟩

theorem apply_eq_error {cause : FilterError} {ok : call.offered s} (hr : .root ∉ es)
    (hc : h.cursor = .ofBody es) (applied : call.apply h ok = .error cause) :
    call.element? = .error cause := by
  rw [apply_ofBody hr hc] at applied
  cases he : call.element? <;> rw [he] at applied <;> cases applied
  rfl

namespace Leads

-- The chain grows by the elements of the calls that succeed, and ends as the stage says.
theorem ends (l : Leads h calls n g) (hc : h.cursor = .ofBody es) (he : s.Ends es) :
    g.cursor = .ofBody (es ++ calls.filterMap Call.added?) ∧
      t.Ends (es ++ calls.filterMap Call.added?) ∧ n = (calls.filterMap Call.added?).length := by
  induction l generalizing es
  case done => simp [hc, he]
  case made call h' calls n ok applied _ hi =>
    have ⟨e, asked, hc'⟩ := apply_eq_ok he.root_notMem hc applied
    have added : call.added? = some e := by simp [Call.added?, asked, Except.toOption]
    simpa [added] using hi hc' (he.concat ok asked)
  case failed call cause calls n ok applied _ hi =>
    have asked := apply_eq_error he.root_notMem hc applied
    have added : call.added? = none := by simp [Call.added?, asked, Except.toOption]
    simpa [added] using hi hc he

theorem ends_of_new (l : Leads .new calls n g) :
    g.cursor = .ofBody (calls.filterMap Call.added?) ∧
      t.Ends (calls.filterMap Call.added?) ∧ n = (calls.filterMap Call.added?).length :=
  l.ends rfl Stage.ends_nil

end Leads

end Handle

section

variable {s : Stage} {es : List Element}

theorem Stage.Ends.exists_compileBody (h : s.Ends es) (hs : s ≠ .negation) :
    ∃ f, Chain.compileBody es = .ok f := by
  rw [Chain.compileBody, h.refusal?_eq, if_neg hs]
  exact ⟨_, rfl⟩

theorem Stage.Ends.compileBody_negation (h : negation.Ends es) :
    Chain.compileBody es = .error (.invalidState .missingOperand) := by
  rw [Chain.compileBody, h.refusal?_eq]
  rfl

-- The last node of the chain is the one that decides about the stage.
theorem Stage.Ends.exists_last (h : s.Ends es) :
    ∃ n, (Chain.ofBody es).get? es.length = some n ∧ n.child = none ∧ n.element.stage = s := by
  have straight := (Chain.reachable_ofBody es).straight
  have size := Chain.size_ofBody h.root_notMem
  have ⟨n, hn⟩ := Chain.exists_get? (c := .ofBody es) (i := es.length) (by omega)
  refine ⟨n, hn, straight.child_eq_none_iff hn |>.mpr size.symm, ?_⟩
  have found := Chain.elements_getElem? (.ofBody es) es.length
  rw [straight.elements_eq, Chain.body_ofBody h.root_notMem, hn] at found
  have last : (Element.root :: es).getLast? = some n.element :=
    List.getLast?_eq_getElem?.trans found
  rw [List.getLast?_cons] at last
  rw [←Option.some.inj last, h.stage_last]

theorem Chain.compile_earlier {i : Nat} (h : .root ∉ es) (hi : i < es.length) :
    ∃ cause, (ofBody es).compile i = .error (.invalidArgument cause) := by
  have straight := (reachable_ofBody es).straight
  have size := size_ofBody h
  have ⟨n, hn⟩ := exists_get? (c := .ofBody es) (i := i) (by omega)
  have inner : n.child ≠ none := fun leaf => by
    have := straight.child_eq_none_iff hn |>.mp leaf
    omega
  exact ⟨_, compile_inner hn inner⟩

end

namespace Handle

variable {s : Stage} {h : Handle s} {calls : List Call} {n : Nat}

-- Building compiles the elements that were added.
theorem Leads.build_eq (l : Leads .new calls n h) (ok : s.builds) :
    h.build ok = Chain.compileBody (calls.filterMap Call.added?) := by
  have ⟨hc, ends, _⟩ := l.ends_of_new
  rw [build, hc, Cursor.compile_ofBody ends.root_notMem]

theorem Leads.exists_build (l : Leads .new calls n h) (ok : s.builds) :
    ∃ f, h.build ok = .ok f := by
  have ⟨_, ends, _⟩ := l.ends_of_new
  rw [l.build_eq ok]
  refine ends.exists_compileBody ?_
  rintro rfl
  cases ok

-- A handle stands for the last node of its chain, which is of the kind that its stage names, and
-- every call that succeeded has added one node. What offers to be built can be built, and so can the
-- chain of a group; a negation at the end still lacks its operand, and earlier nodes are no ends.
theorem Leads.buildable (l : Leads .new calls n h) :
    h.node + 1 = h.chain.size ∧ h.chain.size = n + 1 ∧
    (∃ m, h.chain.get? h.node = some m ∧ m.child = none ∧ m.element.stage = s) ∧
    (∀ ok : s.builds, ∃ f, h.build ok = .ok f) ∧
    (s = .group → ∃ f, h.chain.compile h.node = .ok f) ∧
    (s = .negation → ∃ cause, h.chain.compile h.node = .error (.invalidState cause)) ∧
    ∀ i < h.node, ∃ cause, h.chain.compile i = .error (.invalidArgument cause) := by
  obtain ⟨hc, ends, rfl⟩ := l.ends_of_new
  have size := Chain.size_ofBody ends.root_notMem
  have compiled := Chain.compile_ofBody ends.root_notMem
  simp only [node, chain, hc]
  refine ⟨size.symm, size, ends.exists_last, l.exists_build, ?group, ?negation, fun i hi => ?earlier⟩
  case group =>
    rintro rfl
    exact compiled ▸ ends.exists_compileBody nofun
  case negation =>
    rintro rfl
    exact ⟨_, compiled.trans ends.compileBody_negation⟩
  case earlier => exact Chain.compile_earlier ends.root_notMem hi

theorem Leads.buildable_two_negations :
    ∃ h : Handle .negation,
      Leads .new [.field .category "slow" false, .or, .not, .ids [""], .not] 4 h ∧
      h.node = 4 ∧ h.chain.size = 5 ∧
      (∃ cause, h.chain.compile 4 = .error (.invalidState cause)) ∧
      ∃ cause, h.chain.compile 1 = .error (.invalidArgument cause) := by
  have ⟨h, l⟩ : ∃ h : Handle .negation,
      Leads .new [.field .category "slow" false, .or, .not, .ids [""], .not] 4 h :=
    ⟨_, .made rfl rfl <| .made rfl rfl <| .made rfl rfl <| .failed rfl rfl <| .made rfl rfl .done⟩
  have ⟨last, size, _, _, _, negation, earlier⟩ := l.buildable
  have node : h.node = 4 := by omega
  exact ⟨h, l, node, size, node ▸ negation rfl, earlier 1 (by omega)⟩

end Handle

end TestSieve
