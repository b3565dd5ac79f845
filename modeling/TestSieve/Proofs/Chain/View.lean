import TestSieve.Proofs.Chain.Attach
import TestSieve.Proofs.Chain.Clauses

namespace TestSieve

namespace Element

variable {e : Element} {es : List Element} {a : Criterion}

def isContainer (e : Element) : Bool :=
  e.kind.isContainer

@[simp] theorem isContainer_criterion (a : Criterion) : (criterion a).isContainer = false := by
  cases a <;> rfl

-- The containers that a run begins with.
def containers (es : List Element) : List Element :=
  es.takeWhile isContainer

-- The predicate that follows them.
def subject? (es : List Element) : Option Criterion :=
  (es.dropWhile isContainer).head?.bind criterion?

-- The tags of some elements around a content, the first outermost.
def enclose (es : List Element) (content : List Char) : List Char :=
  es.flatMap (Xml.openTag ·.kind.tag) ++ content ++ es.reverse.flatMap (Xml.closeTag ·.kind.tag)

@[simp] theorem enclose_nil (content : List Char) : enclose [] content = content := by
  simp [enclose]

@[simp] theorem enclose_cons (e : Element) (es : List Element) (content : List Char) :
    enclose (e :: es) content = Xml.wrap e.kind.tag (enclose es content) := by
  simp [enclose, Xml.wrap]

theorem containers_cons (e : Element) (es : List Element) :
    containers (e :: es) = if e.isContainer then e :: containers es else [] :=
  List.takeWhile_cons

theorem subject?_cons (e : Element) (es : List Element) :
    subject? (e :: es) = if e.isContainer then subject? es else criterion? e := by
  rw [subject?, List.dropWhile_cons]
  split <;> rfl

-- All that a run shows. Its containers write their tags if that is asked for, and else only from
-- the first negation on, which holds its operand with all tags.
theorem renderRun_eq (es : List Element) :
    renderRun true es = enclose (containers es) ((subject? es).elim [] Criterion.render) ∧
      renderRun false es = enclose ((containers es).dropWhile (· ≠ .not))
        ((subject? es).elim [] Criterion.render) := by
  induction es
  case nil => exact ⟨rfl, rfl⟩
  case cons e es hi =>
    cases e
    case criterion a => simp [renderRun, containers_cons, subject?_cons]
    all_goals
      simp [renderRun, hi, containers_cons, subject?_cons, isContainer, kind, Kind.isContainer]

-- A predicate is the end of all that is looked at.
theorem subject?_append (h : subject? es = some a) (fs : List Element) :
    subject? (es ++ fs) = some a ∧ containers (es ++ fs) = containers es := by
  induction es
  case nil => cases h
  case cons e es hi =>
    rw [subject?_cons] at h
    rw [List.cons_append, subject?_cons, containers_cons, containers_cons]
    split at h
    case isTrue hc  =>
      rw [if_pos hc, if_pos hc, if_pos hc, (hi h).2]
      exact ⟨(hi h).1, rfl⟩
    case isFalse hc =>
      rw [if_neg hc, if_neg hc, if_neg hc]
      exact ⟨h, rfl⟩

theorem renderRun_append (h : subject? es = some a) (fs : List Element) (tagged : Bool) :
    renderRun tagged (es ++ fs) = renderRun tagged es := by
  obtain ⟨same, shown⟩ := subject?_append h fs
  have ⟨all, few⟩ := renderRun_eq (es ++ fs)
  have ⟨all', few'⟩ := renderRun_eq es
  rw [same, ←h, shown] at all few
  cases tagged
  case true  => exact all.trans all'.symm
  case false => exact few.trans few'.symm

end Element

namespace Chain

open Element

variable {c c' : Chain} {i : Nat}

-- Nodes are never changed in what they stand for, and never taken away.
theorem elements_attachEach {calls : List (Nat × Element)}
    (h : attachEach calls c.nodes = c'.nodes) : c.elements <+: c'.elements := by
  induction calls generalizing c
  case nil =>
    have same : c.elements = c'.elements := congrArg (List.map Node.element) h
    exact same ▸ List.prefix_rfl
  case cons call calls hi =>
    rw [attachEach, List.foldl_cons, run_attachInPlace] at h
    cases attached : c.attach call.1 call.2 <;> rw [attached] at h
    case error => exact hi h
    case ok r  =>
      obtain ⟨_, _, p, hp, _, grown⟩ := attach_eq_ok attached
      have more : c.elements <+: r.2.elements := by
        rw [grown, elements_grow]
        exact List.prefix_append ..
      exact more.trans (hi h)

-- What a node shows are the containers from it on, around the predicate that follows them. Once
-- this predicate is there, no later call changes what the node shows.
theorem render_reachable (h : c.Reachable) (i : Nat) :
    let view := c.elements.drop i
    let fragment := (subject? view).elim [] Criterion.render
    c.render i true = enclose (containers view) fragment ∧
    c.render i false = enclose ((containers view).dropWhile (· ≠ .not)) fragment ∧
    ((subject? view).isSome → ∀ calls, ∃ c' : Chain,
      attachEach calls c.nodes = c'.nodes ∧ ∀ tagged, c'.render i tagged = c.render i tagged) := by
  intro view fragment
  have run : c.run i = view := h.straight.run_eq i
  have ⟨all, few⟩ := renderRun_eq view
  refine ⟨(congrArg _ run).trans all, (congrArg _ run).trans few, fun ended calls => ?_⟩
  have ⟨a, ha⟩ := Option.isSome_iff_exists.mp ended
  have ⟨c', h', hc⟩ := h.exists_attachEach calls
  refine ⟨c', hc, fun tagged => ?_⟩
  have ⟨more, grown⟩ := elements_attachEach hc
  have inside : i ≤ c.elements.length := by
    refine Nat.le_of_not_lt fun out => ?_
    have none : view = [] := List.drop_eq_nil_of_le <| Nat.le_of_lt out
    rw [none] at ha
    cases ha
  have run' : c'.run i = view ++ more := by
    rw [h'.straight.run_eq, ←grown, List.drop_append_of_le_length inside]
  rw [render, run', render, run, renderRun_append ha]

theorem render_reachable_negated_and :
    let fast : Criterion := .field .category ⟨"fast", by decide⟩ true
    let c := ofBody [.or, .not, .and, .criterion fast, .or]
    let calls : List (Nat × Element) := [(5, .not), (2, .and), (9, .or), (6, .criterion fast)]
    let operand := "<not><and><cat re=\"1\">fast</cat></and></not>"
    c.Reachable ∧
      c.render 0 true = ("<filter><or>" ++ operand ++ "</or></filter>").toList ∧
      c.render 0 false = operand.toList ∧ c.render 5 true = "<or></or>".toList ∧
      ∃ c' : Chain, attachEach calls c.nodes = c'.nodes ∧ c'.render 0 false = operand.toList := by
  intro fast c calls operand
  have h : c.Reachable := reachable_ofBody _
  have elements : c.elements = _ := elements_ofBody (by simp)
  have ⟨all, few, stays⟩ := render_reachable h 0
  have ⟨last, _⟩ := render_reachable h 5
  rw [elements] at all few stays last
  have shown : c.render 0 false = operand.toList := few.trans (by decide +kernel)
  have ⟨c', grown, same⟩ := stays rfl calls
  exact ⟨h, all.trans (by decide +kernel), shown, last.trans (by decide +kernel), c', grown,
    (same false).trans shown⟩

end Chain

end TestSieve
