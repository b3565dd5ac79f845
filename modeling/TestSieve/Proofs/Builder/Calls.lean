import TestSieve.Proofs.Chain.Cursor

namespace TestSieve

namespace Call

-- The element that a call asks for, if it can be made of what the call is given.
def element? : Call → Except FilterError Element
  | ids entries               => .criterion <$> Criterion.ofIds entries
  | field f text regex        => .criterion <$> Criterion.named (.field f) text regex
  | property name value regex => .criterion <$> Criterion.ofProperty name value regex
  | and                       => return .and
  | or                        => return .or
  | not                       => return .not

-- Every call is offered by the handle that the calls before it lead to.
def Offered (s : Stage) : List Call → Prop
  | []            => True
  | call :: calls => call.offered s ∧ Offered call.stage calls

def stageAfter (s : Stage) : List Call → Stage
  | []            => s
  | call :: calls => stageAfter call.stage calls

theorem stageAfter_append (s : Stage) (calls more : List Call) :
    stageAfter s (calls ++ more) = stageAfter (stageAfter s calls) more := by
  induction calls generalizing s
  case nil          => rfl
  case cons calls hi => exact hi _

theorem offered_append {s : Stage} {calls more : List Call} :
    Offered s (calls ++ more) ↔ Offered s calls ∧ Offered (stageAfter s calls) more := by
  induction calls generalizing s
  case nil           => exact (and_iff_right trivial).symm
  case cons calls hi => simp only [List.cons_append, Offered, stageAfter, hi, and_assoc]

-- Calls that can be made wherever a predicate can be asked for, and that end with a predicate.
def Complete (calls : List Call) : Prop :=
  ∀ s, s ≠ .predicate → Offered s calls ∧ stageAfter s calls = .predicate

theorem Complete.not {calls : List Call} (h : Complete calls) : Complete (.not :: calls) := by
  intro s hs
  have ⟨offered, after⟩ := h .negation nofun
  exact ⟨⟨by cases s <;> trivial, offered⟩, after⟩

-- Complete calls can be joined by calls of `and`, and by calls of `or`.
theorem Complete.intercalate {joint : Call} (hj : joint.offered .predicate)
    (hg : joint.stage = .group) {parts : List (List Call)} (some : parts ≠ [])
    (h : ∀ calls ∈ parts, Complete calls) : Complete ([joint].intercalate parts) := by
  induction parts
  case nil => exact absurd rfl some
  case cons calls parts hi =>
    obtain ⟨first, rest⟩ := List.forall_mem_cons.mp h
    match parts with
    | []           => rwa [List.intercalate_singleton]
    | next :: more =>
      intro s hs
      have ⟨offered, after⟩ := first s hs
      have ⟨offered', after'⟩ := hi (by simp) rest .group nofun
      rw [List.intercalate_cons_cons, List.append_assoc, offered_append, stageAfter_append, after]
      refine ⟨⟨offered, hj, ?_⟩, ?_⟩
      · rwa [hg]
      · rwa [List.singleton_append, stageAfter, hg]

end Call

namespace Handle

variable {s : Stage}

-- The handle after all the calls, or the error of the first one that fails.
def run : {s : Stage} → Handle s → (calls : List Call) → Call.Offered s calls →
    Except FilterError (Handle (Call.stageAfter s calls))
  | _, h, [],            _  => return h
  | _, h, call :: calls, ok => do run (← call.apply h ok.1) calls ok.2

theorem cursor_map_mk (pushed : Except FilterError Cursor) :
    cursor <$> (do return mk (← pushed) : Except FilterError (Handle s)) = pushed := by
  cases pushed <;> rfl

theorem cursor_predicate (h : Handle s) (made : Except FilterError Criterion)
    (ok : s.takesPredicate) :
    cursor <$> (do h.predicate (← made) ok) =
      (do h.cursor.push (← Element.criterion <$> made)) := by
  cases made
  case error => rfl
  case ok c  => exact cursor_map_mk (h.cursor.push (.criterion c))

theorem cursor_apply (h : Handle s) (call : Call) (ok : call.offered s) :
    cursor <$> call.apply h ok = (do h.cursor.push (← call.element?)) := by
  cases call
  case ids      => exact h.cursor_predicate _ ok
  case field    => exact h.cursor_predicate _ ok
  case property => exact h.cursor_predicate _ ok
  case and      => exact cursor_map_mk (h.cursor.push .and)
  case or       => exact cursor_map_mk (h.cursor.push .or)
  case not      => exact cursor_map_mk (h.cursor.push .not)

theorem cursor_run (h : Handle s) (calls : List Call) (ok : Call.Offered s calls) :
    cursor <$> h.run calls ok =
      calls.foldlM (fun c call => do c.push (← call.element?)) h.cursor := by
  induction calls generalizing s
  case nil => rfl
  case cons call calls hi =>
    have first := h.cursor_apply call ok.1
    have split : cursor <$> h.run (call :: calls) ok =
        (do cursor <$> (← call.apply h ok.1).run calls ok.2) := map_bind ..
    rw [List.foldlM_cons, ←first, bind_map_left, split]
    simp only [hi]

end Handle

theorem Call.element?_ne_root {call : Call} {e : Element} (h : call.element? = .ok e) :
    e ≠ .root := by
  have made {c : Except FilterError Criterion} (h : Element.criterion <$> c = .ok e) :
      e ≠ .root := by
    cases c <;> cases h
    nofun
  cases call
  case ids      => exact made h
  case field    => exact made h
  case property => exact made h
  all_goals
    cases h
    nofun

theorem Cursor.foldlM_push {es : List Element} (h : .root ∉ es) (calls : List Call) :
    calls.foldlM (fun c call => do c.push (← call.element?)) (ofBody es) = do
      return ofBody (es ++ (← calls.mapM Call.element?)) := by
  induction calls generalizing es
  case nil => simp
  case cons call calls hi =>
    rw [List.foldlM_cons, List.mapM_cons]
    cases he : call.element?
    case error => rfl
    case ok e =>
      have ne := Call.element?_ne_root he
      have pushed := push_ofBody h ne
      have more : .root ∉ es ++ [e] := by simp [h, ne.symm]
      have rest := hi more
      have made : (Except.ok e : Except FilterError Element) = pure e := rfl
      simp [made, pushed, rest]

-- Calls that are offered do nothing but push the elements that they ask for.
theorem Handle.run_new (calls : List Call) (ok : Call.Offered .start calls) :
    cursor <$> new.run calls ok = do return Cursor.ofBody (← calls.mapM Call.element?) := by
  have none : Element.root ∉ [] := List.not_mem_nil
  exact (cursor_run new calls ok).trans <| Cursor.foldlM_push none calls

end TestSieve
