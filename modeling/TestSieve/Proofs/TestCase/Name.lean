import Mathlib.Data.List.Permutation
import Mathlib.Data.List.TakeWhile
import TestSieve.Proofs.TestCase.Changes
import TestSieve.TestCase.Json

namespace TestSieve

-- What stands behind the last dot of a full name, which is all of it if there is no dot.
inductive IsLastSegment (segment : String) : String → Prop
  | whole (h : '.' ∉ segment.toList) : IsLastSegment segment segment
  | behind (qualifier : String) (h : '.' ∉ segment.toList) :
    IsLastSegment segment (qualifier ++ "." ++ segment)

theorem ne_dot_of_undotted {text : List Char} (h : '.' ∉ text) :
    ∀ c ∈ text.reverse, (c != '.') = true :=
  fun _ hc => bne_iff_ne.mpr fun eq => h (eq ▸ List.mem_reverse.mp hc)

theorem lastSegment_undotted {segment : String} (h : '.' ∉ segment.toList) :
    lastSegment segment = segment := by
  rw [lastSegment, List.takeWhile_eq_self_iff.mpr (ne_dot_of_undotted h), List.reverse_reverse,
    String.ofList_toList]

theorem lastSegment_append (qualifier : String) {segment : String} (h : '.' ∉ segment.toList) :
    lastSegment (qualifier ++ "." ++ segment) = segment := by
  have reversed : (qualifier ++ "." ++ segment).toList.reverse =
      segment.toList.reverse ++ '.' :: qualifier.toList.reverse := by
    simp
  rw [lastSegment, reversed, List.takeWhile_append_of_pos (ne_dot_of_undotted h),
    List.takeWhile_cons_of_neg (by decide), List.append_nil, List.reverse_reverse,
    String.ofList_toList]

theorem isLastSegment_lastSegment (fullName : String) :
    IsLastSegment (lastSegment fullName) fullName := by
  by_cases dotted : '.' ∈ fullName.toList
  case neg =>
    rw [lastSegment_undotted dotted]
    exact .whole dotted
  case pos =>
    -- Seen from the end, the last dot is the first one.
    obtain ⟨segment, qualifier, eq, h⟩ :=
      List.eq_append_cons_of_mem (List.mem_reverse.mpr dotted)
    have split : fullName = .ofList qualifier.reverse ++ "." ++ .ofList segment.reverse := by
      apply String.toList_inj.mp
      simpa using congrArg List.reverse eq
    have undotted : '.' ∉ (String.ofList segment.reverse).toList := by simpa using h
    rw [split, lastSegment_append _ undotted]
    exact .behind _ undotted

theorem isLastSegment_iff {segment fullName : String} :
    IsLastSegment segment fullName ↔ segment = lastSegment fullName where
  mp
    | .whole h            => (lastSegment_undotted h).symm
    | .behind qualifier h => (lastSegment_append qualifier h).symm
  mpr eq := eq ▸ isLastSegment_lastSegment fullName

namespace TestCase

variable {t : TestCase} {name : String}

theorem shownName_unnamed (h : t.name = "") : t.shownName = lastSegment t.fullName :=
  if_pos h

-- The name that a test case is made with may be empty too, but then so is the last segment.
theorem shownName_new (id fullName : String) :
    (new id fullName).shownName = lastSegment fullName :=
  ite_self _

theorem shownName_apply (t : TestCase) (e : Enlargement) : (e.apply t).shownName = t.shownName := by
  cases e <;> rfl

theorem shownName_foldl_apply (t : TestCase) (calls : List Enlargement) :
    (calls.foldl Enlargement.apply t).shownName = t.shownName := by
  induction calls generalizing t
  case nil         => rfl
  case cons e _ hi => rw [List.foldl_cons, hi, shownName_apply]

theorem texts_withName (h : (t.withName name).shownName = t.shownName) (a : Aspect) :
    a.texts (t.withName name) = a.texts t := by
  cases a
  case id       => rfl
  case property => rfl
  case field f  =>
    cases f
    case shortName => exact congrArg ([·]) h
    all_goals rfl

-- A filter sees the stored name only through the name that is shown.
theorem pass_withName (h : (t.withName name).shownName = t.shownName) (f : Filter) :
    f.pass (t.withName name) = f.pass t :=
  Filter.pass_congr (texts_withName h) f

theorem apply_withName (t : TestCase) (name : String) (e : Enlargement) :
    e.apply (t.withName name) = (e.apply t).withName name := by
  cases e <;> rfl

theorem foldl_apply_withName (t : TestCase) (name : String) (calls : List Enlargement) :
    calls.foldl Enlargement.apply (t.withName name) =
      (calls.foldl Enlargement.apply t).withName name :=
  List.foldl_hom (·.withName name) fun t e => apply_withName t name e

open Json

variable {o : Origin} {id fullName : String} {fields : List (String × Json)}

-- What is left out is absent, in whatever order the other fields are written.
theorem decode_listed
    (h : fields.Perm [("id", .string id), ("full_name", .string fullName)]) :
    decode o (.ofJson (.object fields)) = .ok ((new id fullName).withName "") := by
  have orders : fields = [("id", .string id), ("full_name", .string fullName)] ∨
      fields = [("full_name", .string fullName), ("id", .string id)] := by
    simpa [List.permutations] using List.mem_permutations.mpr h
  rcases orders with rfl | rfl <;> rfl

-- A test case `t` that was made with a name, and `u` that was read without one, are the same to
-- every filter, after any calls.
theorem pass_listed
    (h : fields.Perm [("id", .string id), ("full_name", .string fullName)]) :
    ∃ listed, decode o (.ofJson (.object fields)) = .ok listed ∧
      listed.name = "" ∧ IsLastSegment (new id fullName).name fullName ∧
      ∀ calls : List Enlargement,
        let t := calls.foldl Enlargement.apply (new id fullName)
        let u := calls.foldl Enlargement.apply listed
        IsLastSegment (Selectable.name t) fullName ∧ IsLastSegment (Selectable.name u) fullName ∧
          ∀ f : Filter, f.pass t = f.pass u := by
  refine ⟨_, decode_listed h, rfl, isLastSegment_lastSegment fullName, fun calls => ?_⟩
  have made : (calls.foldl Enlargement.apply (new id fullName)).shownName = lastSegment fullName :=
    (shownName_foldl_apply ..).trans (shownName_new id fullName)
  have read : (calls.foldl Enlargement.apply ((new id fullName).withName "")).shownName =
      lastSegment fullName :=
    (shownName_foldl_apply ..).trans (shownName_unnamed rfl)
  refine ⟨isLastSegment_iff.mpr made, isLastSegment_iff.mpr read, fun f => ?_⟩
  rw [foldl_apply_withName] at read ⊢
  exact (pass_withName (read.trans made.symm) f).symm

theorem pass_listed_named_apart :
    let fields := [("full_name", Json.string "A.B.Adds"), ("id", Json.string "1")]
    fields.Perm [("id", .string "1"), ("full_name", .string "A.B.Adds")] ∧
      ∃ listed, decode .text (.ofJson (.object fields)) = .ok listed ∧
        listed.name ≠ (new "1" "A.B.Adds").name ∧
        ∀ f : Filter, f.pass ((new "1" "A.B.Adds").withClass "A.B") =
          f.pass (listed.withClass "A.B") := by
  intro fields
  have h : fields.Perm [("id", .string "1"), ("full_name", .string "A.B.Adds")] := .swap ..
  obtain ⟨listed, read, unnamed, _, same⟩ := pass_listed (o := .text) h
  refine ⟨h, listed, read, ?_, (same [.className "A.B"]).2.2⟩
  rw [unnamed]
  decide

end TestCase

end TestSieve
