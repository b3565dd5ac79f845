import Mathlib.Data.List.Perm.Basic
import TestSieve.Proofs.Definition.Form
import TestSieve.Proofs.Definition.Meaning

namespace TestSieve

open Element

section

variable {α β : Type}

-- Lists that are the same up to their order, and up to the order of what is in each of them.
def Reordered (xss yss : List (List α)) : Prop :=
  ∃ zss, xss.Perm zss ∧ List.Forall₂ List.Perm zss yss

namespace Reordered

variable {xss yss : List (List α)}

theorem symm (h : Reordered xss yss) : Reordered yss xss := by
  obtain ⟨zss, moved, within⟩ := h
  have ⟨wss, within, moved⟩ := List.perm_comp_forall₂ moved within
  exact ⟨wss, moved.symm, within.flip.imp fun _ _ => List.Perm.symm⟩

-- What is made of each list without regard to its order is only moved.
theorem map_perm {f : List α → β} (hf : ∀ xs ys, xs.Perm ys → f xs = f ys)
    (h : Reordered xss yss) : (xss.map f).Perm (yss.map f) := by
  obtain ⟨zss, moved, within⟩ := h
  have same : zss.map f = yss.map f := by
    clear moved
    induction within
    case nil             => rfl
    case cons first _ hi => rw [List.map_cons, List.map_cons, hf _ _ first, hi]
  exact same ▸ moved.map f

theorem length_eq (h : Reordered xss yss) : xss.length = yss.length := by
  simpa using (h.map_perm (f := fun _ => ()) fun _ _ _ => rfl).length_eq

theorem isEmpty_eq (h : Reordered xss yss) : xss.isEmpty = yss.isEmpty := by
  rw [Bool.eq_iff_iff, List.isEmpty_iff_length_eq_zero, h.length_eq,
    List.isEmpty_iff_length_eq_zero]

theorem any_eq {p : List α → Bool} (hp : ∀ xs ys, xs.Perm ys → p xs = p ys)
    (h : Reordered xss yss) : xss.any p = yss.any p := by
  simpa [List.any_map, Function.comp_def] using (h.map_perm hp).any_eq (f := id)

theorem forall_mem_iff {p : List α → Prop} (hp : ∀ xs ys, xs.Perm ys → (p xs ↔ p ys))
    (h : Reordered xss yss) : (∀ xs ∈ xss, p xs) ↔ ∀ ys ∈ yss, p ys := by
  have moved := h.map_perm fun xs ys perm => propext (hp xs ys perm)
  have each (lists : List (List α)) : (∀ xs ∈ lists, p xs) ↔ ∀ q ∈ lists.map p, q :=
    (List.forall_mem_map (P := (·))).symm
  rw [each, each]
  exact forall_congr' fun q => imp_congr_left moved.mem_iff

end Reordered

section

-- What can be made of a list can be made of it in any order.
variable {r : List α → List β → Prop}
  (hr : ∀ xs ys bs, xs.Perm ys → r xs bs → ∃ cs, r ys cs ∧ bs.Perm cs)

include hr

theorem exists_forall₂_of_perm {xss yss : List (List α)} {bss : List (List β)}
    (within : List.Forall₂ List.Perm xss yss) (made : List.Forall₂ r xss bss) :
    ∃ css, List.Forall₂ r yss css ∧ List.Forall₂ List.Perm bss css := by
  induction within generalizing bss
  case nil =>
    cases made
    exact ⟨[], .nil, .nil⟩
  case cons first _ hi =>
    cases made
    case cons here rest =>
      have ⟨cs, here, perm⟩ := hr _ _ _ first here
      have ⟨css, rest, perms⟩ := hi rest
      exact ⟨cs :: css, .cons here rest, .cons perm perms⟩

theorem Reordered.exists_forall₂ {xss yss : List (List α)} {bss : List (List β)}
    (h : Reordered xss yss) (made : List.Forall₂ r xss bss) :
    ∃ css, List.Forall₂ r yss css ∧ Reordered bss css := by
  obtain ⟨zss, moved, within⟩ := h
  have ⟨dss, made, moved⟩ := List.perm_comp_forall₂ moved.symm made
  have ⟨css, made, within⟩ := exists_forall₂_of_perm hr within made
  exact ⟨css, made, dss, moved.symm, within⟩

end

end

namespace Definition

-- Definitions with the same groups up to order, where each group has the same terms up to order.
def Reordered (d d' : Definition) : Prop :=
  TestSieve.Reordered (d.any.map (·.all)) (d'.any.map (·.all))

variable {d d' : Definition}

theorem Reordered.symm (h : d.Reordered d') : d'.Reordered d :=
  TestSieve.Reordered.symm h

theorem Reordered.exists_clauses (h : d.Reordered d') {cs : List (List Literal)}
    (made : d.clauses? = .ok cs) :
    ∃ cs', d'.clauses? = .ok cs' ∧ TestSieve.Reordered cs cs' := by
  simp only [clauses?_eq_ok_iff] at made ⊢
  refine TestSieve.Reordered.exists_forall₂ (fun terms terms' c perm => ?_) h made
  rintro ⟨full, made⟩
  have ⟨c', made, perm'⟩ := List.perm_comp_forall₂ perm.symm (mapM_eq_ok_iff.mp made)
  exact ⟨c', ⟨fun none => full (none ▸ perm).eq_nil, mapM_eq_ok_iff.mpr made⟩, perm'.symm⟩

end Definition

section

variable {cs cs' : List (List Literal)} {f f' : CompiledFilter}

-- Where a literal stands in its group, and its group among the groups, does not matter.
theorem Reordered.exists_filter_iff [Regex.Engine] (h : Reordered cs cs')
    (made : Chain.compileBody (ofClauses cs) = .ok f)
    (made' : Chain.compileBody (ofClauses cs') = .ok f') :
    (∃ t, f.filter = .ok t) ↔ ∃ t', f'.filter = .ok t' := by
  simp only [filter_ofClauses_eq_ok_iff made, filter_ofClauses_eq_ok_iff made', exists_and_left,
    exists_eq, and_true]
  rw [←h.length_eq]
  refine h.forall_mem_iff fun c c' perm => ?_
  rw [←perm.length_eq]
  exact forall_congr' fun l => imp_congr_left perm.mem_iff

theorem Reordered.select_eq [Regex.Engine] {α : Type} [Selectable α] (h : Reordered cs cs')
    (full : ∀ c ∈ cs, c ≠ []) (full' : ∀ c ∈ cs', c ≠ []) (tests : List α) :
    (tree (ofClauses cs)).select tests = (tree (ofClauses cs')).select tests := by
  refine List.filter_congr fun test _ => ?_
  rw [pass_ofClauses test full, pass_ofClauses test full', h.isEmpty_eq,
    h.any_eq fun _ _ => List.Perm.all_eq]

end

namespace Definition

variable {d d' : Definition}

theorem Reordered.exists_build (h : d.Reordered d') (built : ∃ f, d.build = .ok f) :
    ∃ f', d'.build = .ok f' := by
  simp only [build_eq, Xml.bind_eq_ok] at built ⊢
  obtain ⟨_, cs, made, _⟩ := built
  have ⟨cs', made', _⟩ := h.exists_clauses made
  exact ⟨_, cs', made', Chain.compileBody_ofClauses cs'⟩

-- The order of the groups, and of the terms in a group, decides neither whether a definition is
-- built, nor whether its filter is read, nor what is selected.
theorem build_reordered [Regex.Engine] (h : d.Reordered d') :
    ((∃ f, d.build = .ok f) ↔ ∃ f', d'.build = .ok f') ∧
    ∀ f f', d.build = .ok f → d'.build = .ok f' →
      ((∃ t, f.filter = .ok t) ↔ ∃ t', f'.filter = .ok t') ∧
      ((∃ t, f.filter = .ok t) → ∀ (α : Type) [Selectable α] (tests : List α),
        ∃ kept, f.select tests = .ok kept ∧ f'.select tests = .ok kept) := by
  refine ⟨⟨h.exists_build, h.symm.exists_build⟩, fun f f' built built' => ?_⟩
  rw [build_eq, Xml.bind_eq_ok] at built built'
  obtain ⟨cs, made, compiled⟩ := built
  obtain ⟨_, made', compiled'⟩ := built'
  obtain ⟨cs', made'', reordered⟩ := h.exists_clauses made
  cases made'.symm.trans made''
  have same := reordered.exists_filter_iff compiled compiled'
  refine ⟨same, fun read α _ tests => ?_⟩
  have ⟨t, read⟩ := read
  have ⟨t', read'⟩ := same.mp ⟨t, read⟩
  have kept : t.select tests = t'.select tests := by
    rw [((filter_ofClauses_eq_ok_iff compiled).mp read).2,
      ((filter_ofClauses_eq_ok_iff compiled').mp read').2]
    exact reordered.select_eq (form_of_clauses? made).2 (form_of_clauses? made').2 tests
  refine ⟨t.select tests, ?_, ?_⟩
  · rw [CompiledFilter.select, read]
    rfl
  · rw [CompiledFilter.select, read', kept]
    rfl

theorem build_reordered_two_groups :
    let slow : Term := .field .category (.literal "slow")
    let reading : Term := .field .shortName (.detailed "^re" true)
    let d : Definition := { any := [⟨[.not slow, reading]⟩, ⟨[.ids ["7"]]⟩] }
    let d' : Definition := { any := [⟨[.ids ["7"]]⟩, ⟨[reading, .not slow]⟩] }
    let read := TestCase.new "1" "A.read"
    let write := TestCase.new "7" "A.write"
    let reset := (TestCase.new "2" "A.reset").withCategory "slow"
    d.Reordered d' ∧ ∃ f f', d.build = .ok f ∧ d'.build = .ok f' ∧ f ≠ f' ∧
      f.select [write, reset, read] = .ok [write, read] ∧
      f'.select [write, reset, read] = .ok [write, read] := by
  intro slow reading d d' read write reset
  let slow : Criterion := .field .category ⟨"slow", by decide⟩ false
  let reading : Criterion := .field .shortName ⟨"^re", by decide⟩ true
  let listed : Criterion := .ids ⟨"7", by decide⟩
  let cs : List (List Literal) := [[⟨1, slow⟩, ⟨0, reading⟩], [⟨0, listed⟩]]
  let cs' : List (List Literal) := [[⟨0, listed⟩], [⟨0, reading⟩, ⟨1, slow⟩]]
  have h : d.Reordered d' := ⟨_, .swap _ _ _, .cons (.refl _) <| .cons (.swap _ _ _) .nil⟩
  have built : d.build = Chain.compileBody (ofClauses cs) := by
    rw [build_eq]
    rfl
  have built' : d'.build = Chain.compileBody (ofClauses cs') := by
    rw [build_eq]
    rfl
  have compiled := Chain.compileBody_ofClauses cs
  have compiled' := Chain.compileBody_ofClauses cs'
  have readable : ∀ c ∈ cs, ∀ l ∈ c, l.Readable := by
    unfold Literal.Readable
    decide +kernel
  have parsed := filter_ofClauses compiled readable
  obtain ⟨_, same⟩ := (build_reordered h).2 _ _ (built.trans compiled) (built'.trans compiled')
  obtain ⟨kept, selected, selected'⟩ := same ⟨_, parsed⟩ TestCase [write, reset, read]
  have those : kept = [write, read] := by
    rw [CompiledFilter.select, parsed] at selected
    exact (Except.ok.inj selected).symm.trans <| by decide +kernel
  exact ⟨h, _, _, built.trans compiled, built'.trans compiled', by decide +kernel,
    those ▸ selected, those ▸ selected'⟩

end Definition

end TestSieve
