import TestSieve.Json.Decode

namespace TestSieve

namespace Json

-- A field whose name comes after all others is put at the end.
theorem insertField_of_forall_lt {name : String} {value : Json} {fields : List (String × Json)}
    (h : ∀ field ∈ fields, field.1 < name) :
    insertField name value fields = fields ++ [(name, value)] := by
  induction fields
  case nil => rfl
  case cons field fields hi =>
    obtain ⟨before, h⟩ := List.forall_mem_cons.mp h
    have other : name ≠ field.1 := fun eq => String.lt_irrefl _ (eq ▸ before)
    have after : ¬name < field.1 := fun lt => String.lt_irrefl _ (String.lt_trans before lt)
    rw [insertField, if_neg other, if_neg after, hi h, List.cons_append]

theorem canonicalFields_eq {fields done : List (String × Json)}
    (sorted : ((done ++ fields).map (·.1)).Pairwise (· < ·))
    (h : ∀ field ∈ fields, field.2.canonical = field.2) :
    canonicalFields fields done = done ++ fields := by
  induction fields generalizing done
  case nil => simp [canonicalFields]
  case cons field fields hi =>
    obtain ⟨here, h⟩ := List.forall_mem_cons.mp h
    have last : ∀ other ∈ done, other.1 < field.1 := by
      rw [List.pairwise_map, List.pairwise_append] at sorted
      exact fun other mem => sorted.2.2 other mem field List.mem_cons_self
    rw [canonicalFields, here, insertField_of_forall_lt last, hi (by simpa using sorted) h,
      List.append_assoc, List.singleton_append]

-- What has its fields in order, with values that have their fields in order, is left as it is.
theorem canonical_object {fields : List (String × Json)}
    (sorted : (fields.map (·.1)).Pairwise (· < ·))
    (h : ∀ field ∈ fields, field.2.canonical = field.2) :
    (object fields).canonical = object fields := by
  rw [canonical, canonicalFields_eq (by rwa [List.nil_append]) h, List.nil_append]

theorem canonical_single {name : String} {value : Json} (h : value.canonical = value) :
    (object [(name, value)]).canonical = object [(name, value)] :=
  canonical_object (List.pairwise_singleton _ _) (List.forall_mem_singleton.mpr h)

theorem canonical_array {items : List Json} (h : ∀ item ∈ items, item.canonical = item) :
    (array items).canonical = array items := by
  rw [canonical, array.injEq]
  induction items
  case nil => rfl
  case cons item items hi =>
    obtain ⟨first, rest⟩ := List.forall_mem_cons.mp h
    rw [canonicalItems, first, hi rest]

@[simp] theorem canonical_string (text : String) : (string text).canonical = string text :=
  rfl

@[simp] theorem canonical_strings (texts : List String) : (strings texts).canonical = strings texts :=
  canonical_array <| List.forall_mem_map.mpr fun _ _ => rfl

@[simp] theorem canonical_optional (text : Option String) :
    (optional text).canonical = optional text := by
  cases text <;> rfl

end Json

namespace Draft

theorem ofItems_eq_map (items : List Json) : ofItems items = items.map ofJson := by
  induction items
  case nil         => rfl
  case cons _ _ hi => rw [ofItems, hi, List.map_cons]

mutual

-- A value that is held in memory can be read as a whole.
theorem toJson?_ofJson (j : Json) : (ofJson j).toJson? = some j := by
  cases j
  case array items   => simp [ofJson, toJson?, toItems?_ofItems items]
  case object fields => simp [ofJson, toJson?, toFields?_ofFields fields]
  all_goals rfl

theorem toItems?_ofItems (items : List Json) : toItems? (ofItems items) = some items := by
  cases items
  case nil            => rfl
  case cons item rest => simp [ofItems, toItems?, toJson?_ofJson item, toItems?_ofItems rest]

theorem toFields?_ofFields (fields : List (String × Json)) :
    toFields? (ofFields fields) = some fields := by
  match fields with
  | []                    => rfl
  | (name, value) :: rest =>
    simp [ofFields, toFields?, toJson?_ofJson value, toFields?_ofFields rest]

end

end Draft

namespace Decode

variable {o : Origin} {α : Type} {item : Decoder α} {write : α → Json}

-- A list is read if each of its items is.
theorem list_ofJson {as : List α}
    (h : ∀ a ∈ as, item o (.ofJson (write a)) = .ok a) :
    list item o (.ofJson (.array (as.map write))) = .ok as := by
  rw [Draft.ofJson, Draft.ofItems_eq_map, list, List.map_map]
  induction as
  case nil => rfl
  case cons a as hi =>
    obtain ⟨first, rest⟩ := List.forall_mem_cons.mp h
    rw [List.map_cons, List.mapM_cons, Function.comp_apply, first, hi rest]
    rfl

theorem list_strings (texts : List String) : list string o (.ofJson (.strings texts)) = .ok texts :=
  list_ofJson fun _ _ => rfl

theorem optional_ofJson (text : Option String) :
    optional string o (.ofJson (.optional text)) = .ok text := by
  cases text <;> rfl

theorem foldFields_cons {σ : Type} {take : σ → String → Draft → Except DecodeError σ}
    {state next : σ} {name : String} {value : Draft} (h : take state name value = .ok next)
    (rest : List (Draft × Draft)) :
    foldFields take state ((.string name, value) :: rest) = foldFields take next rest := by
  rw [foldFields, h]
  rfl

-- A map is read if each of its values is. Names that are there twice are kept.
theorem entries_ofJson {as : List (String × α)}
    (h : ∀ a ∈ as, item o (.ofJson (write a.2)) = .ok a.2) :
    entries item o (.ofJson (.object (as.map fun a => (a.1, write a.2)))) = .ok as := by
  have collected (sofar : List (String × α)) :
      foldFields (fun sofar name d => do return (name, ← item o d) :: sofar) sofar
        (Draft.ofFields (as.map fun a => (a.1, write a.2))) = .ok (as.reverse ++ sofar) := by
    induction as generalizing sofar
    case nil => rfl
    case cons a as hi =>
      obtain ⟨first, rest⟩ := List.forall_mem_cons.mp h
      have added : (do return (a.1, ← item o (.ofJson (write a.2))) :: sofar) =
          (.ok (a :: sofar) : Except DecodeError (List (String × α))) := by
        rw [first]
        rfl
      rw [List.map_cons, Draft.ofFields, foldFields_cons added, hi rest, List.reverse_cons,
        List.append_assoc, List.singleton_append]
  rw [Draft.ofJson, entries, collected]
  exact congrArg Except.ok (by rw [List.append_nil, List.reverse_reverse])

end Decode

end TestSieve
