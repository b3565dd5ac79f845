import TestSieve.Proofs.Json.RoundTrip
import TestSieve.Proofs.TestCase.Changes
import TestSieve.TestCase.Json

namespace TestSieve.TestCase

open Json Decode

variable {o : Origin}

theorem canonical_properties (m : PropertyMap) :
    (object (m.entries.map fun e => (e.1, strings e.2))).canonical =
      object (m.entries.map fun e => (e.1, strings e.2)) := by
  refine canonical_object ?_ (List.forall_mem_map.mpr fun e _ => canonical_strings e.2)
  rw [List.map_map]
  exact List.pairwise_map.mpr m.sorted

theorem canonical_toJson (t : TestCase) : t.toJson.canonical = t.toJson := by
  have sorted : ["categories", "class_name", "full_name", "id", "method_name", "name", "namespace",
      "properties"].Pairwise (· < ·) := by decide
  exact canonical_object sorted (by simp [canonical_properties])

-- The entries are read in the order of their names, so each is put behind those before it.
theorem decodeProperties_ofJson (m : PropertyMap) :
    decodeProperties o (.ofJson (.object (m.entries.map fun e => (e.1, strings e.2)))) = .ok m := by
  have read : entries (list string) o
      (.ofJson (.object (m.entries.map fun e => (e.1, strings e.2)))) = .ok m.entries :=
    entries_ofJson fun e _ => list_strings e.2
  rw [decodeProperties, read]
  exact congrArg Except.ok m.ofList_entries

theorem decode_toJson (t : TestCase) : decode o (.ofJson t.toJson) = .ok t := by
  have categories    := list_strings (o := o) t.categories
  have className     := optional_ofJson (o := o) t.className
  have methodName    := optional_ofJson (o := o) t.methodName
  have namespaceName := optional_ofJson (o := o) t.namespaceName
  have properties    := decodeProperties_ofJson (o := o) t.properties
  rw [toJson, Draft.ofJson, decode]
  -- No field is there twice, so each one is taken as it comes.
  simp only [Draft.ofFields, foldFields, Given.take, once, categories, className, methodName,
    namespaceName, properties]
  rfl

-- All fields are written, also those that are absent or empty, so reading falls back on nothing.
-- The name that is written is the one that is stored, not the one that is shown.
theorem ofJson_toJson_changed (t : TestCase) (changes : List Change) :
    let u := changes.foldl Change.apply t
    u.toJson.canonical = u.toJson ∧ Decode.ofJson decode u.toJson = .ok u ∧ Records t changes u :=
  ⟨canonical_toJson _, decode_toJson _, records_foldl t changes⟩

end TestSieve.TestCase
