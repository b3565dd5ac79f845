import TestSieve.Definition.Json
import TestSieve.Proofs.Json.RoundTrip

namespace TestSieve

open Json Decode

variable {o : Origin}

namespace NamePattern

theorem canonical_toJson (p : NamePattern) : p.toJson.canonical = p.toJson := by
  cases p
  case literal  => rfl
  case detailed =>
    have sorted : ["pattern", "regex"].Pairwise (· < ·) := by decide
    exact canonical_object sorted (by simp [canonical])

-- A name alone is no object, so the two forms of a pattern are not mistaken for each other.
theorem decode_toJson (p : NamePattern) : decode o (.ofJson p.toJson) = .ok p := by
  simp only [decode, Draft.toJson?_ofJson]
  cases p <;> rfl

end NamePattern

namespace Term

theorem canonical_toJson (t : Term) : t.toJson.canonical = t.toJson := by
  induction t
  case field f p => exact canonical_single p.canonical_toJson
  case not hi    => exact canonical_single hi
  case ids       => exact canonical_single (canonical_strings _)
  case property  =>
    have sorted : ["name", "regex", "value"].Pairwise (· < ·) := by decide
    exact canonical_single <| canonical_object sorted (by simp [canonical])

theorem Variant.ofName_fieldName (f : Field) : ofName (fieldName f) = .ok (field f) := by
  cases f <;> rfl

-- The name of its only field decides how a term is read.
theorem decode_named {name : String} {v : Variant} (h : Variant.ofName name = .ok v)
    (value : Draft) :
    decode o (.object [(.string name, value)]) =
      match v with
      | .ids      => ids <$> list string o value
      | .field f  => field f <$> NamePattern.decode o value
      | .property => decodeProperty o value
      | .not      => not <$> decode o value := by
  cases v <;>
    simp [decode, h] <;>
    rfl

theorem decode_toJson (t : Term) : decode o (.ofJson t.toJson) = .ok t := by
  -- Only a negation holds a term; the others are read from the value of their field at once.
  induction t
  case ids texts =>
    have named : Variant.ofName "id" = .ok .ids := rfl
    exact (decode_named named _).trans (congrArg (ids <$> ·) (list_strings texts))
  case field f p =>
    have named := Variant.ofName_fieldName f
    exact (decode_named named _).trans (congrArg (field f <$> ·) p.decode_toJson)
  case property =>
    have named : Variant.ofName "property" = .ok .property := rfl
    exact decode_named named _
  case not operand hi =>
    have named : Variant.ofName "not" = .ok .not := rfl
    exact (decode_named named _).trans (congrArg (not <$> ·) hi)

end Term

namespace Conjunction

theorem canonical_toJson (c : Conjunction) : c.toJson.canonical = c.toJson :=
  canonical_single <| canonical_array <| List.forall_mem_map.mpr fun t _ =>
    t.canonical_toJson

theorem decode_toJson (c : Conjunction) : decode o (.ofJson c.toJson) = .ok c := by
  have read : list Term.decode o (.ofJson (.array (c.all.map Term.toJson))) = .ok c.all :=
    list_ofJson fun t _ => t.decode_toJson
  simp only [toJson, Draft.ofJson, Draft.ofFields, decode, foldFields, take, once] at read ⊢
  rw [read]
  rfl

end Conjunction

namespace Definition

theorem canonical_toJson (d : Definition) : d.toJson.canonical = d.toJson :=
  canonical_single <| canonical_array <| List.forall_mem_map.mpr fun c _ =>
    c.canonical_toJson

theorem decode_toJson (d : Definition) : decode o (.ofJson d.toJson) = .ok d := by
  have read : list Conjunction.decode o (.ofJson (.array (d.any.map Conjunction.toJson))) =
      .ok d.any :=
    list_ofJson fun c _ => c.decode_toJson
  simp only [toJson, Draft.ofJson, Draft.ofFields, decode, foldFields, take, once] at read ⊢
  rw [read]
  rfl

-- A definition is written as a value with its fields in order, and is what is read from it.
theorem ofJson_toJson (d : Definition) :
    d.toJson.canonical = d.toJson ∧ Decode.ofJson decode d.toJson = .ok d :=
  ⟨d.canonical_toJson, d.decode_toJson⟩

end Definition

end TestSieve
