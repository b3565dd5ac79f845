import TestSieve.Definition.Json
import TestSieve.Yaml.Decode

namespace TestSieve

open Yaml.Node

namespace NamePattern

-- A text that cannot be taken for anything else.
def plainText? : Yaml.Node → Option String
  | .scalar .plain text  => if Yaml.Plain.isText text then some text else none
  | .scalar .quoted text => some text
  | _                    => none

def plainBool? : Yaml.Node → Option Bool
  | .scalar .plain text => Yaml.Plain.bool? text
  | _                   => none

mutual

-- No tag occurs anywhere in a node.
def isUntagged : Yaml.Node → Bool
  | .scalar ..        => true
  | .sequence items   => areUntagged items
  | .mapping entries  => areUntaggedEntries entries
  | .tagged ..        => false

def areUntagged : List Yaml.Node → Bool
  | []      => true
  | n :: ns => isUntagged n && areUntagged ns

def areUntaggedEntries : List (Yaml.Node × Yaml.Node) → Bool
  | []           => true
  | (k, v) :: es => isUntagged k && isUntagged v && areUntaggedEntries es

end

def ofYaml? (n : Yaml.Node) : Option NamePattern :=
  match n with
  | .mapping entries => do
    if !isUntagged n || entries.any fun e => (plainText? e.1).isNone then none
    let fields ← n.fields? ["pattern", "regex"]
    return detailed (← field? fields "pattern" plainText?)
      (← optionalField? fields "regex" false plainBool?)
  | _                => literal <$> plainText? n

end NamePattern

-- The tag of a term says what kind of term it is. A node has one tag, so there is no way to write
-- what is under a `not`.
def Term.ofYaml? : Yaml.Node → Option Term
  | .tagged tag content =>
    match Variant.all.lookup tag with
    | some .ids       => ids <$> content.list? text?
    | some (.field f) => field f <$> NamePattern.ofYaml? content
    | some .property  => do
      let fields ← content.fields? ["name", "value", "regex"]
      return property (← field? fields "name" text?) (← field? fields "value" text?)
        (← optionalField? fields "regex" false bool?)
    | some .not       => none
    | none            => none
  | _                   => none

def Conjunction.ofYaml? (n : Yaml.Node) : Option Conjunction := do
  return { all := ← field? (← n.fields? ["all"]) "all" (list? Term.ofYaml?) }

def Definition.ofYaml? (n : Yaml.Node) : Option Definition := do
  return { any := ← optionalField? (← n.fields? ["any"]) "any" [] (list? Conjunction.ofYaml?) }

end TestSieve
