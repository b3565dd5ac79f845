import TestSieve.TestCase.Json
import TestSieve.Yaml.Decode

namespace TestSieve.TestCase

open Yaml.Node

def ofYaml? (n : Yaml.Node) : Option TestCase := do
  let fields ← n.fields? order
  return {
    id            := ← optionalField? fields "id" "" text?
    fullName      := ← optionalField? fields "full_name" "" text?
    name          := ← optionalField? fields "name" "" text?
    className     := ← optionalField? fields "class_name" none optionalText?
    methodName    := ← optionalField? fields "method_name" none optionalText?
    namespaceName := ← optionalField? fields "namespace" none optionalText?
    categories    := ← optionalField? fields "categories" [] (list? text?)
    properties    := .ofList (← optionalField? fields "properties" [] (entries? (list? text?)))
  }

end TestSieve.TestCase
