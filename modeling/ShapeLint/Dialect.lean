import ShapeLint.Fault

/-!
The supported dialects of API descriptions, and which of them a document root declares.
-/
namespace ShapeLint

inductive Dialect where
  | openApi3
  | openApi2
  | asyncApi2
  deriving DecidableEq, Repr

namespace Dialect

def name : Dialect → String
  | openApi3 => "oas3"
  | openApi2 => "oas2"
  | asyncApi2 => "asyncapi2"

def all : List Dialect := [openApi3, openApi2, asyncApi2]

def ofName? (name : String) : Option Dialect := all.find? fun d => d.name == name

/-- The dialect of a name; other names are refused with the list of those known. -/
def ofName (name : String) : Except Fault Dialect :=
  match ofName? name with
  | some d => .ok d
  | none => .error (.unsupportedDialect (.unknownName name (all.map Dialect.name)))

/-- A way of declaring a dialect: a field of the root that holds a version. -/
structure Declaration where
  field : String
  standard : String
  dialect : Dialect
  admits : String → Bool

/-- In order of precedence. A version 2.0 may be written as a number. -/
def declarations : List Declaration :=
  [⟨"openapi", "OpenAPI", openApi3, fun version => version.startsWith "3."⟩,
   ⟨"swagger", "Swagger", openApi2, fun version => version == "2" || version == "2.0"⟩,
   ⟨"asyncapi", "AsyncAPI", asyncApi2, fun version => version.startsWith "2."⟩]

/-- The first declaration of the root decides; a null field declares nothing. -/
def detect (root : Value) : Except Fault Dialect :=
  if !root.isMapping then .error (.unsupportedDialect .rootNotMapping)
  else
    let declared := declarations.findSome? fun declaration =>
      match root.field? declaration.field with
      | none | some (.scalar .null) => none
      | some version => some (declaration, version)
    match declared with
    | none => .error (.unsupportedDialect .undeclared)
    | some (declaration, version) => do
      let version ← version.written
      if declaration.admits version then .ok declaration.dialect
      else .error (.unsupportedDialect (.version declaration.standard version))

end Dialect

end ShapeLint
