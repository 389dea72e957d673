import ShapeLint.Shapes.Resolvers

/-!
Shapes of JSON Schema draft 7, for dialects that embed it.
-/
namespace ShapeLint.Shapes.JsonSchema

open Descriptor

def schema : Descriptor :=
  { table := .growing [("$id", string), ("$schema", string), ("$comment", string),
      ("definitions", ref "SchemaProperties"), ("title", string), ("description", string),
      ("default", .anything), ("readOnly", boolean), ("writeOnly", boolean),
      ("examples", sampleList), ("multipleOf", nonNegative), ("maximum", number),
      ("exclusiveMaximum", number), ("minimum", number), ("exclusiveMinimum", number),
      ("maxLength", natural), ("minLength", natural), ("pattern", string),
      ("additionalItems", pickedBy schemaOrBoolean), ("items", pickedBy schemaOrList),
      ("maxItems", natural), ("minItems", natural), ("uniqueItems", boolean),
      ("contains", ref "Schema"), ("maxProperties", natural), ("minProperties", natural),
      ("required", stringList), ("additionalProperties", pickedBy schemaOrBoolean),
      ("properties", ref "SchemaProperties"), ("patternProperties", ref "SchemaProperties"),
      ("dependencies", ref "Dependencies"), ("propertyNames", ref "Schema"), ("const", anyValue),
      ("enum", array), ("type", pickedBy typeNameOrList), ("format", string),
      ("contentMediaType", string), ("contentEncoding", string), ("if", ref "Schema"),
      ("then", ref "Schema"), ("else", ref "Schema"), ("allOf", ref "SchemaList"),
      ("anyOf", ref "SchemaList"), ("oneOf", ref "SchemaList"), ("not", ref "Schema"),
      ("discriminator", ref "Discriminator"), ("externalDocs", ref "ExternalDocs"),
      ("deprecated", boolean), ("example", sample)]
    extensions := some "x-"
    description := "JSON Schema draft-07 schema object."
    documentation := some "https://json-schema.org/draft-07/json-schema-release-notes" }

def schemaProperties : Descriptor :=
  { additional := some (ref "Schema") }

def dependencies : Descriptor :=
  { additional := some (pickedBy dependency) }

def discriminatorMapping : Descriptor :=
  { additional := some (pickedBy classifyMappingEntry) }

def discriminator : Descriptor :=
  { table := .growing [("propertyName", string), ("mapping", ref "DiscriminatorMapping")]
    required := .ofKeys ["propertyName"]
    extensions := some "x-" }

def types : List (String × Descriptor) :=
  [("Schema", schema),
   ("SchemaList", listOf "Schema"),
   ("SchemaProperties", schemaProperties),
   ("Dependencies", dependencies),
   ("Discriminator", discriminator),
   ("DiscriminatorMapping", discriminatorMapping)]

end ShapeLint.Shapes.JsonSchema
