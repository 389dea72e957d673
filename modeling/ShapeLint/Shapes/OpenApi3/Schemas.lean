import ShapeLint.Shapes.OpenApi3.Conditions

/-!
Schemas of OpenAPI 3 and their discriminators.
-/
namespace ShapeLint.Shapes.OpenApi3

def enumDescriptions : Descriptor :=
  { additional := some string }

def schema : Descriptor :=
  { table := .growing [("externalDocs", ref "ExternalDocs"), ("discriminator", ref "Discriminator"),
      ("description", string), ("title", string), ("multipleOf", nonNegative), ("maximum", number),
      ("minimum", number), ("exclusiveMaximum", boolean), ("exclusiveMinimum", boolean),
      ("maxLength", natural), ("minLength", natural), ("pattern", string), ("maxItems", natural),
      ("minItems", natural), ("uniqueItems", boolean), ("maxProperties", natural),
      ("minProperties", natural), ("required", stringList), ("enum", array),
      ("type", oneOf ["object", "array", "string", "number", "integer", "boolean"]),
      ("allOf", ref "SchemaList"), ("anyOf", ref "SchemaList"), ("oneOf", ref "SchemaList"),
      ("not", ref "Schema"), ("properties", ref "SchemaProperties"),
      ("items", pickedBy schemaOrList), ("additionalProperties", pickedBy schemaOrBoolean),
      ("format", string), ("default", .anything), ("nullable", boolean), ("readOnly", boolean),
      ("writeOnly", boolean), ("xml", ref "Xml"), ("example", sample), ("deprecated", boolean),
      ("x-tags", stringList), ("x-additionalPropertiesName", string),
      ("x-explicitMappingOnly", boolean), ("x-enumDescriptions", ref "EnumDescriptions")]
    extensions := some "x-"
    documentation := some (docs ++ "/schemas") }

def xml : Descriptor :=
  { table := .growing [("name", string), ("namespace", string), ("prefix", string),
      ("attribute", boolean), ("wrapped", boolean)]
    extensions := some "x-" }

def schemaProperties : Descriptor :=
  { additional := some (ref "Schema") }

def discriminatorMapping : Descriptor :=
  { additional := some (pickedBy classifyMappingEntry) }

def discriminator : Descriptor :=
  { table := .growing [("propertyName", string), ("mapping", ref "DiscriminatorMapping")]
    required := .ofKeys ["propertyName"]
    extensions := some "x-" }

end ShapeLint.Shapes.OpenApi3
