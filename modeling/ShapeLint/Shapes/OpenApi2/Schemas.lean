import ShapeLint.Shapes.OpenApi2.Conditions

/-!
Schemas of OpenAPI 2. A discriminator is the name of a property here.
-/
namespace ShapeLint.Shapes.OpenApi2

def schema : Descriptor :=
  { table := .growing [("format", string), ("title", string), ("description", string),
      ("default", .anything), ("multipleOf", nonNegative), ("maximum", number), ("minimum", number),
      ("exclusiveMaximum", boolean), ("exclusiveMinimum", boolean), ("maxLength", natural),
      ("minLength", natural), ("pattern", string), ("maxItems", natural), ("minItems", natural),
      ("uniqueItems", boolean), ("maxProperties", natural), ("minProperties", natural),
      ("required", stringList), ("enum", array),
      ("type", oneOf ["object", "array", "string", "number", "integer", "boolean", "null"]),
      ("items", pickedBy schemaOrList), ("allOf", ref "SchemaList"),
      ("properties", ref "SchemaProperties"), ("additionalProperties", pickedBy schemaOrBoolean),
      ("discriminator", string), ("readOnly", boolean), ("xml", ref "Xml"),
      ("externalDocs", ref "ExternalDocs"), ("example", sample), ("x-tags", stringList),
      ("x-nullable", boolean), ("x-extendedDiscriminator", string),
      ("x-additionalPropertiesName", string), ("x-explicitMappingOnly", boolean)]
    extensions := some "x-"
    documentation := some "https://swagger.io/specification/v2/#schema-object" }

def xml : Descriptor :=
  { table := .growing [("name", string), ("namespace", string), ("prefix", string),
      ("attribute", boolean), ("wrapped", boolean)]
    extensions := some "x-" }

def schemaProperties : Descriptor :=
  { additional := some (ref "Schema") }

end ShapeLint.Shapes.OpenApi2
