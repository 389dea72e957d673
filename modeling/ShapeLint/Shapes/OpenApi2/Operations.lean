import ShapeLint.Shapes.OpenApi2.Conditions

/-!
Paths, operations, parameters and responses of OpenAPI 2.
-/
namespace ShapeLint.Shapes.OpenApi2

def pathItem : Descriptor :=
  { table := .growing [("$ref", string), ("get", ref "Operation"), ("put", ref "Operation"),
      ("post", ref "Operation"), ("delete", ref "Operation"), ("options", ref "Operation"),
      ("head", ref "Operation"), ("patch", ref "Operation"), ("parameters", ref "ParameterList")]
    extensions := some "x-" }

def operation : Descriptor :=
  { table := .growing [("tags", stringList), ("summary", string), ("description", string),
      ("externalDocs", ref "ExternalDocs"), ("operationId", string), ("consumes", stringList),
      ("produces", stringList), ("parameters", ref "ParameterList"), ("responses", ref "Responses"),
      ("schemes", listOfOne ["http", "https", "ws", "wss"]), ("deprecated", boolean),
      ("security", ref "SecurityRequirementList"), ("x-codeSamples", ref "XCodeSampleList"),
      ("x-code-samples", ref "XCodeSampleList"), ("x-hideTryItPanel", boolean)]
    required := .ofKeys ["responses"]
    extensions := some "x-" }

def xCodeSample : Descriptor :=
  { table := .growing [("lang", string), ("label", string), ("source", string)] }

def parameter : Descriptor :=
  { table := .growing [("name", string),
      ("in", oneOf ["query", "header", "path", "formData", "body"]), ("description", string),
      ("required", boolean), ("schema", ref "Schema"),
      ("type", oneOf ["string", "number", "integer", "boolean", "array", "file"]),
      ("format", string), ("allowEmptyValue", boolean), ("items", ref "ParameterItems"),
      ("collectionFormat", oneOf collectionFormats), ("default", .anything), ("maximum", integer),
      ("exclusiveMaximum", boolean), ("minimum", integer), ("exclusiveMinimum", boolean),
      ("maxLength", natural), ("minLength", natural), ("pattern", string), ("maxItems", natural),
      ("minItems", natural), ("uniqueItems", boolean), ("enum", array), ("multipleOf", number),
      ("x-example", sample), ("x-examples", ref "Examples")]
    required := .computed parameterRequired
    extensions := some "x-"
    documentation := some "https://swagger.io/specification/v2/#parameter-object" }

def parameterItems : Descriptor :=
  { table := .growing [("type", oneOf itemTypes), ("format", string),
      ("items", ref "ParameterItems"),
      ("collectionFormat", oneOf collectionFormats), ("default", .anything), ("maximum", integer),
      ("exclusiveMaximum", boolean), ("minimum", integer), ("exclusiveMinimum", boolean),
      ("maxLength", natural), ("minLength", natural), ("pattern", string), ("maxItems", natural),
      ("minItems", natural), ("uniqueItems", boolean), ("enum", array), ("multipleOf", number)]
    required := .computed (itemsRequired "ParameterItems")
    extensions := some "x-" }

def responses : Descriptor :=
  { table := .growing [("default", ref "Response")]
    additional := some (pickedBy responseForCode) }

def response : Descriptor :=
  { table := .growing [("description", string), ("schema", ref "Schema"),
      ("headers", ref "ResponseHeaders"), ("examples", ref "Examples"), ("x-summary", string)]
    required := .ofKeys ["description"]
    extensions := some "x-" }

def examples : Descriptor :=
  { additional := some sample }

def responseHeaders : Descriptor :=
  { additional := some (ref "Header") }

def header : Descriptor :=
  { table := .growing [("description", string), ("type", oneOf itemTypes), ("format", string),
      ("items", ref "ParameterItems"), ("collectionFormat", oneOf collectionFormats),
      ("default", .anything), ("maximum", integer), ("exclusiveMaximum", boolean),
      ("minimum", integer), ("exclusiveMinimum", boolean), ("maxLength", natural),
      ("minLength", natural), ("pattern", string), ("maxItems", natural), ("minItems", natural),
      ("uniqueItems", boolean), ("enum", array), ("multipleOf", number)]
    required := .computed (itemsRequired "Header")
    extensions := some "x-" }

end ShapeLint.Shapes.OpenApi2
