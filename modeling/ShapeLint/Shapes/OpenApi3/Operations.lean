import ShapeLint.Shapes.OpenApi3.Conditions

/-!
Paths, operations, parameters and responses of OpenAPI 3.
-/
namespace ShapeLint.Shapes.OpenApi3

def pathItem : Descriptor :=
  { table := .growing [("$ref", string), ("servers", ref "ServerList"),
      ("parameters", ref "ParameterList"), ("summary", string), ("description", string),
      ("get", ref "Operation"), ("put", ref "Operation"), ("post", ref "Operation"),
      ("delete", ref "Operation"), ("options", ref "Operation"), ("head", ref "Operation"),
      ("patch", ref "Operation"), ("trace", ref "Operation")]
    extensions := some "x-" }

def parameter : Descriptor :=
  { table := .growing [("name", string), ("in", oneOf ["query", "header", "path", "cookie"]),
      ("description", string), ("required", boolean), ("deprecated", boolean),
      ("allowEmptyValue", boolean), ("style", oneOf parameterStyles), ("explode", boolean),
      ("allowReserved", boolean), ("schema", ref "Schema"), ("example", sample),
      ("examples", ref "ExamplesMap"), ("content", ref "MediaTypesMap")]
    required := .ofKeys ["name", "in"]
    group := some (.growing ["schema", "content"])
    extensions := some "x-"
    documentation := some (docs ++ "/parameter") }

def operation : Descriptor :=
  { table := .growing [("tags", stringList), ("summary", string), ("description", string),
      ("externalDocs", ref "ExternalDocs"), ("operationId", string),
      ("parameters", ref "ParameterList"), ("security", ref "SecurityRequirementList"),
      ("servers", ref "ServerList"), ("requestBody", ref "RequestBody"),
      ("responses", ref "Responses"), ("deprecated", boolean), ("callbacks", ref "CallbacksMap"),
      ("x-codeSamples", ref "XCodeSampleList"), ("x-code-samples", ref "XCodeSampleList"),
      ("x-hideTryItPanel", boolean)]
    required := .ofKeys ["responses"]
    extensions := some "x-"
    documentation := some (docs ++ "/operation") }

def xCodeSample : Descriptor :=
  { table := .growing [("lang", string), ("label", string), ("source", string)] }

def requestBody : Descriptor :=
  { table := .growing [("description", string), ("required", boolean),
      ("content", ref "MediaTypesMap")]
    required := .ofKeys ["content"]
    extensions := some "x-" }

def mediaTypesMap : Descriptor :=
  { additional := some (ref "MediaType") }

def mediaType : Descriptor :=
  { table := .growing [("schema", ref "Schema"), ("example", sample),
      ("examples", ref "ExamplesMap"), ("encoding", ref "EncodingMap")]
    extensions := some "x-" }

def sampleValue : Descriptor :=
  { table := .growing [("value", verbatim), ("summary", string), ("description", string),
      ("externalValue", string)]
    extensions := some "x-" }

def encoding : Descriptor :=
  { table := .growing [("contentType", string), ("headers", ref "HeadersMap"),
      ("style", oneOf parameterStyles), ("explode", boolean), ("allowReserved", boolean)]
    extensions := some "x-" }

def header : Descriptor :=
  { table := .growing [("description", string), ("required", boolean), ("deprecated", boolean),
      ("allowEmptyValue", boolean), ("style", oneOf parameterStyles), ("explode", boolean),
      ("allowReserved", boolean), ("schema", ref "Schema"), ("example", sample),
      ("examples", ref "ExamplesMap"), ("content", ref "MediaTypesMap")]
    group := some (.growing ["schema", "content"])
    extensions := some "x-" }

def responses : Descriptor :=
  { table := .growing [("default", ref "Response")]
    additional := some (pickedBy responseForCode) }

def response : Descriptor :=
  { table := .growing [("description", string), ("headers", ref "HeadersMap"),
      ("content", ref "MediaTypesMap"), ("links", ref "LinksMap"), ("x-summary", string)]
    required := .ofKeys ["description"]
    extensions := some "x-" }

def link : Descriptor :=
  { table := .growing [("operationRef", string), ("operationId", string), ("parameters", .anything),
      ("requestBody", .anything), ("description", string), ("server", ref "Server")]
    extensions := some "x-" }

end ShapeLint.Shapes.OpenApi3
