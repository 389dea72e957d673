import ShapeLint.Shapes.OpenApi2.Conditions

/-!
The root of an OpenAPI 2 document and what describes the document as a whole.
-/
namespace ShapeLint.Shapes.OpenApi2

def root : Descriptor :=
  { table := .growing [("swagger", .anything), ("info", ref "Info"), ("host", string),
      ("basePath", string), ("schemes", listOfOne ["http", "https", "ws", "wss"]),
      ("consumes", stringList), ("produces", stringList), ("paths", ref "Paths"),
      ("definitions", ref "NamedSchemas"), ("parameters", ref "NamedParameters"),
      ("responses", ref "NamedResponses"), ("securityDefinitions", ref "NamedSecuritySchemes"),
      ("security", ref "SecurityRequirementList"), ("tags", ref "TagList"),
      ("externalDocs", ref "ExternalDocs"), ("x-servers", ref "XServerList"),
      ("x-tagGroups", ref "TagGroups")]
    required := .ofKeys ["swagger", "paths", "info"]
    extensions := some "x-"
    documentation := some "https://swagger.io/specification/v2/#swagger-object" }

def info : Descriptor :=
  { table := .growing [("title", described "REQUIRED. The title of the application."),
      ("description", string), ("termsOfService", string), ("contact", ref "Contact"),
      ("license", ref "License"),
      ("version", described "REQUIRED. Provides the version of the application API."),
      ("x-logo", ref "Logo")]
    required := .ofKeys ["title", "version"]
    extensions := some "x-" }

def logo : Descriptor :=
  { table := .growing [("url", string), ("altText", string), ("backgroundColor", string),
      ("href", string)] }

def contact : Descriptor :=
  { table := .growing [("name", string), ("url", string), ("email", string)]
    extensions := some "x-" }

def license : Descriptor :=
  { table := .growing [("name", string), ("url", string)]
    required := .ofKeys ["name"]
    extensions := some "x-" }

def paths : Descriptor :=
  { additional := some (pickedBy pathItemForPath) }

def tag : Descriptor :=
  { table := .growing [("name", string), ("description", string),
      ("externalDocs", ref "ExternalDocs"), ("x-traitTag", boolean), ("x-displayName", string)]
    required := .ofKeys ["name"]
    extensions := some "x-" }

def tagGroup : Descriptor :=
  { table := .growing [("name", string), ("tags", stringList)]
    extensions := some "x-" }

def externalDocs : Descriptor :=
  { table := .growing [("description", string), ("url", string)]
    required := .ofKeys ["url"]
    extensions := some "x-" }

def xServer : Descriptor :=
  { table := .growing [("url", string), ("description", string)]
    required := .ofKeys ["url"] }

def securityRequirement : Descriptor :=
  { additional := some stringList }

end ShapeLint.Shapes.OpenApi2
