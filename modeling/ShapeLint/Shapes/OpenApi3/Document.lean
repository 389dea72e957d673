import ShapeLint.Shapes.OpenApi3.Conditions

/-!
The root of an OpenAPI 3 document and what describes the document as a whole.
-/
namespace ShapeLint.Shapes.OpenApi3

def root : Descriptor :=
  { table := .growing [("openapi", .anything), ("info", ref "Info"), ("servers", ref "ServerList"),
      ("security", ref "SecurityRequirementList"), ("tags", ref "TagList"),
      ("externalDocs", ref "ExternalDocs"), ("paths", ref "Paths"),
      ("components", ref "Components"), ("x-webhooks", ref "WebhooksMap"),
      ("x-tagGroups", ref "TagGroups"), ("x-ignoredHeaderParameters", stringList)]
    required := .ofKeys ["openapi", "paths", "info"]
    extensions := some "x-"
    description := "The root object of an OpenAPI 3.0 document."
    documentation := some (docs ++ "/openapi#openapi") }

def tag : Descriptor :=
  { table := .growing [("name", described "REQUIRED. The name of the tag."),
      ("description", described "A description for the tag."), ("externalDocs", ref "ExternalDocs"),
      ("x-traitTag", boolean), ("x-displayName", string)]
    required := .ofKeys ["name"]
    extensions := some "x-"
    documentation := some "https://spec.openapis.org/oas/v3.1.0#tag-object" }

def tagGroup : Descriptor :=
  { table := .growing [("name", string), ("tags", stringList)]
    extensions := some "x-" }

def externalDocs : Descriptor :=
  { table := .growing [("description", string),
      ("url", described "REQUIRED. The URL for the target documentation.")]
    required := .ofKeys ["url"]
    extensions := some "x-"
    documentation := some (docs ++ "/external-docs") }

def server : Descriptor :=
  { table := .growing [("url", described "REQUIRED. A URL to the target host."),
      ("description", string), ("variables", ref "ServerVariablesMap")]
    required := .ofKeys ["url"]
    extensions := some "x-" }

def serverVariable : Descriptor :=
  { table := .growing [("enum", stringList),
      ("default", described "REQUIRED. The default value to use for substitution."),
      ("description", string)]
    required := .ofKeys ["default"]
    extensions := some "x-"
    documentation := some (docs ++ "/server-variables#server-variables") }

def securityRequirement : Descriptor :=
  { additional := some stringList
    documentation := some (docs ++ "/security") }

def info : Descriptor :=
  { table := .growing [("title", described "REQUIRED. The title of the API."),
      ("version", described "REQUIRED. The version of the OpenAPI document."),
      ("description", string), ("termsOfService", string), ("contact", ref "Contact"),
      ("license", ref "License"), ("x-logo", ref "Logo")]
    required := .ofKeys ["title", "version"]
    extensions := some "x-"
    documentation := some (docs ++ "/info#info") }

def logo : Descriptor :=
  { table := .growing [("url", string), ("altText", string), ("backgroundColor", string),
      ("href", string)] }

def contact : Descriptor :=
  { table := .growing [("name", string), ("url", string), ("email", string)]
    extensions := some "x-" }

def license : Descriptor :=
  { table := .growing [("name", string), ("url", string)]
    required := .ofKeys ["name"]
    extensions := some "x-" }

def paths : Descriptor :=
  { additional := some (pickedBy pathItemForPath)
    description :=
      "The Paths Object is a map of a paths to the path item object. A path starts with a /." }

def webhooksMap : Descriptor :=
  { additional := some (ref "PathItem") }

def components : Descriptor :=
  { table := .growing [("parameters", ref "NamedParameters"), ("schemas", ref "NamedSchemas"),
      ("responses", ref "NamedResponses"), ("examples", ref "NamedExamples"),
      ("requestBodies", ref "NamedRequestBodies"), ("headers", ref "NamedHeaders"),
      ("securitySchemes", ref "NamedSecuritySchemes"), ("links", ref "NamedLinks"),
      ("callbacks", ref "NamedCallbacks")]
    extensions := some "x-" }

end ShapeLint.Shapes.OpenApi3
