import ShapeLint.Shapes.OpenApi3.Document
import ShapeLint.Shapes.OpenApi3.Operations
import ShapeLint.Shapes.OpenApi3.Schemas
import ShapeLint.Shapes.OpenApi3.Security

/-!
The types of OpenAPI 3.
-/
namespace ShapeLint.Shapes.OpenApi3

open Descriptor

/-- The types in order of definition. -/
def types : List (String × Descriptor) :=
  [("Root", root),
   ("Tag", tag),
   ("TagList", { listOf "Tag" with documentation := some (docs ++ "/tags") }),
   ("TagGroups", listOf "TagGroup"),
   ("TagGroup", tagGroup),
   ("ExternalDocs", externalDocs),
   ("Server", server),
   ("ServerList", { listOf "Server" with documentation := some (docs ++ "/servers#servers") }),
   ("ServerVariable", serverVariable),
   ("ServerVariablesMap", mapOf "ServerVariable"),
   ("SecurityRequirement", securityRequirement),
   ("SecurityRequirementList", listOf "SecurityRequirement"),
   ("Info", info),
   ("Contact", contact),
   ("License", license),
   ("Paths", paths),
   ("PathItem", pathItem),
   ("Parameter", parameter),
   ("ParameterList", { listOf "Parameter" with
      description := "A list of parameters that are applicable for this operation." }),
   ("Operation", operation),
   ("Callback", mapOf "PathItem"),
   ("CallbacksMap", mapOf "Callback"),
   ("RequestBody", requestBody),
   ("MediaTypesMap", mediaTypesMap),
   ("MediaType", mediaType),
   ("Example", sampleValue),
   ("ExamplesMap", mapOf "Example"),
   ("Encoding", encoding),
   ("EncodingMap", mapOf "Encoding"),
   ("EnumDescriptions", enumDescriptions),
   ("Header", header),
   ("HeadersMap", mapOf "Header"),
   ("Responses", responses),
   ("Response", response),
   ("Link", link),
   ("Logo", logo),
   ("Schema", schema),
   ("SchemaList", listOf "Schema"),
   ("Xml", xml),
   ("SchemaProperties", schemaProperties),
   ("DiscriminatorMapping", discriminatorMapping),
   ("Discriminator", discriminator),
   ("Components", components),
   ("LinksMap", mapOf "Link"),
   ("NamedSchemas", mapOf "Schema"),
   ("NamedResponses", mapOf "Response"),
   ("NamedParameters", mapOf "Parameter"),
   ("NamedExamples", mapOf "Example"),
   ("NamedRequestBodies", mapOf "RequestBody"),
   ("NamedHeaders", mapOf "Header"),
   ("NamedSecuritySchemes", mapOf "SecurityScheme"),
   ("NamedLinks", mapOf "Link"),
   ("NamedCallbacks", mapOf "Callback"),
   ("ImplicitFlow", implicitFlow),
   ("PasswordFlow", passwordFlow),
   ("ClientCredentials", clientCredentials),
   ("AuthorizationCode", authorizationCode),
   ("OAuth2Flows", oAuth2Flows),
   ("SecurityScheme", securityScheme),
   ("XCodeSample", xCodeSample),
   ("XCodeSampleList", listOf "XCodeSample"),
   ("XUsePkce", xUsePkce),
   ("WebhooksMap", webhooksMap)]

end ShapeLint.Shapes.OpenApi3
