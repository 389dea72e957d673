import ShapeLint.Shapes.OpenApi2.Document
import ShapeLint.Shapes.OpenApi2.Operations
import ShapeLint.Shapes.OpenApi2.Schemas
import ShapeLint.Shapes.OpenApi2.Security

/-!
The types of OpenAPI 2.
-/
namespace ShapeLint.Shapes.OpenApi2

open Descriptor

/-- The types in order of definition. -/
def types : List (String × Descriptor) :=
  [("Root", root),
   ("Tag", tag),
   ("TagList", listOf "Tag"),
   ("TagGroups", listOf "TagGroup"),
   ("TagGroup", tagGroup),
   ("ExternalDocs", externalDocs),
   ("Info", info),
   ("Logo", logo),
   ("Contact", contact),
   ("License", license),
   ("Paths", paths),
   ("PathItem", pathItem),
   ("Parameter", parameter),
   ("ParameterItems", parameterItems),
   ("ParameterList", listOf "Parameter"),
   ("Operation", operation),
   ("XCodeSample", xCodeSample),
   ("XCodeSampleList", listOf "XCodeSample"),
   ("XServer", xServer),
   ("XServerList", listOf "XServer"),
   ("Responses", responses),
   ("Response", response),
   ("ResponseHeaders", responseHeaders),
   ("Header", header),
   ("Examples", examples),
   ("Schema", schema),
   ("SchemaList", listOf "Schema"),
   ("Xml", xml),
   ("SchemaProperties", schemaProperties),
   ("NamedSchemas", mapOf "Schema"),
   ("NamedResponses", mapOf "Response"),
   ("NamedParameters", mapOf "Parameter"),
   ("NamedSecuritySchemes", mapOf "SecurityScheme"),
   ("SecurityScheme", securityScheme),
   ("SecurityRequirement", securityRequirement),
   ("SecurityRequirementList", listOf "SecurityRequirement")]

end ShapeLint.Shapes.OpenApi2
