import ShapeLint.Shapes.AsyncApi2.Document
import ShapeLint.Shapes.AsyncApi2.Messages
import ShapeLint.Shapes.AsyncApi2.Security

/-!
The types of AsyncAPI 2, without its schemas and the bindings of single protocols.
-/
namespace ShapeLint.Shapes.AsyncApi2

open Descriptor

/-- The types in order of definition. -/
def types : List (String × Descriptor) :=
  [("Root", root),
   ("Tag", tag),
   ("TagList", listOf "Tag"),
   ("ServerMap", serverMap),
   ("ExternalDocs", externalDocs),
   ("Server", server),
   ("ServerVariable", serverVariable),
   ("ServerVariablesMap", mapOf "ServerVariable"),
   ("SecurityRequirement", securityRequirement),
   ("SecurityRequirementList", listOf "SecurityRequirement"),
   ("Info", info),
   ("Contact", contact),
   ("License", license),
   ("ChannelMap", channelMap),
   ("Channel", channel),
   ("Parameter", parameter),
   ("ParametersMap", mapOf "Parameter"),
   ("Operation", operation),
   ("MessageExample", messageExample),
   ("Components", components),
   ("NamedSchemas", mapOf "Schema"),
   ("NamedMessages", mapOf "Message"),
   ("NamedMessageTraits", mapOf "MessageTrait"),
   ("NamedOperationTraits", mapOf "OperationTrait"),
   ("NamedParameters", mapOf "Parameter"),
   ("NamedSecuritySchemes", mapOf "SecurityScheme"),
   ("NamedCorrelationIds", mapOf "CorrelationId"),
   ("ImplicitFlow", implicitFlow),
   ("PasswordFlow", passwordFlow),
   ("ClientCredentials", clientCredentials),
   ("AuthorizationCode", authorizationCode),
   ("SecuritySchemeFlows", securitySchemeFlows),
   ("SecurityScheme", securityScheme),
   ("Message", message),
   ("ServerBindings", serverBindings),
   ("ChannelBindings", channelBindings),
   ("MessageBindings", messageBindings),
   ("OperationBindings", operationBindings),
   ("OperationTrait", operationTrait),
   ("OperationTraitList", listOf "OperationTrait"),
   ("MessageTrait", messageTrait),
   ("MessageTraitList", listOf "MessageTrait"),
   ("MessageExampleList", listOf "MessageExample"),
   ("CorrelationId", correlationId)]

end ShapeLint.Shapes.AsyncApi2
