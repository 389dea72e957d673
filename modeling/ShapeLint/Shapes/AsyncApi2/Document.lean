import ShapeLint.Shapes.AsyncApi2.Conditions

/-!
The root of an AsyncAPI 2 document and what describes the document as a whole.
-/
namespace ShapeLint.Shapes.AsyncApi2

def root : Descriptor :=
  { table := .growing [("asyncapi", .anything), ("info", ref "Info"), ("id", string),
      ("servers", ref "ServerMap"), ("channels", ref "ChannelMap"),
      ("components", ref "Components"), ("tags", ref "TagList"),
      ("externalDocs", ref "ExternalDocs"), ("defaultContentType", string)]
    required := .ofKeys ["asyncapi", "channels", "info"]
    documentation := some (docs ++ "#A2SObject") }

def tag : Descriptor :=
  { table := .growing [("name", string), ("description", string),
      ("externalDocs", ref "ExternalDocs")]
    required := .ofKeys ["name"] }

def externalDocs : Descriptor :=
  { table := .growing [("description", string), ("url", string)]
    required := .ofKeys ["url"]
    documentation := some (docs ++ "#externalDocumentationObject") }

def securityRequirement : Descriptor :=
  { additional := some stringList
    documentation := some (docs ++ "#securityRequirementObject") }

def server : Descriptor :=
  { table := .growing [("url", string), ("protocol", string), ("protocolVersion", string),
      ("description", string), ("variables", ref "ServerVariablesMap"),
      ("security", ref "SecurityRequirementList"), ("bindings", ref "ServerBindings"),
      ("tags", ref "TagList")]
    required := .ofKeys ["url", "protocol"]
    documentation := some (docs ++ "#serverObject") }

def serverMap : Descriptor :=
  { additional := some (pickedBy serverForName) }

def serverVariable : Descriptor :=
  { table := .growing [("enum", stringList), ("default", string), ("description", string),
      ("examples", stringList)]
    documentation := some (docs ++ "#serverVariableObject") }

def info : Descriptor :=
  { table := .growing [("title", string), ("version", string), ("description", string),
      ("termsOfService", string), ("contact", ref "Contact"), ("license", ref "License")]
    required := .ofKeys ["title", "version"]
    documentation := some (docs ++ "#infoObject") }

def contact : Descriptor :=
  { table := .growing [("name", string), ("url", string), ("email", string)] }

def license : Descriptor :=
  { table := .growing [("name", string), ("url", string)]
    required := .ofKeys ["name"] }

def components : Descriptor :=
  { table := .growing [("messages", ref "NamedMessages"), ("parameters", ref "NamedParameters"),
      ("schemas", ref "NamedSchemas"), ("correlationIds", ref "NamedCorrelationIds"),
      ("messageTraits", ref "NamedMessageTraits"), ("operationTraits", ref "NamedOperationTraits"),
      ("securitySchemes", ref "NamedSecuritySchemes"), ("servers", ref "ServerMap"),
      ("serverVariables", ref "ServerVariablesMap"), ("channels", ref "ChannelMap"),
      ("serverBindings", ref "ServerBindings"), ("channelBindings", ref "ChannelBindings"),
      ("operationBindings", ref "OperationBindings"), ("messageBindings", ref "MessageBindings")]
    documentation := some (docs ++ "#componentsObject") }

end ShapeLint.Shapes.AsyncApi2
