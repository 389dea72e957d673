import ShapeLint.Shapes.AsyncApi2.Conditions

/-!
Channels, operations and messages of AsyncAPI 2.
-/
namespace ShapeLint.Shapes.AsyncApi2

def channel : Descriptor :=
  { table := .growing [("description", string), ("subscribe", ref "Operation"),
      ("publish", ref "Operation"), ("parameters", ref "ParametersMap"),
      ("bindings", ref "ChannelBindings"), ("servers", stringList)]
    documentation := some (docs ++ "#channelItemObject") }

def channelMap : Descriptor :=
  { additional := some (ref "Channel") }

def channelBindings : Descriptor :=
  bindings (docs ++ "#channelBindingsObject")

def serverBindings : Descriptor :=
  bindings (docs ++ "#serverBindingsObject")

def messageBindings : Descriptor :=
  bindings (docs ++ "#messageBindingsObject")

def operationBindings : Descriptor :=
  bindings (docs ++ "#operationBindingsObject")

def parameter : Descriptor :=
  { table := .growing [("description", string), ("schema", ref "Schema"), ("location", string)]
    documentation := some (docs ++ "#parameterObject") }

def correlationId : Descriptor :=
  { table := .growing [("description", string), ("location", string)]
    required := .ofKeys ["location"] }

def message : Descriptor :=
  { table := .growing [("messageId", string), ("headers", ref "Schema"), ("payload", ref "Schema"),
      ("correlationId", ref "CorrelationId"), ("schemaFormat", string), ("contentType", string),
      ("name", string), ("title", string), ("summary", string), ("description", string),
      ("tags", ref "TagList"), ("externalDocs", ref "ExternalDocs"),
      ("bindings", ref "MessageBindings"), ("examples", ref "MessageExampleList"),
      ("traits", ref "MessageTraitList")]
    additional := some anyValue
    documentation := some (docs ++ "#messageObject") }

def operationTrait : Descriptor :=
  { table := .growing [("tags", ref "TagList"), ("summary", string), ("description", string),
      ("externalDocs", ref "ExternalDocs"), ("operationId", string),
      ("security", ref "SecurityRequirementList"), ("bindings", ref "OperationBindings")]
    documentation := some (docs ++ "#operationTraitObject") }

def messageTrait : Descriptor :=
  { table := .growing [("messageId", string), ("headers", ref "Schema"),
      ("correlationId", ref "CorrelationId"), ("schemaFormat", string), ("contentType", string),
      ("name", string), ("title", string), ("summary", string), ("description", string),
      ("tags", ref "TagList"), ("externalDocs", ref "ExternalDocs"),
      ("bindings", ref "MessageBindings"), ("examples", ref "MessageExampleList")]
    additional := some anyValue
    documentation := some (docs ++ "#messageTraitObject") }

def operation : Descriptor :=
  { table := .growing [("tags", ref "TagList"), ("summary", string), ("description", string),
      ("externalDocs", ref "ExternalDocs"), ("operationId", string),
      ("security", ref "SecurityRequirementList"), ("bindings", ref "OperationBindings"),
      ("traits", ref "OperationTraitList"), ("message", ref "Message")]
    documentation := some (docs ++ "#operationObject") }

def messageExample : Descriptor :=
  { table := .growing [("payload", sample), ("summary", string), ("name", string),
      ("headers", object)]
    documentation := some (docs ++ "#messageExampleObject") }

end ShapeLint.Shapes.AsyncApi2
