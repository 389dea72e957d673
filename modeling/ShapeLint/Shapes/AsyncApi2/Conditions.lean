import ShapeLint.Shapes.Resolvers

/-!
Functions and constants of the AsyncAPI 2 shapes.
-/
namespace ShapeLint.Shapes.AsyncApi2

/-- Where the specification is. -/
def docs : String := "https://v2.asyncapi.com/docs/reference/specification/v2.6.0"

/-- The protocols that bindings may name, with or without a shape of their own. -/
def protocols : List String :=
  ["http", "ws", "kafka", "anypointmq", "amqp", "amqp1", "mqtt", "mqtt5", "nats", "jms", "sns",
   "solace", "sqs", "stomp", "redis", "mercure", "ibmmq", "googlepubsub", "pulsar"]

def bindingProtocols : Conditional :=
  conditional "asyncapi2" "binding_protocols" fun _ => protocols

def serverForName : Resolver :=
  resolverByKey "asyncapi2" "server_for_name" pickServer

/-- The keys that a security scheme must have, by its declared type. -/
def securitySchemeRequired : Conditional :=
  conditional "asyncapi2" "security_scheme_required" fun scheme =>
    keysByKind
      [("apiKey", ["type", "in"]),
       ("httpApiKey", ["type", "name", "in"]),
       ("http", ["type", "scheme"]),
       ("oauth2", ["type", "flows"]),
       ("openIdConnect", ["type", "openIdConnectUrl"])]
      ["type"] (discriminant scheme "type")

/-- The keys that a security scheme may have, by its declared type. -/
def securitySchemeAllowed : Conditional :=
  conditional "asyncapi2" "security_scheme_allowed" fun scheme =>
    keysByKind
      [("apiKey", ["type", "in", "description"]),
       ("httpApiKey", ["type", "name", "in", "description"]),
       ("http", ["type", "scheme", "bearerFormat", "description"]),
       ("oauth2", ["type", "flows", "description"]),
       ("openIdConnect", ["type", "openIdConnectUrl", "description"])]
      ["type", "description"] (discriminant scheme "type")

/-- Bindings by protocol. The shapes of single protocols are added later; those without one are
plain objects. -/
def bindings (documentation : String) : Descriptor :=
  { allowed := some bindingProtocols
    additional := some object
    documentation := some documentation }

end ShapeLint.Shapes.AsyncApi2
