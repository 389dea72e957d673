import ShapeLint.Registry.Assembly
import ShapeLint.Shapes.AsyncApi2.Conditions
import ShapeLint.Text.Casing

/-!
Shapes of the bindings of single protocols. Each protocol has a type for each kind of binding,
which becomes a property of the bindings of that kind.
-/
namespace ShapeLint.Shapes.AsyncApi2

/-- What bindings are attached to. -/
inductive BindingKind where
  | server
  | channel
  | operation
  | message
  deriving DecidableEq, Repr

namespace BindingKind

def all : List BindingKind := [server, channel, operation, message]

def name : BindingKind → String
  | server => "Server"
  | channel => "Channel"
  | operation => "Operation"
  | message => "Message"

/-- The type that holds the bindings of all protocols. -/
def bindingsType (kind : BindingKind) : String := kind.name ++ "Bindings"

end BindingKind

/-- The name of a protocol's binding type, such as `KafkaChannelBinding`. -/
def bindingTypeName (protocol kind : String) : String :=
  Text.capitalize protocol ++ kind ++ "Binding"

/-- A binding shape, which may also tell its version. -/
def versioned (properties : List (String × Rule)) : Descriptor :=
  { table := .growing <| properties ++ [("bindingVersion", string)] }

/-- Protocols in order, with the shapes of their bindings. A kind that is left out is an object
without properties. -/
def protocolBindings : List (String × List (BindingKind × Descriptor)) :=
  [("http",
    [(.message, versioned [("headers", ref "Schema")]),
     (.operation, versioned [("type", string),
        ("method", oneString ["GET", "POST", "PUT", "PATCH", "DELETE", "HEAD", "OPTIONS", "CONNECT",
          "TRACE"]),
        ("headers", ref "Schema")])]),
   ("ws",
    [(.channel, versioned [("method", string), ("query", ref "Schema"),
        ("headers", ref "Schema")])]),
   ("kafka",
    [(.channel, versioned [("topic", string), ("partitions", integer), ("replicas", integer),
        ("topicConfiguration", ref "KafkaTopicConfiguration")]),
     (.message, versioned [("key", ref "Schema"), ("schemaIdLocation", string),
        ("schemaIdPayloadEncoding", string), ("schemaLookupStrategy", string)]),
     (.operation, versioned [("groupId", ref "Schema"), ("clientId", ref "Schema")])]),
   ("anypointmq",
    [(.channel, versioned [("destination", string), ("destinationType", string)]),
     (.message, versioned [("headers", ref "Schema")])]),
   ("amqp",
    [(.message, versioned [("contentEncoding", string), ("messageType", string)]),
     (.operation, versioned [("expiration", integer), ("userId", string), ("cc", stringList),
        ("priority", integer), ("deliveryMode", oneInteger [1, 2]), ("mandatory", boolean),
        ("bcc", stringList), ("replyTo", string), ("timestamp", boolean), ("ack", boolean)])]),
   ("amqp1", []),
   ("mqtt",
    [(.server, versioned [("clientId", string), ("cleanSession", boolean),
        ("lastWill", ref "MqttServerBindingLastWill"), ("keepAlive", integer)]),
     (.channel, versioned [("qos", integer), ("retain", boolean)]),
     (.message, versioned []),
     (.operation, versioned [("qos", integer), ("retain", boolean)])]),
   ("mqtt5", []),
   ("nats", [(.operation, versioned [("queue", string)])]),
   ("jms",
    [(.channel, versioned [("destination", string), ("destinationType", string)]),
     (.message, versioned [("headers", ref "Schema")]),
     (.operation, versioned [("headers", ref "Schema")])]),
   ("solace",
    [(.server, versioned [("msgVpn", string)]),
     (.operation, versioned [("destinations", ref "SolaceDestinationList")])]),
   ("stomp", []),
   ("redis", []),
   ("mercure", [])]

/-- Shapes that binding shapes refer to. -/
def supportTypes : List (String × Descriptor) :=
  [("KafkaTopicConfiguration", {
      table := .growing [("cleanup.policy", listOfOne ["delete", "compact"]),
        ("retention.ms", integer), ("retention.bytes", integer), ("delete.retention.ms", integer),
        ("max.message.bytes", integer)] }),
   ("MqttServerBindingLastWill", {
      table := .growing [("topic", string), ("qos", integer), ("message", string),
        ("retain", boolean)] }),
   ("SolaceDestination", {
      table := .growing [("destinationType", oneString ["queue", "topic"]),
        ("deliveryMode", oneString ["direct", "persistent"]), ("queue.name", string),
        ("queue.topicSubscriptions", stringList),
        ("queue.accessType", oneString ["exclusive", "nonexclusive"]),
        ("queue.maxMsgSpoolSize", string), ("queue.maxTtl", string),
        ("topic.topicSubscriptions", stringList)] }),
   ("SolaceDestinationList", .listOf "SolaceDestination")]

/-- Defines a binding type and makes it a property of the bindings of its kind. -/
def installBinding (protocol : String) (shapes : List (BindingKind × Descriptor))
    (kind : BindingKind) : Assembly Unit := do
  let name := bindingTypeName protocol kind.name
  discard (Assembly.define name ((shapes.lookup kind).getD {}))
  discard (Assembly.extend kind.bindingsType [(protocol, ref name)])

/-- Defines every binding type and attaches it to the bindings of its kind. -/
def installBindings : Assembly Unit := do
  Assembly.defineAll supportTypes
  protocolBindings.forM fun (protocol, shapes) =>
    BindingKind.all.forM (installBinding protocol shapes)
  Assembly.log .debug .protocolBindings
    ("Installed " ++ toString protocolBindings.length ++ " protocol bindings into "
      ++ (← Assembly.registry).dialect)

end ShapeLint.Shapes.AsyncApi2
