import ShapeLint.Shapes.Resolvers

/-!
Functions and constants of the OpenAPI 2 shapes.
-/
namespace ShapeLint.Shapes.OpenApi2

def collectionFormats : List String := ["csv", "ssv", "tsv", "pipes", "multi"]

def itemTypes : List String := ["string", "number", "integer", "boolean", "array"]

def pathItemForPath : Resolver :=
  resolverByKey "oas2" "path_item_for_path" pickPathItem

def responseForCode : Resolver :=
  resolverByKey "oas2" "response_for_code" pickResponse

/-- The keys that a parameter must have, by its location and then by its type. -/
def parameterKeys (parameter : Value) : List String :=
  match discriminant parameter "in" with
  | some "body" => ["name", "in", "schema"]
  | some "path" => ["name", "in", "type", "required"]
  | some location =>
    if ["query", "header", "formData"].contains location then
      if discriminant parameter "type" = some "array" then ["name", "in", "type", "items"]
      else ["name", "in", "type"]
    else ["name", "in"]
  | none => ["name", "in"]

def parameterRequired : Conditional := conditional "oas2" "parameter_required" parameterKeys

/-- Arrays must say what their items are. Each type that this holds for has a function of its
own. -/
def itemsRequired (type : String) : Conditional :=
  { name := "<lambda>"
    id := .table "oas2" type
    keys := fun node => .ok (Value.texts
      (if discriminant node "type" = some "array" then ["type", "items"] else ["type"])) }

/-- The addresses that each flow of OAuth 2 needs. -/
def flowFields : List (String × List String) :=
  [("implicit", ["authorizationUrl"]),
   ("password", ["tokenUrl"]),
   ("application", ["tokenUrl"]),
   ("accessCode", ["authorizationUrl", "tokenUrl"])]

/-- The keys that a security scheme must have, by its type and, for OAuth 2, by its flow. -/
def securitySchemeRequired : Conditional :=
  conditional "oas2" "security_scheme_required" fun scheme =>
    let type := discriminant scheme "type"
    if type = some "oauth2" then
      ["type", "flow", "scopes"] ++ keysByKind flowFields [] (discriminant scheme "flow")
    else
      keysByKind [("basic", ["type"]), ("apiKey", ["type", "name", "in"])] ["type"] type

/-- The keys that a security scheme may have, by its type and, for OAuth 2, by its flow. -/
def securitySchemeAllowed : Conditional :=
  conditional "oas2" "security_scheme_allowed" fun scheme =>
    let type := discriminant scheme "type"
    if type = some "oauth2" then
      ["type", "flow", "scopes", "description"]
        ++ keysByKind flowFields ["authorizationUrl", "tokenUrl"] (discriminant scheme "flow")
    else
      keysByKind
        [("basic", ["type", "description"]), ("apiKey", ["type", "name", "in", "description"])]
        ["type", "description"] type

end ShapeLint.Shapes.OpenApi2
