import ShapeLint.Shapes.Resolvers

/-!
Functions and constants of the OpenAPI 3 shapes.
-/
namespace ShapeLint.Shapes.OpenApi3

/-- Where the reference documentation is. -/
def docs : String := "https://redocly.com/learn/openapi/openapi-visual-reference"

def pathItemForPath : Resolver :=
  resolverByKey "oas3" "path_item_for_path" pickPathItem

def responseForCode : Resolver :=
  resolverByKey "oas3" "response_for_code" pickResponse

def pkceFlagOrOptions : Resolver :=
  resolver "oas3" "pkce_flag_or_options" fun v _ =>
    some (if isBool v then .leaf .boolean else .reference "XUsePkce")

def parameterStyles : List String :=
  ["form", "simple", "label", "matrix", "spaceDelimited", "pipeDelimited", "deepObject"]

/-- The keys that a security scheme must have, by its declared type. -/
def securitySchemeRequired : Conditional :=
  conditional "oas3" "security_scheme_required" fun scheme =>
    keysByKind
      [("apiKey", ["type", "name", "in"]),
       ("http", ["type", "scheme"]),
       ("oauth2", ["type", "flows"]),
       ("openIdConnect", ["type", "openIdConnectUrl"])]
      ["type"] (discriminant scheme "type")

/-- The keys that a security scheme may have, by its declared type. -/
def securitySchemeAllowed : Conditional :=
  conditional "oas3" "security_scheme_allowed" fun scheme =>
    keysByKind
      [("apiKey", ["type", "name", "in", "description"]),
       ("http", ["type", "scheme", "bearerFormat", "description"]),
       ("oauth2", ["type", "flows", "description"]),
       ("openIdConnect", ["type", "openIdConnectUrl", "description"])]
      ["type", "description"] (discriminant scheme "type")

end ShapeLint.Shapes.OpenApi3
