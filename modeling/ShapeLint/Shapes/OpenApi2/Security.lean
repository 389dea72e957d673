import ShapeLint.Shapes.OpenApi2.Conditions

/-!
Security schemes of OpenAPI 2.
-/
namespace ShapeLint.Shapes.OpenApi2

def securityScheme : Descriptor :=
  { table := .growing [("type", oneOf ["basic", "apiKey", "oauth2"]), ("description", string),
      ("name", string), ("in", oneString ["query", "header"]),
      ("flow", oneOf ["implicit", "password", "application", "accessCode"]),
      ("authorizationUrl", string), ("tokenUrl", string), ("scopes", scopes),
      ("x-defaultClientId", string)]
    required := .computed securitySchemeRequired
    allowed := some securitySchemeAllowed
    extensions := some "x-" }

end ShapeLint.Shapes.OpenApi2
