import ShapeLint.Shapes.OpenApi3.Conditions

/-!
Security schemes of OpenAPI 3.
-/
namespace ShapeLint.Shapes.OpenApi3

def implicitFlow : Descriptor :=
  { table := .growing [("refreshUrl", string), ("scopes", scopes), ("authorizationUrl", string)]
    required := .ofKeys ["authorizationUrl", "scopes"]
    extensions := some "x-" }

def passwordFlow : Descriptor :=
  { table := .growing [("refreshUrl", string), ("scopes", scopes), ("tokenUrl", string)]
    required := .ofKeys ["tokenUrl", "scopes"]
    extensions := some "x-" }

def clientCredentials : Descriptor :=
  { table := .growing [("refreshUrl", string), ("scopes", scopes), ("tokenUrl", string)]
    required := .ofKeys ["tokenUrl", "scopes"]
    extensions := some "x-" }

def authorizationCode : Descriptor :=
  { table := .growing [("refreshUrl", string), ("authorizationUrl", string), ("scopes", scopes),
      ("tokenUrl", string), ("x-usePkce", pickedBy pkceFlagOrOptions)]
    required := .ofKeys ["authorizationUrl", "tokenUrl", "scopes"]
    extensions := some "x-" }

def oAuth2Flows : Descriptor :=
  { table := .growing [("implicit", ref "ImplicitFlow"), ("password", ref "PasswordFlow"),
      ("clientCredentials", ref "ClientCredentials"),
      ("authorizationCode", ref "AuthorizationCode")]
    extensions := some "x-" }

def securityScheme : Descriptor :=
  { table := .growing [("type", oneOf ["apiKey", "http", "oauth2", "openIdConnect"]),
      ("description", string), ("name", string), ("in", oneString ["query", "header", "cookie"]),
      ("scheme", string), ("bearerFormat", string), ("flows", ref "OAuth2Flows"),
      ("openIdConnectUrl", string), ("x-defaultClientId", string)]
    required := .computed securitySchemeRequired
    allowed := some securitySchemeAllowed
    extensions := some "x-"
    documentation := some (docs ++ "/security-schemes") }

def xUsePkce : Descriptor :=
  { table := .growing
      [("disableManualConfiguration", boolean), ("hideClientSecretInput", boolean)] }

end ShapeLint.Shapes.OpenApi3
