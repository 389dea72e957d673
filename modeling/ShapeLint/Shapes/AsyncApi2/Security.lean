import ShapeLint.Shapes.AsyncApi2.Conditions

/-!
Security schemes of AsyncAPI 2.
-/
namespace ShapeLint.Shapes.AsyncApi2

def implicitFlow : Descriptor :=
  { table := .growing [("refreshUrl", string), ("scopes", scopes), ("authorizationUrl", string)]
    required := .ofKeys ["authorizationUrl", "scopes"] }

def passwordFlow : Descriptor :=
  { table := .growing [("refreshUrl", string), ("scopes", scopes), ("tokenUrl", string)]
    required := .ofKeys ["tokenUrl", "scopes"] }

def clientCredentials : Descriptor :=
  { table := .growing [("refreshUrl", string), ("scopes", scopes), ("tokenUrl", string)]
    required := .ofKeys ["tokenUrl", "scopes"] }

def authorizationCode : Descriptor :=
  { table := .growing [("refreshUrl", string), ("authorizationUrl", string), ("scopes", scopes),
      ("tokenUrl", string)]
    required := .ofKeys ["authorizationUrl", "tokenUrl", "scopes"] }

def securitySchemeFlows : Descriptor :=
  { table := .growing [("implicit", ref "ImplicitFlow"), ("password", ref "PasswordFlow"),
      ("clientCredentials", ref "ClientCredentials"),
      ("authorizationCode", ref "AuthorizationCode")] }

def securityScheme : Descriptor :=
  { table := .growing [("type", oneOf [
        "userPassword", "apiKey", "X509", "symmetricEncryption", "asymmetricEncryption",
        "httpApiKey", "http", "oauth2", "openIdConnect", "plain", "scramSha256", "scramSha512",
        "gssapi"]),
      ("description", string), ("name", string),
      ("in", oneString ["query", "header", "cookie", "user", "password"]), ("scheme", string),
      ("bearerFormat", string), ("flows", ref "SecuritySchemeFlows"), ("openIdConnectUrl", string)]
    required := .computed securitySchemeRequired
    allowed := some securitySchemeAllowed
    extensions := some "x-"
    documentation := some (docs ++ "#securitySchemeObject") }

end ShapeLint.Shapes.AsyncApi2
