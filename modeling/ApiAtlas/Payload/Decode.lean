import ApiAtlas.Payload.Yaml.Value

/-!
# Decoding payloads

**Definitions.** A payload is a text or bytes, written in JSON or in YAML.  `decode` yields the
value of a payload.
-/

namespace ApiAtlas

namespace Payload

/-- A payload as it arrives. -/
inductive Content
  | text (t : Text)
  | bytes (b : Bytes)
deriving DecidableEq, Repr, Inhabited

/-- The language of a payload. -/
inductive Language
  | json
  | yaml
deriving DecidableEq, Repr, Inhabited

/-- The value of a payload. -/
def decode : Language → Content → Except Failure Value
  | .json, .text t => Json.parse t
  | .json, .bytes b => Json.parseBytes b
  | .yaml, .text t => Yaml.parse t
  | .yaml, .bytes b => Yaml.parseBytes b

end Payload

end ApiAtlas
