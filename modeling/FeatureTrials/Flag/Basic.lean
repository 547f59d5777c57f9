import FeatureTrials.Flag.Detail
import FeatureTrials.Json.Decode

/-!
# Flags

A flag is one value that is either served or not. Experiments and rollouts are laid over flags by
the engine: a flag that names a rollout strategy is served only to the users in its active stage.
-/

namespace FeatureTrials

/-- A flag. -/
structure Flag where
  key : String
  version : UInt64 := 0
  description : String := ""
  on : Bool := true
  value : FlagValue
  /-- what is served while the flag is off; without it the caller's default is -/
  offValue : Option FlagValue := none
  rolloutStrategy : Option String := none

namespace Flag

/-- The value the flag serves on its own, before rollouts are considered. -/
def evaluate (flag : Flag) (default : FlagValue) : Detail FlagValue :=
  if flag.on then .because .fallthrough flag.value
  else .because .off (flag.offValue.getD default)

/-- Reads a flag. -/
def ofJson? (j : Json) : Option Flag := do
  let fields ← j.fields?
  let key ← fields.required "key" Json.text?
  let version ← fields.orElse "version" (fun j => j.nat?.map UInt64.ofNat) 0
  let description ← fields.orElse "description" Json.text? ""
  let on ← fields.required "on" Json.bool?
  let value ← fields.required "value" FlagValue.ofJson?
  let offValue ← fields.nullable "off_value" FlagValue.ofJson?
  let rolloutStrategy ← fields.nullable "rollout_strategy" Json.text?
  some { key, version, description, on, value, offValue, rolloutStrategy }

/-- Writes a flag. -/
def toJson (flag : Flag) : Json :=
  .obj <|
    [("key", .str flag.key),
      ("version", .ofNat flag.version.toNat),
      ("description", .str flag.description),
      ("on", .bool flag.on),
      ("value", flag.value.toJson)]
    ++ Json.optionalField "off_value" FlagValue.toJson flag.offValue
    ++ Json.optionalField "rollout_strategy" .str flag.rolloutStrategy

end Flag

end FeatureTrials
