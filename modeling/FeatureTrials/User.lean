import FeatureTrials.Attribute.Value
import FeatureTrials.Json.Decode
import FeatureTrials.Json.Table

/-!
# Users

The user a flag is evaluated for. The id is what every bucket is computed from; rules see the id,
the email address and the country under their names, and everything else by its name in the open
attributes, where an explicit null counts as absent.
-/

namespace FeatureTrials

/-- A user and what is known about them. -/
structure User where
  id : String
  email : Option String := none
  country : Option String := none
  attributes : Table AttributeValue := .empty

namespace User

/-- The value of a named attribute. -/
def attribute? (user : User) (name : String) : Option AttributeValue :=
  if name = "user_id" then some (.text user.id)
  else if name = "email" then user.email.map .text
  else if name = "country" then user.country.map .text
  else (user.attributes.get? name).filter fun value => !value.isNull

/-- Sets an open attribute. -/
def withAttribute (user : User) (name : String) (value : AttributeValue) : User :=
  { user with attributes := user.attributes.insert name value }

/-- Sets several open attributes. -/
def withAttributes (user : User) (values : List (String × AttributeValue)) : User :=
  values.foldl (fun user e => user.withAttribute e.1 e.2) user

/-- Reads a user. -/
def ofJson? (j : Json) : Option User := do
  let fields ← j.fields?
  let id ← fields.required "user_id" Json.text?
  let email ← fields.nullable "email" Json.text?
  let country ← fields.nullable "country" Json.text?
  let attributes ← fields.orElse "attributes" (Json.table? AttributeValue.ofJson?) .empty
  some { id, email, country, attributes }

/-- Writes a user; what is not known is left out. -/
def toJson (user : User) : Json :=
  .obj <|
    [("user_id", .str user.id)]
    ++ Json.optionalField "email" .str user.email
    ++ Json.optionalField "country" .str user.country
    ++ if user.attributes.entries.isEmpty then []
      else [("attributes", Json.ofTable AttributeValue.toJson user.attributes)]

end User

end FeatureTrials
