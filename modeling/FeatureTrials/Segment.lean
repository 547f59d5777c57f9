import FeatureTrials.Rule.Format
import FeatureTrials.Time.Format

/-!
# Segments

A segment is a named subset of the users, given by rules. Who is in it depends on the user alone;
no membership is ever stored.
-/

namespace FeatureTrials

/-- A named subset of the users. -/
structure Segment where
  id : String
  name : String
  description : String := ""
  rules : List Rule := []
  tags : List String := []
  createdAt : Instant
  updatedAt : Instant

namespace Segment

/-- The user is in the segment. -/
def contains (segment : Segment) (user : User) : Bool :=
  Rule.allMatch segment.rules user

/-- The segments an engine starts with unless it is configured otherwise. -/
def defaults (now : Instant) : List Segment :=
  [{ id := "internal_users"
     name := "Internal Users"
     description := "Internal company users"
     rules := [⟨"email", .endsWith, .text "@company.com", some .text⟩]
     tags := ["internal", "staff"]
     createdAt := now
     updatedAt := now },
   { id := "beta_users"
     name := "Beta Users"
     description := "Users enrolled in beta program"
     rules := [⟨"beta_user", .equals, .bool true, some .boolean⟩]
     tags := ["beta", "early_adopters"]
     createdAt := now
     updatedAt := now },
   { id := "premium_users"
     name := "Premium Users"
     description := "Users with premium subscription"
     rules :=
       [⟨"subscription_tier", .isIn, .list [.text "premium", .text "enterprise"], some .text⟩]
     tags := ["premium", "paid"]
     createdAt := now
     updatedAt := now }]

/-- The fields that are read. -/
def shape : Json.Shape :=
  .ofFields ["id", "name", "description", "tags", "created_at", "updated_at"]
    [("rules", .list Rule.shape)]

/-- Reads a segment; the times of one that does not tell them are the clock reading. -/
def ofJson? (now : Instant) (j : Json) : Option Segment := do
  let fields ← j.fields?
  let id ← fields.required "id" Json.text?
  let name ← fields.required "name" Json.text?
  let description ← fields.orElse "description" Json.text? ""
  let rules ← fields.orElse "rules" (Json.list? Rule.ofJson?) []
  let tags ← fields.orElse "tags" Json.texts? []
  let createdAt ← fields.orElse "created_at" Instant.ofJson? now
  let updatedAt ← fields.orElse "updated_at" Instant.ofJson? now
  some { id, name, description, rules, tags, createdAt, updatedAt }

/-- Writes a segment. -/
def toJson (segment : Segment) : Json :=
  .obj [("id", .str segment.id),
    ("name", .str segment.name),
    ("description", .str segment.description),
    ("rules", .ofList Rule.toJson segment.rules),
    ("tags", .ofTexts segment.tags),
    ("created_at", segment.createdAt.toJson),
    ("updated_at", segment.updatedAt.toJson)]

end Segment

end FeatureTrials
