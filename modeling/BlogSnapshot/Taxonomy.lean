import BlogSnapshot.Media

/-! Categories, tags and authors of a whole corpus. Their identity is the slug, or the key of the
email; ids are numbered from 1 in ascending order of identity.
-/

namespace BlogSnapshot

structure Author where
  id : Int
  name : String
  email : String
  deriving DecidableEq, Repr

structure Category where
  id : Int
  name : String
  slug : String
  color : Option String
  textColor : Option String
  createdAt : Option Moment
  updatedAt : Option Moment
  isActive : Bool := true
  description : Option String := none
  parentId : Option Int := none
  coverId : Option Int := none
  logoId : Option Int := none
  deriving DecidableEq, Repr

structure Tag where
  id : Int
  name : String
  slug : String
  color : Option String
  textColor : Option String
  createdAt : Option Moment
  updatedAt : Option Moment
  isActive : Bool := true
  description : Option String := none
  deriving DecidableEq, Repr

namespace Category

def url (c : Category) : String :=
  "/categories/" ++ c.slug

def toData (c : Category) : Data :=
  .record [
    ("id", .int c.id), ("name", .text c.name), ("slug", .text c.slug),
    ("color", .ofText? c.color), ("text_color", .ofText? c.textColor),
    ("is_active", .bool c.isActive), ("description", .ofText? c.description),
    ("parent_id", .ofInt? c.parentId), ("cover_id", .ofInt? c.coverId),
    ("logo_id", .ofInt? c.logoId), ("cover", .null), ("logo", .null),
    ("created_at", .ofMoment? c.createdAt), ("updated_at", .ofMoment? c.updatedAt)
  ]

end Category

namespace Tag

def url (t : Tag) : String :=
  "/tags/" ++ t.slug

def toData (t : Tag) : Data :=
  .record [
    ("id", .int t.id), ("name", .text t.name), ("slug", .text t.slug),
    ("color", .ofText? t.color), ("text_color", .ofText? t.textColor),
    ("is_active", .bool t.isActive), ("description", .ofText? t.description),
    ("created_at", .ofMoment? t.createdAt), ("updated_at", .ofMoment? t.updatedAt)
  ]

end Tag

end BlogSnapshot
