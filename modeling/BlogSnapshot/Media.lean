import BlogSnapshot.Calendar.Format
import BlogSnapshot.Data
import BlogSnapshot.Error
import BlogSnapshot.Frontmatter
import BlogSnapshot.Text.Blank

/-! Media records. An image is referred to by its URL alone, so its size and digest stay empty.
-/

namespace BlogSnapshot

/-- The data of a moment that may be absent. -/
def Data.ofMoment? (m : Option Moment) : Data :=
  Data.ofText? (m.map Moment.iso)

structure Media where
  id : Int
  objectKey : String
  fileUrl : String
  mimeType : String
  createdAt : Moment
  updatedAt : Moment
  size : Int := 0
  width : Option Int := none
  height : Option Int := none
  extension : Option String := none
  uploaderId : Option Int := none
  referenceType : Option String := none
  contentHash : Option String := none
  isOptimized : Bool := false
  optimizedAt : Option Moment := none
  usageCount : Int := 0
  deriving DecidableEq, Repr

namespace Media

/-- The type of an image with a file extension. -/
def mimeOfExtension : Option String → String
  | some "png" => "image/png"
  | some "webp" => "image/webp"
  | some "gif" => "image/gif"
  | some "avif" => "image/avif"
  | some "svg" => "image/svg+xml"
  | _ => "image/jpeg"

/-- The type of the image at a URL. -/
def mimeOfUrl (url : String) : Except UrlFault String :=
  (Url.fileExtension url).map mimeOfExtension

/-- The record of the featured image of a post. The object key is the URL without its leading
slashes.
-/
def ofFeaturedImage (id : Int) (image : FrontmatterImage) (builtAt : Moment)
    : Except UrlFault Media := do
  let fileUrl := image.fileUrl.trimBlanks
  let extension ← Url.fileExtension fileUrl
  pure {
    id, fileUrl, extension
    objectKey := String.ofList (fileUrl.toList.dropWhile (· = '/'))
    mimeType := mimeOfExtension extension
    width := image.width
    height := image.height
    createdAt := builtAt
    updatedAt := builtAt
  }

def toData (m : Media) : Data :=
  .record [
    ("id", .int m.id), ("object_key", .text m.objectKey), ("file_url", .text m.fileUrl),
    ("mime_type", .text m.mimeType), ("size", .int m.size), ("width", .ofInt? m.width),
    ("height", .ofInt? m.height), ("extension", .ofText? m.extension),
    ("uploader_id", .ofInt? m.uploaderId), ("reference_type", .ofText? m.referenceType),
    ("content_hash", .ofText? m.contentHash), ("is_optimized", .bool m.isOptimized),
    ("optimized_at", .ofMoment? m.optimizedAt), ("usage_count", .int m.usageCount),
    ("created_at", .text m.createdAt.iso), ("updated_at", .text m.updatedAt.iso)
  ]

end Media

end BlogSnapshot
