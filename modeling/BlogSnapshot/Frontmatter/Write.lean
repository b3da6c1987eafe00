import BlogSnapshot.Calendar.Format
import BlogSnapshot.Frontmatter
import BlogSnapshot.Source
import BlogSnapshot.Text.Quoted

/-! A written form of every frontmatter record: one line that holds a mapping in braces. Each text
stands in double quotes, all its characters as escapes of eight hexadecimal digits, so that no
character has a meaning of its own.
-/

namespace BlogSnapshot

namespace Frontmatter

/-- A character as an escape of eight hexadecimal digits. -/
def escapeChar (c : Char) : List Char :=
  '\\' :: 'U' :: Text.hexFixed 8 c.toNat

/-- A text in double quotes. -/
def writeText (s : String) : List Char :=
  '"' :: s.toList.flatMap escapeChar ++ ['"']

/-- Items with a comma between them. -/
def commaSeparated : List (List Char) → List Char
  | [] => []
  | [item] => item
  | item :: rest => item ++ ',' :: ' ' :: commaSeparated rest

/-- A key with a written value. -/
def writeEntry (key : String) (value : List Char) : List Char :=
  key.toList ++ ':' :: ' ' :: value

/-- An entry that is left out when its value is absent. -/
def writeEntry? (key : String) (value : Option (List Char)) : List (List Char) :=
  (value.map (writeEntry key)).toList

/-- A mapping of written entries. -/
def writeMapping (entries : List (List Char)) : List Char :=
  '\x7b' :: commaSeparated entries ++ ['\x7d']

/-- A list of written items. -/
def writeList (items : List (List Char)) : List Char :=
  '[' :: commaSeparated items ++ [']']

/-- A moment as its ISO form in quotes. -/
def writeMoment (m : Moment) : List Char :=
  '"' :: m.iso.toList ++ ['"']

/-- A whole number as its digits in quotes. -/
def writeInteger (n : Int) : List Char :=
  '"' :: (toString n).toList ++ ['"']

/-- A category or a tag. -/
def writeLabel (l : FrontmatterLabel) : List Char :=
  writeMapping (writeEntry "name" (writeText l.name) :: writeEntry "slug" (writeText l.slug)
    :: writeEntry? "color" (l.color.map writeText))

/-- An author. -/
def writeAuthor (a : FrontmatterAuthor) : List Char :=
  writeMapping [writeEntry "name" (writeText a.name), writeEntry "email" (writeText a.email)]

/-- An image. -/
def writeImage (i : FrontmatterImage) : List Char :=
  writeMapping (writeEntry "file_url" (writeText i.fileUrl)
    :: writeEntry? "width" (i.width.map writeInteger)
    ++ writeEntry? "height" (i.height.map writeInteger))

/-- A record as a frontmatter block of one line. -/
def write (f : Frontmatter) : List Char :=
  writeMapping (writeEntry "title" (writeText f.title) :: writeEntry "slug" (writeText f.slug)
    :: writeEntry? "excerpt" (f.excerpt.map writeText)
    ++ writeEntry "published_at" (writeMoment f.publishedAt)
    :: writeEntry? "updated_at" (f.updatedAt.map writeMoment)
    ++ [
      writeEntry "author" (writeAuthor f.author), writeEntry "category" (writeLabel f.category),
      writeEntry "tags" (writeList (f.tags.map writeLabel)),
      writeEntry "featured_image" (writeImage f.featuredImage)
    ])

end Frontmatter

/-- The document of a parsed source. -/
def ParsedSource.document (s : ParsedSource) : SourceFile where
  path := s.path
  contents := String.ofList (SourceFile.joinDocument s.frontmatter.write s.body.toList)

end BlogSnapshot
