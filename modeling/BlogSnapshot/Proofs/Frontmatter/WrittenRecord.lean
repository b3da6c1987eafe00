import BlogSnapshot.Proofs.Frontmatter.FlowForm
import BlogSnapshot.Proofs.Frontmatter.Frame
import BlogSnapshot.Proofs.Source.Splitting

/-! Records that are written down and read back. The written form of a legal record is one line in
flow style, and a document with this line and a body that is not blank is parsed as the record and
the body.
-/

namespace BlogSnapshot

open Yaml

namespace Frontmatter

-----------------------------------------------------------------------------------------
-- Legal records
-----------------------------------------------------------------------------------------

/-- The required texts of a category or a tag are not blank. -/
structure IsLegalLabel (l : FrontmatterLabel) : Prop where
  name : l.name.isAllBlank = false
  slug : l.slug.isAllBlank = false

/-- Required texts are not blank, moments are in universal time, and sizes are natural numbers that
are not too long to be read.
-/
structure IsLegal (f : Frontmatter) : Prop where
  title : f.title.isAllBlank = false
  slug : f.slug.isAllBlank = false
  publishedAt : f.publishedAt.offset = some .utc
  updatedAt : ∀ m ∈ f.updatedAt, m.offset = some .utc
  authorName : f.author.name.isAllBlank = false
  authorEmail : f.author.email.isAllBlank = false
  category : IsLegalLabel f.category
  tags : ∀ l ∈ f.tags, IsLegalLabel l
  fileUrl : f.featuredImage.fileUrl.isAllBlank = false
  width : ∀ n ∈ f.featuredImage.width, IsSize n
  height : ∀ n ∈ f.featuredImage.height, IsSize n

-----------------------------------------------------------------------------------------
-- Fields
-----------------------------------------------------------------------------------------

def authorFields (a : FrontmatterAuthor) : FlowFields :=
  [("name", some (textFlow a.name)), ("email", some (textFlow a.email))]

def labelFields (l : FrontmatterLabel) : FlowFields := [
    ("name", some (textFlow l.name)), ("slug", some (textFlow l.slug)),
    ("color", l.color.map textFlow)
  ]

def imageFields (i : FrontmatterImage) : FlowFields := [
    ("file_url", some (textFlow i.fileUrl)), ("width", i.width.map integerFlow),
    ("height", i.height.map integerFlow)
  ]

def fields (f : Frontmatter) : FlowFields := [
    ("title", some (textFlow f.title)), ("slug", some (textFlow f.slug)),
    ("excerpt", f.excerpt.map textFlow), ("published_at", some (momentFlow f.publishedAt)),
    ("updated_at", f.updatedAt.map momentFlow), ("author", some (authorFields f.author).flow),
    ("category", some (labelFields f.category).flow),
    ("tags", some (.list ((f.tags.map labelFields).map FlowFields.flow))),
    ("featured_image", some (imageFields f.featuredImage).flow)
  ]

/-- The keys of a record, in the order in which they are written. -/
def recordKeys : List String := [
    "title", "slug", "excerpt", "published_at", "updated_at", "author", "category", "tags",
    "featured_image"
  ]

theorem lineText_author (a : FrontmatterAuthor)
    : (authorFields a).flow.lineText = writeAuthor a := by
  rw [FlowFields.lineText_flow, writeAuthor]
  simp [authorFields, writeEntry?, lineText_textFlow]

theorem lineText_label (l : FrontmatterLabel) : (labelFields l).flow.lineText = writeLabel l := by
  rw [FlowFields.lineText_flow, writeLabel]
  simp [labelFields, writeEntry?, lineText_textFlow, Function.comp_def]

theorem lineText_image (i : FrontmatterImage) : (imageFields i).flow.lineText = writeImage i := by
  rw [FlowFields.lineText_flow, writeImage]
  simp [imageFields, writeEntry?, lineText_textFlow, lineText_integerFlow, Function.comp_def]

/-- The written form of a record is a line in flow style. -/
theorem lineText_fields (f : Frontmatter) : f.fields.flow.lineText = f.write := by
  rw [FlowFields.lineText_flow, write]
  simp [fields, writeEntry?, lineText_textFlow, lineText_momentFlow, lineText_author,
    lineText_label, lineText_image, Flow.lineText_list, Function.comp_def]

-----------------------------------------------------------------------------------------
-- Well-formed lines
-----------------------------------------------------------------------------------------

theorem isPlainKey_of_schema
    : ∀ key ∈ recordKeys ++ authorKeys ++ labelKeys ++ imageKeys, Token.IsPlainKey key := by
  have all : ∀ key ∈ recordKeys ++ authorKeys ++ labelKeys ++ imageKeys,
      key.toList.all Token.isKeyChar = true
      ∧ key.toList ≠ []
      ∧ key.length ≤ 1024
      ∧ Tag.ofPlain key = Tag.str := by
    decide
  intro key member
  obtain ⟨chars, solid, short, isText⟩ := all key member
  exact ⟨List.all_eq_true.mp chars, solid, short, isText⟩

theorem wellFormed_of_keys (keys : List String) {fields : FlowFields}
    (names : fields.map (·.1) = keys) (distinct : keys.Nodup)
    (known : ∀ key ∈ keys, key ∈ recordKeys ++ authorKeys ++ labelKeys ++ imageKeys)
    (each : ∀ e ∈ fields, ∀ t ∈ e.2, t.WellFormed)
    : fields.flow.WellFormed := by
  subst names
  exact FlowFields.wellFormed_flow
    (fun e member => isPlainKey_of_schema e.1 (known e.1 (List.mem_map_of_mem member)))
    distinct each

theorem wellFormed_author (a : FrontmatterAuthor) : (authorFields a).flow.WellFormed :=
  wellFormed_of_keys authorKeys rfl (by decide) (by decide)
    (by simp [authorFields, wellFormed_textFlow])

theorem wellFormed_label (l : FrontmatterLabel) : (labelFields l).flow.WellFormed :=
  wellFormed_of_keys labelKeys rfl (by decide) (by decide)
    (by simp [labelFields, wellFormed_textFlow])

theorem wellFormed_image {i : FrontmatterImage} (width : ∀ n ∈ i.width, IsSize n)
    (height : ∀ n ∈ i.height, IsSize n)
    : (imageFields i).flow.WellFormed := by
  have size {n : Option Int} (isSize : ∀ k ∈ n, IsSize k)
      : ∀ t ∈ n.map integerFlow, t.WellFormed :=
    Option.forall_mem_map.mpr fun k there => wellFormed_integerFlow (isSize k there)
  refine wellFormed_of_keys imageKeys rfl (by decide) (by decide) ?_
  simp only [imageFields, List.forall_mem_cons]
  exact ⟨by simp [wellFormed_textFlow], size width, size height, List.forall_mem_nil _⟩

theorem IsLegal.wellFormed {f : Frontmatter} (legal : f.IsLegal) : f.fields.flow.WellFormed := by
  have updated (m : Moment) (there : f.updatedAt = some m) : (momentFlow m).WellFormed :=
    wellFormed_momentFlow (legal.updatedAt m there)
  have image := wellFormed_image legal.width legal.height
  have tags : Flow.WellFormed (.list ((f.tags.map labelFields).map FlowFields.flow)) := by
    refine .list (List.forall_mem_map.mpr (List.forall_mem_map.mpr fun l _ => ?_))
    exact wellFormed_label l
  refine wellFormed_of_keys recordKeys rfl (by decide) (by decide) ?_
  simpa [fields, wellFormed_textFlow, wellFormed_momentFlow legal.publishedAt, wellFormed_author,
    wellFormed_label, image] using And.intro updated tags

/-- The written form of a legal record is one line. -/
theorem IsLegal.no_lineFeed {f : Frontmatter} (legal : f.IsLegal) : '\n' ∉ f.write := by
  intro member
  rw [← lineText_fields] at member
  exact absurd (legal.wellFormed.visible '\n' member) (by decide)

-----------------------------------------------------------------------------------------
-- Reading
-----------------------------------------------------------------------------------------

theorem isLabelOf_entries {l : FrontmatterLabel} (legal : IsLegalLabel l)
    : IsLabelOf (labelFields l).entries l := by
  have distinct : ((labelFields l).map (·.1)).Nodup := (by decide : labelKeys.Nodup)
  exact {
    name := FlowFields.isSolid_of_mem distinct (by simp [labelFields]) legal.name
    slug := FlowFields.isSolid_of_mem distinct (by simp [labelFields]) legal.slug
    color := FlowFields.textValue_of_mem distinct (by simp [labelFields])
  }

/-- The entries of a legal record hold the record. -/
theorem IsLegal.isRecordOf {f : Frontmatter} (legal : f.IsLegal)
    : IsRecordOf f.fields.entries f := by
  have top : (f.fields.map (·.1)).Nodup := (by decide : recordKeys.Nodup)
  have author : ((authorFields f.author).map (·.1)).Nodup := (by decide : authorKeys.Nodup)
  have image : ((imageFields f.featuredImage).map (·.1)).Nodup := (by decide : imageKeys.Nodup)
  have tags : valueAt "tags" f.fields.entries
      = .list (((f.tags.map labelFields).map FlowFields.entries).map .map) :=
    FlowFields.list_of_mem top (by simp [fields])
  exact {
    title := FlowFields.isSolid_of_mem top (by simp [fields]) legal.title
    slug := FlowFields.isSolid_of_mem top (by simp [fields]) legal.slug
    excerpt := FlowFields.textValue_of_mem top (by simp [fields])
    publishedAt := FlowFields.readsTimestamp_of_mem top (by simp [fields]) legal.publishedAt
    updatedAt := FlowFields.readsTimestamp?_of_mem top (by simp [fields]) legal.updatedAt
    author := ⟨
      _, FlowFields.map_of_mem top (by simp [fields]),
      FlowFields.isSolid_of_mem author (by simp [authorFields]) legal.authorName,
      FlowFields.isSolid_of_mem author (by simp [authorFields]) legal.authorEmail
    ⟩
    category := ⟨
      _, FlowFields.map_of_mem top (by simp [fields]), isLabelOf_entries legal.category
    ⟩
    featuredImage := ⟨
      _, FlowFields.map_of_mem top (by simp [fields]),
      FlowFields.isSolid_of_mem image (by simp [imageFields]) legal.fileUrl,
      FlowFields.readsInteger_of_mem image (by simp [imageFields]) legal.width,
      FlowFields.readsInteger_of_mem image (by simp [imageFields]) legal.height
    ⟩
    tags := by
      rw [tags]
      refine .list ?_
      rw [List.forall₂_map_left_iff, List.forall₂_map_left_iff, List.forall₂_same]
      exact fun l member => isLabelOf_entries (legal.tags l member)
  }

/-- A legal record is read of its written form and passes the check. -/
theorem IsLegal.checkedOfBlock_write {f : Frontmatter} (legal : f.IsLegal) (path : Option String)
    : checkedOfBlock (String.ofList f.write) path = .ok f := by
  have loaded : loadBlock (String.ofList f.write) path = .ok f.fields.entries := by
    rw [loadBlock, String.toList_ofList, ← lineText_fields, legal.wellFormed.load_lineText,
      FlowFields.value_flow]
  rw [checkedOfBlock, parse, loaded]
  exact checked_eq_ok_iff.mpr legal.isRecordOf

end Frontmatter

-----------------------------------------------------------------------------------------
-- Documents
-----------------------------------------------------------------------------------------

/-- A block of one line has no closing line in it, which has two line feeds. -/
theorem SourceFile.isDocumentOf_of_line {block body : String} (line : '\n' ∉ block.toList)
    (solid : body.isAllBlank = false)
    : IsDocumentOf ("---\n" ++ block ++ "\n---\n" ++ body) block body where
  joined := rfl
  first inside := by
    have few := inside.sublist.count_le '\n'
    rw [String.toList_append, List.count_append, List.count_eq_zero.mpr line] at few
    exact absurd few (by decide)
  body := ne_empty_trimBlanks_iff.mpr solid

/-- A source whose block passes the check is parsed as its parts. -/
theorem SourceFile.parse_of_parts {source : SourceFile} {block body : String} {f : Frontmatter}
    (parts : split source.contents (some source.path) = .ok (block, body))
    (checked : Frontmatter.checkedOfBlock block (some source.path) = .ok f)
    : source.parse = .ok ⟨source.path, f, body⟩ := by
  obtain ⟨_, read, solid⟩ := (bind_eq_ok_iff _ _ _).mp checked
  obtain ⟨_, valid, same⟩ := (bind_eq_ok_iff _ _ _).mp solid
  cases same
  rw [parse, parts]
  refine (bind_eq_ok_iff _ _ _).mpr ⟨_, rfl, (bind_eq_ok_iff _ _ _).mpr ⟨_, read, ?_⟩⟩
  exact (bind_eq_ok_iff _ _ _).mpr ⟨_, valid, rfl⟩

/-- A legal record and a body that is not blank are parsed of the document that holds the record as
one line and the body.
-/
theorem ParsedSource.parse_document {s : ParsedSource} (legal : s.frontmatter.IsLegal)
    (solid : s.body.isAllBlank = false)
    : s.document.contents
        = "---\n" ++ String.ofList s.frontmatter.write ++ "\n---\n" ++ s.body
      ∧ '\n' ∉ s.frontmatter.write
      ∧ s.document.parse = .ok s := by
  have line : '\n' ∉ (String.ofList s.frontmatter.write).toList := by
    rw [String.toList_ofList]
    exact legal.no_lineFeed
  have joined : s.document.contents
      = "---\n" ++ String.ofList s.frontmatter.write ++ "\n---\n" ++ s.body := by
    simp [document, SourceFile.joinDocument, SourceFile.opening, SourceFile.closing,
      ← String.toList_inj]
  have parts : SourceFile.split s.document.contents (some s.document.path)
      = .ok (String.ofList s.frontmatter.write, s.body) := by
    rw [joined]
    exact (SourceFile.isDocumentOf_of_line line solid).split_eq _
  exact ⟨joined, legal.no_lineFeed,
    SourceFile.parse_of_parts parts (legal.checkedOfBlock_write _)⟩

/-- A source whose texts hold line feeds, control characters, and characters and words that have a
meaning in a block.
-/
def ParsedSource.awkward : ParsedSource where
  path := "a.md"
  frontmatter := {
    title := "\"A\": [b]\n---\n# \x00\t'"
    slug := "null"
    excerpt := some "\n"
    publishedAt := {
      date := ⟨2025, 10, 31, by decide, by decide, by decide⟩
      clock := { hour := 23, minute := 59, second := 59, micro := 7 }
      offset := some .utc
    }
    updatedAt := some {
      date := ⟨9999, 12, 31, by decide, by decide, by decide⟩
      offset := some .utc
    }
    author := ⟨"É", "\\U0000000a"⟩
    category := ⟨"~", "1", some ""⟩
    tags := [⟨"\x07", "&a", none⟩, ⟨"*a", "\u2028x", some " "⟩]
    featuredImage := ⟨"a.png", some 640, none⟩
  }
  body := "\n---\nText"

theorem ParsedSource.parse_document_awkward
    : awkward.frontmatter.IsLegal
      ∧ awkward.body.isAllBlank = false
      ∧ '\n' ∉ awkward.frontmatter.write
      ∧ awkward.document.parse = .ok awkward := by
  have small : (640 : Int) < 10 ^ 4300 :=
    lt_of_lt_of_le (b := 10 ^ 3) (by decide) (pow_le_pow_right₀ (by decide) (by decide))
  have legal : awkward.frontmatter.IsLegal := {
    title := by decide
    slug := by decide
    publishedAt := rfl
    updatedAt := by simp [awkward]
    authorName := by decide
    authorEmail := by decide
    category := ⟨by decide, by decide⟩
    tags := by
      intro l member
      rcases List.mem_pair.mp member with rfl | rfl
      · exact ⟨by decide, by decide⟩
      · exact ⟨by decide, by decide⟩
    fileUrl := by decide
    width := by
      rintro n ⟨⟩
      exact ⟨by decide, small⟩
    height := nofun
  }
  have solid : awkward.body.isAllBlank = false := by decide
  obtain ⟨_, line, parsed⟩ := parse_document legal solid
  exact ⟨legal, solid, line, parsed⟩

end BlogSnapshot
