import BlogSnapshot.Proofs.Html.Serialization
import BlogSnapshot.Proofs.Markdown.Held
import BlogSnapshot.Proofs.Snapshot.Listing

/-! The HTML of posts. Whatever a body holds, its HTML is the text of a page with allowed nodes
only; each post of a snapshot has the HTML of its own body, in one block. The address of a citation
is not among those that are checked.
-/

namespace BlogSnapshot

/-- A text is the HTML of a page whose nodes are all allowed and where nothing runs a script. -/
def Html.IsClean (html : String) : Prop :=
  ∃ forest, ForestAllowed forest ∧ Harmless forest ∧ html = renderForest forest

/-- Sanitizing makes HTML clean, for it writes what cleaning leaves. -/
theorem Html.isClean_sanitize (html : String) : IsClean (sanitize html) :=
  ⟨_, cleanForest_allowed _, harmless_cleanForest _, rfl⟩

/-- The HTML of a body is clean, for it is sanitized last. -/
theorem isClean_of_renderSanitized {text html : String} (rendered : renderSanitized text = .ok html)
    : Html.IsClean html := by
  obtain ⟨raw, _, sanitized⟩ := (bind_eq_ok_iff _ _ _).mp rendered
  exact Except.ok.inj sanitized ▸ Html.isClean_sanitize raw

/-- A content has the sanitized HTML of its body in its only block. -/
theorem PostContent.blocks_of_ofBody {settings : Settings} {body : String} {publishedAt : Moment}
    {content : PostContent} (made : ofBody settings body publishedAt = .ok content)
    : ∃ html, renderSanitized body = .ok html
        ∧ content.blocks = [⟨html, settings.contentBlockId⟩] := by
  obtain ⟨html, rendered, rest⟩ := (bind_eq_ok_iff _ _ _).mp made
  exact ⟨html, rendered, by rw [← Except.ok.inj rest]⟩

namespace Snapshot

/-- The posts of a snapshot hold clean HTML: each has a single block, with the sanitized HTML of the
body of its source.
-/
def HoldsCleanHtml (settings : Settings) (sources : List SourceFile) (snapshot : Snapshot) : Prop :=
  ∀ p ∈ snapshot.posts,
    ∃ source ∈ sources,
      ∃ s, source.parse = .ok s
        ∧ p.slug = s.frontmatter.slug
        ∧ ∃ html, renderSanitized s.body = .ok html
            ∧ p.content.blocks = [⟨html, settings.contentBlockId⟩]
            ∧ Html.IsClean html

/-- What comes of rendering a text is clean, and so is the HTML of every snapshot that is built. -/
theorem cleanHtml_of_build
    : (∀ text html, renderSanitized text = .ok html → Html.IsClean html)
      ∧ ∀ settings builtAt sources snapshot,
          build settings builtAt sources = .ok snapshot
          → snapshot.HoldsCleanHtml settings sources := by
  refine ⟨fun text html => isClean_of_renderSanitized, ?_⟩
  intro settings builtAt sources snapshot built p member
  obtain ⟨ordered, posts, h⟩ := build_eq_ok_iff.mp built
  obtain ⟨s, n, numbered, post⟩ := h.exists_source member
  have inOrdered : s ∈ ordered := List.fst_mem_of_mem_zipIdx numbered
  obtain ⟨source, inSources, parses⟩ := (h.inOrder.mem_iff s).mp inOrdered
  obtain ⟨html, rendered, blocks⟩ := PostContent.blocks_of_ofBody post.content
  exact ⟨source, inSources, s, parses, post.slug, html, rendered, blocks,
    isClean_of_renderSanitized rendered⟩

-----------------------------------------------------------------------------------------
-- Citations
-----------------------------------------------------------------------------------------

/-- A quotation whose source is a script. -/
def quotation : String :=
  "<blockquote cite=\"javascript:x\">y</blockquote>"

/-- The quotation is rendered as it stands: it is held back as a whole, and then put back for the
paragraph that is nothing but its mark.
-/
theorem renderSanitized_quotation : renderSanitized quotation = .ok quotation := by
  have shown : Text.allBlank quotation.toList = false := by decide +kernel
  have held : (Markdown.renderHeld quotation.toList).run #[]
      = .ok ("\n<p>\x02wzxhzdk:0\x03</p>\n".toList, #[quotation.toList ++ ['\n']]) := by
    decide +kernel
  have trimmed : Text.trim "\n<p>\x02wzxhzdk:0\x03</p>\n".toList
      = "<p>\x02wzxhzdk:0\x03</p>".toList := by
    decide +kernel
  have released : Markdown.released #[quotation.toList ++ ['\n']] 2
      "<p>\x02wzxhzdk:0\x03</p>".toList = quotation.toList ++ ['\n'] := by
    refine Markdown.released_of_heldMark? 1 true ?_ ?_ ?_ ?_
    all_goals decide +kernel
  have written : String.ofList (Text.trim (Markdown.withAmpersands 0 (quotation.toList ++ ['\n'])))
      = quotation := by
    decide +kernel
  have renders : Markdown.render quotation = .ok quotation := by
    rw [Markdown.render, Markdown.renderChars, shown, held]
    change Except.ok (String.ofList (Text.trim (Markdown.withAmpersands 0
      (Markdown.released #[quotation.toList ++ ['\n']] 2 (Text.trim _))))) = _
    rw [trimmed, released, written]
  have kept : Html.sanitize quotation = quotation := by decide +kernel
  rw [renderSanitized, renders]
  exact congrArg Except.ok kept

/-- The HTML of the quotation is clean, and so is that of the snapshot of the two sources. -/
theorem cleanHtml_of_twoSources
    : Html.IsClean quotation
      ∧ ∃ snapshot,
          build {} someDay twoSources = .ok snapshot
          ∧ snapshot.HoldsCleanHtml {} twoSources := by
  obtain ⟨snapshot, built⟩ := exists_build_twoSources
  exact ⟨cleanHtml_of_build.1 _ _ renderSanitized_quotation, snapshot, built,
    cleanHtml_of_build.2 _ _ _ _ built⟩

/-- The allowed attributes whose value HTML takes for an address: those that are checked, and the
source of a citation.
-/
def addressAttributes : List String :=
  "cite" :: Html.linkAttributes

/-- Not every address in the HTML of a text is relative or of an allowed scheme. Witness: the text
of the quotation is that of no page where the source of a citation is checked.
-/
theorem citation_not_checked
    : ¬ ∀ text html, renderSanitized text = .ok html →
        ∃ forest,
          Html.ForestAllowed forest
          ∧ (∀ tag ∈ Html.forestTags forest, ∀ a ∈ tag.2,
              a.1 ∈ addressAttributes → Html.LinkAllowed a.2)
          ∧ html = Html.renderForest forest := by
  intro checked
  obtain ⟨forest, allowed, addresses, text⟩ := checked _ _ renderSanitized_quotation
  have begins : (Html.renderForest forest).toList
      = '<' :: ("blockquote".toList ++ ' ' :: ("cite".toList ++ '=' :: '"'
          :: ("javascript:x".toList ++ '"' :: ">y</blockquote>".toList))) := by
    rw [← text]
    decide +kernel
  obtain ⟨tag, inForest, a, inTag, name, value⟩ := Html.exists_attribute_of_text allowed
    (List.all_eq_true.mp (by decide)) (by decide) (by decide) begins
  have isCite : a.1 = "cite" := String.toList_inj.mp name
  have isScript : Url.Target.of a.2.toList = .absolute "javascript" := by
    rw [value]
    decide +kernel
  have isAddress : a.1 ∈ addressAttributes := isCite ▸ List.mem_cons_self
  exact Html.not_script_of_allowed (addresses tag inForest a inTag isAddress) isScript

end Snapshot

end BlogSnapshot
