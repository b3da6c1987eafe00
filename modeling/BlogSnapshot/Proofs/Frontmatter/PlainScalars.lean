import BlogSnapshot.Frontmatter.Read
import BlogSnapshot.Proofs.Yaml.UntaggedValues

/-! Plain scalars of a frontmatter block. Without tags a block holds no truth value, number, bytes
or set, and its ordinary plain scalars are text, as if they were in quotes.
-/

namespace BlogSnapshot

namespace Yaml

/-- A scalar of a text, plain or not. -/
def Written (text : List Char) (s : String) (plain : Bool) : Prop :=
  ∃ t ∈ (Token.scan text).1, t.kind = .scalar s plain

/-- A token, with quotes put around it if it is an ordinary plain scalar. -/
inductive Token.MayQuote : Token → Token → Prop
  | same (t : Token) : MayQuote t t
  | quoted {s : String} (ordinary : IsOrdinary s) (start stop : Mark)
      : MayQuote ⟨.scalar s true, start, stop⟩ ⟨.scalar s false, start, stop⟩

/-- The value of a list of tokens, as that of a text is the value of its own tokens. -/
def loadTokens (size : Nat) (tokens : List Token) (failure : Option Failure)
    : Except Failure Value := do
  match ← Node.ofTokens tokens failure with
  | none => pure .null
  | some d => Value.ofDocument size d

theorem load_eq {text : List Char} (acceptable : ∀ c ∈ text, isAcceptable c = true)
    : load text = loadTokens text.length (Token.scan text).1 (Token.scan text).2 := by
  rw [load, Node.ofText_eq acceptable]
  rfl

/-- A plain scalar is the same node as in quotes, and is built as its own text everywhere. -/
structure IsBuiltAsText (s : String) : Prop where
  quoted : ∀ start, untagged s true start = untagged s false start
  built : ∀ d start f, Value.part d (untagged s true start) f = .ok (.leaf (.text s), f)

variable {text : List Char}

/-- The tokens of a text without tags agree with the same tokens when some are quoted. -/
theorem requoted_of_mayQuote (noTags : ∀ t ∈ (Token.scan text).1, t.kind.isTag = false)
    {t u : Token} (member : t ∈ (Token.scan text).1) (quoted : t.MayQuote u)
    : t.Requoted (Written text) u := by
  cases quoted with
  | same =>
      obtain ⟨kind, start, stop⟩ := t
      cases kind with
      | scalar s plain => exact .scalar ⟨_, member, rfl⟩ start stop
      | tag => cases noTags _ member
      | _ => exact .mark rfl rfl start stop
  | quoted ordinary start stop =>
      have starts := Token.scan_starts text _ member
      exact .quoted ⟨_, member, rfl⟩ (ordinary.ofPlain_eq starts) start stop

theorem isBuiltAsText_of_isOrdinary {s : String} (given : Written text s true)
    (ordinary : IsOrdinary s)
    : IsBuiltAsText s := by
  obtain ⟨t, member, kind⟩ := given
  have starts := Token.scan_starts text t member
  rw [kind] at starts
  have quoted (start : Mark) : untagged s true start = untagged s false start := by
    rw [untagged, untagged, ordinary.scalarTag_eq starts, ordinary.scalarTag_eq starts]
  refine ⟨quoted, fun d start f => ?_⟩
  rw [quoted, Value.part]
  show (if Value.isCollectionTag Tag.str then _ else
    (Value.leafOnce d (untagged s false start) f).map fun built =>
      (Value.Part.leaf built.1, built.2)) = _
  have once : Value.leafOnce d (untagged s false start) f
      = (Value.leaf d f.store (untagged s false start)).map fun v => (v, f) := rfl
  rw [if_neg (by decide), once, leaf_quoted]
  rfl

/-- Tokens of a text agree with themselves when some are quoted, by induction on them. -/
theorem requoted_of_forall₂ (noTags : ∀ t ∈ (Token.scan text).1, t.kind.isTag = false)
    {tokens quoted : List Token} (own : ∀ t ∈ tokens, t ∈ (Token.scan text).1)
    (paired : List.Forall₂ Token.MayQuote tokens quoted)
    : List.Forall₂ (Token.Requoted (Written text)) tokens quoted := by
  induction paired with
  | nil => exact .nil
  | cons first _ ih =>
      obtain ⟨member, others⟩ := List.forall_mem_cons.mp own
      exact .cons (requoted_of_mayQuote noTags member first) (ih others)

/-- Token lists that differ in the quotes of ordinary plain scalars have the same value, or none. -/
theorem loadTokens_eq (noTags : ∀ t ∈ (Token.scan text).1, t.kind.isTag = false)
    {tokens : List Token} (paired : List.Forall₂ Token.MayQuote (Token.scan text).1 tokens)
    (size : Nat) (failure : Option Failure)
    : (loadTokens size tokens failure).toOption
      = (loadTokens size (Token.scan text).1 failure).toOption := by
  have requoted := requoted_of_forall₂ noTags (fun _ member => member) paired
  exact (toOption_bind (Node.ofTokens_agree requoted failure).1 _).symm

theorem acceptable_of_ofText {found : Option Document} (read : Node.ofText text = .ok found)
    : ∀ c ∈ text, isAcceptable c = true := by
  unfold Node.ofText at read
  split at read
  case h_1 => cases read
  case h_2 none => simpa [List.findIdx?_eq_none_iff] using none

/-- The value of a text without tags is untagged. -/
theorem load_untagged (noTags : ∀ t ∈ (Token.scan text).1, t.kind.isTag = false)
    : Yields (Value.Untagged (Written text)) (load text) := by
  intro v loaded
  obtain ⟨found, read, built⟩ := (bind_eq_ok_iff _ _ _).mp loaded
  rw [Node.ofText_eq (acceptable_of_ofText read)] at read
  have same : List.Forall₂ Token.MayQuote (Token.scan text).1 (Token.scan text).1 :=
    List.forall₂_same.mpr fun t _ => .same t
  have requoted := requoted_of_forall₂ noTags (fun _ member => member) same
  cases found with
  | none =>
      cases built
      exact .null
  | some d =>
      have untagged := (Node.ofTokens_agree requoted (Token.scan text).2).2 d read
      exact Value.ofDocument_untagged untagged _ v built

end Yaml

namespace Frontmatter

/-- What becomes of the scalars of a frontmatter block: the mapping that is loaded holds untagged
values only, ordinary plain scalars are built as text, those among them that the usual loader takes
for truth values or numbers as well, and putting any of them in quotes changes no result.
-/
structure PlainScalars (block : String) : Prop where
  untagged : ∀ path entries, loadBlock block path = .ok entries →
    (Yaml.Value.map entries).Untagged (Yaml.Written block.toList)
  ordinary : ∀ s, Yaml.Written block.toList s true → Yaml.IsOrdinary s → Yaml.IsBuiltAsText s
  typed : ∀ s, Yaml.Written block.toList s true → Yaml.Typed.Spells s → Yaml.IsBuiltAsText s
  quoted : (∀ c ∈ block.toList, Yaml.isAcceptable c = true) → ∀ tokens,
    List.Forall₂ Yaml.Token.MayQuote (Yaml.Token.scan block.toList).1 tokens →
    (Yaml.loadTokens block.toList.length tokens (Yaml.Token.scan block.toList).2).toOption
      = (Yaml.load block.toList).toOption

/-- In a block without tags ordinary plain scalars are text, and nothing in it is a truth value, a
number, bytes or a set.
-/
theorem plainScalars {block : String}
    (noTags : ∀ t ∈ (Yaml.Token.scan block.toList).1, t.kind.isTag = false)
    : PlainScalars block where
  untagged := by
    intro path entries loaded
    have values := Yaml.load_untagged noTags
    unfold loadBlock at loaded
    split at loaded
    case h_1 =>
      cases loaded
      exact .map (List.forall_mem_nil _) (List.forall_mem_nil _)
    case h_2 entries found =>
      cases loaded
      exact values _ found
    all_goals cases loaded
  ordinary _ given ordinary := Yaml.isBuiltAsText_of_isOrdinary given ordinary
  typed _ given spells := Yaml.isBuiltAsText_of_isOrdinary given spells.isOrdinary
  quoted acceptable tokens quoted := by
    rw [Yaml.load_eq acceptable, Yaml.loadTokens_eq noTags quoted]

/-- A block with words and numbers that the usual loader would build. It merges a default entry,
whose key becomes text wherever it is referred to.
-/
def wordsBlock : String :=
  "on: yes\nnumbers: [0x1F, 1_000, -1.5e+3, 1:30, '2', ~]\n"
    ++ "2026-01-02: &day Off\n<<: \x7b&key = : *day, more: *key\x7d\n"

theorem plainScalars_wordsBlock
    : (∀ t ∈ (Yaml.Token.scan wordsBlock.toList).1, t.kind.isTag = false)
      ∧ (loadBlock wordsBlock none).isOk = true
      ∧ PlainScalars wordsBlock := by
  have noTags : ∀ t ∈ (Yaml.Token.scan wordsBlock.toList).1, t.kind.isTag = false := by
    decide +kernel
  exact ⟨noTags, by decide +kernel, plainScalars noTags⟩

end Frontmatter

end BlogSnapshot
