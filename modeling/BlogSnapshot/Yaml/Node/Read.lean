import BlogSnapshot.Yaml.Node
import BlogSnapshot.Yaml.Schema
import BlogSnapshot.Yaml.Token.Scan

/-! The document that a token list spells. Errors come in the order of the tokens: a failure of
the token list is met where the tokens before it have been used up.
-/

namespace BlogSnapshot.Yaml.Node

/-- What is left of the tokens and why they end, the tag handles in force, the anchors declared
so far and the nodes completed under them.
-/
structure Reading where
  tokens : List Token
  failure : Option Failure
  handles : List (String × String) := [("!", "!"), ("!!", Tag.stem)]
  declared : List (String × Mark) := []
  anchors : List (String × Node) := []

/-- A step of reading. -/
abbrev Read (α : Type) := StateT Reading (Except Failure) α

namespace Read

/-- Fails with a problem at a position. -/
def fail {α : Type} (activity : Option (Activity × Option Mark)) (problem : Problem) (mark : Mark)
    : Read α :=
  throw (.text (.at activity problem mark))

/-- The next token. Past the last one lies the failure that ended them. -/
def peek : Read Token := do
  let r ← get
  match r.tokens, r.failure with
  | t :: _, _ => pure t
  | [], some e => throw e
  | [], none => pure ⟨.streamEnd, {}, {}⟩

/-- The next token, which is used up. -/
def take : Read Token := do
  let t ← peek
  modify fun r => { r with tokens := r.tokens.tail }
  pure t

/-- Whether the next token is of one of the kinds that satisfy `p`. -/
def at? (p : TokenKind → Bool) : Read Bool := do
  let t ← peek
  pure (p t.kind)

end Read

open Read

/-- The tag that a written tag stands for. -/
def expandTag (start mark : Mark) (name : TagName) : Read String := do
  match name.handle with
  | none => pure name.suffix
  | some handle =>
      match (← get).handles.lookup handle with
      | some stem => pure (stem ++ name.suffix)
      | none => fail (some (.node, some start)) (.undefinedHandle handle) mark

/-- The anchor and the tag before a node, in either order, and the position of the first. -/
structure Properties where
  anchor : Option String := none
  tag : Option (TagName × Mark) := none
  start : Option Mark := none

/-- The properties before a node. -/
def properties : Read Properties := do
  let t ← peek
  match t.kind with
  | .anchor name => do
      let _ ← take
      let u ← peek
      match u.kind with
      | .tag tagName => do
          let _ ← take
          pure ⟨some name, some (tagName, u.start), some t.start⟩
      | _ => pure ⟨some name, none, some t.start⟩
  | .tag tagName => do
      let _ ← take
      let u ← peek
      match u.kind with
      | .anchor name => do
          let _ ← take
          pure ⟨some name, some (tagName, t.start), some t.start⟩
      | _ => pure ⟨none, some (tagName, t.start), some t.start⟩
  | _ => pure {}

/-- Declares an anchor, which may be declared only once. -/
def declare (anchor : Option String) (start : Mark) : Read Unit := do
  match anchor with
  | none => pure ()
  | some name =>
      match (← get).declared.lookup name with
      | some first => fail (some (.firstAnchor name, some first)) .secondAnchor start
      | none => modify fun r => { r with declared := (name, start) :: r.declared }

/-- Completes the node under an anchor. -/
def complete (anchor : Option String) (n : Node) : Read Node := do
  match anchor with
  | none => pure n
  | some name => do
      modify fun r => { r with anchors := (name, n) :: r.anchors }
      pure n

/-- The absent node at a position. -/
def absent (mark : Mark) : Node :=
  .scalar Tag.null "" mark

/-- The tag of a collection, where none or a lone exclamation mark leaves the usual one. -/
def collectionTag (usual : String) : Option String → String
  | none => usual
  | some "!" => usual
  | some tag => tag

/-- The tag of a scalar. Quoting makes text, and a lone exclamation mark undoes it. -/
def scalarTag (text : String) (plain : Bool) : Option String → String
  | none => if plain then Tag.ofPlain text else Tag.str
  | some "!" => Tag.ofPlain text
  | some tag => tag

def endsBlockItem : TokenKind → Bool
  | .blockEntry | .blockEnd => true
  | _ => false

def endsBlockNode : TokenKind → Bool
  | .key | .value | .blockEnd => true
  | _ => false

def endsIndentlessItem (k : TokenKind) : Bool :=
  endsBlockItem k || endsBlockNode k

def endsFlowItem : TokenKind → Bool
  | .flowEntry | .flowSequenceEnd => true
  | _ => false

def endsFlowNode : TokenKind → Bool
  | .flowEntry | .flowMappingEnd => true
  | _ => false

mutual

/-- A node. Block collections are allowed where `block` holds, and entries without a sequence
start where `indentless` holds.
-/
def node (block indentless : Bool) : Nat → Read Node
  | 0 => do fail none .endOfText (← peek).start
  | fuel + 1 => do
      let t ← peek
      if let .aliasTo name := t.kind then
        let _ ← take
        if ((← get).declared.lookup name).isSome then pure (.aliasTo name)
        else fail none (.undefinedAlias name) t.start
      else
        let p ← properties
        let start := match p.start with
          | some m => m
          | none => t.start
        let tag ← match p.tag with
          | none => pure none
          | some (name, mark) => some <$> expandTag start mark name
        let t ← peek
        match t.kind with
        | .scalar text plain => do
            let _ ← take
            declare p.anchor start
            complete p.anchor (.scalar (scalarTag text plain tag) text start)
        | .flowSequenceStart => do
            let _ ← take
            declare p.anchor start
            let items ← flowSequence t.start true fuel
            complete p.anchor (.sequence (collectionTag Tag.seq tag) items start)
        | .flowMappingStart => do
            let _ ← take
            declare p.anchor start
            let entries ← flowMapping t.start true fuel
            complete p.anchor (.mapping (collectionTag Tag.map tag) entries start)
        | kind =>
            if indentless && kind = .blockEntry then do
              declare p.anchor start
              let items ← indentlessSequence fuel
              complete p.anchor (.sequence (collectionTag Tag.seq tag) items start)
            else if block && kind = .blockSequenceStart then do
              let _ ← take
              declare p.anchor start
              let items ← blockSequence t.start fuel
              complete p.anchor (.sequence (collectionTag Tag.seq tag) items start)
            else if block && kind = .blockMappingStart then do
              let _ ← take
              declare p.anchor start
              let entries ← blockMapping t.start fuel
              complete p.anchor (.mapping (collectionTag Tag.map tag) entries start)
            else if p.start.isSome then do
              declare p.anchor start
              complete p.anchor (.scalar (scalarTag "" true tag) "" start)
            else
              fail (some (if block then .blockNode else .flowNode, some start))
                (.expectedContent kind) t.start

/-- The items of a block sequence up to its end. -/
def blockSequence (start : Mark) : Nat → Read (List Node)
  | 0 => pure []
  | fuel + 1 => do
      let t ← peek
      match t.kind with
      | .blockEntry => do
          let _ ← take
          let item ← if ← at? endsBlockItem then pure (absent t.stop) else node true false fuel
          let items ← blockSequence start fuel
          pure (item :: items)
      | .blockEnd => do
          let _ ← take
          pure []
      | kind => fail (some (.blockCollection, some start)) (.expectedBlockEnd kind) t.start

/-- The items of a sequence that is not indented more than the key before it. -/
def indentlessSequence : Nat → Read (List Node)
  | 0 => pure []
  | fuel + 1 => do
      let t ← peek
      match t.kind with
      | .blockEntry => do
          let _ ← take
          let item ←
            if ← at? endsIndentlessItem then pure (absent t.stop) else node true false fuel
          let items ← indentlessSequence fuel
          pure (item :: items)
      | _ => pure []

/-- The entries of a block mapping up to its end. -/
def blockMapping (start : Mark) : Nat → Read (List (Node × Node))
  | 0 => pure []
  | fuel + 1 => do
      let t ← peek
      match t.kind with
      | .key => do
          let _ ← take
          let key ← if ← at? endsBlockNode then pure (absent t.stop) else node true true fuel
          let value ← blockValue fuel
          let entries ← blockMapping start fuel
          pure ((key, value) :: entries)
      | .blockEnd => do
          let _ ← take
          pure []
      | kind => fail (some (.blockMapping, some start)) (.expectedBlockEnd kind) t.start

/-- The value after a key of a block mapping. -/
def blockValue : Nat → Read Node
  | 0 => do pure (absent (← peek).start)
  | fuel + 1 => do
      let t ← peek
      match t.kind with
      | .value => do
          let _ ← take
          if ← at? endsBlockNode then pure (absent t.stop) else node true true fuel
      | _ => pure (absent t.start)

/-- The items of a flow sequence up to its end; a lone pair is a mapping of one entry. -/
def flowSequence (start : Mark) (first : Bool) : Nat → Read (List Node)
  | 0 => pure []
  | fuel + 1 => do
      let t ← peek
      if t.kind = .flowSequenceEnd then
        let _ ← take
        pure []
      else
        if !first then
          if t.kind = .flowEntry then
            let _ ← take
          else
            fail (some (.flowSequence, some start)) (.expectedSequenceEnd t.kind) t.start
        let t ← peek
        if t.kind = .flowSequenceEnd then
          let _ ← take
          pure []
        else
          let item ←
            if t.kind = .key then do
              let _ ← take
              let key ←
                if ← at? fun k => k = .value || endsFlowItem k then pure (absent t.stop)
                else node false false fuel
              let value ← flowValue endsFlowItem fuel
              pure (.mapping Tag.map [(key, value)] t.start)
            else node false false fuel
          let items ← flowSequence start false fuel
          pure (item :: items)

/-- The entries of a flow mapping up to its end; an item without a colon has the absent value. -/
def flowMapping (start : Mark) (first : Bool) : Nat → Read (List (Node × Node))
  | 0 => pure []
  | fuel + 1 => do
      let t ← peek
      if t.kind = .flowMappingEnd then
        let _ ← take
        pure []
      else
        if !first then
          if t.kind = .flowEntry then
            let _ ← take
          else
            fail (some (.flowMapping, some start)) (.expectedMappingEnd t.kind) t.start
        let t ← peek
        if t.kind = .flowMappingEnd then
          let _ ← take
          pure []
        else
          let (key, value) ←
            if t.kind = .key then do
              let _ ← take
              let key ←
                if ← at? fun k => k = .value || endsFlowNode k then pure (absent t.stop)
                else node false false fuel
              let value ← flowValue endsFlowNode fuel
              pure (key, value)
            else do
              let key ← node false false fuel
              pure (key, absent (← peek).start)
          let entries ← flowMapping start false fuel
          pure ((key, value) :: entries)

/-- The value after a key of a flow collection. -/
def flowValue (endsItem : TokenKind → Bool) : Nat → Read Node
  | 0 => do pure (absent (← peek).start)
  | fuel + 1 => do
      let t ← peek
      match t.kind with
      | .value => do
          let _ ← take
          if ← at? endsItem then pure (absent t.stop) else node false false fuel
      | _ => pure (absent t.start)

end

/-- Document end marks. -/
def skipDocumentEnds : Nat → Read Unit
  | 0 => pure ()
  | fuel + 1 => do
      if (← peek).kind = .documentEnd then
        let _ ← take
        skipDocumentEnds fuel

/-- The directives before a document: a version at most once, and tag handles. -/
def directives (versioned : Bool) (handles : List (String × String))
    : Nat → Read (List (String × String))
  | 0 => pure handles
  | fuel + 1 => do
      let t ← peek
      match t.kind with
      | .directive (.version major _) => do
          let _ ← take
          if versioned then fail none .duplicateVersion t.start
          else if major ≠ 1 then fail none .incompatibleVersion t.start
          else directives true handles fuel
      | .directive (.tag handle stem) => do
          let _ ← take
          if (handles.lookup handle).isSome then fail none (.duplicateHandle handle) t.start
          else directives versioned ((handle, stem) :: handles) fuel
      | .directive (.other _) => do
          let _ ← take
          directives versioned handles fuel
      | _ => pure handles

/-- An explicit document start, with the position of the document, or the end of the text. -/
def documentStart (fuel : Nat) : Read (Option Mark) := do
  skipDocumentEnds fuel
  let t ← peek
  if t.kind = .streamEnd then pure none
  else
    let handles ← directives false [] fuel
    modify fun r => { r with handles := handles ++ [("!", "!"), ("!!", Tag.stem)] }
    let u ← peek
    if u.kind = .documentStart then
      let _ ← take
      pure (some t.start)
    else fail none (.expectedDocumentStart u.kind) u.start

/-- Tokens after which an explicit document is empty. -/
def endsDocument : TokenKind → Bool
  | .directive _ | .documentStart | .documentEnd | .streamEnd => true
  | _ => false

/-- The only document of the tokens, or nothing if there is none. -/
def single (fuel : Nat) : Read (Option Document) := do
  let _ ← take
  let t ← peek
  let explicit := match t.kind with
    | .directive _ | .documentStart | .streamEnd => true
    | _ => false
  let begun ← if explicit then documentStart fuel else pure (some t.start)
  match begun with
  | none => pure none
  | some _ => do
      let u ← peek
      let root ←
        if explicit && endsDocument u.kind then pure (absent u.start) else node true false fuel
      let t ← peek
      if t.kind = .documentEnd then
        let _ ← take
      match ← documentStart fuel with
      | some mark => fail (some (.document, some root.start)) .secondDocument mark
      | none => pure (some ⟨root, (← get).anchors⟩)

/-- The only document of a text. Characters that may not stand in it are refused first. -/
def ofText (text : List Char) : Except Failure (Option Document) :=
  match text.findIdx? (!isAcceptable ·) with
  | some i => .error (.text (.unacceptable (text.getD i ' ') i))
  | none =>
      let (tokens, failure) := Token.scan text
      ((single (2 * tokens.length + 10)).run { tokens, failure }).map (·.1)

end BlogSnapshot.Yaml.Node
