import BlogSnapshot.Proofs.Yaml.Flow.Tokens

/-! The nodes of a line in flow style. Reading uses up the tokens of a tree and gives its node, and
leaves all that follows for the next step.
-/

namespace BlogSnapshot.Yaml

namespace Node

namespace Read

variable {α β : Type} {t : Token} {ts us : List Token} {a : α} {b : β}

/-- A step of reading uses up some tokens, whatever follows them, and has a result. -/
def Uses (ts : List Token) (a : α) (x : Read α) : Prop :=
  ∀ (r : Reading) (rest : List Token), r.tokens = ts ++ rest
    → x.run r = .ok (a, { r with tokens := rest })

/-- A step of reading looks at the next token and has a result. -/
def Sees (t : Token) (a : α) (x : Read α) : Prop :=
  ∀ (r : Reading) (rest : List Token), r.tokens = t :: rest → x.run r = .ok (a, r)

theorem Uses.pure (a : α) : Uses [] a (Pure.pure a : Read α) := by
  rintro r rest rfl
  rfl

theorem Uses.bind {x : Read α} {f : α → Read β} (first : Uses ts a x) (second : Uses us b (f a))
    : Uses (ts ++ us) b (x >>= f) := by
  intro r rest tokens
  rw [List.append_assoc] at tokens
  rw [StateT.run_bind, first r _ tokens]
  exact second _ rest rfl

theorem Uses.last {x : Read α} {f : α → Read β} (first : Uses ts a x) (second : Uses [] b (f a))
    : Uses ts b (x >>= f) := by
  have both := first.bind second
  rwa [List.append_nil] at both

theorem Sees.bind {x : Read α} {f : α → Read β} (first : Sees t a x)
    (second : Uses (t :: ts) b (f a))
    : Uses (t :: ts) b (x >>= f) := by
  intro r rest tokens
  rw [StateT.run_bind, first r _ tokens]
  exact second r rest tokens

theorem peek_sees (t : Token) : Sees t t peek := by
  intro r rest tokens
  simp only [peek, StateT.run_bind, StateT.run_get, pure_bind, tokens]
  rfl

theorem take_bind {f : Token → Read β} (second : Uses ts b (f t))
    : Uses (t :: ts) b (take >>= f) := by
  intro r rest tokens
  have seen := peek_sees t r (ts ++ rest) tokens
  rw [take, bind_assoc, StateT.run_bind, seen]
  refine second { r with tokens := r.tokens.tail } rest ?_
  rw [tokens]
  rfl

theorem at?_sees (p : TokenKind → Bool) (t : Token) : Sees t (p t.kind) (at? p) := by
  intro r rest tokens
  rw [at?, StateT.run_bind, peek_sees t r rest tokens]
  rfl

/-- Tokens that do not start a node by themselves. -/
def isProperty : TokenKind → Bool
  | .anchor _ | .tag _ => true
  | _ => false

theorem properties_sees {kind : TokenKind} (none : isProperty kind = false) (i n : Nat)
    : Sees (.inLine kind i n) {} properties := by
  intro r rest tokens
  rw [properties, StateT.run_bind, peek_sees _ r rest tokens]
  cases kind with
  | anchor | tag => cases none
  | _ => rfl

end Read

open Read

-----------------------------------------------------------------------------------------
-- Nodes
-----------------------------------------------------------------------------------------

theorem node_scalar (block indentless : Bool) (fuel i n : Nat) (s : String) (plain : Bool)
    : Uses [.inLine (.scalar s plain) i n] (.scalar (scalarTag s plain none) s (.inLine i))
        (node block indentless (fuel + 1)) := by
  unfold Node.node
  refine (peek_sees _).bind ((properties_sees rfl i n).bind ?_)
  extract_lets start goOn
  show Uses _ _ (goOn none)
  exact (peek_sees _).bind (take_bind (.pure _))

theorem node_sequence (block indentless : Bool) (fuel i : Nat) {ts : List Token} {items : List Node}
    (inside : Uses ts items (flowSequence (.inLine i) true fuel))
    : Uses (.inLine .flowSequenceStart i 1 :: ts) (.sequence Tag.seq items (.inLine i))
        (node block indentless (fuel + 1)) := by
  unfold Node.node
  refine (peek_sees _).bind ((properties_sees rfl i 1).bind ?_)
  extract_lets start goOn
  show Uses _ _ (goOn none)
  refine (peek_sees _).bind (take_bind ?_)
  exact (Uses.pure ()).bind (inside.last (.pure _))

theorem node_mapping (block indentless : Bool) (fuel i : Nat) {ts : List Token}
    {entries : List (Node × Node)} (inside : Uses ts entries (flowMapping (.inLine i) true fuel))
    : Uses (.inLine .flowMappingStart i 1 :: ts) (.mapping Tag.map entries (.inLine i))
        (node block indentless (fuel + 1)) := by
  unfold Node.node
  refine (peek_sees _).bind ((properties_sees rfl i 1).bind ?_)
  extract_lets start goOn
  show Uses _ _ (goOn none)
  refine (peek_sees _).bind (take_bind ?_)
  exact (Uses.pure ()).bind (inside.last (.pure _))

-----------------------------------------------------------------------------------------
-- Collections
-----------------------------------------------------------------------------------------

/-- Kinds of tokens that a node in flow style starts with. -/
def startsNode : TokenKind → Bool
  | .flowSequenceStart | .flowMappingStart | .scalar _ false => true
  | _ => false

/-- Tokens that start with the first one of a node. -/
def StartsNode (ts : List Token) : Prop :=
  ∃ t rest, ts = t :: rest ∧ startsNode t.kind = true

/-- The comma before an item, or nothing before the first one. -/
def comma (first : Bool) (i : Nat) : List Token :=
  if first then [] else [.inLine .flowEntry i 1]

section

variable (start : Mark) (first : Bool) (fuel i : Nat) {ts us : List Token} {item value : Node}
  {items : List Node} {entries : List (Node × Node)}

theorem flowSequence_end
    : Uses [.inLine .flowSequenceEnd i 1] [] (flowSequence start first (fuel + 1)) := by
  unfold Node.flowSequence
  exact (peek_sees _).bind (take_bind (.pure _))

theorem flowMapping_end
    : Uses [.inLine .flowMappingEnd i 1] [] (flowMapping start first (fuel + 1)) := by
  unfold Node.flowMapping
  exact (peek_sees _).bind (take_bind (.pure _))

theorem flowSequence_item (starts : StartsNode ts) (inside : Uses ts item (node false false fuel))
    (later : Uses us items (flowSequence start false fuel))
    : Uses (comma first i ++ (ts ++ us)) (item :: items) (flowSequence start first (fuel + 1)) := by
  obtain ⟨t, rest, rfl, starts⟩ := starts
  have noEnd : t.kind ≠ .flowSequenceEnd := fun same => by rw [same] at starts; cases starts
  have noKey : t.kind ≠ .key := fun same => by rw [same] at starts; cases starts
  unfold Node.flowSequence
  extract_lets afterItem afterComma
  have onward : Uses (t :: rest ++ us) (item :: items) (afterComma ()) := by
    refine (peek_sees t).bind ?_
    rw [if_neg noEnd, if_neg noKey]
    exact inside.bind (later.last (.pure _))
  cases first with
  | true =>
      refine (peek_sees t).bind ?_
      rw [if_neg noEnd]
      exact onward
  | false => exact (peek_sees _).bind (take_bind onward)

theorem flowValue_node (starts : StartsNode ts) (inside : Uses ts value (node false false fuel))
    : Uses (.inLine .value i 1 :: ts) value (flowValue endsFlowNode (fuel + 1)) := by
  obtain ⟨t, rest, rfl, starts⟩ := starts
  have inner : endsFlowNode t.kind = false := by
    revert starts
    cases t.kind with
    | flowEntry | flowMappingEnd => exact nofun
    | _ => exact fun _ => rfl
  unfold Node.flowValue
  refine (peek_sees _).bind (take_bind ((at?_sees _ t).bind ?_))
  rw [inner]
  exact inside

theorem flowMapping_entry (j n k : Nat) (name : String) (starts : StartsNode ts)
    (inside : Uses ts value (node false false fuel))
    (later : Uses us entries (flowMapping start false (fuel + 1)))
    : Uses
        (comma first i
          ++ (.inLine .key j 0 :: .inLine (.scalar name true) j n :: .inLine .value k 1
            :: ts ++ us))
        ((.scalar (scalarTag name true none) name (.inLine j), value) :: entries)
        (flowMapping start first (fuel + 2)) := by
  have valued := flowValue_node fuel k starts inside
  unfold Node.flowMapping
  extract_lets afterEntry afterKey afterComma
  have onward : Uses
      (.inLine .key j 0 :: .inLine (.scalar name true) j n :: .inLine .value k 1 :: ts ++ us)
      ((.scalar (scalarTag name true none) name (.inLine j), value) :: entries)
      (afterComma ()) := by
    refine (peek_sees _).bind (take_bind ((at?_sees _ _).bind ?_))
    exact (node_scalar false false fuel j n name true).bind
      (valued.bind ((Uses.pure _).bind (later.last (.pure _))))
  cases first with
  | true => exact (peek_sees _).bind onward
  | false => exact (peek_sees _).bind (take_bind onward)

end

/-- A reader of collections that ends at a closing token, and reads what is written as a part. -/
structure ReadsParts {α β : Type} (read : Bool → Nat → Read (List β)) (close : Nat → Token)
    (pieces : α → List Piece) (build : Nat → α → β) (parts : List α)
    : Prop where
  ending : ∀ first fuel i, Uses [close i] [] (read first (fuel + 1))
  part : ∀ a ∈ parts, ∀ (first : Bool) (fuel i j : Nat) (ts : List Token) (bs : List β),
    (Piece.lineTokens j (pieces a)).length ≤ fuel → Uses ts bs (read false fuel)
    → Uses (comma first i ++ (Piece.lineTokens j (pieces a) ++ ts)) (build j a :: bs)
        (read first (fuel + 1))
  solid : ∀ a ∈ parts, pieces a ≠ []

theorem length_lineTokens_pos {ps : List Piece} (solid : ps ≠ []) (i : Nat)
    : 0 < (Piece.lineTokens i ps).length := by
  obtain ⟨p, rest, rfl⟩ := List.exists_cons_of_ne_nil solid
  cases p <;> simp [Piece.lineTokens, Piece.tokens]

section

variable {α β : Type} {read : Bool → Nat → Read (List β)} {close : Nat → Token}
  {pieces : α → List Piece} {build : Nat → α → β}

theorem ReadsParts.tail {a : α} {parts : List α}
    (reads : ReadsParts read close pieces build (a :: parts))
    : ReadsParts read close pieces build parts where
  ending := reads.ending
  part b member := reads.part b (List.mem_cons_of_mem a member)
  solid b member := reads.solid b (List.mem_cons_of_mem a member)

/-- A part and those after it, the first of which stands at a later position. -/
theorem ReadsParts.cons {a : α} {parts : List α}
    (reads : ReadsParts read close pieces build (a :: parts)) (first : Bool) {fuel i j width : Nat}
    {ts : List Token} (enough : (Piece.lineTokens j (pieces a)).length ≤ fuel)
    (later : Uses
      (ts ++ [close (j + Piece.lineWidth (pieces a) + width)])
      ((Flow.place (fun a => Piece.lineWidth (pieces a)) (j + Piece.lineWidth (pieces a) + 2)
        parts).map fun p => build p.1 p.2)
      (read false fuel))
    : Uses
        (comma first i ++ (Piece.lineTokens j (pieces a) ++ ts)
          ++ [close (j + (Piece.lineWidth (pieces a) + width))])
        ((Flow.place (fun a => Piece.lineWidth (pieces a)) j (a :: parts)).map fun p =>
          build p.1 p.2)
        (read first (fuel + 1)) := by
  have step := reads.part a List.mem_cons_self first fuel i j _ _ enough later
  simpa [Flow.place, Nat.add_assoc] using step

/-- The parts after the first one, by induction on them. -/
theorem ReadsParts.rest {parts : List α} (reads : ReadsParts read close pieces build parts)
    (i : Nat) {fuel : Nat}
    (enough :
      (Piece.lineTokens i ((parts.map pieces).flatMap (Piece.comma :: ·))).length < fuel)
    : Uses
        (Piece.lineTokens i ((parts.map pieces).flatMap (Piece.comma :: ·))
          ++ [close (i + Piece.lineWidth ((parts.map pieces).flatMap (Piece.comma :: ·)))])
        ((Flow.place (fun a => Piece.lineWidth (pieces a)) (i + 2) parts).map fun p =>
          build p.1 p.2)
        (read false fuel) := by
  induction parts generalizing i fuel with
  | nil =>
      obtain ⟨fuel, rfl⟩ := Nat.exists_eq_add_one.mpr (show 0 < fuel by omega)
      exact reads.ending false fuel i
  | cons a parts ih =>
      have width : Piece.comma.width = 2 := rfl
      have tokens : Piece.comma.tokens i = comma false i := rfl
      have one : (comma false i).length = 1 := rfl
      simp only [List.map_cons, List.flatMap_cons, List.cons_append, Piece.lineTokens_append,
        Piece.lineTokens, Piece.lineWidth_cons, Piece.lineWidth_append, width, tokens, one,
        List.length_append, ← Nat.add_assoc i 2] at enough ⊢
      obtain ⟨fuel, rfl⟩ := Nat.exists_eq_add_one.mpr (show 0 < fuel by omega)
      exact reads.cons false (by omega) (ih reads.tail _ (by omega))

/-- The parts of a collection up to its end. -/
theorem ReadsParts.all {parts : List α} (reads : ReadsParts read close pieces build parts)
    (i : Nat) {fuel : Nat}
    (enough : (Piece.lineTokens i (Piece.commas (parts.map pieces))).length < fuel)
    : Uses
        (Piece.lineTokens i (Piece.commas (parts.map pieces))
          ++ [close (i + Piece.lineWidth (Piece.commas (parts.map pieces)))])
        ((Flow.place (fun a => Piece.lineWidth (pieces a)) i parts).map fun p => build p.1 p.2)
        (read true fuel) := by
  obtain ⟨fuel, rfl⟩ := Nat.exists_eq_add_one.mpr (show 0 < fuel by omega)
  cases parts with
  | nil => exact reads.ending true fuel i
  | cons a parts =>
      have solid := length_lineTokens_pos (reads.solid a List.mem_cons_self) i
      simp only [List.map_cons, Piece.commas, Piece.lineTokens_append, Piece.lineWidth_append,
        List.length_append] at enough ⊢
      exact reads.cons true (i := i) (by omega) (reads.tail.rest _ (by omega))

end

end Node

-----------------------------------------------------------------------------------------
-- Trees
-----------------------------------------------------------------------------------------

namespace Flow

open Node Node.Read Token.Scanner

/-- Texts can be read between their quotes, and the keys of a mapping are plain and distinct. -/
inductive WellFormed : Flow → Prop
  | text {escaped : Bool} {s : String} (quotable : Token.IsQuotable escaped s.toList)
      : WellFormed (.text escaped s)
  | list {items : List Flow} (each : ∀ t ∈ items, WellFormed t) : WellFormed (.list items)
  | map {entries : List (String × Flow)} (keys : ∀ e ∈ entries, Token.IsPlainKey e.1)
      (distinct : (entries.map (·.1)).Nodup) (each : ∀ e ∈ entries, WellFormed e.2)
      : WellFormed (.map entries)

/-- What is written starts with a bracket or a quote. -/
theorem exists_pieces (t : Flow)
    : ∃ p rest, t.pieces = p :: rest
      ∧ ((∃ isMap, p = .opening isMap) ∨ ∃ escaped s, p = .quoted escaped s) := by
  cases t with
  | text escaped s => exact ⟨_, _, by rw [pieces], .inr ⟨escaped, s, rfl⟩⟩
  | list items => exact ⟨_, _, by rw [pieces]; rfl, .inl ⟨false, rfl⟩⟩
  | map entries => exact ⟨_, _, by rw [pieces]; rfl, .inl ⟨true, rfl⟩⟩

theorem pieces_ne_nil (t : Flow) : t.pieces ≠ [] := by
  obtain ⟨p, rest, written, _⟩ := t.exists_pieces
  rw [written]
  exact List.cons_ne_nil p rest

theorem startsNode_lineTokens (t : Flow) (i : Nat) : StartsNode (Piece.lineTokens i t.pieces) := by
  obtain ⟨p, rest, written, kind⟩ := t.exists_pieces
  rw [written, Piece.lineTokens]
  rcases kind with ⟨isMap, rfl⟩ | ⟨escaped, s, rfl⟩
  · cases isMap <;> exact ⟨_, _, rfl, rfl⟩
  · exact ⟨_, _, rfl, rfl⟩

theorem lineTokens_inBrackets (isMap : Bool) (parts : List (List Piece)) (i : Nat)
    : Piece.lineTokens i (Piece.inBrackets isMap parts)
      = (Piece.opening isMap).tokens i ++ (Piece.lineTokens (i + 1) (Piece.commas parts)
        ++ (Piece.closing isMap).tokens (i + 1 + Piece.lineWidth (Piece.commas parts))) := by
  have width : (Piece.opening isMap).width = 1 := rfl
  simp [Piece.inBrackets, Piece.lineTokens, Piece.lineTokens_append, width]

/-- A part can stand where a key may start. -/
def Fits (level : Nat) (part : List Piece) : Prop :=
  ∀ rest, InOrder level false rest → InOrder level true (part ++ rest)

/-- A collection is in order if its parts are, by induction on those after the first one. -/
theorem inOrder_inBrackets (isMap : Bool) {parts : List (List Piece)} {level : Nat}
    (each : ∀ part ∈ parts, Fits (level + 1) part) {rest : List Piece}
    (after : InOrder level false rest) (allowed : Bool)
    : InOrder level allowed (Piece.inBrackets isMap parts ++ rest) := by
  have closed : InOrder (level + 1) false (.closing isMap :: rest) := after
  rw [Piece.inBrackets, List.cons_append, List.cons_append, List.append_assoc]
  cases parts with
  | nil => exact after
  | cons part parts =>
      obtain ⟨fits, others⟩ := List.forall_mem_cons.mp each
      rw [Piece.commas, List.append_assoc]
      refine fits _ ?_
      induction parts with
      | nil => exact closed
      | cons next parts ih =>
          obtain ⟨fits', others⟩ := List.forall_mem_cons.mp others
          rw [List.flatMap_cons, List.cons_append, List.cons_append, List.append_assoc]
          exact fits' _ (ih (List.forall_mem_cons.mpr ⟨fits, others⟩) others)

/-- The tokens of a tree are read as its node wherever it stands. -/
def Reads (t : Flow) : Prop :=
  ∀ (block indentless : Bool) (i fuel : Nat), (Piece.lineTokens i t.pieces).length ≤ fuel
    → Uses (Piece.lineTokens i t.pieces) (t.node i) (Node.node block indentless fuel)

theorem readsItems (start : Mark) {items : List Flow} (each : ∀ t ∈ items, Reads t)
    : ReadsParts (flowSequence start) (.inLine .flowSequenceEnd · 1) pieces (fun j t => t.node j)
        items where
  ending first fuel i := flowSequence_end start first fuel i
  part t member first fuel i j _ _ enough later :=
    flowSequence_item start first fuel i (t.startsNode_lineTokens j)
      (each t member false false j fuel enough) later
  solid t _ := t.pieces_ne_nil

theorem readsEntries (start : Mark) {entries : List (String × Flow)}
    (keys : ∀ e ∈ entries, Token.IsPlainKey e.1) (each : ∀ e ∈ entries, Reads e.2)
    : ReadsParts (flowMapping start) (.inLine .flowMappingEnd · 1) entryPieces
        (fun j e => (.scalar Tag.str e.1 (.inLine j), e.2.node (j + (Piece.key e.1).width)))
        entries where
  ending first fuel i := flowMapping_end start first fuel i
  part e member first fuel i j ts ns enough later := by
    rw [entryPieces, Piece.lineTokens, List.length_append] at enough
    have three : ((Piece.key e.1).tokens j).length = 3 := rfl
    obtain ⟨fuel, rfl⟩ := Nat.exists_eq_add_one.mpr (show 0 < fuel by omega)
    have isText : scalarTag e.1 true none = Tag.str := (keys e member).isText
    have value := each e member false false (j + (Piece.key e.1).width) fuel (by omega)
    have entry := flowMapping_entry start first fuel i j e.1.length (j + e.1.length) e.1
      (e.2.startsNode_lineTokens _) value later
    rw [isText] at entry
    exact entry
  solid e _ := List.cons_ne_nil _ _

/-- The tokens of a tree are read as its node, by induction on the tree. -/
theorem WellFormed.reads {t : Flow} (wellFormed : t.WellFormed) : Reads t := by
  induction wellFormed with
  | @text escaped s quotable =>
      intro block indentless i fuel enough
      rw [pieces] at enough ⊢
      have one : (Piece.lineTokens i [.quoted escaped s]).length = 1 := rfl
      obtain ⟨fuel, rfl⟩ := Nat.exists_eq_add_one.mpr (show 0 < fuel by omega)
      rw [Flow.node]
      exact node_scalar block indentless fuel i _ s false
  | @list items each ih =>
      intro block indentless i fuel enough
      rw [pieces_list, lineTokens_inBrackets] at enough ⊢
      simp only [List.length_append, Piece.tokens, List.length_singleton] at enough
      obtain ⟨fuel, rfl⟩ := Nat.exists_eq_add_one.mpr (show 0 < fuel by omega)
      rw [node_list]
      exact node_sequence block indentless fuel i ((readsItems _ ih).all (i + 1) (by omega))
  | @map entries keys distinct each ih =>
      intro block indentless i fuel enough
      rw [pieces_map, lineTokens_inBrackets] at enough ⊢
      simp only [List.length_append, Piece.tokens, List.length_singleton] at enough
      obtain ⟨fuel, rfl⟩ := Nat.exists_eq_add_one.mpr (show 0 < fuel by omega)
      rw [node_map]
      exact node_mapping block indentless fuel i ((readsEntries _ keys ih).all (i + 1) (by omega))

/-- The pieces of a tree are in order wherever it stands, by induction on the tree. -/
theorem WellFormed.inOrder {t : Flow} (wellFormed : t.WellFormed) {level : Nat} {rest : List Piece}
    (after : InOrder level false rest) (allowed : Bool)
    : InOrder level allowed (t.pieces ++ rest) := by
  induction wellFormed generalizing level rest allowed with
  | @text escaped s quotable =>
      rw [pieces]
      exact ⟨quotable, after⟩
  | @list items each ih =>
      rw [pieces_list]
      refine inOrder_inBrackets false (List.forall_mem_map.mpr fun t member => ?_) after allowed
      exact fun rest after => ih t member after true
  | @map entries keys distinct each ih =>
      rw [pieces_map]
      refine inOrder_inBrackets true (List.forall_mem_map.mpr fun e member => ?_) after allowed
      exact fun rest after => ⟨Nat.succ_ne_zero level, rfl, keys e member, ih e member after false⟩

end Flow

-----------------------------------------------------------------------------------------
-- Documents
-----------------------------------------------------------------------------------------

open Node Node.Read

/-- A step of reading takes a state to another one with a result. -/
def Node.Read.Runs {α : Type} (r : Reading) (x : Read α) (a : α) (r' : Reading) : Prop :=
  x.run r = .ok (a, r')

theorem Node.Read.Runs.bind {α β : Type} {r r' r'' : Reading} {x : Read α} {f : α → Read β} {a : α}
    {b : β} (first : Runs r x a r') (second : Runs r' (f a) b r'')
    : Runs r (x >>= f) b r'' := by
  rw [Runs, StateT.run_bind, first]
  exact second

/-- The only document whose tokens are those of a node. -/
theorem Node.run_single {ts : List Token} {n : Node} {fuel : Nat} (starts : StartsNode ts)
    (reads : Uses ts n (node true false (fuel + 1))) (i : Nat) (failure : Option Failure)
    : Runs { tokens := .inLine .streamStart 0 0 :: ts ++ [.inLine .streamEnd i 0], failure }
        (single (fuel + 1)) (some ⟨n, []⟩) { tokens := [.inLine .streamEnd i 0], failure } := by
  obtain ⟨t, rest, rfl, starts⟩ := starts
  let begun : Reading := { tokens := t :: rest ++ [.inLine .streamEnd i 0], failure }
  let ended : Reading := { tokens := [.inLine .streamEnd i 0], failure }
  have read : Runs begun (node true false (fuel + 1)) n ended := reads begun _ rfl
  have seen : Runs begun peek t begun := peek_sees t begun _ rfl
  unfold single
  refine Runs.bind rfl (seen.bind ?_)
  extract_lets explicit close opened
  have implicit : explicit = false := by
    revert starts
    cases kind : t.kind with
    | directive | documentStart | streamEnd => exact nofun
    | _ => simp [explicit, kind]
  have closes : Runs ended (close n) (some ⟨n, []⟩) ended := rfl
  rw [implicit]
  show Runs begun (opened (some t.start)) _ _
  refine seen.bind ?_
  rw [implicit]
  exact read.bind closes

/-- The text of a tree. -/
def Flow.lineText (t : Flow) : List Char :=
  Piece.lineText t.pieces

theorem Flow.WellFormed.inOrder_pieces {t : Flow} (wellFormed : t.WellFormed)
    : Token.Scanner.InOrder 0 true t.pieces := by
  have nothing : Token.Scanner.InOrder 0 false [] := trivial
  have alone := wellFormed.inOrder nothing true
  rwa [List.append_nil] at alone

theorem Flow.WellFormed.visible {t : Flow} (wellFormed : t.WellFormed)
    : ∀ c ∈ t.lineText, isVisible c = true :=
  wellFormed.inOrder_pieces.visible

/-- The text of a tree is read as a document of its node. -/
theorem Flow.WellFormed.ofText_lineText {t : Flow} (wellFormed : t.WellFormed)
    : Node.ofText t.lineText = .ok (some ⟨t.node 0, []⟩) := by
  have acceptable : ∀ c ∈ t.lineText, isAcceptable c = true := fun c member =>
    isAcceptable_of_isVisible (wellFormed.visible c member)
  rw [ofText_eq acceptable, Flow.lineText, Token.scan_lineText wellFormed.inOrder_pieces, ofTokens]
  have read := run_single (t.startsNode_lineTokens 0)
    (wellFormed.reads true false 0
      (2 * (Piece.lineTokens 0 t.pieces).length + 14) (by omega)) (Piece.lineWidth t.pieces) none
  have fuel : 2 * (Token.inLine .streamStart 0 0 :: Piece.lineTokens 0 t.pieces
      ++ [Token.inLine .streamEnd (Piece.lineWidth t.pieces) 0]).length + 10
      = 2 * (Piece.lineTokens 0 t.pieces).length + 14 := by
    simp
    omega
  rw [fuel, read]
  rfl

end BlogSnapshot.Yaml
