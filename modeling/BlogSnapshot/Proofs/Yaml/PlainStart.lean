import BlogSnapshot.Proofs.Steps
import BlogSnapshot.Proofs.Yaml.Ordinary
import BlogSnapshot.Yaml.Token.Scan

/-! What a plain scalar starts with. Its first character is the one at which the scanner found it
to be plain, so that it begins with none of the marks of tags, anchors and aliases.
-/

namespace BlogSnapshot.Yaml

/-- A plain scalar does not start with the mark of a tag, an anchor or an alias. -/
def TokenKind.StartsPlain : TokenKind → Prop
  | .scalar s true => s.toList.head?.any isPropertyMark = false
  | _ => True

namespace Token

-----------------------------------------------------------------------------------------
-- Scalars
-----------------------------------------------------------------------------------------

theorem head?_plainRun (flow : Bool) (mark : Mark) (rest : List Char)
    : (plainRun flow mark rest).1 = [] ∨ (plainRun flow mark rest).1.head? = rest.head? := by
  cases rest with
  | nil => exact .inl rfl
  | cons d rest =>
      unfold plainRun
      split
      · exact .inl rfl
      · exact .inr rfl

/-- The text of a plain scalar is empty or starts with the character at the cursor. -/
theorem head?_plainText (flow : Bool) (indent : Int) (stop : Mark) (ended : Bool) (fuel : Nat)
    (c : Cursor)
    : (plainText flow indent [] stop ended fuel c).text = []
      ∨ (plainText flow indent [] stop ended fuel c).text.head? = c.peek := by
  cases fuel with
  | zero => exact .inl rfl
  | succ fuel =>
      unfold plainText
      have head : (if c.peek = some '#' then ([], c) else plainRun flow c.mark c.rest).1 = []
          ∨ (if c.peek = some '#' then ([], c) else plainRun flow c.mark c.rest).1.head?
            = c.peek := by
        split
        · exact .inl rfl
        · exact head?_plainRun flow c.mark c.rest
      generalize (if c.peek = some '#' then ([], c) else plainRun flow c.mark c.rest) = first
        at head ⊢
      obtain ⟨run, c'⟩ := first
      dsimp only at head ⊢
      cases run with
      | nil => exact .inl rfl
      | cons d run =>
          rcases head with nothing | head
          · cases nothing
          · refine .inr (Eq.trans ?_ head)
            simp only [List.isEmpty_cons, Bool.false_eq_true, ↓reduceIte]
            split <;> rfl

/-- A token of a scalar, a property or a directive that is read at a cursor. -/
abbrev Reads (x : Except Failure (Token × Cursor)) : Prop :=
  Yields (fun read : Token × Cursor => read.1.kind.StartsPlain) x

theorem anchor_starts (isAlias : Bool) (c : Cursor)
    : Reads ((anchor isAlias c).mapError .text) := by
  refine .mapError ?_
  unfold anchor
  dsimp only
  refine .ite (fun _ => .error _) fun _ => .ok ?_
  cases isAlias <;> trivial

theorem tag_starts (c : Cursor) : Reads ((tag c).mapError .text) := by
  refine .mapError ?_
  unfold tag
  -- However its name is written, a tag ends alike.
  extract_lets start finish afterHandle
  have ended (named : TagName × Cursor)
      : Yields (fun read : Token × Cursor => read.1.kind.StartsPlain) (finish named) :=
    .ite (fun _ => .ok trivial) fun _ => .error _
  refine .ite (fun _ => .after fun _ => .ite (fun _ => .after ended) fun _ => .after ended) ?_
  have handled (handle : String × Cursor)
      : Yields (fun read : Token × Cursor => read.1.kind.StartsPlain) (afterHandle handle) :=
    .after fun _ => .after ended
  exact fun _ => .ite (fun _ => .after ended) fun _ =>
    .ite (fun _ => .after handled) fun _ => .after handled

theorem quoted_starts (double : Bool) (c : Cursor) : Reads (quoted double c) :=
  .after fun _ => .ok trivial

theorem directive_starts (c : Cursor) : Reads (directive c) := by
  unfold directive
  dsimp only
  refine .ite (fun _ => .mapError (.error _)) fun _ => ?_
  have onward (d : Directive) (c : Cursor) (start stop : Mark)
      : Reads
          (if isLineEnd c.peek then pure (⟨.directive d, start, stop⟩, c.lineBreak.2)
          else (c.expects .directive start .lineEnd).mapError .text) :=
    .ite (fun _ => .ok trivial) fun _ => .mapError (.error _)
  exact .ite (fun _ => .after fun (d, c) => onward d _ _ _) fun _ =>
    .ite (fun _ => .after fun (d, c) => onward d _ _ _) fun _ =>
      .after fun (d, c) => onward d _ _ _

theorem block_starts (folded : Bool) (indent : Int) (c : Cursor)
    : Yields (fun read : Token × Cursor => read.1.kind.StartsPlain) (block folded indent c) := by
  unfold block
  exact .after fun _ => .after fun _ => .ok trivial

namespace Scanner

variable {s : Scanner}

/-- The tokens that are held back start as their kinds do. -/
def Sound (s : Scanner) : Prop :=
  ∀ t ∈ s.queue, t.kind.StartsPlain

-----------------------------------------------------------------------------------------
-- Tokens that are added
-----------------------------------------------------------------------------------------

theorem Sound.of_queue_eq {s' : Scanner} (sound : s.Sound) (same : s'.queue = s.queue) : s'.Sound :=
  fun t member => sound t (same ▸ member)

theorem Sound.push (sound : s.Sound) {t : Token} (starts : t.kind.StartsPlain)
    : (s.push t).Sound := by
  intro u member
  rcases List.mem_append.mp member with member | member
  · exact sound u member
  · rwa [List.mem_singleton.mp member]

theorem Sound.pushHere (sound : s.Sound) (kind : TokenKind) (starts : kind.StartsPlain)
    : (s.pushHere kind).Sound :=
  sound.push starts

theorem Sound.pushNext (sound : s.Sound) (kind : TokenKind) (starts : kind.StartsPlain) (n : Nat)
    : (s.pushNext kind n).Sound :=
  (sound.push (t := ⟨kind, s.cursor.mark, (s.cursor.skip n).mark⟩) starts).of_queue_eq rfl

theorem Sound.insertAt (sound : s.Sound) {t : Token} (starts : t.kind.StartsPlain) (number : Nat)
    : (s.insertAt number t).Sound := by
  intro u member
  rcases List.mem_append.mp member with member | member
  · exact sound u (List.mem_of_mem_take member)
  · rcases List.mem_cons.mp member with rfl | member
    · exact starts
    · exact sound u (List.mem_of_mem_drop member)

/-- Closing blocks adds their ends, by induction on the blocks. -/
theorem Sound.unwindTo (column : Int) (indents : List Int) (sound : s.Sound)
    : (Scanner.unwindTo column indents s).Sound := by
  induction indents generalizing s with
  | nil => exact sound
  | cons outer indents ih =>
      unfold Scanner.unwindTo
      split
      · exact ih (Sound.pushHere (sound.of_queue_eq rfl) .blockEnd trivial)
      · exact sound

theorem Sound.unwind (sound : s.Sound) (column : Int) : (s.unwind column).Sound := by
  unfold Scanner.unwind
  split
  · exact sound.unwindTo column _
  · exact sound

theorem Sound.openBlock (sound : s.Sound) (column : Int) {add : Scanner → Scanner}
    (adds : ∀ s : Scanner, s.Sound → (add s).Sound)
    : (s.openBlock column add).Sound := by
  unfold Scanner.openBlock
  split
  · exact adds _ (sound.of_queue_eq rfl)
  · exact sound

/-- White space adds no token, by induction on the fuel. -/
theorem Sound.skipToToken (sound : s.Sound) (fuel : Nat)
    : (Scanner.skipToToken fuel s).Sound := by
  induction fuel generalizing s with
  | zero => exact sound
  | succ fuel ih =>
      unfold Scanner.skipToToken
      dsimp only
      split
      · exact ih (sound.of_queue_eq rfl)
      · exact sound.of_queue_eq rfl

theorem Sound.skipByteOrderMark (sound : s.Sound) : s.skipByteOrderMark.Sound := by
  unfold Scanner.skipByteOrderMark
  split
  · exact sound.of_queue_eq rfl
  · exact sound

-----------------------------------------------------------------------------------------
-- Possible keys
-----------------------------------------------------------------------------------------

/-- A change of the possible keys leaves the tokens and the cursor. -/
def ChangesKeys (s s' : Scanner) : Prop :=
  s'.queue = s.queue ∧ s'.cursor = s.cursor

theorem missingColon_yields {P : α → Prop} (s : Scanner) (k : SimpleKey)
    : Yields P (s.missingColon k : Except Error α) :=
  .error _

theorem dropStaleKeys_changes (s : Scanner) : Yields s.ChangesKeys s.dropStaleKeys := by
  unfold dropStaleKeys
  dsimp only
  split
  · exact missingColon_yields _ _
  · exact .ok ⟨rfl, rfl⟩

theorem removeKey_changes (s : Scanner) : Yields s.ChangesKeys s.removeKey := by
  unfold removeKey
  split
  · exact .ok ⟨rfl, rfl⟩
  · exact .ite (fun _ => missingColon_yields _ _) fun _ => .ok ⟨rfl, rfl⟩

theorem saveKey_changes (s : Scanner) : Yields s.ChangesKeys s.saveKey := by
  unfold saveKey
  exact .ite (fun _ => (removeKey_changes s).bind fun _ same => .ok same) fun _ => .ok ⟨rfl, rfl⟩

/-- Going on from a change of the keys. -/
theorem Sound.after_keys (sound : s.Sound) {x : Except Error Scanner} {P : α → Prop}
    (changes : Yields s.ChangesKeys x) {f : Scanner → Except Error α}
    (next : ∀ s' : Scanner, s'.Sound → s'.cursor = s.cursor → Yields P (f s'))
    : Yields P (x >>= f) :=
  changes.bind fun s' same => next s' (sound.of_queue_eq same.1) same.2

-----------------------------------------------------------------------------------------
-- Tokens that are fetched
-----------------------------------------------------------------------------------------

theorem Sound.streamEnd (sound : s.Sound) : Yields Sound s.streamEnd :=
  (sound.unwind (-1)).after_keys (removeKey_changes _) fun _ kept _ =>
    .ok (Sound.of_queue_eq (Sound.pushHere (kept.of_queue_eq rfl) .streamEnd trivial) rfl)

theorem Sound.endBlocks (sound : s.Sound) : Yields Sound s.endBlocks :=
  (sound.unwind (-1)).after_keys (removeKey_changes _) fun _ kept _ => .ok (kept.of_queue_eq rfl)

theorem Sound.flowStart (sound : s.Sound) {kind : TokenKind} (starts : kind.StartsPlain)
    : Yields Sound (s.flowStart kind) :=
  sound.after_keys (saveKey_changes s) fun _ kept _ =>
    .ok (Sound.pushNext (kept.of_queue_eq rfl) _ starts 1)

theorem Sound.flowEnd (sound : s.Sound) {kind : TokenKind} (starts : kind.StartsPlain)
    : Yields Sound (s.flowEnd kind) :=
  sound.after_keys (removeKey_changes s) fun _ kept _ =>
    .ok (Sound.pushNext (kept.of_queue_eq rfl) _ starts 1)

/-- An indicator ends the possible key before it. -/
theorem Sound.indicator {s' : Scanner} (sound : s.Sound) (same : s'.queue = s.queue)
    {kind : TokenKind} (starts : kind.StartsPlain)
    : Yields Sound (s'.removeKey >>= fun s => pure (s.pushNext kind 1)) :=
  (sound.of_queue_eq same).after_keys (removeKey_changes s') fun _ kept _ =>
    .ok (kept.pushNext _ starts 1)

theorem Sound.flowEntry (sound : s.Sound) : Yields Sound s.flowEntry :=
  sound.indicator (by rfl) (by trivial)

/-- What goes on inside of a flow collection, or in a block that is opened where none is. -/
theorem Sound.opening (sound : s.Sound) (kind : TokenKind) (starts : kind.StartsPlain)
    {problem : Problem} {goOn : Scanner → Except Error Scanner}
    (next : ∀ s : Scanner, s.Sound → Yields Sound (goOn s))
    : Yields Sound
        (if s.flowLevel ≠ 0 then pure s >>= goOn
        else if s.keyAllowed then pure (s.openBlock s.column (·.pushHere kind)) >>= goOn
        else s.notAllowed problem >>= goOn) := by
  refine .ite (fun _ => next s sound) fun _ => .ite (fun _ => next _ ?_) fun _ => .error _
  exact sound.openBlock _ fun _ kept => kept.pushHere kind starts

theorem Sound.blockEntry (sound : s.Sound) : Yields Sound s.blockEntry :=
  sound.opening .blockSequenceStart trivial fun _ kept =>
    kept.indicator (by rfl) (by trivial)

theorem Sound.key (sound : s.Sound) : Yields Sound s.key :=
  sound.opening .blockMappingStart trivial fun _ kept =>
    kept.indicator (by rfl) (by trivial)

theorem Sound.value (sound : s.Sound) : Yields Sound s.value := by
  unfold Scanner.value
  split
  case h_1 k _ =>
    refine .ok (Sound.pushNext (Sound.of_queue_eq ?_ rfl) .value trivial 1)
    have keyed : (Scanner.insertAt { s with keys := s.keys.filter (·.1 ≠ s.flowLevel) } k.number
        ⟨.key, k.mark, k.mark⟩).Sound :=
      Sound.insertAt (sound.of_queue_eq rfl) (t := ⟨.key, k.mark, k.mark⟩) trivial k.number
    split
    · exact keyed.openBlock _ fun _ kept =>
        kept.insertAt (t := ⟨.blockMappingStart, k.mark, k.mark⟩) trivial _
    · exact keyed
  case h_2 =>
    exact sound.opening .blockMappingStart trivial fun _ kept =>
      kept.indicator (by rfl) (by trivial)

theorem Sound.property (sound : s.Sound) {read : Cursor → Except Failure (Token × Cursor)}
    (reads : ∀ c, Reads (read c))
    : Yields Sound (s.property read) :=
  (saveKey_changes s).mapError.bind fun _ same => (reads _).bind fun _ starts =>
    .ok (Sound.of_queue_eq (Sound.push ((sound.of_queue_eq same.1).of_queue_eq rfl) starts) rfl)

theorem Sound.blockScalar (sound : s.Sound) (folded : Bool)
    : Yields Sound (s.blockScalar folded) :=
  (removeKey_changes _).bind fun _ same => (block_starts _ _ _).bind fun _ starts =>
    .ok (Sound.of_queue_eq ((sound.of_queue_eq same.1).push starts) rfl)

/-- Where a plain scalar starts there is no mark of a property. -/
theorem not_isPropertyMark_of_atPlain {d : Char} (starts : s.atPlain d = true)
    : isPropertyMark d = false := by
  by_contra isMark
  rw [Bool.not_eq_false] at isMark
  simp only [isPropertyMark, Bool.or_eq_true, decide_eq_true_eq, or_assoc] at isMark
  rcases isMark with rfl | rfl | rfl <;> simp [atPlain] at starts

/-- A plain scalar is fetched where one starts. -/
theorem Sound.plainScalar (sound : s.Sound) {d : Char} (next : s.cursor.peek = some d)
    (starts : s.atPlain d = true)
    : Yields Sound s.plainScalar := by
  refine sound.after_keys (saveKey_changes s) fun s' kept same => .ok ?_
  refine Sound.of_queue_eq (kept.push ?_) rfl
  show (String.ofList _).toList.head?.any isPropertyMark = false
  rw [String.toList_ofList]
  rcases head?_plainText (s'.flowLevel ≠ 0) (s'.indent + 1) s'.cursor.mark false
    (s'.cursor.rest.length + 1) s'.cursor with nothing | head
  · rw [nothing]
    rfl
  · rw [head, same, next]
    exact not_isPropertyMark_of_atPlain starts

/-- The tokens that start at a character start as their kinds do. -/
theorem Sound.fetch (sound : s.Sound) : Yields Sound s.fetch := by
  unfold Scanner.fetch
  refine (Yields.mapError (dropStaleKeys_changes _)).bind fun s' same => ?_
  have skipped : s'.Sound := (sound.skipByteOrderMark.skipToToken _).of_queue_eq same.1
  have unwound := skipped.unwind s'.column
  dsimp only
  split
  · exact unwound.streamEnd.mapError
  case h_2 d next =>
    refine .ite (fun _ => unwound.endBlocks.mapError.bind fun _ kept => ?_) fun _ => ?_
    · exact (directive_starts _).bind fun _ starts =>
        .ok (Sound.of_queue_eq (kept.push starts) rfl)
    refine .ite (fun _ => unwound.endBlocks.mapError.bind fun _ kept => .ok ?_) fun _ => ?_
    · exact kept.pushNext _ (by split <;> trivial) 3
    refine .ite (fun _ => (unwound.flowStart (by trivial)).mapError) fun _ => ?_
    refine .ite (fun _ => (unwound.flowStart (by trivial)).mapError) fun _ => ?_
    refine .ite (fun _ => (unwound.flowEnd (by trivial)).mapError) fun _ => ?_
    refine .ite (fun _ => (unwound.flowEnd (by trivial)).mapError) fun _ => ?_
    refine .ite (fun _ => unwound.flowEntry.mapError) fun _ => ?_
    refine .ite (fun _ => unwound.blockEntry.mapError) fun _ => ?_
    refine .ite (fun _ => unwound.key.mapError) fun _ => ?_
    refine .ite (fun _ => unwound.value.mapError) fun _ => ?_
    refine .ite (fun _ => unwound.property fun c => anchor_starts true c) fun _ => ?_
    refine .ite (fun _ => unwound.property fun c => anchor_starts false c) fun _ => ?_
    refine .ite (fun _ => unwound.property tag_starts) fun _ => ?_
    refine .ite (fun _ => (unwound.blockScalar _).mapError) fun _ => ?_
    refine .ite (fun _ => unwound.property fun c => quoted_starts _ c) fun _ => ?_
    exact .ite (fun starts => (unwound.plainScalar next starts).mapError) fun _ => .error _

/-- The tokens of a run start as their kinds do, by induction on the fuel. -/
theorem Sound.run (sound : s.Sound) (fuel : Nat) : ∀ t ∈ (run fuel s).1, t.kind.StartsPlain := by
  induction fuel generalizing s with
  | zero => exact sound
  | succ fuel ih =>
      unfold Scanner.run
      extract_lets more
      have fetched {s : Scanner} (sound : s.Sound) : ∀ t ∈ (more s).1, t.kind.StartsPlain := by
        simp only [more]
        split
        · exact List.forall_mem_nil _
        case h_2 s' ran =>
          split
          · exact List.forall_mem_nil _
          case h_2 s'' kept =>
            exact ih ((sound.fetch s' ran).of_queue_eq (dropStaleKeys_changes s' s'' kept).1)
      split
      · exact sound
      split
      · exact fetched sound
      case h_2 t queue parts =>
        have sound' := sound
        rw [Sound, parts, List.forall_mem_cons] at sound'
        split
        · exact fetched sound
        · exact List.forall_mem_cons.mpr ⟨sound'.1, ih (s := { s with queue, taken := _ }) sound'.2⟩

end Scanner

/-- A plain scalar among the tokens of a text starts with no mark of a property. -/
theorem scan_starts (text : List Char) : ∀ t ∈ (scan text).1, t.kind.StartsPlain := by
  have start : Scanner.Sound { cursor := ⟨text, {}⟩ } := List.forall_mem_nil _
  exact (start.pushHere .streamStart trivial).run _

end Token

end BlogSnapshot.Yaml
