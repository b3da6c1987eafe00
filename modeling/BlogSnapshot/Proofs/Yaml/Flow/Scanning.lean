import BlogSnapshot.Proofs.Yaml.Flow.Characters
import BlogSnapshot.Proofs.Yaml.Untagged

/-! The tokens of a line in flow style. The scanner stands at a place of the line with the tokens
before it, some of which it has released. It holds a key back until it meets the colon; brackets and
texts may start a key as far as it knows, and it gives such a key up without harm.
-/

namespace BlogSnapshot.Yaml.Token

/-- A place of a line: the tokens before it, a key among them whose colon is next, the text that
follows, its position, the depth of collections and whether a key may start.
-/
structure Place where
  settled : List Token
  held : Option Token := none
  rest : List Char
  index : Nat
  level : Nat
  keyAllowed : Bool

/-- The note that a key is held. -/
def Place.heldKey (v : Place) (t : Token) : SimpleKey :=
  ⟨v.settled.length, false, t.start⟩

/-- The scanner stands at a place, and so many tokens are released. -/
structure Scanner.StandsAt (v : Place) (taken : Nat) (s : Scanner) : Prop where
  cursor : s.cursor = ⟨v.rest, .inLine v.index⟩
  queue : s.queue = (v.settled ++ v.held.toList).drop taken
  taken_eq : s.taken = taken
  taken_le : taken ≤ v.settled.length
  level : s.flowLevel = v.level
  keyAllowed : s.keyAllowed = v.keyAllowed
  indent : s.indent = -1
  indents : s.indents = []
  undone : s.done = false
  keys : ∀ k ∈ s.keys, k.2.required = false ∧ taken ≤ k.2.number
  noted : ∀ t ∈ v.held, (v.level, v.heldKey t) ∈ s.keys
  only : ∀ t ∈ v.held, ∀ k ∈ s.keys, k.1 = v.level → k.2 = v.heldKey t

namespace Scanner

variable {v : Place} {taken : Nat} {s : Scanner}

-----------------------------------------------------------------------------------------
-- Possible keys
-----------------------------------------------------------------------------------------

theorem StandsAt.setKeys (stands : s.StandsAt v taken) {keys : List (Nat × SimpleKey)}
    (harmless : ∀ k ∈ keys, k.2.required = false ∧ taken ≤ k.2.number)
    (noted : ∀ t ∈ v.held, (v.level, v.heldKey t) ∈ keys)
    (only : ∀ t ∈ v.held, ∀ k ∈ keys, k.1 = v.level → k.2 = v.heldKey t)
    : StandsAt v taken { s with keys } :=
  { stands with keys := harmless, noted, only }

/-- Keys that are too far back are dropped; a held key is near. -/
theorem StandsAt.dropStaleKeys (stands : s.StandsAt v taken)
    (near : ∀ t ∈ v.held, t.start.line = 0 ∧ v.index ≤ t.start.index + maxKeyLength)
    : Succeeds (StandsAt v taken) s.dropStaleKeys := by
  have noneRequired
      : s.keys.find? (fun k =>
          (k.2.mark.line ≠ s.cursor.mark.line
            || maxKeyLength < s.cursor.mark.index - k.2.mark.index) && k.2.required) = none := by
    rw [List.find?_eq_none]
    intro k member
    simp [(stands.keys k member).1]
  rw [Scanner.dropStaleKeys, noneRequired]
  refine .ok (stands.setKeys ?_ ?_ ?_)
  · exact fun k member => stands.keys k (List.mem_filter.mp member).1
  · intro t held
    obtain ⟨line, close⟩ := near t held
    refine List.mem_filter.mpr ⟨stands.noted t held, ?_⟩
    simp [Place.heldKey, stands.cursor, Mark.inLine, line]
    omega
  · exact fun t held k member => stands.only t held k (List.mem_filter.mp member).1

/-- The possible key of the current collection is given up. -/
theorem StandsAt.removeKey (stands : s.StandsAt v taken) (free : v.held = none)
    : Succeeds (fun s' => s'.StandsAt v taken ∧ ∀ k ∈ s'.keys, k.1 ≠ v.level) s.removeKey := by
  rw [Scanner.removeKey]
  cases found : s.currentKey? with
  | none =>
      refine .ok ⟨stands, fun k member same => ?_⟩
      rw [currentKey?, List.lookup_eq_none_iff, stands.level] at found
      exact bne_iff_ne.mp (found k member) same.symm
  | some k =>
      have harmless : k.required = false := (stands.keys _ (mem_of_lookup found)).1
      simp only [harmless, Bool.false_eq_true, if_false]
      refine .ok ⟨stands.setKeys ?_ ?_ ?_, ?_⟩
      · exact fun k member => stands.keys k (List.mem_filter.mp member).1
      · simp [free]
      · simp [free]
      · intro k member
        simpa [stands.level] using (List.mem_filter.mp member).2

/-- A key may start here, if one is allowed. -/
theorem StandsAt.saveKey (stands : s.StandsAt v taken) (free : v.held = none)
    : Succeeds
        (fun s' =>
          s'.StandsAt v taken
          ∧ (v.keyAllowed = true →
            (v.level, ⟨v.settled.length, false, .inLine v.index⟩) ∈ s'.keys
            ∧ ∀ k ∈ s'.keys, k.1 = v.level → k.2 = ⟨v.settled.length, false, .inLine v.index⟩))
        s.saveKey := by
  rw [Scanner.saveKey, stands.keyAllowed]
  cases allowed : v.keyAllowed with
  | false => exact .ok ⟨stands, nofun⟩
  | true =>
      -- The key is not required: the indentation of the blocks around the line is less than any.
      have optional : (s.flowLevel = 0 && s.indent = s.column) = false := by
        have : s.indent ≠ s.column := by
          rw [stands.indent, column]
          omega
        simp [this]
      refine (stands.removeKey free).bind fun s' ⟨stands', gone⟩ => .ok ?_
      have number : s'.taken + s'.queue.length = v.settled.length := by
        have := stands'.taken_le
        rw [stands'.taken_eq, stands'.queue, free]
        simp
        omega
      have note : (s'.flowLevel, SimpleKey.mk (s'.taken + s'.queue.length)
            (s.flowLevel = 0 && s.indent = s.column) s'.cursor.mark)
          = (v.level, ⟨v.settled.length, false, .inLine v.index⟩) := by
        rw [optional, number, stands'.level, stands'.cursor]
      rw [note]
      refine ⟨stands'.setKeys ?_ (by simp [free]) (by simp [free]), fun _ => ⟨by simp, ?_⟩⟩
      · intro k member
        rcases List.mem_append.mp member with before | last
        · exact stands'.keys k before
        · exact List.mem_singleton.mp last ▸ ⟨rfl, stands'.taken_le⟩
      · intro k member same
        rcases List.mem_append.mp member with before | last
        · exact absurd same (gone k before)
        · exact List.mem_singleton.mp last ▸ rfl

-----------------------------------------------------------------------------------------
-- Tokens at the cursor
-----------------------------------------------------------------------------------------

theorem StandsAt.setLevel (stands : s.StandsAt v taken) (free : v.held = none) (level : Nat)
    (keyAllowed : Bool)
    : StandsAt { v with level, keyAllowed } taken { s with flowLevel := level, keyAllowed } :=
  { stands with level := rfl, keyAllowed := rfl, noted := by simp [free], only := by simp [free] }

theorem StandsAt.drop_append (stands : s.StandsAt v taken) (ts : List Token)
    : (v.settled ++ ts).drop taken = v.settled.drop taken ++ ts :=
  List.drop_append_of_le_length stands.taken_le

/-- A token is added and the cursor moves. -/
theorem StandsAt.push (stands : s.StandsAt v taken) (free : v.held = none) (t : Token)
    (rest : List Char) (index : Nat)
    : StandsAt { v with settled := v.settled ++ [t], rest, index } taken
        { s.push t with cursor := ⟨rest, .inLine index⟩ } where
  cursor := rfl
  queue := by
    simp [Scanner.push, stands.queue, free, stands.drop_append]
  taken_eq := stands.taken_eq
  taken_le := by
    have := stands.taken_le
    rw [List.length_append]
    omega
  level := stands.level
  keyAllowed := stands.keyAllowed
  indent := stands.indent
  indents := stands.indents
  undone := stands.undone
  keys := stands.keys
  noted := by simp [free]
  only := by simp [free]

/-- A token of visible characters is added. -/
theorem StandsAt.pushNext (stands : s.StandsAt v taken) (free : v.held = none) (kind : TokenKind)
    {c : Char} {rest : List Char} (text : v.rest = c :: rest) (visible : isVisible c = true)
    : StandsAt
        { v with
          settled := v.settled ++ [.inLine kind v.index 1]
          rest := rest
          index := v.index + 1 }
        taken (s.pushNext kind 1) := by
  have skipped : s.cursor.skip 1 = ⟨rest, .inLine (v.index + 1)⟩ := by
    rw [stands.cursor, text]
    exact Cursor.next_inLine visible rest v.index
  have pushed := stands.push free (.inLine kind v.index 1) rest (v.index + 1)
  rw [Scanner.pushNext, skipped, stands.cursor]
  exact pushed

/-- A collection opens, and keys may start inside of it. -/
theorem StandsAt.flowStart (stands : s.StandsAt v taken) (free : v.held = none) (kind : TokenKind)
    {c : Char} {rest : List Char} (text : v.rest = c :: rest) (visible : isVisible c = true)
    : Succeeds
        (StandsAt
          ⟨v.settled ++ [.inLine kind v.index 1], none, rest, v.index + 1, v.level + 1, true⟩ taken)
        (s.flowStart kind) := by
  refine (stands.saveKey free).bind fun s' ⟨stands', _⟩ => .ok ?_
  rw [stands'.level]
  have moved := (stands'.setLevel free (v.level + 1) true).pushNext free kind text visible
  rw [free] at moved
  exact moved

/-- A collection closes. -/
theorem StandsAt.flowEnd (stands : s.StandsAt v taken) (free : v.held = none) (kind : TokenKind)
    {c : Char} {rest : List Char} (text : v.rest = c :: rest) (visible : isVisible c = true)
    : Succeeds
        (StandsAt
          ⟨v.settled ++ [.inLine kind v.index 1], none, rest, v.index + 1, v.level - 1, false⟩
          taken)
        (s.flowEnd kind) := by
  refine (stands.removeKey free).bind fun s' ⟨stands', _⟩ => .ok ?_
  rw [stands'.level]
  have moved := (stands'.setLevel free (v.level - 1) false).pushNext free kind text visible
  rw [free] at moved
  exact moved

/-- A comma, after which a key may start. -/
theorem StandsAt.flowEntry (stands : s.StandsAt v taken) (free : v.held = none)
    {c : Char} {rest : List Char} (text : v.rest = c :: rest) (visible : isVisible c = true)
    : Succeeds
        (StandsAt
          ⟨v.settled ++ [.inLine .flowEntry v.index 1], none, rest, v.index + 1, v.level, true⟩
          taken)
        s.flowEntry := by
  have ready := stands.setLevel free v.level true
  rw [← stands.level] at ready
  refine (ready.removeKey free).bind fun s' ⟨stands', _⟩ => .ok ?_
  have moved := stands'.pushNext free .flowEntry text visible
  rw [free, stands.level] at moved
  exact moved

/-- A scalar in quotes. -/
theorem StandsAt.quoted (stands : s.StandsAt v taken) (free : v.held = none) {escaped : Bool}
    {q : String} (legal : IsQuotable escaped q.toList) {rest : List Char}
    (text : v.rest = (Piece.quoted escaped q).text ++ rest)
    : Succeeds
        (StandsAt
          ⟨v.settled ++ (Piece.quoted escaped q).tokens v.index, none, rest,
            v.index + (Piece.quoted escaped q).width, v.level, false⟩
          taken)
        (s.property (Token.quoted true)) := by
  refine (stands.saveKey free).mapError.bind fun s' ⟨stands', _⟩ => ?_
  have read := quoted_inLine legal rest v.index
  rw [stands'.cursor, text, read]
  refine .ok ?_
  have moved := (stands'.setLevel free v.level false).push free
    (.inLine (.scalar q false) v.index (Piece.quoted escaped q).width) rest
    (v.index + (Piece.quoted escaped q).width)
  rw [free, ← stands'.level] at moved
  rw [← stands'.level]
  exact moved

/-- The name of a key, which is held. -/
theorem StandsAt.plainScalar (stands : s.StandsAt v taken) (free : v.held = none)
    (inside : v.level ≠ 0) (allowed : v.keyAllowed = true) {name : String}
    (isKey : IsPlainKey name) {rest : List Char} (text : v.rest = name.toList ++ ':' :: ' ' :: rest)
    : Succeeds
        (StandsAt
          ⟨v.settled, some (.inLine (.scalar name true) v.index name.length), ':' :: ' ' :: rest,
            v.index + name.length, v.level, false⟩
          taken)
        s.plainScalar := by
  refine (stands.saveKey free).bind fun s' ⟨stands', noted⟩ => ?_
  obtain ⟨noted, only⟩ := noted allowed
  have flow : decide (s'.flowLevel ≠ 0) = true := by simpa [stands'.level] using inside
  rw [flow, stands'.cursor, text, plain_key isKey]
  have moved := stands'.push free (.inLine (.scalar name true) v.index name.length)
    (':' :: ' ' :: rest) (v.index + name.length)
  refine .ok {
    moved with
    queue := ?_, taken_le := stands'.taken_le, keyAllowed := rfl, noted := ?_, only := ?_
  }
  · simpa [free] using moved.queue
  · rintro t ⟨⟩
    exact noted
  · rintro t ⟨⟩
    exact only

theorem StandsAt.currentKey?_eq (stands : s.StandsAt v taken) {t : Token} (held : v.held = some t)
    : s.currentKey? = some (v.heldKey t) := by
  rw [currentKey?, stands.level]
  cases found : s.keys.lookup v.level with
  | none =>
      rw [List.lookup_eq_none_iff] at found
      exact absurd rfl (bne_iff_ne.mp (found _ (stands.noted t held)))
  | some k => exact congrArg some (stands.only t held _ (mem_of_lookup found) rfl)

/-- The token of a key goes before the held name. -/
theorem StandsAt.insertKey (stands : s.StandsAt v taken) {t : Token} (held : v.held = some t)
    {keys : List (Nat × SimpleKey)} (fewer : ∀ k ∈ keys, k ∈ s.keys)
    : StandsAt
        { v with
          settled := v.settled ++ [⟨.key, t.start, t.start⟩, t]
          held := none
          keyAllowed := false }
        taken
        { insertAt { s with keys } v.settled.length ⟨.key, t.start, t.start⟩ with
          keyAllowed := false } where
  cursor := stands.cursor
  queue := by
    have place : v.settled.length - taken = (v.settled.drop taken).length := by simp
    simp only [insertAt, stands.queue, stands.taken_eq, held, Option.toList_some,
      Option.toList_none, List.append_nil, stands.drop_append, place, List.take_left, List.drop_left]
  taken_eq := stands.taken_eq
  taken_le := by
    have := stands.taken_le
    rw [List.length_append]
    omega
  level := stands.level
  keyAllowed := rfl
  indent := stands.indent
  indents := stands.indents
  undone := stands.undone
  keys k member := stands.keys k (fewer k member)
  noted := nofun
  only := nofun

/-- The colon after a key: the key is one. -/
theorem StandsAt.value (stands : s.StandsAt v taken) {t : Token} (held : v.held = some t)
    (inside : v.level ≠ 0) {rest : List Char} (text : v.rest = ':' :: rest)
    : Succeeds
        (StandsAt
          ⟨v.settled ++ [⟨.key, t.start, t.start⟩, t, .inLine .value v.index 1], none, rest,
            v.index + 1, v.level, false⟩
          taken)
        s.value := by
  have fewer : ∀ k ∈ s.keys.filter (·.1 ≠ s.flowLevel), k ∈ s.keys := fun k member =>
    (List.mem_filter.mp member).1
  have moved := (stands.insertKey held fewer).pushNext rfl .value text rfl
  rw [Scanner.value, stands.currentKey?_eq held]
  have flow : s.flowLevel ≠ 0 := stands.level ▸ inside
  simp only [Place.heldKey, insertAt, flow, if_false] at moved ⊢
  refine .ok ?_
  simpa using moved

theorem StandsAt.unwind_eq (stands : s.StandsAt v taken) (column : Int)
    : s.unwind column = s := by
  rw [unwind, stands.indents]
  exact ite_self s

/-- The end of the text. -/
theorem StandsAt.streamEnd (stands : s.StandsAt v taken) (free : v.held = none)
    : Succeeds
        (fun s' =>
          s'.done = true
          ∧ s'.keys = []
          ∧ s'.queue = (v.settled ++ [inLine .streamEnd v.index 0]).drop taken)
        s.streamEnd := by
  rw [Scanner.streamEnd, stands.unwind_eq]
  refine (stands.removeKey free).bind fun s' ⟨stands', _⟩ => .ok ⟨rfl, rfl, ?_⟩
  rw [stands'.drop_append]
  simp [pushHere, Scanner.push, stands'.queue, free, stands'.cursor, inLine]

-----------------------------------------------------------------------------------------
-- Fetching
-----------------------------------------------------------------------------------------

/-- Past the spaces before a token, where no block ends. -/
structure Arrives (s s' : Scanner) : Prop where
  ready :
    (skipToToken (s.skipByteOrderMark.cursor.rest.length + 1) s.skipByteOrderMark).dropStaleKeys
      = .ok s'
  flat : s'.unwind s'.column = s'

/-- The scanner arrives at the next character that is not a space. -/
theorem StandsAt.arrives (stands : s.StandsAt v taken) {n : Nat} {rest : List Char}
    (text : v.rest = List.replicate n ' ' ++ rest)
    (solid : ∀ c ∈ rest.head?, isVisible c = true ∧ c ≠ ' ' ∧ c ≠ '#')
    (near : ∀ t ∈ v.held, t.start.line = 0 ∧ v.index + n ≤ t.start.index + maxKeyLength)
    : ∃ s', Arrives s s' ∧ s'.StandsAt { v with rest := rest, index := v.index + n } taken := by
  have noMark : s.skipByteOrderMark = s := by
    have visible : ∀ c ∈ s.cursor.peek, isVisible c = true := by
      rw [stands.cursor, Cursor.peek, text]
      cases n with
      | zero => exact fun c first => (solid c first).1
      | succ n => exact fun c first => Option.some.inj first ▸ rfl
    have : s.cursor.peek ≠ some '\ufeff' := fun mark => absurd (visible _ mark) (by decide)
    simp [skipByteOrderMark, this]
  have blank : ∀ c ∈ List.replicate n ' ', isVisible c = true ∧ decide (c = ' ') = true :=
    fun c member => by rw [List.eq_of_mem_replicate member]; decide
  have noBlank : ∀ c ∈ rest.head?, decide (c = ' ') = false := fun c first =>
    decide_eq_false (solid c first).2.1
  have spaces := Cursor.span_inLine (p := (· = ' ')) blank noBlank v.index
  rw [List.length_replicate] at spaces
  have noComment : (Cursor.mk rest (.inLine (v.index + n))).peek ≠ some '#' :=
    fun hash => (solid _ hash).2.2 rfl
  have noBreak : (Cursor.mk rest (.inLine (v.index + n))).peek.any isBreak = false :=
    (Option.any_eq_false _ _).mpr fun c first => isBreak_of_isVisible (solid c first).1
  have skipped (fuel : Nat)
      : skipToToken (fuel + 1) s = { s with cursor := ⟨rest, .inLine (v.index + n)⟩ } := by
    simp [skipToToken, stands.cursor, text, Cursor.skipSpaces, Cursor.skipWhile, spaces,
      Cursor.skipComment, noComment, noBreak]
  have moved : StandsAt { v with rest := rest, index := v.index + n } taken
      { s with cursor := ⟨rest, .inLine (v.index + n)⟩ } :=
    { stands with cursor := rfl }
  obtain ⟨s', ready, stands'⟩ := moved.dropStaleKeys near
  exact ⟨s', ⟨by rw [noMark, skipped, ready], stands'.unwind_eq _⟩, stands'⟩

namespace Arrives

variable {s' : Scanner} (arrives : Arrives s s')

include arrives

theorem fetch_opening (isMap : Bool)
    (next : s'.cursor.peek = some (if isMap then '\x7b' else '['))
    : s.fetch
      = (s'.flowStart (if isMap then .flowMappingStart else .flowSequenceStart)).mapError
          .text := by
  rw [fetch, arrives.ready]
  cases isMap
  all_goals simp [Except.mapError, bind, Except.bind, arrives.flat, next]

theorem fetch_closing (isMap : Bool) (next : s'.cursor.peek = some (if isMap then '\x7d' else ']'))
    : s.fetch
      = (s'.flowEnd (if isMap then .flowMappingEnd else .flowSequenceEnd)).mapError .text := by
  rw [fetch, arrives.ready]
  cases isMap
  all_goals simp [Except.mapError, bind, Except.bind, arrives.flat, next]

theorem fetch_comma (next : s'.cursor.peek = some ',') : s.fetch = s'.flowEntry.mapError .text := by
  rw [fetch, arrives.ready]
  simp [Except.mapError, bind, Except.bind, arrives.flat, next]

theorem fetch_quote (next : s'.cursor.peek = some '"')
    : s.fetch = s'.property (Token.quoted true) := by
  rw [fetch, arrives.ready]
  simp [Except.mapError, bind, Except.bind, arrives.flat, next]

theorem fetch_colon (inside : s'.flowLevel ≠ 0) (next : s'.cursor.peek = some ':')
    : s.fetch = s'.value.mapError .text := by
  rw [fetch, arrives.ready]
  simp [Except.mapError, bind, Except.bind, arrives.flat, next, atIndicator, inside]

theorem fetch_end (next : s'.cursor.peek = none) : s.fetch = s'.streamEnd.mapError .text := by
  rw [fetch, arrives.ready]
  simp [Except.mapError, bind, Except.bind, arrives.flat, next]

theorem fetch_key {c : Char} (isKey : isKeyChar c = true) (next : s'.cursor.peek = some c)
    : s.fetch = s'.plainScalar.mapError .text := by
  have ne (d : Char) (other : isKeyChar d = false) : c ≠ d := ne_of_isKeyChar isKey other
  have plain : s'.atPlain c = true := by
    simp (disch := decide) [atPlain, ne, isBreak_of_isVisible (isVisible_of_isKeyChar isKey)]
  rw [fetch, arrives.ready]
  simp (disch := decide) [Except.mapError, bind, Except.bind, arrives.flat, next, ne, plain]

end Arrives

end Scanner

end BlogSnapshot.Yaml.Token
