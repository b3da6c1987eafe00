import BlogSnapshot.Proofs.Yaml.Flow.Scanning

/-! The tokens of a line in flow style, whatever its pieces are, as long as keys stand at the start
of a collection or after a comma. The scanner gets from piece to piece by fetching, and releases
tokens in between.
-/

namespace BlogSnapshot.Yaml.Token

namespace Scanner

-----------------------------------------------------------------------------------------
-- From place to place
-----------------------------------------------------------------------------------------

/-- Tokens are fetched once. -/
def advance (s : Scanner) : Except Failure Scanner := do
  let s ← s.fetch
  s.dropStaleKeys.mapError .text

/-- The scanner gets from one place to another one by fetching once. -/
def Leads (v w : Place) : Prop :=
  ∀ (s : Scanner) (taken : Nat), s.StandsAt v taken → Succeeds (StandsAt w taken) s.advance

theorem leads_of_fetch {v w : Place} {n : Nat} {rest : List Char}
    (text : v.rest = List.replicate n ' ' ++ rest)
    (solid : ∀ c ∈ rest.head?, isVisible c = true ∧ c ≠ ' ' ∧ c ≠ '#')
    (near : ∀ t ∈ v.held, t.start.line = 0 ∧ v.index + n ≤ t.start.index + maxKeyLength)
    (nearAfter : ∀ t ∈ w.held, t.start.line = 0 ∧ w.index ≤ t.start.index + maxKeyLength)
    (fetched : ∀ (s s' : Scanner) (taken : Nat), Arrives s s'
      → s'.StandsAt { v with rest := rest, index := v.index + n } taken
      → Succeeds (StandsAt w taken) s.fetch)
    : Leads v w := by
  intro s taken stands
  obtain ⟨s', arrives, stands'⟩ := stands.arrives text solid near
  exact (fetched s s' taken arrives stands').bind fun s'' stands'' =>
    (stands''.dropStaleKeys nearAfter).mapError

section

variable (ts : List Token) (n i level : Nat) (allowed : Bool) (rest : List Char)

theorem leads_opening (isMap : Bool)
    : Leads
        ⟨ts, none, List.replicate n ' ' ++ ((Piece.opening isMap).text ++ rest), i, level, allowed⟩
        ⟨ts ++ (Piece.opening isMap).tokens (i + n), none, rest, i + n + 1, level + 1, true⟩ := by
  refine leads_of_fetch rfl ?_ nofun nofun fun s s' taken arrives stands => ?_
  · cases isMap <;> rintro c ⟨⟩ <;> decide
  · rw [arrives.fetch_opening isMap (by rw [stands.cursor]; rfl)]
    exact (stands.flowStart rfl _ rfl (by cases isMap <;> rfl)).mapError

theorem leads_closing (isMap : Bool)
    : Leads
        ⟨ts, none, List.replicate n ' ' ++ ((Piece.closing isMap).text ++ rest), i, level, allowed⟩
        ⟨ts ++ (Piece.closing isMap).tokens (i + n), none, rest, i + n + 1, level - 1, false⟩ := by
  refine leads_of_fetch rfl ?_ nofun nofun fun s s' taken arrives stands => ?_
  · cases isMap <;> rintro c ⟨⟩ <;> decide
  · rw [arrives.fetch_closing isMap (by rw [stands.cursor]; rfl)]
    exact (stands.flowEnd rfl _ rfl (by cases isMap <;> rfl)).mapError

theorem leads_comma
    : Leads
        ⟨ts, none, List.replicate n ' ' ++ (Piece.comma.text ++ rest), i, level, allowed⟩
        ⟨ts ++ Piece.comma.tokens (i + n), none, List.replicate 1 ' ' ++ rest, i + n + 1, level,
          true⟩ := by
  refine leads_of_fetch rfl ?_ nofun nofun fun s s' taken arrives stands => ?_
  · rintro c ⟨⟩
    decide
  · rw [arrives.fetch_comma (by rw [stands.cursor]; rfl)]
    exact (stands.flowEntry rfl rfl rfl).mapError

theorem leads_quoted {escaped : Bool} {q : String} (legal : IsQuotable escaped q.toList)
    : Leads
        ⟨ts, none, List.replicate n ' ' ++ ((Piece.quoted escaped q).text ++ rest), i, level,
          allowed⟩
        ⟨ts ++ (Piece.quoted escaped q).tokens (i + n), none, rest,
          i + n + (Piece.quoted escaped q).width, level, false⟩ := by
  refine leads_of_fetch rfl ?_ nofun nofun fun s s' taken arrives stands => ?_
  · rintro c ⟨⟩
    decide
  · rw [arrives.fetch_quote (by rw [stands.cursor]; rfl)]
    exact stands.quoted rfl legal rfl

theorem leads_name (inside : level ≠ 0) {name : String} (isKey : IsPlainKey name)
    : Leads ⟨ts, none, List.replicate n ' ' ++ ((Piece.key name).text ++ rest), i, level, true⟩
        ⟨ts, some (.inLine (.scalar name true) (i + n) name.length), ':' :: ' ' :: rest,
          i + n + name.length, level, false⟩ := by
  obtain ⟨c, more, chars, first⟩ := isKey.exists_cons
  have text : (Piece.key name).text ++ rest = name.toList ++ ':' :: ' ' :: rest := by
    simp [Piece.text]
  have head : (name.toList ++ ':' :: ' ' :: rest).head? = some c := by
    rw [chars]
    rfl
  rw [text]
  refine leads_of_fetch rfl ?_ (by simp) ?_ fun s s' taken arrives stands => ?_
  · rw [head]
    rintro d ⟨⟩
    exact ⟨isVisible_of_isKeyChar first, ne_of_isKeyChar first rfl, ne_of_isKeyChar first rfl⟩
  · rintro t ⟨⟩
    exact ⟨rfl, Nat.add_le_add_left isKey.short _⟩
  · rw [arrives.fetch_key first (by rw [stands.cursor]; exact head)]
    exact (stands.plainScalar rfl inside rfl isKey rfl).mapError

theorem leads_colon (inside : level ≠ 0) {name : String} (isKey : IsPlainKey name)
    : Leads
        ⟨ts, some (.inLine (.scalar name true) i name.length), ':' :: ' ' :: rest,
          i + name.length, level, false⟩
        ⟨ts ++ (Piece.key name).tokens i, none, List.replicate 1 ' ' ++ rest,
          i + name.length + 1, level, false⟩ := by
  refine leads_of_fetch (n := 0) rfl ?_ ?_ nofun fun s s' taken arrives stands => ?_
  · rintro c ⟨⟩
    decide
  · rintro t ⟨⟩
    exact ⟨rfl, Nat.add_le_add_left isKey.short _⟩
  · rw [arrives.fetch_colon (by rw [stands.level]; exact inside) (by rw [stands.cursor]; rfl)]
    exact (stands.value rfl inside rfl).mapError

end

-----------------------------------------------------------------------------------------
-- Runs
-----------------------------------------------------------------------------------------

section

variable {v : Place} {taken : Nat} {s : Scanner}

/-- A token that is no possible key is released. -/
theorem StandsAt.release (stands : s.StandsAt v taken) {t : Token} {queue : List Token}
    (first : s.queue = t :: queue) (free : s.isHeld = false)
    : v.settled[taken]? = some t
      ∧ StandsAt v (taken + 1) { s with queue, taken := s.taken + 1 } := by
  have noKey : ∀ k ∈ s.keys, k.2.number ≠ taken := by
    simpa [isHeld, stands.taken_eq] using free
  have tokens := stands.queue
  rw [first] at tokens
  have more : taken < v.settled.length := by
    cases held : v.held with
    | none =>
        have length := congrArg List.length tokens
        simp only [held, Option.toList_none, List.append_nil, List.length_cons,
          List.length_drop] at length
        omega
    | some u =>
        have := noKey _ (stands.noted u held)
        have := stands.taken_le
        simp only [Place.heldKey] at *
        omega
  constructor
  · have head := congrArg List.head? tokens
    rw [List.head?_drop, List.getElem?_append_left more] at head
    exact head.symm
  · have others := congrArg List.tail tokens
    rw [List.tail_drop] at others
    refine {
      stands with
      queue := others, taken_eq := by rw [stands.taken_eq], taken_le := more, keys := ?_
    }
    intro k member
    obtain ⟨harmless, least⟩ := stands.keys k member
    have := noKey k member
    exact ⟨harmless, by omega⟩

/-- From a place on, the scanner fetches so many times and releases these tokens after those that
it has released before.
-/
structure Spells (n : Nat) (v : Place) (tokens : List Token) : Prop where
  settled : v.settled <+: tokens
  run : ∀ (s : Scanner) (taken fuel : Nat), s.StandsAt v taken → n + (tokens.length - taken) ≤ fuel
    → s.run fuel = (tokens.drop taken, none)

theorem run_advance {s' : Scanner} (undone : s.done = false)
    (waits : s.queue = [] ∨ s.isHeld = true) (ran : s.advance = .ok s') (fuel : Nat)
    : s.run (fuel + 1) = s'.run fuel := by
  obtain ⟨u, fetched, dropped⟩ := (bind_eq_ok_iff _ _ _).mp ran
  have dropped := (mapError_eq_ok_iff _ _ _).mp dropped
  rw [Scanner.run]
  simp only [undone, Bool.false_eq_true, if_false, fetched, dropped]
  split
  case h_1 => rfl
  case h_2 t rest queue =>
    rcases waits with empty | held
    · rw [queue] at empty
      cases empty
    · rw [if_pos held]

theorem run_release {t : Token} {queue : List Token} (undone : s.done = false)
    (first : s.queue = t :: queue) (free : s.isHeld = false) (fuel : Nat)
    : s.run (fuel + 1)
      = (t :: (run fuel { s with queue, taken := s.taken + 1 }).1,
          (run fuel { s with queue, taken := s.taken + 1 }).2) := by
  rw [Scanner.run]
  simp only [undone, Bool.false_eq_true, if_false, first, free]

/-- Releasing tokens before the next ones are fetched changes nothing, by induction on the fuel. -/
theorem spells_of_advance {P : Nat → Scanner → Prop} {tokens : List Token} {n : Nat}
    (settled : v.settled <+: tokens)
    (advances : ∀ s taken, StandsAt v taken s → Succeeds (P taken) s.advance)
    (later : ∀ s taken fuel, P taken s → n + (tokens.length - taken) ≤ fuel
      → s.run fuel = (tokens.drop taken, none))
    : Spells (n + 1) v tokens where
  settled := settled
  run s taken fuel stands enough := by
    induction fuel generalizing s taken with
    | zero => omega
    | succ fuel ih =>
        obtain ⟨s', ran, holds⟩ := advances s taken stands
        have fetched (waits : s.queue = [] ∨ s.isHeld = true)
            : s.run (fuel + 1) = (tokens.drop taken, none) := by
          rw [run_advance stands.undone waits ran]
          exact later s' taken fuel holds (by omega)
        cases queue : s.queue with
        | nil => exact fetched (.inl queue)
        | cons t rest =>
            cases held : s.isHeld with
            | true => exact fetched (.inr held)
            | false =>
                obtain ⟨found, released⟩ := stands.release queue held
                obtain ⟨less, same⟩ := List.getElem?_eq_some_iff.mp found
                obtain ⟨more, rfl⟩ := settled
                have inside : taken < (v.settled ++ more).length := by
                  rw [List.length_append]
                  omega
                rw [run_release stands.undone queue held, ih _ (taken + 1) released (by omega),
                  List.drop_eq_getElem_cons inside, List.getElem_append_left less, same]

theorem Leads.spells {v w : Place} (leads : Leads v w) (grows : v.settled <+: w.settled) {n : Nat}
    {tokens : List Token} (later : Spells n w tokens)
    : Spells (n + 1) v tokens :=
  spells_of_advance (grows.trans later.settled) leads later.run

theorem Spells.mono {tokens : List Token} {m n : Nat} (spells : Spells m v tokens) (more : m ≤ n)
    : Spells n v tokens where
  settled := spells.settled
  run s taken fuel stands enough := spells.run s taken fuel stands (by omega)

/-- The end of the line: nothing more is fetched. -/
theorem spells_end (ts : List Token) (n i level : Nat) (allowed : Bool)
    : Spells 1 ⟨ts, none, List.replicate n ' ', i, level, allowed⟩
        (ts ++ [inLine .streamEnd (i + n) 0]) := by
  refine spells_of_advance
    (P := fun taken s => s.done = true ∧ s.queue = (ts ++ [inLine .streamEnd (i + n) 0]).drop taken)
    (List.prefix_append _ _) ?_ ?_
  · intro s taken stands
    have spaces : List.replicate n ' ' = List.replicate n ' ' ++ [] := (List.append_nil _).symm
    obtain ⟨s', arrives, stands'⟩ := stands.arrives spaces nofun nofun
    rw [advance, arrives.fetch_end (by rw [stands'.cursor]; rfl)]
    refine (stands'.streamEnd rfl).mapError.bind fun s'' ⟨done, keys, queue⟩ => ?_
    rw [dropStaleKeys, keys]
    exact .ok ⟨done, queue⟩
  · rintro s taken fuel ⟨done, queue⟩ enough
    cases fuel with
    | zero => rw [Scanner.run, queue]
    | succ fuel => rw [Scanner.run, if_pos done, queue]

end

-----------------------------------------------------------------------------------------
-- Lines
-----------------------------------------------------------------------------------------

/-- Texts can be read between their quotes, and keys stand inside of collections, where a key may
start.
-/
def InOrder : Nat → Bool → List Piece → Prop
  | _, _, [] => True
  | level, _, .opening _ :: ps => InOrder (level + 1) true ps
  | level, _, .closing _ :: ps => InOrder (level - 1) false ps
  | level, _, .comma :: ps => InOrder level true ps
  | level, allowed, .key name :: ps =>
      level ≠ 0 ∧ allowed = true ∧ IsPlainKey name ∧ InOrder level false ps
  | level, _, .quoted escaped q :: ps => IsQuotable escaped q.toList ∧ InOrder level false ps

/-- The tokens of a line are those of its pieces, by induction on them. -/
theorem spells_pieces {ps : List Piece} {level : Nat} {allowed : Bool}
    (inOrder : InOrder level allowed ps) (ts : List Token) (n i : Nat)
    : Spells (2 * ps.length + 1)
        ⟨ts, none, List.replicate n ' ' ++ Piece.lineText ps, i, level, allowed⟩
        (ts ++ Piece.lineTokens (i + n) ps
          ++ [inLine .streamEnd (i + n + Piece.lineWidth ps) 0]) := by
  induction ps generalizing level allowed ts n i with
  | nil =>
      have spells := spells_end ts n i level allowed
      simpa [Piece.lineText, Piece.lineTokens, Piece.lineWidth] using spells
  | cons p ps ih =>
      have grows : ts <+: ts ++ p.tokens (i + n) := List.prefix_append _ _
      -- What a piece leads to, with so many spaces taken off the next ones.
      have next {m j level : Nat} {allowed : Bool} (position : j + m = i + n + p.width)
          (inOrder : InOrder level allowed ps)
          : Spells (2 * ps.length + 1)
              ⟨ts ++ p.tokens (i + n), none, List.replicate m ' ' ++ Piece.lineText ps, j, level,
                allowed⟩
              (ts ++ Piece.lineTokens (i + n) (p :: ps)
                ++ [inLine .streamEnd (i + n + Piece.lineWidth (p :: ps)) 0]) := by
        have later := ih inOrder (ts ++ p.tokens (i + n)) m j
        rw [position] at later
        simpa [Piece.lineTokens, Piece.lineWidth_cons, Nat.add_assoc] using later
      cases p with
      | opening isMap =>
          exact ((leads_opening ts n i level allowed _ isMap).spells grows
            (next (m := 0) rfl inOrder)).mono (by rw [List.length_cons]; omega)
      | closing isMap =>
          exact ((leads_closing ts n i level allowed _ isMap).spells grows
            (next (m := 0) rfl inOrder)).mono (by rw [List.length_cons]; omega)
      | comma =>
          exact ((leads_comma ts n i level allowed _).spells grows
            (next (m := 1) rfl inOrder)).mono (by rw [List.length_cons]; omega)
      | quoted escaped q =>
          exact ((leads_quoted ts n i level allowed _ inOrder.1).spells grows
            (next (m := 0) rfl inOrder.2)).mono (by rw [List.length_cons]; omega)
      | key name =>
          obtain ⟨inside, rfl, isKey, inOrder⟩ := inOrder
          have colon := (leads_colon ts (i + n) level _ inside isKey).spells grows
            (next (m := 1) (by rw [Piece.width_key]; omega) inOrder)
          exact (leads_name ts n i level _ inside isKey).spells (List.prefix_refl ts) colon

/-- All characters of a line are visible, by induction on its pieces. -/
theorem InOrder.visible {ps : List Piece} {level : Nat} {allowed : Bool}
    (inOrder : InOrder level allowed ps)
    : ∀ c ∈ Piece.lineText ps, isVisible c = true := by
  induction ps generalizing level allowed with
  | nil => exact List.forall_mem_nil _
  | cons p ps ih =>
      have both (first : ∀ c ∈ p.text, isVisible c = true) {level : Nat} {allowed : Bool}
          (inOrder : InOrder level allowed ps)
          : ∀ c ∈ Piece.lineText (p :: ps), isVisible c = true := by
        rw [Piece.lineText, List.flatMap_cons, List.forall_mem_append]
        exact ⟨first, ih inOrder⟩
      cases p with
      | opening isMap => exact both (List.all_eq_true.mp (by cases isMap <;> decide)) inOrder
      | closing isMap => exact both (List.all_eq_true.mp (by cases isMap <;> decide)) inOrder
      | comma => exact both (List.all_eq_true.mp (by decide)) inOrder
      | quoted escaped q => exact both inOrder.1.visible_text inOrder.2
      | key name => exact both inOrder.2.2.1.visible_text inOrder.2.2.2

theorem length_lineTokens_le (i : Nat) (ps : List Piece)
    : (Piece.lineTokens i ps).length ≤ 3 * ps.length := by
  induction ps generalizing i with
  | nil => exact Nat.le_refl 0
  | cons p ps ih =>
      have few : (p.tokens i).length ≤ 3 := by cases p <;> simp [Piece.tokens]
      have := ih (i + p.width)
      rw [Piece.lineTokens, List.length_append, List.length_cons]
      omega

theorem length_le_lineWidth (ps : List Piece) : ps.length ≤ Piece.lineWidth ps := by
  induction ps with
  | nil => exact Nat.le_refl 0
  | cons p ps ih =>
      have solid : 1 ≤ p.width := by cases p <;> simp [Piece.width, Piece.text]
      rw [Piece.lineWidth_cons, List.length_cons]
      omega

end Scanner

open Scanner

/-- A line is scanned as the tokens of its pieces between the start and the end of the text. -/
theorem scan_lineText {ps : List Piece} (inOrder : InOrder 0 true ps)
    : scan (Piece.lineText ps)
      = (inLine .streamStart 0 0 :: Piece.lineTokens 0 ps
          ++ [inLine .streamEnd (Piece.lineWidth ps) 0], none) := by
  have spells := spells_pieces inOrder [inLine .streamStart 0 0] 0 0
  have stands : StandsAt ⟨[inLine .streamStart 0 0], none, Piece.lineText ps, 0, 0, true⟩ 0
      (pushHere { cursor := ⟨Piece.lineText ps, {}⟩ } .streamStart) := by
    constructor <;> simp [pushHere, Scanner.push, inLine, Mark.inLine]
  have tokens := length_lineTokens_le 0 ps
  have pieces : ps.length ≤ (Piece.lineText ps).length := length_le_lineWidth ps
  have ran := spells.run _ 0 (6 * (Piece.lineText ps).length + 10) stands (by simp; omega)
  rw [scan, ran]
  simp

end BlogSnapshot.Yaml.Token
