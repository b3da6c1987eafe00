import BlogSnapshot.Proofs.Yaml.PlainStart
import BlogSnapshot.Proofs.Yaml.Reached
import BlogSnapshot.Yaml.Node.Read
import Mathlib.Data.List.Forall2

/-! Reading tokens without tags. The nodes get their tags from the shape of a collection and from
the text of a plain scalar, and an ordinary plain scalar is read as the same scalar in quotes: the
two token lists are read side by side, with the same nodes or with a failure each.
-/

namespace BlogSnapshot.Yaml

def TokenKind.isTag : TokenKind → Bool
  | tag _ => true
  | _ => false

def TokenKind.isScalar : TokenKind → Bool
  | scalar .. => true
  | _ => false

/-- A node whose scalars are written in a text and got their tags from it. -/
inductive Node.Untagged (written : String → Bool → Prop) : Node → Prop
  | scalar {s : String} {plain : Bool} (given : written s plain) (start : Mark)
      : Untagged written (.scalar (Node.scalarTag s plain none) s start)
  | absent (start : Mark) : Untagged written (.scalar Tag.null "" start)
  | sequence {items : List Node} (each : ∀ n ∈ items, Untagged written n) (start : Mark)
      : Untagged written (.sequence Tag.seq items start)
  | mapping {entries : List (Node × Node)} (keys : ∀ e ∈ entries, Untagged written e.1)
      (values : ∀ e ∈ entries, Untagged written e.2) (start : Mark)
      : Untagged written (.mapping Tag.map entries start)
  | aliasTo (name : String) : Untagged written (.aliasTo name)

/-- The root of a document and the nodes under its anchors are untagged. -/
structure Document.Untagged (written : String → Bool → Prop) (d : Document) : Prop where
  root : d.root.Untagged written
  anchors : ∀ a ∈ d.anchors, a.2.Untagged written

/-- Untagged nodes have untagged parts, and stand for untagged nodes. -/
theorem Document.Untagged.passesOn {written : String → Bool → Prop} {d : Document}
    (untagged : d.Untagged written)
    : d.PassesOn (Node.Untagged written) where
  resolve := Document.resolve_holds untagged.anchors
  items := by
    intro tag items start h
    cases h with
    | sequence each => exact each
  entries := by
    intro tag entries start h
    cases h with
    | mapping keys values => exact fun e member => ⟨keys e member, values e member⟩

/-- Two tokens that are no tags are the same, or one is an ordinary plain scalar and the other one
the same scalar in quotes.
-/
inductive Token.Requoted (written : String → Bool → Prop) : Token → Token → Prop
  | mark {kind : TokenKind} (noTag : kind.isTag = false) (noScalar : kind.isScalar = false)
      (start stop : Mark)
      : Requoted written ⟨kind, start, stop⟩ ⟨kind, start, stop⟩
  | scalar {s : String} {plain : Bool} (given : written s plain) (start stop : Mark)
      : Requoted written ⟨.scalar s plain, start, stop⟩ ⟨.scalar s plain, start, stop⟩
  | quoted {s : String} (given : written s true) (text : Tag.ofPlain s = Tag.str)
      (start stop : Mark)
      : Requoted written ⟨.scalar s true, start, stop⟩ ⟨.scalar s false, start, stop⟩

namespace Token.Requoted

variable {written : String → Bool → Prop} {t u : Token} (alike : t.Requoted written u)

include alike

theorem start_eq : t.start = u.start := by
  cases alike <;> rfl

theorem stop_eq : t.stop = u.stop := by
  cases alike <;> rfl

/-- Tokens that agree up to quotes are of the same kind, where it is that of no scalar. -/
theorem kind_eq_iff {kind : TokenKind} (noScalar : kind.isScalar = false)
    : t.kind = kind ↔ u.kind = kind := by
  cases alike with
  | mark => rfl
  | scalar => rfl
  | quoted given text start stop =>
      constructor <;> (rintro rfl; cases noScalar)

end Token.Requoted

namespace Node

/-- Two states of reading that agree up to the quotes of their tokens. -/
structure Reading.Requoted (written : String → Bool → Prop) (r q : Reading) : Prop where
  tokens : List.Forall₂ (Token.Requoted written) r.tokens q.tokens
  failure : r.failure = q.failure
  declared : r.declared = q.declared
  anchors : r.anchors = q.anchors
  untagged : ∀ a ∈ r.anchors, a.2.Untagged written

/-- Two results of reading: both are failures, or they are related and leave states that agree. -/
inductive Outcomes {α β : Type} (written : String → Bool → Prop) (R : α → β → Prop)
    : Except Failure (α × Reading) → Except Failure (β × Reading) → Prop
  | ok {a : α} {b : β} {r q : Reading} (related : R a b) (requoted : r.Requoted written q)
      : Outcomes written R (.ok (a, r)) (.ok (b, q))
  | error (e f : Failure) : Outcomes written R (.error e) (.error f)

/-- Two steps have related results in states that agree up to quotes. -/
def Read.Agree {α β : Type} (written : String → Bool → Prop) (R : α → β → Prop) (x : Read α)
    (y : Read β)
    : Prop :=
  ∀ r q : Reading, r.Requoted written q → Outcomes written R (x.run r) (y.run q)

/-- The same result, with a property. -/
def Same {α : Type} (P : α → Prop) (a b : α) : Prop :=
  a = b ∧ P a

namespace Read

variable {α β γ δ : Type} {written : String → Bool → Prop}

namespace Agree

theorem pure {R : α → β → Prop} {a : α} {b : β} (related : R a b)
    : Agree written R (Pure.pure a) (Pure.pure b) :=
  fun _ _ requoted => .ok related requoted

theorem bind {R : α → β → Prop} {S : γ → δ → Prop} {x : Read α} {y : Read β} {f : α → Read γ}
    {g : β → Read δ} (first : Agree written R x y)
    (second : ∀ a b, R a b → Agree written S (f a) (g b))
    : Agree written S (x >>= f) (y >>= g) := by
  intro r q requoted
  rw [StateT.run_bind, StateT.run_bind]
  have outcomes := first r q requoted
  generalize x.run r = left at outcomes ⊢
  generalize y.run q = right at outcomes ⊢
  cases outcomes with
  | ok related requoted => exact second _ _ related _ _ requoted
  | error e f => exact .error e f

theorem fail (R : α → β → Prop) (activity activity' : Option (Activity × Option Mark))
    (problem problem' : Problem) (mark mark' : Mark)
    : Agree written R (Read.fail activity problem mark) (Read.fail activity' problem' mark') :=
  fun _ _ _ => .error _ _

theorem ite {c c' : Prop} [Decidable c] [Decidable c'] {R : α → β → Prop} {x x' : Read α}
    {y y' : Read β} (same : c ↔ c') (hx : Agree written R x y) (hy : Agree written R x' y')
    : Agree written R (if c then x else x') (if c' then y else y') := by
  by_cases holds : c
  · rwa [if_pos holds, if_pos (same.mp holds)]
  · rwa [if_neg holds, if_neg (mt same.mpr holds)]

end Agree

theorem get_agree : Agree written (Reading.Requoted written) get get :=
  fun _ _ requoted => .ok requoted requoted

theorem modify_agree {g h : Reading → Reading}
    (keeps : ∀ r q : Reading, r.Requoted written q → (g r).Requoted written (h q))
    : Agree written Eq (modify g : Read PUnit) (modify h) :=
  fun r q requoted => .ok rfl (keeps r q requoted)

theorem peek_agree : Agree written (Token.Requoted written) peek peek := by
  rintro ⟨tokens, failure, handles, declared, anchors⟩ ⟨tokens', failure', handles', _, _⟩ requoted
  obtain ⟨paired, rfl, rfl, rfl, untagged⟩ := id requoted
  cases paired with
  | cons alike _ => exact .ok alike requoted
  | nil =>
      cases failure with
      | none => exact .ok (.mark rfl rfl {} {}) requoted
      | some e => exact .error e e

theorem take_agree : Agree written (Token.Requoted written) take take := by
  refine peek_agree.bind fun t u alike => (modify_agree fun r q requoted => ?_).bind
    fun _ _ _ => .pure alike
  have rest : List.Forall₂ (Token.Requoted written) r.tokens.tail q.tokens.tail := by
    have paired := requoted.tokens
    generalize r.tokens = tokens at paired ⊢
    generalize q.tokens = tokens' at paired ⊢
    cases paired with
    | nil => exact .nil
    | cons _ rest => exact rest
  exact ⟨rest, requoted.failure, requoted.declared, requoted.anchors, requoted.untagged⟩

theorem at?_agree {p : TokenKind → Bool} (scalars : ∀ s a b, p (.scalar s a) = p (.scalar s b))
    : Agree written Eq (at? p) (at? p) := by
  refine peek_agree.bind fun t u alike => .pure ?_
  cases alike with
  | mark => rfl
  | scalar => rfl
  | quoted => exact scalars _ _ _

/-- A node that may be absent, and what is done with it. -/
theorem absentOr_agree {p : TokenKind → Bool}
    (scalars : ∀ s a b, p (.scalar s a) = p (.scalar s b)) (mark : Mark) {x y : Read Node}
    (given : Agree written (Same (Untagged written)) x y) {R : α → β → Prop}
    {f : Node → Read α} {g : Node → Read β}
    (onward : ∀ n, n.Untagged written → Agree written R (f n) (g n))
    : Agree written R
        (do
          if ← at? p then
            let n ← Pure.pure (absent mark)
            f n
          else
            let n ← x
            f n)
        (do
          if ← at? p then
            let n ← Pure.pure (absent mark)
            g n
          else
            let n ← y
            g n) := by
  refine (at?_agree scalars).bind fun _ _ same => .ite (by rw [same]) ?_ ?_
  · exact onward _ (.absent mark)
  · exact given.bind fun _ _ ⟨same, untagged⟩ => same ▸ onward _ untagged

/-- An alias, or another node. -/
theorem alias_agree {t u : Token} (alike : t.Requoted written u) {R : α → β → Prop}
    {f : String → Read α} {g : String → Read β} {x : Read α} {y : Read β}
    (given : ∀ name, Agree written R (f name) (g name)) (other : Agree written R x y)
    : Agree written R
        (match t.kind with
          | .aliasTo name => f name
          | _ => x)
        (match u.kind with
          | .aliasTo name => g name
          | _ => y) := by
  cases alike with
  | scalar | quoted => exact other
  | @mark kind =>
      cases kind with
      | aliasTo name => exact given name
      | _ => exact other

/-- A comma before an item, or none before the first one, and what is done after it. -/
theorem comma_agree {t u : Token} (alike : t.Requoted written u) (first : Bool)
    {R : α → β → Prop} {activity : Option (Activity × Option Mark)} {problem problem' : Problem}
    {f : Unit → Read α} {g : Unit → Read β} (onward : Agree written R (f ()) (g ()))
    : Agree written R
        (if !first then
          if t.kind = .flowEntry then take >>= fun _ => f ()
          else Read.fail activity problem t.start >>= f
        else f ())
        (if !first then
          if u.kind = .flowEntry then take >>= fun _ => g ()
          else Read.fail activity problem' u.start >>= g
        else g ()) := by
  refine .ite Iff.rfl (.ite (alike.kind_eq_iff rfl) ?_ ?_) onward
  · exact take_agree.bind fun _ _ _ => onward
  · exact (Agree.fail (fun _ _ => False) _ _ _ _ _ _).bind fun _ _ => False.elim

end Read

open Read

variable {α β : Type} {written : String → Bool → Prop}

-----------------------------------------------------------------------------------------
-- Properties
-----------------------------------------------------------------------------------------

theorem properties_agree : Agree written (Same fun p => p.tag = none) properties properties := by
  refine peek_agree.bind fun t u alike => ?_
  cases alike with
  | scalar | quoted => exact .pure ⟨rfl, rfl⟩
  | mark noTag noScalar start stop =>
      rename_i kind
      cases kind with
      | tag => cases noTag
      | anchor name =>
          refine take_agree.bind fun _ _ _ => peek_agree.bind fun t u alike => ?_
          cases alike with
          | scalar | quoted => exact .pure ⟨rfl, rfl⟩
          | @mark kind noTag noScalar start stop =>
              cases kind with
              | tag => cases noTag
              | _ => exact .pure ⟨rfl, rfl⟩
      | _ => exact .pure ⟨rfl, rfl⟩

theorem declare_agree (anchor : Option String) (start : Mark)
    : Agree written Eq (declare anchor start) (declare anchor start) := by
  unfold declare
  cases anchor with
  | none => exact .pure rfl
  | some name =>
      refine get_agree.bind fun r q requoted => ?_
      rw [requoted.declared]
      cases q.declared.lookup name with
      | some first => exact .fail _ _ _ _ _ _ _
      | none =>
          refine modify_agree fun r q requoted => ?_
          exact { requoted with declared := congrArg ((name, start) :: ·) requoted.declared }

theorem complete_agree (anchor : Option String) {n : Node} (untagged : n.Untagged written)
    : Agree written (Same (Untagged written)) (complete anchor n) (complete anchor n) := by
  unfold complete
  cases anchor with
  | none => exact .pure ⟨rfl, untagged⟩
  | some name =>
      refine (modify_agree fun r q requoted => ?_).bind fun _ _ _ => .pure ⟨rfl, untagged⟩
      exact {
        requoted with
        anchors := congrArg ((name, n) :: ·) requoted.anchors
        untagged := List.forall_mem_cons.mpr ⟨untagged, requoted.untagged⟩
      }

/-- A node is declared under its anchor before its parts are read, and completed after. -/
theorem declared_agree {P : α → Prop} (anchor : Option String) (start : Mark)
    {x y : Read α} (inner : Agree written (Same P) x y) {n : α → Node}
    (made : ∀ a, P a → (n a).Untagged written)
    : Agree written (Same (Untagged written))
        (do declare anchor start; let a ← x; complete anchor (n a))
        (do declare anchor start; let a ← y; complete anchor (n a)) :=
  (declare_agree anchor start).bind fun _ _ _ => inner.bind fun _ _ ⟨same, holds⟩ =>
    same ▸ complete_agree anchor (made _ holds)

-----------------------------------------------------------------------------------------
-- Collections
-----------------------------------------------------------------------------------------

/-- All nodes of a list are untagged. -/
def ItemsUntagged (written : String → Bool → Prop) (items : List Node) : Prop :=
  ∀ n ∈ items, n.Untagged written

/-- The keys and the values of all entries are untagged. -/
def EntriesUntagged (written : String → Bool → Prop) (entries : List (Node × Node)) : Prop :=
  ∀ e ∈ entries, e.1.Untagged written ∧ e.2.Untagged written

/-- Nodes and collections are read alike up to quotes, as far as some fuel goes. -/
structure NodesAgree (written : String → Bool → Prop) (fuel : Nat) : Prop where
  node : ∀ block indentless,
    Agree written (Same (Untagged written)) (Node.node block indentless fuel)
      (Node.node block indentless fuel)
  blockSequence : ∀ start,
    Agree written (Same (ItemsUntagged written)) (Node.blockSequence start fuel)
      (Node.blockSequence start fuel)
  indentlessSequence :
    Agree written (Same (ItemsUntagged written)) (Node.indentlessSequence fuel)
      (Node.indentlessSequence fuel)
  blockMapping : ∀ start,
    Agree written (Same (EntriesUntagged written)) (Node.blockMapping start fuel)
      (Node.blockMapping start fuel)
  blockValue :
    Agree written (Same (Untagged written)) (Node.blockValue fuel) (Node.blockValue fuel)
  flowSequence : ∀ start first,
    Agree written (Same (ItemsUntagged written)) (Node.flowSequence start first fuel)
      (Node.flowSequence start first fuel)
  flowMapping : ∀ start first,
    Agree written (Same (EntriesUntagged written)) (Node.flowMapping start first fuel)
      (Node.flowMapping start first fuel)
  flowValue : ∀ endsItem : TokenKind → Bool,
    (∀ s a b, endsItem (.scalar s a) = endsItem (.scalar s b)) →
    Agree written (Same (Untagged written)) (Node.flowValue endsItem fuel)
      (Node.flowValue endsItem fuel)

theorem nodesAgree_zero : NodesAgree written 0 where
  node _ _ := by
    unfold Node.node
    exact peek_agree.bind fun _ _ _ => .fail _ _ _ _ _ _ _
  blockSequence _ := .pure ⟨rfl, List.forall_mem_nil _⟩
  indentlessSequence := .pure ⟨rfl, List.forall_mem_nil _⟩
  blockMapping _ := .pure ⟨rfl, List.forall_mem_nil _⟩
  blockValue := by
    unfold Node.blockValue
    refine peek_agree.bind fun t u alike => .pure ?_
    cases alike <;> exact ⟨rfl, .absent _⟩
  flowSequence _ _ := .pure ⟨rfl, List.forall_mem_nil _⟩
  flowMapping _ _ := .pure ⟨rfl, List.forall_mem_nil _⟩
  flowValue _ _ := by
    unfold Node.flowValue
    refine peek_agree.bind fun t u alike => .pure ?_
    cases alike <;> exact ⟨rfl, .absent _⟩

namespace NodesAgree

variable {fuel : Nat} (h : NodesAgree written fuel)

include h

theorem blockSequence_succ (start : Mark)
    : Agree written (Same (ItemsUntagged written)) (Node.blockSequence start (fuel + 1))
        (Node.blockSequence start (fuel + 1)) := by
  unfold Node.blockSequence
  refine peek_agree.bind fun t u alike => ?_
  cases alike with
  | scalar | quoted => exact .fail _ _ _ _ _ _ _
  | @mark kind noTag noScalar _ stop =>
      cases kind with
      | blockEntry =>
          refine take_agree.bind fun _ _ _ => ?_
          refine absentOr_agree (fun _ _ _ => rfl) stop (h.node _ _) fun item untagged => ?_
          refine (h.blockSequence start).bind fun _ _ ⟨same, all⟩ => same ▸ .pure ⟨rfl, ?_⟩
          exact List.forall_mem_cons.mpr ⟨untagged, all⟩
      | blockEnd => exact take_agree.bind fun _ _ _ => .pure ⟨rfl, List.forall_mem_nil _⟩
      | _ => exact .fail _ _ _ _ _ _ _

theorem indentlessSequence_succ
    : Agree written (Same (ItemsUntagged written)) (Node.indentlessSequence (fuel + 1))
        (Node.indentlessSequence (fuel + 1)) := by
  unfold Node.indentlessSequence
  refine peek_agree.bind fun t u alike => ?_
  cases alike with
  | scalar | quoted => exact .pure ⟨rfl, List.forall_mem_nil _⟩
  | @mark kind noTag noScalar _ stop =>
      cases kind with
      | blockEntry =>
          refine take_agree.bind fun _ _ _ => ?_
          refine absentOr_agree (fun _ _ _ => rfl) stop (h.node _ _) fun item untagged => ?_
          refine h.indentlessSequence.bind fun _ _ ⟨same, all⟩ => same ▸ .pure ⟨rfl, ?_⟩
          exact List.forall_mem_cons.mpr ⟨untagged, all⟩
      | _ => exact .pure ⟨rfl, List.forall_mem_nil _⟩

theorem blockMapping_succ (start : Mark)
    : Agree written (Same (EntriesUntagged written)) (Node.blockMapping start (fuel + 1))
        (Node.blockMapping start (fuel + 1)) := by
  unfold Node.blockMapping
  refine peek_agree.bind fun t u alike => ?_
  cases alike with
  | scalar | quoted => exact .fail _ _ _ _ _ _ _
  | @mark kind noTag noScalar _ stop =>
      cases kind with
      | key =>
          refine take_agree.bind fun _ _ _ => ?_
          refine absentOr_agree (fun _ _ _ => rfl) stop (h.node _ _) fun key ofKey => ?_
          refine h.blockValue.bind fun _ _ ⟨same, ofValue⟩ => same ▸ ?_
          refine (h.blockMapping start).bind fun _ _ ⟨same, all⟩ => same ▸ .pure ⟨rfl, ?_⟩
          exact List.forall_mem_cons.mpr ⟨⟨ofKey, ofValue⟩, all⟩
      | blockEnd => exact take_agree.bind fun _ _ _ => .pure ⟨rfl, List.forall_mem_nil _⟩
      | _ => exact .fail _ _ _ _ _ _ _

/-- The value after a key, in a block and in a flow collection. -/
theorem value_agree {endsItem : TokenKind → Bool}
    (scalars : ∀ s a b, endsItem (.scalar s a) = endsItem (.scalar s b)) (stop : Mark)
    (block indentless : Bool)
    : Agree written (Same (Untagged written))
        (do
          let _ ← take
          if ← at? endsItem then pure (absent stop) else Node.node block indentless fuel)
        (do
          let _ ← take
          if ← at? endsItem then pure (absent stop) else Node.node block indentless fuel) := by
  refine take_agree.bind fun _ _ _ => (at?_agree scalars).bind fun _ _ same => ?_
  exact .ite (by rw [same]) (.pure ⟨rfl, .absent stop⟩) (h.node _ _)

theorem blockValue_succ
    : Agree written (Same (Untagged written)) (Node.blockValue (fuel + 1))
        (Node.blockValue (fuel + 1)) := by
  unfold Node.blockValue
  refine peek_agree.bind fun t u alike => ?_
  cases alike with
  | scalar | quoted => exact .pure ⟨rfl, .absent _⟩
  | @mark kind noTag noScalar _ stop =>
      cases kind with
      | value => exact h.value_agree (fun _ _ _ => rfl) stop _ _
      | _ => exact .pure ⟨rfl, .absent _⟩

theorem flowValue_succ (endsItem : TokenKind → Bool)
    (scalars : ∀ s a b, endsItem (.scalar s a) = endsItem (.scalar s b))
    : Agree written (Same (Untagged written)) (Node.flowValue endsItem (fuel + 1))
        (Node.flowValue endsItem (fuel + 1)) := by
  unfold Node.flowValue
  refine peek_agree.bind fun t u alike => ?_
  cases alike with
  | scalar | quoted => exact .pure ⟨rfl, .absent _⟩
  | @mark kind noTag noScalar _ stop =>
      cases kind with
      | value => exact h.value_agree scalars stop _ _
      | _ => exact .pure ⟨rfl, .absent _⟩

theorem flowSequence_succ (start : Mark) (first : Bool)
    : Agree written (Same (ItemsUntagged written)) (Node.flowSequence start first (fuel + 1))
        (Node.flowSequence start first (fuel + 1)) := by
  have ended : Agree written (Same (ItemsUntagged written))
      (take >>= fun _ => pure []) (take >>= fun _ => pure []) :=
    take_agree.bind fun _ _ _ => .pure ⟨rfl, List.forall_mem_nil _⟩
  unfold Node.flowSequence
  refine peek_agree.bind fun t u alike => .ite (alike.kind_eq_iff rfl) ended ?_
  -- Items of both forms, and items with and without a comma before them, go on alike.
  extract_lets afterItem afterComma
  have more {item : Node} (untagged : item.Untagged written)
      : Agree written (Same (ItemsUntagged written)) (afterItem item) (afterItem item) := by
    refine (h.flowSequence start false).bind fun _ _ ⟨same, all⟩ => same ▸ .pure ⟨rfl, ?_⟩
    exact List.forall_mem_cons.mpr ⟨untagged, all⟩
  refine comma_agree alike first ?_
  refine peek_agree.bind fun t u alike => .ite (alike.kind_eq_iff rfl) ended ?_
  refine .ite (alike.kind_eq_iff rfl) ?_ ?_
  · refine take_agree.bind fun _ _ _ => ?_
    rw [alike.start_eq, alike.stop_eq]
    refine absentOr_agree (fun _ _ _ => rfl) u.stop (h.node _ _) fun key ofKey => ?_
    refine (h.flowValue _ fun _ _ _ => rfl).bind fun _ _ ⟨same, ofValue⟩ => same ▸ more ?_
    exact .mapping (by simpa using ofKey) (by simpa using ofValue) _
  · exact (h.node _ _).bind fun _ _ ⟨same, untagged⟩ => same ▸ more untagged

theorem flowMapping_succ (start : Mark) (first : Bool)
    : Agree written (Same (EntriesUntagged written)) (Node.flowMapping start first (fuel + 1))
        (Node.flowMapping start first (fuel + 1)) := by
  have ended : Agree written (Same (EntriesUntagged written))
      (take >>= fun _ => pure []) (take >>= fun _ => pure []) :=
    take_agree.bind fun _ _ _ => .pure ⟨rfl, List.forall_mem_nil _⟩
  unfold Node.flowMapping
  refine peek_agree.bind fun t u alike => .ite (alike.kind_eq_iff rfl) ended ?_
  extract_lets afterEntry afterKey afterComma
  have more {key value : Node} (ofKey : key.Untagged written) (ofValue : value.Untagged written)
      : Agree written (Same (EntriesUntagged written)) (pure (key, value) >>= afterEntry)
          (pure (key, value) >>= afterEntry) := by
    show Agree _ _ (afterEntry (key, value)) (afterEntry (key, value))
    refine (h.flowMapping start false).bind fun _ _ ⟨same, all⟩ => same ▸ .pure ⟨rfl, ?_⟩
    exact List.forall_mem_cons.mpr ⟨⟨ofKey, ofValue⟩, all⟩
  refine comma_agree alike first ?_
  refine peek_agree.bind fun t u alike => .ite (alike.kind_eq_iff rfl) ended ?_
  refine .ite (alike.kind_eq_iff rfl) ?_ ?_
  · refine take_agree.bind fun _ _ _ => ?_
    rw [alike.stop_eq]
    refine absentOr_agree (fun _ _ _ => rfl) u.stop (h.node _ _) fun key ofKey => ?_
    exact (h.flowValue _ fun _ _ _ => rfl).bind fun _ _ ⟨same, ofValue⟩ =>
      same ▸ more ofKey ofValue
  · refine (h.node _ _).bind fun _ _ ⟨same, ofKey⟩ => same ▸ peek_agree.bind fun v w next => ?_
    rw [next.start_eq]
    exact more ofKey (.absent _)

theorem node_succ (block indentless : Bool)
    : Agree written (Same (Untagged written)) (Node.node block indentless (fuel + 1))
        (Node.node block indentless (fuel + 1)) := by
  unfold Node.node
  refine peek_agree.bind fun t u alike => ?_
  rw [alike.start_eq]
  refine alias_agree alike (fun name => ?_) ?_
  · refine take_agree.bind fun _ _ _ => get_agree.bind fun r q requoted => ?_
    rw [requoted.declared]
    exact .ite Iff.rfl (.pure ⟨rfl, .aliasTo name⟩) (.fail _ _ _ _ _ _ _)
  refine properties_agree.bind fun p _ ⟨same, noTag⟩ => same ▸ ?_
  rw [noTag]
  extract_lets start goOn
  show Agree _ _ (goOn none) (goOn none)
  have items {items : List Node} (all : ItemsUntagged written items)
      : (Node.sequence (collectionTag Tag.seq none) items start).Untagged written :=
    .sequence all start
  have entries {entries : List (Node × Node)} (all : EntriesUntagged written entries)
      : (Node.mapping (collectionTag Tag.map none) entries start).Untagged written :=
    .mapping (fun e member => (all e member).1) (fun e member => (all e member).2) start
  refine peek_agree.bind fun t u alike => ?_
  cases alike with
  | scalar given =>
      exact take_agree.bind fun _ _ _ => (declare_agree _ _).bind fun _ _ _ =>
        complete_agree _ (.scalar given start)
  | @quoted s given text =>
      -- In quotes the scalar has the tag of text, which its own text gives it without them.
      refine take_agree.bind fun _ _ _ => (declare_agree _ _).bind fun _ _ _ => ?_
      rw [show scalarTag s false none = scalarTag s true none from text.symm]
      exact complete_agree _ (.scalar given start)
  | @mark kind noTag noScalar begin =>
      cases kind with
      | scalar => cases noScalar
      | flowSequenceStart =>
          exact take_agree.bind fun _ _ _ => declared_agree _ _ (h.flowSequence _ _) fun _ => items
      | flowMappingStart =>
          exact take_agree.bind fun _ _ _ => declared_agree _ _ (h.flowMapping _ _) fun _ => entries
      | _ =>
          refine .ite Iff.rfl (declared_agree _ _ h.indentlessSequence fun _ => items) ?_
          refine .ite Iff.rfl ?_ (.ite Iff.rfl ?_ (.ite Iff.rfl ?_ (.fail _ _ _ _ _ _ _)))
          · exact take_agree.bind fun _ _ _ =>
              declared_agree _ _ (h.blockSequence _) fun _ => items
          · exact take_agree.bind fun _ _ _ =>
              declared_agree _ _ (h.blockMapping _) fun _ => entries
          · exact (declare_agree _ _).bind fun _ _ _ => complete_agree _ (.absent start)

end NodesAgree

/-- Nodes are read alike up to quotes, by induction on the fuel. -/
theorem nodesAgree (written : String → Bool → Prop) (fuel : Nat) : NodesAgree written fuel := by
  induction fuel with
  | zero => exact nodesAgree_zero
  | succ fuel ih =>
      exact {
        node := ih.node_succ
        blockSequence := ih.blockSequence_succ
        indentlessSequence := ih.indentlessSequence_succ
        blockMapping := ih.blockMapping_succ
        blockValue := ih.blockValue_succ
        flowSequence := ih.flowSequence_succ
        flowMapping := ih.flowMapping_succ
        flowValue := ih.flowValue_succ
      }

-----------------------------------------------------------------------------------------
-- Documents
-----------------------------------------------------------------------------------------

theorem skipDocumentEnds_agree (fuel : Nat)
    : Agree written Eq (skipDocumentEnds fuel) (skipDocumentEnds fuel) := by
  induction fuel with
  | zero => exact .pure rfl
  | succ fuel ih =>
      refine peek_agree.bind fun t u alike => .ite (alike.kind_eq_iff rfl) ?_ (.pure rfl)
      exact take_agree.bind fun _ _ _ => ih

/-- Directives are read alike, by induction on the fuel. -/
theorem directives_agree (versioned : Bool) (handles : List (String × String)) (fuel : Nat)
    : Agree written Eq (directives versioned handles fuel) (directives versioned handles fuel) := by
  induction fuel generalizing versioned handles with
  | zero => exact .pure rfl
  | succ fuel ih =>
      unfold directives
      refine peek_agree.bind fun t u alike => ?_
      cases alike with
      | scalar | quoted => exact .pure rfl
      | @mark kind =>
          cases kind with
          | directive d =>
              cases d with
              | version major minor =>
                  refine take_agree.bind fun _ _ _ => .ite Iff.rfl (.fail _ _ _ _ _ _ _) ?_
                  exact .ite Iff.rfl (.fail _ _ _ _ _ _ _) (ih _ _)
              | tag handle stem =>
                  exact take_agree.bind fun _ _ _ =>
                    .ite Iff.rfl (.fail _ _ _ _ _ _ _) (ih _ _)
              | other => exact take_agree.bind fun _ _ _ => ih _ _
          | _ => exact .pure rfl

theorem documentStart_agree (fuel : Nat)
    : Agree written Eq (documentStart fuel) (documentStart fuel) := by
  refine (skipDocumentEnds_agree _).bind fun _ _ _ => peek_agree.bind fun t u alike => ?_
  rw [alike.start_eq]
  refine .ite (alike.kind_eq_iff rfl) (.pure rfl) ?_
  refine (directives_agree _ _ _).bind fun handles _ same => same ▸ ?_
  refine (modify_agree fun r q requoted => ?_).bind fun _ _ _ => peek_agree.bind fun t u alike => ?_
  · exact { requoted with }
  · refine .ite (alike.kind_eq_iff rfl) ?_ (.fail _ _ _ _ _ _ _)
    exact take_agree.bind fun _ _ _ => .pure rfl

theorem single_agree (fuel : Nat)
    : Agree written (Same fun found => ∀ d ∈ found, d.Untagged written) (single fuel)
        (single fuel) := by
  unfold single
  refine take_agree.bind fun _ _ _ => peek_agree.bind fun t u alike => ?_
  rw [alike.start_eq]
  extract_lets explicit afterEnd read explicit' read'
  have same : explicit = explicit' := by cases alike <;> rfl
  have closed {root : Node} (untagged : root.Untagged written)
      : Agree written (Same fun found => ∀ d ∈ found, d.Untagged written) (afterEnd root)
          (afterEnd root) := by
    refine peek_agree.bind fun t u alike => ?_
    extract_lets ended
    have found : Agree written (Same fun found => ∀ d ∈ found, d.Untagged written) (ended ())
        (ended ()) := by
      refine (documentStart_agree _).bind fun next _ same => same ▸ ?_
      cases next with
      | some mark => exact .fail _ _ _ _ _ _ _
      | none =>
          refine get_agree.bind fun r q requoted => ?_
          rw [requoted.anchors]
          refine .pure ⟨rfl, fun d isFound => ?_⟩
          rw [← Option.some.inj isFound]
          exact ⟨untagged, requoted.anchors ▸ requoted.untagged⟩
    exact .ite (alike.kind_eq_iff rfl) (take_agree.bind fun _ _ _ => found) found
  have document (begun : Option Mark)
      : Agree written (Same fun found => ∀ d ∈ found, d.Untagged written) (read begun)
          (read' begun) := by
    cases begun with
    | none => exact .pure ⟨rfl, nofun⟩
    | some _ =>
        refine peek_agree.bind fun u v alike => ?_
        have ends : endsDocument u.kind = endsDocument v.kind := by cases alike <;> rfl
        rw [alike.start_eq]
        refine .ite (by rw [same, ends]) (closed (.absent _)) ?_
        exact ((nodesAgree written fuel).node true false).bind fun _ _ ⟨same, untagged⟩ =>
          same ▸ closed untagged
  refine .ite (by rw [same]) ?_ (document (some u.start))
  exact (documentStart_agree _).bind fun begun _ same => same ▸ document begun

/-- The only document of a list of tokens that ends in a failure or in none. -/
def ofTokens (tokens : List Token) (failure : Option Failure)
    : Except Failure (Option Document) :=
  ((single (2 * tokens.length + 10)).run { tokens, failure }).map (·.1)

theorem ofText_eq {text : List Char} (acceptable : ∀ c ∈ text, isAcceptable c = true)
    : ofText text = ofTokens (Token.scan text).1 (Token.scan text).2 := by
  have none : text.findIdx? (!isAcceptable ·) = none := by
    rw [List.findIdx?_eq_none_iff]
    simpa using acceptable
  rw [ofText, none]
  rfl

/-- Two token lists that agree up to quotes spell the same untagged document, or none. -/
theorem ofTokens_agree {tokens tokens' : List Token}
    (paired : List.Forall₂ (Token.Requoted written) tokens tokens') (failure : Option Failure)
    : (ofTokens tokens failure).toOption = (ofTokens tokens' failure).toOption
      ∧ ∀ d, ofTokens tokens failure = .ok (some d) → d.Untagged written := by
  have requoted : Reading.Requoted written { tokens, failure } { tokens := tokens', failure } :=
    ⟨paired, rfl, rfl, rfl, List.forall_mem_nil _⟩
  have outcomes := single_agree (2 * tokens.length + 10) _ _ requoted
  unfold ofTokens
  rw [← paired.length_eq]
  generalize (single (2 * tokens.length + 10)).run { tokens, failure } = left at outcomes ⊢
  generalize (single (2 * tokens.length + 10)).run { tokens := tokens', failure } = right
    at outcomes ⊢
  cases outcomes with
  | error e f => exact ⟨rfl, nofun⟩
  | ok related _ =>
      obtain ⟨rfl, untagged⟩ := related
      exact ⟨rfl, fun d found => untagged d (Except.ok.inj found)⟩

end Node

end BlogSnapshot.Yaml
