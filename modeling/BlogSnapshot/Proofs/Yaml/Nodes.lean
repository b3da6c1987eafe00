import BlogSnapshot.Proofs.Yaml.Faults

/-! Reading the nodes of a document adds no fault to those of its tokens.
-/

namespace BlogSnapshot.Yaml.Node

/-- The tokens that are left end in a known failure, if in any. -/
def Reading.EndsKnown (r : Reading) : Prop :=
  ∀ e ∈ r.failure, Known e

/-- A step fails with known failures only, and leaves tokens that end so. -/
structure Read.Reports {α : Type} (x : Read α) : Prop where
  fails : ∀ r : Reading, r.EndsKnown → FailsOnly Known (x.run r)
  leaves : ∀ (r : Reading) a r', r.EndsKnown → x.run r = .ok (a, r') → r'.EndsKnown

namespace Read

variable {α β : Type}

namespace Reports

theorem pure (a : α) : Reports (Pure.pure a : Read α) where
  fails _ _ := .ok _ _
  leaves r b r' ends ran := by
    cases ran
    exact ends

/-- Two steps report as both of them do. -/
theorem bind {x : Read α} {f : α → Read β} (first : Reports x) (second : ∀ a, Reports (f a))
    : Reports (x >>= f) where
  fails r ends := by
    rw [StateT.run_bind]
    exact .bind (first.fails r ends) fun (a, r') ran =>
      (second a).fails r' (first.leaves r a r' ends ran)
  leaves r b r'' ends ran := by
    rw [StateT.run_bind] at ran
    obtain ⟨⟨a, r'⟩, ran₁, ran₂⟩ := (bind_eq_ok_iff _ _ _).mp ran
    exact (second a).leaves r' b r'' (first.leaves r a r' ends ran₁) ran₂

theorem map {x : Read α} (h : Reports x) (g : α → β) : Reports (g <$> x) := by
  rw [← bind_pure_comp]
  exact h.bind fun a => .pure (g a)

theorem ite {c : Prop} [Decidable c] {x y : Read α} (hx : Reports x) (hy : Reports y)
    : Reports (if c then x else y) := by
  split
  · exact hx
  · exact hy

end Reports

theorem get_reports : Reports (get : Read Reading) where
  fails _ _ := .ok _ _
  leaves r b r' ends ran := by
    cases ran
    exact ends

/-- A change that keeps the end of the tokens keeps what they end in. -/
theorem modify_reports {g : Reading → Reading} (keeps : ∀ r, (g r).failure = r.failure)
    : Reports (modify g : Read PUnit) where
  fails _ _ := .ok _ _
  leaves r b r' ends ran := by
    cases ran
    intro e failed
    exact ends e (keeps r ▸ failed)

theorem fail_reports (activity : Option (Activity × Option Mark)) (problem : Problem)
    (mark : Mark)
    : Reports (fail activity problem mark : Read α) where
  fails _ _ := .error (.text _)
  leaves _ _ _ _ ran := by cases ran

theorem peek_reports : Reports peek where
  fails r ends := by
    unfold peek
    rw [StateT.run_bind]
    refine .bind (.ok _ _) fun _ ran => ?_
    cases ran
    dsimp only
    split
    · exact .ok _ _
    case h_2 e _ failed => exact .error (ends e failed)
    · exact .ok _ _
  leaves r t r' ends ran := by
    unfold peek at ran
    rw [StateT.run_bind] at ran
    obtain ⟨_, got, ran⟩ := (bind_eq_ok_iff _ _ _).mp ran
    cases got
    dsimp only at ran
    split at ran
    · cases ran
      exact ends
    · cases ran
    · cases ran
      exact ends

theorem take_reports : Reports take := by
  refine peek_reports.bind fun t => .bind (modify_reports ?_) fun _ => .pure t
  exact fun _ => rfl

theorem at?_reports (p : TokenKind → Bool) : Reports (at? p) :=
  peek_reports.bind fun t => .pure (p t.kind)

/-- A node that may be absent, and what is done with it. -/
theorem absentOr_reports (p : TokenKind → Bool) (n : Node) {x : Read Node} (given : Reports x)
    {goOn : Node → Read α} (onward : ∀ n, Reports (goOn n))
    : Reports
        (do
          if ← at? p then
            let n ← pure n
            goOn n
          else
            let n ← x
            goOn n) :=
  (at?_reports p).bind fun _ => .ite ((Reports.pure n).bind onward) (given.bind onward)

end Read

open Read

-----------------------------------------------------------------------------------------
-- Properties
-----------------------------------------------------------------------------------------

theorem expandTag_reports (start mark : Mark) (name : TagName)
    : Reports (expandTag start mark name) := by
  unfold expandTag
  split
  · exact .pure _
  · refine get_reports.bind fun r => ?_
    split
    · exact .pure _
    · exact fail_reports _ _ _

theorem properties_reports : Reports properties := by
  refine peek_reports.bind fun t => ?_
  split
  · refine take_reports.bind fun _ => peek_reports.bind fun u => ?_
    split
    · exact take_reports.bind fun _ => .pure _
    · exact .pure _
  · refine take_reports.bind fun _ => peek_reports.bind fun u => ?_
    split
    · exact take_reports.bind fun _ => .pure _
    · exact .pure _
  · exact .pure _

theorem declare_reports (anchor : Option String) (start : Mark)
    : Reports (declare anchor start) := by
  unfold declare
  split
  · exact .pure _
  · refine get_reports.bind fun r => ?_
    split
    · exact fail_reports _ _ _
    · exact modify_reports fun _ => rfl

theorem complete_reports (anchor : Option String) (n : Node) : Reports (complete anchor n) := by
  unfold complete
  split
  · exact .pure _
  · refine .bind (modify_reports ?_) fun _ => .pure _
    exact fun _ => rfl

/-- A node is declared under its anchor before its parts are read, and completed after. -/
theorem declared_reports {α : Type} (anchor : Option String) (start : Mark) {parts : Read α}
    (inner : Reports parts) (n : α → Node)
    : Reports (do declare anchor start; let a ← parts; complete anchor (n a)) :=
  (declare_reports _ _).bind fun _ => inner.bind fun _ => complete_reports _ _

-----------------------------------------------------------------------------------------
-- Collections
-----------------------------------------------------------------------------------------

/-- Nodes and collections are read with known failures only, as far as some fuel goes. -/
structure NodesReport (fuel : Nat) : Prop where
  node : ∀ block indentless, Reports (Node.node block indentless fuel)
  blockSequence : ∀ start, Reports (Node.blockSequence start fuel)
  indentlessSequence : Reports (Node.indentlessSequence fuel)
  blockMapping : ∀ start, Reports (Node.blockMapping start fuel)
  blockValue : Reports (Node.blockValue fuel)
  flowSequence : ∀ start first, Reports (Node.flowSequence start first fuel)
  flowMapping : ∀ start first, Reports (Node.flowMapping start first fuel)
  flowValue : ∀ endsItem, Reports (Node.flowValue endsItem fuel)

theorem nodesReport_zero : NodesReport 0 where
  node _ _ := by
    unfold Node.node
    exact peek_reports.bind fun _ => fail_reports _ _ _
  blockSequence _ := .pure _
  indentlessSequence := .pure _
  blockMapping _ := .pure _
  blockValue := by
    unfold Node.blockValue
    exact peek_reports.bind fun _ => .pure _
  flowSequence _ _ := .pure _
  flowMapping _ _ := .pure _
  flowValue _ := by
    unfold Node.flowValue
    exact peek_reports.bind fun _ => .pure _

namespace NodesReport

variable {fuel : Nat} (h : NodesReport fuel)

include h

theorem node_succ (block indentless : Bool)
    : Reports (Node.node block indentless (fuel + 1)) := by
  unfold Node.node
  refine peek_reports.bind fun t => ?_
  split
  · refine take_reports.bind fun _ => get_reports.bind fun r => ?_
    exact .ite (.pure _) (fail_reports _ _ _)
  refine properties_reports.bind fun p => ?_
  -- The node is read alike whether a tag stands before it or not.
  extract_lets start goOn
  have onward (tag : Option String) : Reports (goOn tag) := by
    refine peek_reports.bind fun t => ?_
    split
    · exact take_reports.bind fun _ => (declare_reports _ _).bind fun _ => complete_reports _ _
    · exact take_reports.bind fun _ => declared_reports _ _ (h.flowSequence _ _) _
    · exact take_reports.bind fun _ => declared_reports _ _ (h.flowMapping _ _) _
    · refine .ite (declared_reports _ _ h.indentlessSequence _) (.ite ?_ (.ite ?_ (.ite ?_ ?_)))
      · exact take_reports.bind fun _ => declared_reports _ _ (h.blockSequence _) _
      · exact take_reports.bind fun _ => declared_reports _ _ (h.blockMapping _) _
      · exact (declare_reports _ _).bind fun _ => complete_reports _ _
      · exact fail_reports _ _ _
  split
  · exact (Reports.pure _).bind onward
  · exact ((expandTag_reports _ _ _).map _).bind onward

theorem blockSequence_succ (start : Mark) : Reports (Node.blockSequence start (fuel + 1)) := by
  unfold Node.blockSequence
  refine peek_reports.bind fun t => ?_
  split
  · refine take_reports.bind fun _ => absentOr_reports _ _ (h.node _ _) fun _ => ?_
    exact (h.blockSequence _).bind fun _ => .pure _
  · exact take_reports.bind fun _ => .pure _
  · exact fail_reports _ _ _

theorem indentlessSequence_succ : Reports (Node.indentlessSequence (fuel + 1)) := by
  unfold Node.indentlessSequence
  refine peek_reports.bind fun t => ?_
  split
  · refine take_reports.bind fun _ => absentOr_reports _ _ (h.node _ _) fun _ => ?_
    exact h.indentlessSequence.bind fun _ => .pure _
  · exact .pure _

theorem blockMapping_succ (start : Mark) : Reports (Node.blockMapping start (fuel + 1)) := by
  unfold Node.blockMapping
  refine peek_reports.bind fun t => ?_
  split
  · refine take_reports.bind fun _ => absentOr_reports _ _ (h.node _ _) fun _ => ?_
    exact h.blockValue.bind fun _ => (h.blockMapping _).bind fun _ => .pure _
  · exact take_reports.bind fun _ => .pure _
  · exact fail_reports _ _ _

theorem blockValue_succ : Reports (Node.blockValue (fuel + 1)) := by
  unfold Node.blockValue
  refine peek_reports.bind fun t => ?_
  split
  · exact take_reports.bind fun _ => (at?_reports _).bind fun _ => .ite (.pure _) (h.node _ _)
  · exact .pure _

theorem flowValue_succ (endsItem : TokenKind → Bool)
    : Reports (Node.flowValue endsItem (fuel + 1)) := by
  unfold Node.flowValue
  refine peek_reports.bind fun t => ?_
  split
  · exact take_reports.bind fun _ => (at?_reports _).bind fun _ => .ite (.pure _) (h.node _ _)
  · exact .pure _

theorem flowSequence_succ (start : Mark) (first : Bool)
    : Reports (Node.flowSequence start first (fuel + 1)) := by
  unfold Node.flowSequence
  refine peek_reports.bind fun t => .ite (take_reports.bind fun _ => .pure _) ?_
  -- Items of both forms, and items with and without a comma before them, go on alike.
  extract_lets afterItem afterComma
  have more (item : Node) : Reports (afterItem item) :=
    (h.flowSequence _ _).bind fun _ => .pure _
  have onward (u : Unit) : Reports (afterComma u) := by
    refine peek_reports.bind fun t => .ite (take_reports.bind fun _ => .pure _) ?_
    refine .ite ?_ ((h.node _ _).bind more)
    refine take_reports.bind fun _ => absentOr_reports _ _ (h.node _ _) fun key => ?_
    exact (h.flowValue _).bind fun _ => (Reports.pure _).bind more
  exact .ite (.ite (take_reports.bind fun _ => onward ()) ((fail_reports _ _ _).bind onward))
    (onward ())

theorem flowMapping_succ (start : Mark) (first : Bool)
    : Reports (Node.flowMapping start first (fuel + 1)) := by
  unfold Node.flowMapping
  refine peek_reports.bind fun t => .ite (take_reports.bind fun _ => .pure _) ?_
  extract_lets afterEntry afterKey afterComma
  have more (entry : Node × Node) : Reports (afterEntry entry) :=
    (h.flowMapping _ _).bind fun _ => .pure _
  have valued (key : Node) : Reports (afterKey key) :=
    (h.flowValue _).bind fun _ => (Reports.pure _).bind more
  have onward (u : Unit) : Reports (afterComma u) := by
    refine peek_reports.bind fun t => .ite (take_reports.bind fun _ => .pure _) ?_
    refine .ite ?_ ((h.node _ _).bind fun _ => ?_)
    case refine_2 => exact peek_reports.bind fun _ => (Reports.pure _).bind more
    exact take_reports.bind fun _ => absentOr_reports _ _ (h.node _ _) valued
  exact .ite (.ite (take_reports.bind fun _ => onward ()) ((fail_reports _ _ _).bind onward))
    (onward ())

end NodesReport

/-- Nodes are read with known failures only, by induction on the fuel. -/
theorem nodesReport (fuel : Nat) : NodesReport fuel := by
  induction fuel with
  | zero => exact nodesReport_zero
  | succ fuel ih =>
      exact {
        node := ih.node_succ
        blockSequence := ih.blockSequence_succ
        indentlessSequence := ih.indentlessSequence_succ
        blockMapping := ih.blockMapping_succ
        blockValue := ih.blockValue_succ
        flowSequence := ih.flowSequence_succ
        flowMapping := ih.flowMapping_succ
        flowValue := ih.flowValue_succ
      }

-----------------------------------------------------------------------------------------
-- Documents
-----------------------------------------------------------------------------------------

theorem skipDocumentEnds_reports (fuel : Nat) : Reports (skipDocumentEnds fuel) := by
  induction fuel with
  | zero => exact .pure _
  | succ fuel ih => exact peek_reports.bind fun _ => .ite (take_reports.bind fun _ => ih) (.pure _)

/-- Directives are refused with errors of the text, by induction on the fuel. -/
theorem directives_reports (versioned : Bool) (handles : List (String × String)) (fuel : Nat)
    : Reports (directives versioned handles fuel) := by
  induction fuel generalizing versioned handles with
  | zero => exact .pure _
  | succ fuel ih =>
      unfold directives
      refine peek_reports.bind fun t => ?_
      split
      · refine take_reports.bind fun _ => .ite (fail_reports _ _ _) ?_
        exact .ite (fail_reports _ _ _) (ih _ _)
      · exact take_reports.bind fun _ => .ite (fail_reports _ _ _) (ih _ _)
      · exact take_reports.bind fun _ => ih _ _
      · exact .pure _

theorem documentStart_reports (fuel : Nat) : Reports (documentStart fuel) := by
  refine (skipDocumentEnds_reports _).bind fun _ => peek_reports.bind fun t => ?_
  refine .ite (.pure _) ((directives_reports _ _ _).bind fun handles => ?_)
  refine .bind (modify_reports ?_) fun _ => peek_reports.bind fun u => ?_
  · exact fun _ => rfl
  · exact .ite (take_reports.bind fun _ => .pure _) (fail_reports _ _ _)

theorem single_reports (fuel : Nat) : Reports (single fuel) := by
  unfold single
  refine take_reports.bind fun _ => peek_reports.bind fun t => ?_
  extract_lets explicit afterEnd read
  have onward (root : Node) : Reports (afterEnd root) := by
    refine peek_reports.bind fun t => ?_
    extract_lets ended
    have closed (u : Unit) : Reports (ended u) := by
      refine (documentStart_reports _).bind fun next => ?_
      split
      · exact fail_reports _ _ _
      · exact get_reports.bind fun _ => .pure _
    exact .ite (take_reports.bind fun _ => closed ()) (closed ())
  have document (begun : Option Mark) : Reports (read begun) := by
    cases begun with
    | none => exact .pure _
    | some _ =>
        refine peek_reports.bind fun u => .ite ((Reports.pure _).bind onward) ?_
        exact ((nodesReport fuel).node true false).bind onward
  exact .ite ((documentStart_reports _).bind document) ((Reports.pure _).bind document)

/-- Reading the document of a text fails with a known failure. -/
theorem ofText_known (text : List Char) : FailsOnly Known (ofText text) := by
  unfold ofText
  split
  · exact .error (.text _)
  · dsimp only
    exact ((single_reports _).fails { tokens := _, failure := _ } (Token.scan_known text)).map _

end BlogSnapshot.Yaml.Node
