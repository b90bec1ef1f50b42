import MiniC.Parser.Unit
import MiniC.Proofs.Confinement
import MiniC.Proofs.Inversion

/-!
# Nodes cover what their rules matched

Every node of a declaration, a statement or a block records the range from the
start of its rule to the end of its match.  That follows from the last step of
each rule alone, whatever the steps before it did.
-/

namespace MiniC.Parser

/-- Every match of a step of a rule has a property. -/
def Yields {α : Type} (attempt : Attempt α) (Post : α → Prop) : Prop :=
  ∀ before value after, attempt.run before = .ok (.ok value) after → Post value

namespace Yields

variable {α β : Type} {attempt : Attempt α} {next : α → Attempt β} {P : α → Prop} {Q : β → Prop}

theorem anything : Yields attempt fun _ => True :=
  fun _ _ _ _ => trivial

theorem pure {value : α} (post : P value) : Yields (pure value : Attempt α) P := by
  intro before found after run
  cases run
  exact post

theorem throw {failure : Diagnostic} : Yields (throw failure : Attempt α) P := by
  intro before found after run
  cases run

theorem bind (first : Yields attempt P) (second : ∀ value, P value → Yields (next value) Q) :
    Yields (attempt >>= next) Q := by
  intro before found after run
  obtain ⟨value, between, ran, rest⟩ := bind_match run
  exact second value (first before value between ran) between found after rest

theorem andThen (second : ∀ value, Yields (next value) Q) : Yields (attempt >>= next) Q :=
  bind anything fun value _ => second value

theorem ite {test : Prop} [Decidable test] {other : Attempt α} (yes : Yields attempt P)
    (no : Yields other P) : Yields (if test then attempt else other) P := by
  split
  · exact yes
  · exact no

theorem supervise {input : Input} {start : Nat} {rule : Attempt (Match α)}
    {P : Match α → Prop} (yields : Yields rule P) : Yields (supervise input start rule) P := by
  intro before found after run
  obtain ⟨between, ran, -⟩ := supervise_ok run
  exact yields before found between ran

theorem guarded {input : Input} {start : Nat} {rule : Attempt (Match α)} {P : Match α → Prop}
    (yields : Yields rule P) : Yields (guarded input start rule) P := by
  intro before found after run
  cases guarded_ok run with
  | admitted _ ran => exact yields before.entered found _ ran

theorem firstOf {first : Attempt (Match α)} {others : List (Attempt (Match α))}
    {P : Match α → Prop} (firstYields : Yields first P) (yields : ∀ other ∈ others, Yields other P) :
    Yields (firstOf first others) P := by
  have searched : ∀ best before found after,
      Choice.continueWith note best (others.map ExceptT.run) before = .ok (.ok found) after →
        P found := by
    induction others with
    | nil =>
        intro best before found after run
        cases run
    | cons other others induction =>
        intro best before found after run
        obtain ⟨answer, between, ran, ended⟩ := continueWith_ok run
        cases answer with
        | ok known =>
            obtain ⟨same, -⟩ := ended
            cases same
            exact yields other (by simp) before found between ran
        | error failure =>
            unfold Searched at ended
            dsimp only at ended
            split at ended
            · exact nomatch ended.1
            · exact induction (fun other member => yields other (by simp [member])) _ _ _ _ ended
  intro before found after run
  rcases firstOf_ok run with ⟨only, -⟩ | ⟨failure, between, -, -, rest⟩
  · exact firstYields before found after only
  · exact searched failure between found after rest

theorem describe {handle : Diagnostic → Diagnostic} (yields : Yields attempt P) :
    Yields (tryCatch attempt fun failure => MonadExcept.throw (handle failure)) P :=
  fun before found after run => yields before found after (describe_match run)

end Yields

theorem Confined.and_yields {α : Type} {stream : TokenStream} {start : Nat} {attempt : Attempt α}
    {P Q : α → Prop} (confined : Confined stream start attempt P) (yields : Yields attempt Q) :
    Confined stream start attempt fun value => P value ∧ Q value := by
  intro before orderly
  have alone := confined before orderly
  cases run : attempt.run before with
  | error fault after =>
      rw [run] at alone
      exact alone
  | ok outcome after =>
      rw [run] at alone
      obtain ⟨effect, answers⟩ := alone
      cases outcome with
      | error failure => exact ⟨effect, answers⟩
      | ok value => exact ⟨effect, answers, yields before value after run⟩

section Nodes

variable {input : Input} {nested : Nested} {inner : Nat → Attempt (Match Statement)}
  {declarations : Nat → Attempt (Match Declaration)} {start : Nat}

theorem declaration_covers (budget : Nat) :
    Yields (declaration input budget start) fun found =>
      found.node.span = covering start found.stop :=
  .supervise (.andThen fun _ => .andThen fun _ => .andThen fun _ => .pure rfl)

theorem compound_covers :
    Yields (compound input inner declarations start) fun found =>
      found.node.span = covering start found.stop :=
  .supervise (.andThen fun _ => .andThen fun _ => .ite (.pure rfl) (.pure rfl))

theorem functionDefinition_covers (budget : Nat) :
    Yields (functionDefinition input budget start) fun found =>
      found.node.span = covering start found.stop :=
  .supervise (.andThen fun _ => .andThen fun _ => .ite (.andThen fun _ => .pure rfl) .throw)

theorem unitItem_covers :
    Yields (unitItem input start) fun found => found.node.span = covering start found.stop := by
  apply Yields.firstOf (declaration_covers _)
  simpa using functionDefinition_covers input.options.maxNesting

theorem wordStatement_covers {word : Kind} {build : Option Span → Statement}
    (built : ∀ span, (build span).span = span) :
    Yields (wordStatement input word build start) fun found =>
      found.node.span = covering start found.stop :=
  .supervise (.andThen fun _ => .andThen fun _ => .pure (built _))

theorem anyForm_covers :
    Yields (anyForm input nested inner declarations start) fun found =>
      found.node.span = covering start found.stop := by
  apply Yields.firstOf
  · refine .supervise (.andThen fun _ => .andThen fun _ => .andThen fun _ => ?_)
    exact .ite (.andThen fun _ => .pure rfl) (.pure rfl)
  · simp only [List.mem_cons, List.not_mem_nil, or_false, forall_eq_or_imp, forall_eq]
    refine ⟨?_, ?_, wordStatement_covers fun _ => rfl, wordStatement_covers fun _ => rfl, ?_, ?_, ?_⟩
    · exact .supervise (.andThen fun _ => .andThen fun _ => .andThen fun _ => .pure rfl)
    · refine .supervise (.andThen fun _ => .ite (.pure rfl) ?_)
      exact .andThen fun _ => .ite (.pure rfl) (.pure rfl)
    · exact .bind compound_covers fun block covered => .pure covered
    · exact .supervise (.andThen fun _ => .pure rfl)
    · exact .supervise (.andThen fun _ => .andThen fun _ => .pure rfl)

theorem statement_covers (budget : Nat) :
    Yields (statement input budget start) fun found =>
      found.node.span = covering start found.stop := by
  cases budget with
  | zero => exact .supervise (.guarded (.andThen fun _ => .throw))
  | succ budget => exact .supervise (.guarded (.describe anyForm_covers))

theorem blockItem_covers (budget : Nat) :
    Yields (blockItem (statement input budget) (declaration input budget) start) fun found =>
      found.node.span = covering start found.stop := by
  apply Yields.firstOf
  · exact .bind (declaration_covers budget) fun found covered => .pure covered
  · simpa using statement_covers budget

end Nodes

end MiniC.Parser
