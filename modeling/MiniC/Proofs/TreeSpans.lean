import Mathlib.Data.List.Perm.Basic
import MiniC.Parser.Expression
import MiniC.Syntax.Tree

/-!
# Trees whose spans nest

The trees of a row lie one after the other between two indices.  A node whose
children make up such a row, in whatever order it lists them, has spans that nest:
its children lie inside it, and no two of them share a token.  So it is enough to
follow the order in which the parts of a node were read.
-/

namespace MiniC

namespace Tree

mutual

/-- All nodes of a tree, each before those below it. -/
def nodes : Tree → List Tree
  | .absent => []
  | .node label span data children => .node label span data children :: nodesOf children

/-- All nodes of trees in order. -/
def nodesOf : List Tree → List Tree
  | [] => []
  | tree :: rest => nodes tree ++ nodesOf rest

end

/-- A token that a tree covers. -/
def Covers (tree : Tree) (index : Int) : Prop :=
  ∃ span, tree.span? = some span ∧ span.start ≤ index ∧ index < span.stop

/-- Trees without a common token. -/
def Apart (first second : Tree) : Prop :=
  ∀ index, ¬ (first.Covers index ∧ second.Covers index)

/-- A tree that ends before another one starts. -/
def Before (first second : Tree) : Prop :=
  ∃ early late, first.span? = some early ∧ second.span? = some late ∧ early.stop ≤ late.start

/-- Whether the children of a tree are items in source order: those of a block or of a
whole unit. -/
def isSequence (tree : Tree) : Prop :=
  tree.label? = some "CompilationUnit" ∨ tree.label? = some "CompoundStatement"

/-- The children of a node with a span lie inside it and apart from each other, and items
lie one after the other. -/
structure Nests (node : Tree) (span : Span) : Prop where
  inside : ∀ child ∈ node.children, ∃ inner, child.span? = some inner ∧
    span.start ≤ inner.start ∧ inner.stop ≤ span.stop
  apart : node.children.Pairwise Apart
  ordered : node.isSequence → node.children.Pairwise Before

theorem mem_nodesOf {node : Tree} {trees : List Tree} :
    node ∈ nodesOf trees ↔ ∃ tree ∈ trees, node ∈ tree.nodes := by
  induction trees with
  | nil => simp [nodesOf]
  | cons tree rest induction => simp [nodesOf, induction]

theorem Apart.symm {first second : Tree} (apart : Apart first second) : Apart second first :=
  fun index common => apart index ⟨common.2, common.1⟩

theorem Before.apart {first second : Tree} (before : Before first second) :
    Apart first second := by
  obtain ⟨early, late, firstSpan, secondSpan, ordered⟩ := before
  rintro index ⟨⟨inFirst, firstSame, -, below⟩, ⟨inSecond, secondSame, above, -⟩⟩
  cases firstSpan.symm.trans firstSame
  cases secondSpan.symm.trans secondSame
  omega

end Tree

namespace Parser

/-- A tree from one index to another, all of whose nodes cover a token and have spans that
nest. -/
structure Occupies (start stop : Nat) (tree : Tree) : Prop where
  nonempty : start < stop
  span : tree.span? = covering start stop
  nests : ∀ node ∈ tree.nodes, ∃ span, node.span? = some span ∧ span.start < span.stop ∧
    node.Nests span

/-- Trees between two indices that lie one after the other, with places that are empty. -/
inductive Row : (start stop : Nat) → List Tree → Prop
  | nil {start stop : Nat} (ordered : start ≤ stop) : Row start stop []
  | absent {start stop : Nat} {rest : List Tree} (row : Row start stop rest) :
      Row start stop (.absent :: rest)
  | cons {start first next stop : Nat} {tree : Tree} {rest : List Tree} (ordered : start ≤ first)
      (occupies : Occupies first next tree) (row : Row next stop rest) :
      Row start stop (tree :: rest)

namespace Row

variable {start middle stop : Nat} {trees more : List Tree}

theorem le (row : Row start stop trees) : start ≤ stop := by
  induction row with
  | nil ordered => exact ordered
  | absent _ induction => exact induction
  | cons ordered occupies _ induction =>
      have nonempty := occupies.nonempty
      omega

theorem from_earlier (row : Row middle stop trees) (ordered : start ≤ middle) :
    Row start stop trees := by
  induction row with
  | nil further => exact .nil (Nat.le_trans ordered further)
  | absent _ induction => exact .absent (induction ordered)
  | cons further occupies row => exact .cons (Nat.le_trans ordered further) occupies row

theorem append (first : Row start middle trees) (second : Row middle stop more) :
    Row start stop (trees ++ more) := by
  induction first with
  | nil ordered => exact second.from_earlier ordered
  | absent _ induction => exact .absent (induction second)
  | cons ordered occupies _ induction => exact .cons ordered occupies (induction second)

theorem up_to (row : Row start middle trees) (ordered : middle ≤ stop) :
    Row start stop trees := by
  have extended := row.append (.nil ordered)
  rwa [List.append_nil] at extended

theorem occupied (row : Row start stop trees) :
    ∀ tree ∈ trees, tree.label?.isSome → ∃ first next, Occupies first next tree ∧
      start ≤ first ∧ next ≤ stop := by
  induction row with
  | nil => simp
  | absent _ induction =>
      intro tree member present
      rcases List.mem_cons.mp member with rfl | later
      · cases present
      · exact induction tree later present
  | cons ordered occupies row induction =>
      intro tree member present
      rcases List.mem_cons.mp member with rfl | later
      · exact ⟨_, _, occupies, ordered, row.le⟩
      · obtain ⟨first, next, known, lower, upper⟩ := induction tree later present
        have nonempty := occupies.nonempty
        exact ⟨first, next, known, by omega, upper⟩

theorem pairwise_before (row : Row start stop trees) :
    (trees.filter fun tree => tree.label?.isSome).Pairwise Tree.Before := by
  induction row with
  | nil => exact .nil
  | absent _ induction => exact induction
  | cons ordered occupies row induction =>
      rw [List.filter_cons]
      split
      · refine List.pairwise_cons.mpr ⟨fun later member => ?_, induction⟩
        obtain ⟨inRest, present⟩ := List.mem_filter.mp member
        obtain ⟨first, next, known, lower, -⟩ := row.occupied later inRest present
        exact ⟨_, _, occupies.span, known.span, Int.ofNat_le.mpr lower⟩
      · exact induction

variable {children : List Tree} {label : String} {data : List Datum}

/-- A node whose children make up a row.  Only items have to be listed in its order. -/
theorem nests (row : Row start stop trees) (listed : children.Perm trees)
    (sequence : Tree.isSequence (.node label (covering start stop) data children) →
      children = trees) :
    Tree.Nests (.node label (covering start stop) data children) ⟨start, stop⟩ where
  inside := by
    intro child member
    obtain ⟨listedChild, present⟩ := List.mem_filter.mp member
    obtain ⟨first, next, known, lower, upper⟩ :=
      row.occupied child (listed.mem_iff.mp listedChild) present
    exact ⟨_, known.span, Int.ofNat_le.mpr lower, Int.ofNat_le.mpr upper⟩
  apart := by
    have apart := row.pairwise_before.imp Tree.Before.apart
    exact ((listed.filter _).pairwise_iff fun apart => apart.symm).mpr apart
  ordered := by
    intro items
    rw [sequence items]
    exact row.pairwise_before

theorem occupies (row : Row start stop trees) (nonempty : start < stop)
    (listed : children.Perm trees)
    (sequence : Tree.isSequence (.node label (covering start stop) data children) →
      children = trees) :
    Occupies start stop (.node label (covering start stop) data children) where
  nonempty := nonempty
  span := rfl
  nests := by
    intro node member
    rw [Tree.nodes] at member
    rcases List.mem_cons.mp member with rfl | below
    · exact ⟨_, rfl, Int.ofNat_lt.mpr nonempty, row.nests listed sequence⟩
    · obtain ⟨child, listedChild, within⟩ := Tree.mem_nodesOf.mp below
      cases child with
      | absent => simp [Tree.nodes] at within
      | node =>
          obtain ⟨first, next, known, -, -⟩ :=
            row.occupied _ (listed.mem_iff.mp listedChild) rfl
          exact known.nests node within

theorem branch (row : Row start stop children) (nonempty : start < stop) :
    Occupies start stop (.node label (covering start stop) data children) :=
  row.occupies nonempty (.refl _) fun _ => rfl

end Row

theorem Occupies.leaf {start stop : Nat} {label : String} {data : List Datum}
    (nonempty : start < stop) : Occupies start stop (.node label (covering start stop) data []) :=
  (Row.nil (Nat.le_of_lt nonempty)).branch nonempty

theorem Occupies.row {start stop : Nat} {tree : Tree} (occupies : Occupies start stop tree) :
    Row start stop [tree] :=
  .cons (Nat.le_refl _) occupies (.nil (Nat.le_refl _))

end Parser

/-- Declarators and their initial values in the order in which they are written. -/
def InitDeclarator.writtenTrees : List InitDeclarator → List Tree
  | [] => []
  | .mk declarator value :: rest =>
      declarator.tree :: Expr.optionalTree value :: InitDeclarator.writtenTrees rest

/-- A root lists its declarators before their initial values. -/
theorem InitDeclarator.trees_perm (items : List InitDeclarator) :
    (InitDeclarator.trees items ++ items.map fun item => Expr.optionalTree item.value).Perm
      (InitDeclarator.writtenTrees items) := by
  induction items with
  | nil => exact .nil
  | cons item rest induction =>
      cases item with
      | mk declarator value =>
          rw [InitDeclarator.trees, InitDeclarator.writtenTrees, List.cons_append]
          refine .cons _ ?_
          exact List.perm_middle.trans (.cons _ induction)

theorem Statement.trees_eq_map (items : List Statement) :
    Statement.trees items = items.map Statement.tree := by
  induction items with
  | nil => rfl
  | cons item rest induction => rw [Statement.trees, induction, List.map_cons]

theorem Declaration.trees_eq_map (items : List Declaration) :
    Declaration.trees items = items.map Declaration.tree := by
  induction items with
  | nil => rfl
  | cons item rest induction => rw [Declaration.trees, induction, List.map_cons]

end MiniC
