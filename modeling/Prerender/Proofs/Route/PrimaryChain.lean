import Prerender.Bindings
import Prerender.Route

/-!
# The primary chain of a page tree

The nodes of a tree from the root along the primary branches: a node, and then the chain of its
primary child if it has one (`primaryChain_eq`). The steps of a page's route are these nodes, by
their names and the modules behind them (`primarySteps_eq_map`).
-/

namespace Prerender

namespace TreeNode

/-- The node on the primary branch of a node. -/
def primaryChild? (node : TreeNode) : Option TreeNode :=
  Bindings.lookup? node.branches primaryBranch

mutual

/-- The nodes from a node along the primary branches to the leaf. -/
def primaryChain : TreeNode → List TreeNode
  | ⟨segment, layout, page, branches⟩ =>
    ⟨segment, layout, page, branches⟩ :: primaryChainBelow branches
termination_by structural node => node

/-- The nodes of the primary branch among some branches. -/
def primaryChainBelow : List (String × TreeNode) → List TreeNode
  | [] => []
  | (name, node) :: rest =>
    if name = primaryBranch then primaryChain node else primaryChainBelow rest
termination_by structural branches => branches

end

theorem primaryChainBelow_eq (branches : List (String × TreeNode)) :
    primaryChainBelow branches
      = ((Bindings.lookup? branches primaryBranch).map primaryChain).getD [] := by
  induction branches with
  | nil => rfl
  | cons branch rest ih =>
    rw [primaryChainBelow, Bindings.lookup?]
    split
    · rfl
    · exact ih

theorem primaryChain_eq (node : TreeNode) :
    node.primaryChain = node :: (node.primaryChild?.map primaryChain).getD [] := by
  obtain ⟨segment, layout, page, branches⟩ := node
  rw [primaryChain, primaryChainBelow_eq]
  rfl

mutual

/-- The steps of a route are the nodes of its chain, by their names and the modules behind them. -/
theorem primarySteps_eq_map : ∀ node : TreeNode,
    node.primarySteps = node.primaryChain.map fun node => ⟨node.segment, node.module?⟩
  | ⟨segment, layout, page, branches⟩ => by
    rw [primarySteps, primaryChain, List.map_cons, primaryStepsBelow_eq_map]
    rfl

theorem primaryStepsBelow_eq_map : ∀ branches : List (String × TreeNode),
    primaryStepsBelow branches
      = (primaryChainBelow branches).map fun node => ⟨node.segment, node.module?⟩
  | [] => by
    rw [primaryStepsBelow, primaryChainBelow, List.map_nil]
  | (name, node) :: rest => by
    rw [primaryStepsBelow, primaryChainBelow]
    split
    · exact primarySteps_eq_map node
    · exact primaryStepsBelow_eq_map rest

end

end TreeNode

end Prerender
