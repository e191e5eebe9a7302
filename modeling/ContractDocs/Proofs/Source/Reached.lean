/-
The nodes that a walk of a syntax tree reaches, said without the walk.

A node is reached when it is the root, or a named child of a reached node
that lets the walk through: one that declares nothing, or a contract-like
declaration whose header can be read (`Source.passes`). Because two nodes of
a tree may look alike, what is reached is a `Spot`: the node together with
its path from the root, the nodes around it and the siblings before it.

# Pre-order

Paths are lists of child positions, and their lexicographic order is the
order of the document: a node comes before what is below it, and what is
below a child before what is below a later one. `Source.spots` lists the
reached spots in that order; `mem_spots_iff` and `sorted_spots` say that the
list is the one fixed by `Reached` and the order.
-/
import ContractDocs.Source.Walk
import Mathlib.Data.List.Lex

namespace ContractDocs

/-- A node in its place. -/
structure Spot where
  /-- Positions among siblings, from the root down. -/
  path : List Nat
  /-- The nodes around it, nearest first. -/
  above : List Node
  /-- Its earlier siblings, nearest first. -/
  before : List Node
  node : Node

namespace Source

variable (source : Source)

/-- The name of the scope a node opens: that of a contract-like declaration
whose header can be read. -/
def scopeName? (node : Node) : Option String :=
  (node.declares?.filter Kind.isContractLike).bind fun kind =>
    (source.signature? node kind).map fun parts => parts.name.getD ""

/-- The walk goes on below this node. -/
def passes (node : Node) : Bool :=
  node.declares?.isNone || (source.scopeName? node).isSome

/-- The root of the file in its place. -/
def top : Spot :=
  ⟨[], [], [], source.root⟩

/-- Reached by named children, through nodes that let the walk pass. -/
inductive ReachedFrom (start : Spot) : Spot → Prop where
  | refl : ReachedFrom start start
  | child {parent : Spot} {earlier later : List Node} {node : Node} :
      ReachedFrom start parent → source.passes parent.node = true →
      parent.node.children = earlier ++ node :: later → node.named = true →
      ReachedFrom start ⟨parent.path ++ [earlier.length],
        parent.node :: parent.above, earlier.reverse, node⟩

/-- Reached from the root. -/
def Reached (spot : Spot) : Prop :=
  source.ReachedFrom source.top spot

-- ========================================================= in pre-order

mutual

/-- The spots reached from a node, the node first. -/
def spotsFrom (path : List Nat) (above before : List Node) : Node → List Spot
  | node@⟨_, _, _, _, _, _, children⟩ =>
    ⟨path, above, before, node⟩
      :: if source.passes node then spotsAmong path (node :: above) [] children
        else []

/-- The spots reached from the named nodes of a list of siblings. -/
def spotsAmong (path : List Nat) (above before : List Node) :
    List Node → List Spot
  | [] => []
  | node :: rest =>
    (if node.named then spotsFrom (path ++ [before.length]) above before node
      else [])
      ++ spotsAmong path above (node :: before) rest

end

/-- The reached spots of a file in pre-order. -/
def spots : List Spot :=
  source.spotsFrom [] [] [] source.root

variable {source}

theorem spotsFrom_eq (path : List Nat) (above before : List Node) (node : Node) :
    source.spotsFrom path above before node
      = ⟨path, above, before, node⟩
        :: if source.passes node
          then source.spotsAmong path (node :: above) [] node.children else [] := by
  cases node
  rw [spotsFrom]

theorem spotsAmong_cons (path : List Nat) (above before : List Node)
    (node : Node) (rest : List Node) :
    source.spotsAmong path above before (node :: rest)
      = (if node.named
        then source.spotsFrom (path ++ [before.length]) above before node else [])
        ++ source.spotsAmong path above (node :: before) rest := by
  rw [spotsAmong]

-- =============================================================== order

mutual

/-- What is reached from a node lies below its path. -/
theorem path_of_mem_spotsFrom {spot : Spot} :
    ∀ (node : Node) {path : List Nat} {above before : List Node},
      spot ∈ source.spotsFrom path above before node →
      spot.path = path ∨ ∃ i x, spot.path = path ++ i :: x
  | ⟨_, _, _, _, _, _, children⟩, path, above, before, h => by
      rw [spotsFrom] at h
      rcases List.mem_cons.1 h with rfl | h
      · exact .inl rfl
      · split at h
        · obtain ⟨i, x, -, hpath⟩ := path_of_mem_spotsAmong children h
          exact .inr ⟨i, x, hpath⟩
        · cases h

/-- What is reached from siblings lies below their positions. -/
theorem path_of_mem_spotsAmong {spot : Spot} :
    ∀ (nodes : List Node) {path : List Nat} {above before : List Node},
      spot ∈ source.spotsAmong path above before nodes →
      ∃ i x, before.length ≤ i ∧ spot.path = path ++ i :: x
  | [], path, above, before, h => by
      rw [spotsAmong] at h
      cases h
  | node :: rest, path, above, before, h => by
      rw [spotsAmong_cons] at h
      rcases List.mem_append.1 h with h | h
      · split at h
        · rcases path_of_mem_spotsFrom node h with hpath | ⟨i, x, hpath⟩
          · exact ⟨before.length, [], Nat.le_refl _, hpath⟩
          · refine ⟨before.length, i :: x, Nat.le_refl _, ?_⟩
            rw [hpath, List.append_assoc, List.singleton_append]
        · cases h
      · obtain ⟨i, x, hi, hpath⟩ := path_of_mem_spotsAmong rest h
        rw [List.length_cons] at hi
        exact ⟨i, x, by omega, hpath⟩

end

mutual

theorem sorted_spotsFrom :
    ∀ (node : Node) (path : List Nat) (above before : List Node),
      (source.spotsFrom path above before node).Pairwise
        fun a b => a.path < b.path
  | ⟨_, _, _, _, _, _, children⟩, path, above, before => by
      rw [spotsFrom, List.pairwise_cons]
      split
      · refine ⟨fun spot hspot => ?_, sorted_spotsAmong children path _ []⟩
        obtain ⟨i, x, -, hpath⟩ := path_of_mem_spotsAmong children hspot
        rw [hpath]
        have hlt : path ++ [] < path ++ i :: x :=
          List.append_left_lt (List.nil_lt_cons i x)
        rwa [List.append_nil] at hlt
      · exact ⟨fun spot hspot => absurd hspot List.not_mem_nil, .nil⟩

theorem sorted_spotsAmong :
    ∀ (nodes : List Node) (path : List Nat) (above before : List Node),
      (source.spotsAmong path above before nodes).Pairwise
        fun a b => a.path < b.path
  | [], path, above, before => by
      rw [spotsAmong]
      exact .nil
  | node :: rest, path, above, before => by
      rw [spotsAmong_cons, List.pairwise_append]
      split
      · refine ⟨sorted_spotsFrom node _ above before,
          sorted_spotsAmong rest path above (node :: before), ?_⟩
        intro a ha b hb
        -- both paths go below `path`, and part there at a smaller position
        obtain ⟨i, x, hi, hbpath⟩ := path_of_mem_spotsAmong rest hb
        rw [List.length_cons] at hi
        have hlt : ∀ y, path ++ before.length :: y < path ++ i :: x := fun y =>
          List.append_left_lt (List.cons_lt_cons_iff.2 (.inl (by omega)))
        rw [hbpath]
        rcases path_of_mem_spotsFrom node ha with hpath | ⟨j, y, hpath⟩
        · rw [hpath]
          exact hlt []
        · rw [hpath, List.append_assoc, List.singleton_append]
          exact hlt (j :: y)
      · exact ⟨.nil, sorted_spotsAmong rest path above (node :: before),
          fun a ha => absurd ha List.not_mem_nil⟩

end

/-- The list of reached spots is in pre-order. -/
theorem sorted_spots (source : Source) :
    source.spots.Pairwise fun a b => a.path < b.path :=
  sorted_spotsFrom source.root [] [] []

-- ========================================================== membership

mutual

theorem reachedFrom_of_mem_spotsFrom {start spot : Spot} :
    ∀ (node : Node) {path : List Nat} {above before : List Node},
      source.ReachedFrom start ⟨path, above, before, node⟩ →
      spot ∈ source.spotsFrom path above before node →
      source.ReachedFrom start spot
  | ⟨kind, named, field, first, last, row, children⟩, path, above, before,
      hstart, h => by
      rw [spotsFrom] at h
      rcases List.mem_cons.1 h with rfl | h
      · exact hstart
      · split at h
        · next hpass =>
            exact reachedFrom_of_mem_spotsAmong children hstart hpass rfl h
        · cases h

theorem reachedFrom_of_mem_spotsAmong {start parent spot : Spot} :
    ∀ (nodes : List Node) {before : List Node},
      source.ReachedFrom start parent → source.passes parent.node = true →
      parent.node.children = before.reverse ++ nodes →
      spot ∈ source.spotsAmong parent.path (parent.node :: parent.above) before
        nodes →
      source.ReachedFrom start spot
  | [], before, hparent, hpass, hchildren, h => by
      rw [spotsAmong] at h
      cases h
  | node :: rest, before, hparent, hpass, hchildren, h => by
      rw [spotsAmong_cons] at h
      rcases List.mem_append.1 h with h | h
      · split at h
        · next hnamed =>
            have hchild := hparent.child hpass hchildren hnamed
            rw [List.length_reverse, List.reverse_reverse] at hchild
            exact reachedFrom_of_mem_spotsFrom node hchild h
        · cases h
      · refine reachedFrom_of_mem_spotsAmong rest hparent hpass ?_ h
        rw [hchildren, List.reverse_cons, List.append_assoc,
          List.singleton_append]

end

/-- A named child stands among the spots of its siblings. -/
theorem mem_spotsAmong_of_named (source : Source) (path : List Nat)
    (above : List Node) {node : Node} (hnamed : node.named = true) (later : List Node) :
    ∀ (earlier before : List Node),
      ⟨path ++ [before.length + earlier.length], above, earlier.reverse ++ before,
          node⟩
        ∈ source.spotsAmong path above before (earlier ++ node :: later) := by
  intro earlier
  induction earlier with
  | nil =>
      intro before
      rw [List.nil_append, spotsAmong_cons, if_pos hnamed, spotsFrom_eq]
      exact List.mem_append_left _ (List.mem_cons_self ..)
  | cons other earlier ih =>
      intro before
      rw [List.cons_append, spotsAmong_cons]
      refine List.mem_append_right _ ?_
      have h := ih (other :: before)
      rw [List.length_cons] at h
      rw [List.length_cons, List.reverse_cons, List.append_assoc,
        List.singleton_append, Nat.add_comm earlier.length 1, ← Nat.add_assoc]
      exact h

theorem mem_spotsAmong_children {parent : Spot} {earlier later : List Node}
    {child : Node} (hchildren : parent.node.children = earlier ++ child :: later)
    (hnamed : child.named = true) :
    ⟨parent.path ++ [earlier.length], parent.node :: parent.above,
        earlier.reverse, child⟩
      ∈ source.spotsAmong parent.path (parent.node :: parent.above) []
        parent.node.children := by
  have hmem := mem_spotsAmong_of_named source parent.path
    (parent.node :: parent.above) hnamed later earlier []
  rw [List.length_nil, Nat.zero_add, List.append_nil, ← hchildren] at hmem
  exact hmem

mutual

/-- The children of a spot in the list are in the list. -/
theorem child_mem_spotsFrom {parent : Spot} {earlier later : List Node}
    {child : Node} (hpass : source.passes parent.node = true)
    (hchildren : parent.node.children = earlier ++ child :: later)
    (hnamed : child.named = true) :
    ∀ (node : Node) {path : List Nat} {above before : List Node},
      parent ∈ source.spotsFrom path above before node →
      ⟨parent.path ++ [earlier.length], parent.node :: parent.above,
        earlier.reverse, child⟩ ∈ source.spotsFrom path above before node
  | ⟨_, _, _, _, _, _, children⟩, path, above, before, h => by
      rw [spotsFrom] at h ⊢
      refine List.mem_cons_of_mem _ ?_
      rcases List.mem_cons.1 h with rfl | h
      · rw [if_pos hpass]
        exact mem_spotsAmong_children hchildren hnamed
      · split at h
        · next hpass' =>
            rw [if_pos hpass']
            exact child_mem_spotsAmong hpass hchildren hnamed children h
        · cases h

theorem child_mem_spotsAmong {parent : Spot} {earlier later : List Node}
    {child : Node} (hpass : source.passes parent.node = true)
    (hchildren : parent.node.children = earlier ++ child :: later)
    (hnamed : child.named = true) :
    ∀ (nodes : List Node) {path : List Nat} {above before : List Node},
      parent ∈ source.spotsAmong path above before nodes →
      ⟨parent.path ++ [earlier.length], parent.node :: parent.above,
        earlier.reverse, child⟩ ∈ source.spotsAmong path above before nodes
  | [], path, above, before, h => by
      rw [spotsAmong] at h
      cases h
  | node :: rest, path, above, before, h => by
      rw [spotsAmong_cons] at h ⊢
      rcases List.mem_append.1 h with h | h
      · refine List.mem_append_left _ ?_
        split at h
        · next hnamed' =>
            rw [if_pos hnamed']
            exact child_mem_spotsFrom hpass hchildren hnamed node h
        · cases h
      · exact List.mem_append_right _
          (child_mem_spotsAmong hpass hchildren hnamed rest h)

end

/-- The list holds exactly what is reached. -/
theorem mem_spots_iff {spot : Spot} : spot ∈ source.spots ↔ source.Reached spot := by
  constructor
  · intro h
    exact reachedFrom_of_mem_spotsFrom source.root .refl h
  · intro h
    induction h with
    | refl =>
        rw [spots, spotsFrom_eq]
        exact List.mem_cons_self ..
    | child _ hpass hchildren hnamed ih =>
        exact child_mem_spotsFrom hpass hchildren hnamed source.root ih

end Source

end ContractDocs
