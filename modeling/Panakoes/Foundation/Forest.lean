import Mathlib.Data.List.Induction
import Mathlib.Data.List.Infix
import Mathlib.Data.List.Nodup
import Mathlib.Logic.Relation
import Mathlib.Order.Basic

/-! # Forests that grow

A log of links, each naming a node and the node it hangs under. A log is grown
when every link hangs a new node under a node of the log, or repeats a link of
the log. Each node of such a log has one parent at most, and following parents
never leads back. The nodes from a root up to some node make a branch.
-/

namespace Forest

variable {α : Type*}

/-- The nodes of a log of links. -/
def nodes (links : List (α × Option α)) : List α := links.map Prod.fst

/-- `child` hangs under `parent`. -/
def Parent (links : List (α × Option α)) (child parent : α) : Prop :=
  (child, some parent) ∈ links

/-- Every link hangs a new node under an old one, or has been there before. -/
inductive Grown : List (α × Option α) → Prop
  | nil : Grown []
  | fresh {links : List (α × Option α)} {node : α} {parent : Option α} (grown : Grown links)
      (new : node ∉ nodes links) (known : ∀ above ∈ parent, above ∈ nodes links) :
      Grown (links ++ [(node, parent)])
  | again {links : List (α × Option α)} {link : α × Option α} (grown : Grown links)
      (held : link ∈ links) : Grown (links ++ [link])

/-- A branch, root first: each node hangs under the one before it. -/
def Branch (links : List (α × Option α)) (branch : List α) : Prop :=
  ∀ below node, below ++ [node] <+: branch → (node, below.getLast?) ∈ links

variable {links longer : List (α × Option α)} {branch : List α} {node parent : α}
  {above : Option α}

theorem mem_nodes_of_mem (held : (node, above) ∈ links) : node ∈ nodes links :=
  List.mem_map.mpr ⟨_, held, rfl⟩

theorem nodes_append (links longer : List (α × Option α)) :
    nodes (links ++ longer) = nodes links ++ nodes longer :=
  List.map_append

/-! ## Grown logs -/

/-- What a node hangs under is a node. -/
theorem Grown.parent_mem (grown : Grown links) (hangs : Parent links node parent) :
    parent ∈ nodes links := by
  induction grown with
  | nil => cases hangs
  | fresh grown new known ih =>
      rw [nodes_append]
      apply List.mem_append_left
      rcases List.mem_append.mp hangs with before | now
      · exact ih before
      · cases List.mem_singleton.mp now
        exact known parent rfl
  | again grown held ih =>
      rw [nodes_append]
      apply List.mem_append_left
      rcases List.mem_append.mp hangs with before | now
      · exact ih before
      · cases List.mem_singleton.mp now
        exact ih held

/-- A node has one place. -/
theorem Grown.unique {other : Option α} (grown : Grown links) (one : (node, above) ∈ links)
    (two : (node, other) ∈ links) : above = other := by
  induction grown with
  | nil => cases one
  | fresh grown new known ih =>
      rcases List.mem_append.mp one with before | now
      · rcases List.mem_append.mp two with before' | now'
        · exact ih before before'
        · cases List.mem_singleton.mp now'
          exact absurd (mem_nodes_of_mem before) new
      · cases List.mem_singleton.mp now
        rcases List.mem_append.mp two with before' | now'
        · exact absurd (mem_nodes_of_mem before') new
        · cases List.mem_singleton.mp now'
          rfl
  | again grown held ih =>
      apply ih
      · rcases List.mem_append.mp one with before | now
        · exact before
        · cases List.mem_singleton.mp now
          exact held
      · rcases List.mem_append.mp two with before | now
        · exact before
        · cases List.mem_singleton.mp now
          exact held

/-- Nodes can be ranked so that what a node hangs under ranks lower. -/
theorem Grown.ranked (grown : Grown links) :
    ∃ rank : α → ℕ, ∀ child parent, Parent links child parent → rank parent < rank child := by
  classical
  induction grown with
  | nil => exact ⟨fun _ => 0, by rintro child parent ⟨⟩⟩
  | @fresh links node above grown new known ih =>
      obtain ⟨rank, lower⟩ := ih
      have different : ∀ other ∈ nodes links, other ≠ node := by
        rintro other member rfl
        exact new member
      -- The new node ranks above the one it hangs under.
      let top : ℕ := (above.map rank).getD 0 + 1
      refine ⟨Function.update rank node top, fun child parent hangs => ?_⟩
      rcases List.mem_append.mp hangs with before | now
      · rw [Function.update_of_ne (different _ (mem_nodes_of_mem before)),
          Function.update_of_ne (different _ (grown.parent_mem before))]
        exact lower child parent before
      · cases List.mem_singleton.mp now
        rw [Function.update_self, Function.update_of_ne (different _ (known parent rfl))]
        exact Nat.lt_succ_self _
  | again grown held ih =>
      obtain ⟨rank, lower⟩ := ih
      refine ⟨rank, fun child parent hangs => lower child parent ?_⟩
      rcases List.mem_append.mp hangs with before | now
      · exact before
      · cases List.mem_singleton.mp now
        exact held

/-- **Acyclicity.** Following parents never leads back. -/
theorem Grown.acyclic (grown : Grown links) (node : α) :
    ¬ Relation.TransGen (Parent links) node node := by
  obtain ⟨rank, lower⟩ := grown.ranked
  have descends : ∀ child parent, Relation.TransGen (Parent links) child parent →
      rank parent < rank child := by
    intro child parent path
    induction path with
    | single hangs => exact lower _ _ hangs
    | tail _ hangs ih => exact (lower _ _ hangs).trans ih
  exact fun cycle => Nat.lt_irrefl _ (descends node node cycle)

/-- What a log has grown from is grown. -/
theorem Grown.of_shorter (grown : Grown longer) (shorter : links <+: longer) : Grown links := by
  induction grown with
  | nil =>
      rw [List.prefix_nil.mp shorter]
      exact .nil
  | fresh grown new known ih =>
      rcases List.prefix_concat_iff.mp shorter with rfl | before
      · exact grown.fresh new known
      · exact ih before
  | again grown held ih =>
      rcases List.prefix_concat_iff.mp shorter with rfl | before
      · exact grown.again held
      · exact ih before

/-! ## Branches -/

theorem Branch.nil : Branch links [] := by
  intro below node shorter
  simp at shorter

theorem Branch.mono (isBranch : Branch links branch) (more : links ⊆ longer) :
    Branch longer branch :=
  fun below node shorter => more (isBranch below node shorter)

theorem Branch.of_shorter {shorter : List α} (isBranch : Branch links branch)
    (isPrefix : shorter <+: branch) : Branch links shorter :=
  fun below node smaller => isBranch below node (smaller.trans isPrefix)

/-- A branch goes on with a node that hangs under its last one. -/
theorem Branch.concat (isBranch : Branch links branch)
    (hangs : (node, branch.getLast?) ∈ links) : Branch links (branch ++ [node]) := by
  intro below other shorter
  rcases List.prefix_concat_iff.mp shorter with same | before
  · obtain ⟨rfl, last⟩ := List.append_inj' same rfl
    cases last
    exact hangs
  · exact isBranch below other before

/-- The last node of a branch hangs under the one before. -/
theorem Branch.last (isBranch : Branch links (branch ++ [node])) :
    (node, branch.getLast?) ∈ links :=
  isBranch branch node List.prefix_rfl

theorem Branch.mem_nodes (isBranch : Branch links branch) (member : node ∈ branch) :
    node ∈ nodes links := by
  obtain ⟨below, after, rfl⟩ := List.append_of_mem member
  refine mem_nodes_of_mem (isBranch below node ⟨after, ?_⟩)
  rw [List.append_assoc, List.singleton_append]

/-- No node is twice on a branch of a grown log. -/
theorem Branch.nodup (isBranch : Branch links branch) (grown : Grown links) : branch.Nodup := by
  obtain ⟨rank, lower⟩ := grown.ranked
  have ascending : branch.Pairwise fun one other => rank one < rank other := by
    induction branch using List.reverseRecOn with
    | nil => exact List.Pairwise.nil
    | append_singleton below node ih =>
        have before := ih (isBranch.of_shorter (List.prefix_append _ _))
        refine List.pairwise_append.mpr ⟨before, List.pairwise_singleton _ _, ?_⟩
        intro other member last same
        cases List.mem_singleton.mp same
        induction below using List.reverseRecOn with
        | nil => cases member
        | append_singleton rest top =>
            have hangs := isBranch.last
            rw [List.getLast?_concat] at hangs
            have topLower := lower _ _ hangs
            rcases List.mem_append.mp member with earlier | now
            · exact ((List.pairwise_append.mp before).2.2 other earlier top
                List.mem_cons_self).trans topLower
            · cases List.mem_singleton.mp now
              exact topLower
  refine ascending.imp fun less same => ?_
  rw [same] at less
  exact Nat.lt_irrefl _ less

end Forest
