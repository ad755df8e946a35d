import Mathlib.Data.List.Perm.Subperm
import Mathlib.Logic.Relation
import Mathlib.Tactic.Basic

/-!
# Closures of finite graphs

Two ways to find the nodes that can be reached in a graph, which may have cycles.
A recursion follows every path until it meets a node of its own path (`visit`).
A worklist marks what it has seen and follows every mark once (`traverse`). Both
terminate since only the listed nodes have edges, and both find exactly what is
reachable.
-/

namespace Reperio

/-- A graph whose edges leave from finitely many nodes. -/
structure FiniteGraph (Node Edge : Type) where
  next : Node → List Edge
  nodes : List Node
  listed : ∀ node, next node ≠ [] → node ∈ nodes

namespace FiniteGraph

open Relation

section Count

variable {α : Type} {listed : List α} {before after : α → Prop} [DecidablePred before]
  [DecidablePred after]

theorem length_filter_lt (fewer : ∀ value ∈ listed, after value → before value) {value : α}
    (member : value ∈ listed) (left : before value) (gone : ¬after value) :
    (listed.filter after).length < (listed.filter before).length := by
  rw [← List.countP_eq_length_filter, ← List.countP_eq_length_filter]
  induction listed with
  | nil => cases member
  | cons first rest ih =>
    have restFewer : ∀ value ∈ rest, after value → before value :=
      fun value inRest => fewer value (List.mem_cons_of_mem _ inRest)
    rw [List.countP_cons, List.countP_cons]
    rcases List.mem_cons.mp member with rfl | later
    · have notMore : rest.countP after ≤ rest.countP before := by
        refine List.countP_mono_left fun value inRest holds => ?_
        exact decide_eq_true (restFewer value inRest (of_decide_eq_true holds))
      simp only [left, gone, decide_true, decide_false, if_true, Bool.false_eq_true, if_false]
      omega
    · have firstFewer := fewer first List.mem_cons_self
      have smaller := ih restFewer later
      by_cases isAfter : after first
      · simp only [isAfter, firstFewer isAfter, decide_true, if_true]
        omega
      · simp only [isAfter, decide_false, Bool.false_eq_true, if_false]
        omega

end Count

/-! ## Following paths -/

section Paths

variable {Node : Type} [DecidableEq Node] (graph : FiniteGraph Node Node)

/-- All nodes on paths from a node, where a path ends at a node that it has seen. -/
def visit (node : Node) (seen : List Node) : List Node := if node ∈ seen then []
  else
    graph.next node ++ (graph.next node).flatMap fun next => visit next (node :: seen)
termination_by (graph.nodes.filter fun other => other ∉ seen).length
decreasing_by
  rename_i unseen member
  have isListed := graph.listed node (List.ne_nil_of_mem member)
  refine length_filter_lt ?_ isListed unseen (by simp)
  intro value _ notSeen
  exact fun isSeen => notSeen (List.mem_cons_of_mem _ isSeen)

/-- After its last visit to its first node a path does not return there. -/
theorem exists_departure {related : Node → Node → Prop} {first last : Node}
    (path : TransGen related first last) :
    ∃ next, related first next ∧
      (next = last ∨ TransGen (fun node other => node ≠ first ∧ related node other) next last) := by
  induction path with
  | single step => exact ⟨_, step, Or.inl rfl⟩
  | @tail middle last _ step ih =>
    by_cases returned : middle = first
    · subst returned
      exact ⟨last, step, Or.inl rfl⟩
    · rcases ih with ⟨next, departs, rfl | rest⟩
      · exact ⟨next, departs, Or.inr (TransGen.single ⟨returned, step⟩)⟩
      · exact ⟨next, departs, Or.inr (rest.tail ⟨returned, step⟩)⟩

/-- The recursion finds what can be reached without passing through the nodes that are seen. -/
theorem mem_visit {node target : Node} {seen : List Node} : target ∈ visit graph node seen ↔
      TransGen (fun first second => first ∉ seen ∧ second ∈ graph.next first) node target := by
  induction node, seen using visit.induct graph with
  | case1 node seen inside =>
    rw [visit, if_pos inside]
    refine iff_of_false List.not_mem_nil fun path => ?_
    rcases TransGen.head'_iff.mp path with ⟨next, ⟨unseen, _⟩, _⟩
    exact unseen inside
  | case2 node seen unseen ih =>
    rw [visit, if_neg unseen, List.mem_append, List.mem_flatMap]
    constructor
    · rintro (isNext | ⟨next, isNext, found⟩)
      · exact TransGen.single ⟨unseen, isNext⟩
      · refine TransGen.head ⟨unseen, isNext⟩ (TransGen.mono ?_ _ _ ((ih next isNext).mp found))
        exact fun first second step =>
          ⟨fun isSeen => step.1 (List.mem_cons_of_mem _ isSeen), step.2⟩
    · intro path
      rcases exists_departure path with ⟨next, ⟨_, isNext⟩, rfl | rest⟩
      · exact Or.inl isNext
      · refine Or.inr ⟨next, isNext, (ih next isNext).mpr (TransGen.mono ?_ _ _ rest)⟩
        rintro first second ⟨different, notSeen, step⟩
        exact ⟨List.not_mem_cons_of_ne_of_not_mem different notSeen, step⟩

theorem mem_visit_nil {node target : Node} : target ∈ visit graph node [] ↔
      TransGen (fun first second => second ∈ graph.next first) node target := by
  rw [mem_visit]
  simp only [List.not_mem_nil, not_false_eq_true, true_and]

end Paths

/-! ## Following paths on a stack -/

section Stack

/-- A path of so many edges from a node. Before its end it meets no node twice, and none that is
seen. -/
def HasPath {Node : Type} (related : Node → Node → Prop) (length : ℕ) (node : Node)
    (seen : List Node) : Prop :=
  ∃ path : List Node, path.length = length ∧ (node :: path).IsChain related ∧
    (node :: path).dropLast.Nodup ∧ ∀ other ∈ (node :: path).dropLast, other ∉ seen

theorem hasPath_succ_iff {Node : Type} {related : Node → Node → Prop} {length : ℕ} {node : Node}
    {seen : List Node} : HasPath related (length + 1) node seen ↔
      node ∉ seen ∧ ∃ next, related node next ∧ HasPath related length next (node :: seen) := by
  constructor
  · rintro ⟨_ | ⟨next, path⟩, isLength, chain, distinct, unseen⟩
    · cases isLength
    rw [List.isChain_cons_cons] at chain
    rw [List.dropLast_cons_cons, List.nodup_cons] at distinct
    rw [List.dropLast_cons_cons, List.forall_mem_cons] at unseen
    refine ⟨unseen.1, next, chain.1, path, Nat.succ.inj isLength, chain.2, distinct.2, ?_⟩
    intro other member
    refine List.not_mem_cons_of_ne_of_not_mem ?_ (unseen.2 other member)
    rintro rfl
    exact distinct.1 member
  · rintro ⟨new, next, isNext, path, isLength, chain, distinct, unseen⟩
    refine ⟨next :: path, congrArg Nat.succ isLength, List.isChain_cons_cons.mpr ⟨isNext, chain⟩,
      ?_⟩
    rw [List.dropLast_cons_cons, List.nodup_cons, List.forall_mem_cons]
    refine ⟨⟨fun member => unseen node member List.mem_cons_self, distinct⟩, new, ?_⟩
    exact fun other member isSeen => unseen other member (List.mem_cons_of_mem _ isSeen)

variable {Node : Type} [DecidableEq Node] (graph : FiniteGraph Node Node)

/-- `visit` with room for so many calls in each other. -/
def visitWithin : ℕ → Node → List Node → Option (List Node)
  | 0, _, _ => none
  | frames + 1, node, seen =>
    if node ∈ seen then some []
    else do
      let found ← (graph.next node).mapM fun next => visitWithin frames next (node :: seen)
      return graph.next node ++ found.flatten

/-- A loop whose steps may fail fails if one of them does. -/
theorem mapM_cases {α β : Type} {step : α → Option β} {result : α → β} {fails : α → Prop}
    {values : List α} (each : ∀ value ∈ values,
      (step value = some (result value) ∧ ¬fails value) ∨ (step value = none ∧ fails value)) :
    (values.mapM step = some (values.map result) ∧ ¬∃ value ∈ values, fails value) ∨
      (values.mapM step = none ∧ ∃ value ∈ values, fails value) := by
  induction values with
  | nil => exact Or.inl ⟨rfl, by simp⟩
  | cons value values ih =>
    rcases List.forall_mem_cons.mp each with ⟨first, rest⟩
    rw [List.mapM_cons, List.exists_mem_cons_iff]
    rcases first with ⟨isFirst, fits⟩ | ⟨isFirst, failed⟩
    · rcases ih rest with ⟨areRest, fit⟩ | ⟨areRest, fails⟩
      · rw [isFirst, areRest]
        exact Or.inl ⟨rfl, not_or.mpr ⟨fits, fit⟩⟩
      · rw [isFirst, areRest]
        exact Or.inr ⟨rfl, Or.inr fails⟩
    · rw [isFirst]
      exact Or.inr ⟨rfl, Or.inl failed⟩

/-- The recursion comes to its end unless a path is as long as the stack. -/
theorem visitWithin_cases (frames : ℕ) (node : Node) (seen : List Node) :
    (visitWithin graph frames node seen = some (visit graph node seen) ∧
      ¬HasPath (fun first second => second ∈ graph.next first) frames node seen) ∨
    (visitWithin graph frames node seen = none ∧
      HasPath (fun first second => second ∈ graph.next first) frames node seen) := by
  induction frames generalizing node seen with
  | zero => exact Or.inr ⟨rfl, [], rfl, List.IsChain.singleton _, List.nodup_nil, by simp⟩
  | succ frames ih =>
    rw [visitWithin, visit, hasPath_succ_iff]
    by_cases isSeen : node ∈ seen
    · rw [if_pos isSeen, if_pos isSeen]
      exact Or.inl ⟨rfl, fun path => path.1 isSeen⟩
    rw [if_neg isSeen, if_neg isSeen]
    rcases mapM_cases fun next (_ : next ∈ graph.next node) => ih next (node :: seen) with
      ⟨found, short⟩ | ⟨overflows, long⟩
    · rw [found]
      exact Or.inl ⟨congrArg some (congrArg _ List.flatMap_def.symm), fun path => short path.2⟩
    · rw [overflows]
      exact Or.inr ⟨rfl, isSeen, long⟩

end Stack

/-! ## A worklist -/

section Worklist

variable {Node Edge Mark : Type} [DecidableEq Mark] (graph : FiniteGraph Node Edge)
  (mark : Edge → Mark) (target : Edge → Node)

/-- What the worklist has seen, the edges it took, and the nodes that are still to be followed. -/
structure Progress (Node Edge Mark : Type) where
  seen : List Mark
  taken : List Edge
  pending : List Node

/-- Every edge with a new mark is taken. -/
def explore : List Edge → Progress Node Edge Mark → Progress Node Edge Mark
  | [], progress => progress
  | edge :: edges, progress =>
    if mark edge ∈ progress.seen then explore edges progress
    else
      explore edges {
        seen := mark edge :: progress.seen
        taken := edge :: progress.taken
        pending := target edge :: progress.pending }

/-- The marks that are still to be seen. -/
def unseen (seen : List Mark) : List Mark :=
  ((graph.nodes.flatMap graph.next).map mark).filter fun other => other ∉ seen

variable {mark target} in
/-- What following some edges does. -/
theorem explore_cases (edges : List Edge) (progress : Progress Node Edge Mark) :
    ∃ fresh : List Edge, explore mark target edges progress =
        ⟨fresh.map mark ++ progress.seen, fresh ++ progress.taken,
          fresh.map target ++ progress.pending⟩ ∧
      (∀ edge ∈ fresh, edge ∈ edges ∧ mark edge ∉ progress.seen) ∧
      (fresh.map mark).Nodup ∧
      ∀ edge ∈ edges, mark edge ∈ progress.seen ∨ mark edge ∈ fresh.map mark := by
  induction edges generalizing progress with
  | nil => exact ⟨[], rfl, nofun, List.nodup_nil, nofun⟩
  | cons first edges ih =>
    rw [explore]
    split
    · rename_i isSeen
      rcases ih progress with ⟨fresh, explored, new, distinct, all⟩
      refine ⟨fresh, explored, ?_, distinct, ?_⟩
      · exact fun edge isFresh =>
          ⟨List.mem_cons_of_mem _ (new edge isFresh).1, (new edge isFresh).2⟩
      · rintro edge (_ | ⟨_, later⟩)
        · exact Or.inl isSeen
        · exact all edge later
    · rename_i notSeen
      rcases ih ⟨mark first :: progress.seen, first :: progress.taken,
        target first :: progress.pending⟩ with ⟨fresh, explored, new, distinct, all⟩
      have others : ∀ edge ∈ fresh, mark edge ≠ mark first ∧ mark edge ∉ progress.seen :=
        fun edge isFresh => List.ne_and_not_mem_of_not_mem_cons (new edge isFresh).2
      refine ⟨fresh ++ [first], ?_, ?_, ?_, ?_⟩
      · rw [explored]
        simp
      · intro edge isFresh
        rcases List.mem_append.mp isFresh with isFresh | isFirst
        · exact ⟨List.mem_cons_of_mem _ (new edge isFresh).1, (others edge isFresh).2⟩
        · obtain rfl := List.mem_singleton.mp isFirst
          exact ⟨List.mem_cons_self, notSeen⟩
      · rw [List.map_append, List.map_singleton, List.nodup_append]
        refine ⟨distinct, by simp, ?_⟩
        intro one isOne other isOther
        rcases List.mem_map.mp isOne with ⟨edge, isFresh, rfl⟩
        obtain rfl := List.mem_singleton.mp isOther
        exact (others edge isFresh).1
      · rw [List.map_append, List.map_singleton]
        rintro edge (_ | ⟨_, later⟩)
        · exact Or.inr (by simp)
        · rcases all edge later with isSeen | isFresh
          · rcases List.mem_cons.mp isSeen with isFirst | isSeen
            · exact Or.inr (by simp [isFirst])
            · exact Or.inl isSeen
          · exact Or.inr (List.mem_append_left _ isFresh)

/-- Nodes are followed until none is left. -/
def traverse (progress : Progress Node Edge Mark) : Progress Node Edge Mark := match progress with
  | ⟨_, _, []⟩ => progress
  | ⟨seen, taken, node :: pending⟩ =>
    traverse (explore mark target (graph.next node) ⟨seen, taken, pending⟩)
termination_by ((unseen graph mark progress.seen).length, progress.pending.length)
decreasing_by
  rcases @explore_cases _ _ _ _ mark target (graph.next node) ⟨seen, taken, pending⟩ with
    ⟨fresh, explored, new, _⟩
  rw [explored]
  cases fresh with
  | nil => exact Prod.Lex.right _ (Nat.lt_succ_self _)
  | cons edge rest =>
    apply Prod.Lex.left
    rcases new edge List.mem_cons_self with ⟨isEdge, notSeen⟩
    have isListed := graph.listed node (List.ne_nil_of_mem isEdge)
    refine length_filter_lt ?_ (List.mem_map_of_mem (List.mem_flatMap.mpr ⟨node, isListed, isEdge⟩))
      notSeen (by simp)
    intro value _ notThere isSeen
    exact notThere (List.mem_append_right _ isSeen)

variable {graph mark target}

/-- A node is reached from the start along some edges. -/
def Reached (graph : FiniteGraph Node Edge) (target : Edge → Node) (start : List Node)
    (node : Node) : Prop :=
  ∃ first ∈ start, ReflTransGen
    (fun source other => ∃ edge ∈ graph.next source, target edge = other) first node

theorem Reached.next {start : List Node} {node : Node} {edge : Edge}
    (reached : Reached graph target start node) (isEdge : edge ∈ graph.next node) :
    Reached graph target start (target edge) := by
  rcases reached with ⟨first, isStart, path⟩
  exact ⟨first, isStart, path.tail ⟨edge, isEdge, rfl⟩⟩

/-- The invariant of the worklist: what it has followed, and what is still pending. -/
structure Follows (graph : FiniteGraph Node Edge) (mark : Edge → Mark) (target : Edge → Node)
    (start : List Node) (initial : List Mark) (followed : Node → Prop)
    (progress : Progress Node Edge Mark) : Prop where
  started : ∀ node ∈ start, followed node ∨ node ∈ progress.pending
  closed : ∀ node, followed node → Reached graph target start node ∧
    ∀ edge ∈ graph.next node, mark edge ∈ progress.seen
  waiting : ∀ node ∈ progress.pending, Reached graph target start node
  taken : ∀ edge ∈ progress.taken,
    (∃ node, Reached graph target start node ∧ edge ∈ graph.next node) ∧
    (followed (target edge) ∨ target edge ∈ progress.pending)
  seen : progress.seen = progress.taken.map mark ++ initial
  distinct : (progress.taken.map mark).Nodup
  fresh : ∀ edge ∈ progress.taken, mark edge ∉ initial

omit [DecidableEq Mark] in
theorem follows_start (start : List Node) (initial : List Mark) :
    Follows graph mark target start initial (fun _ => False) ⟨initial, [], start⟩ where
  started _ isStart := Or.inr isStart
  closed _ := False.elim
  waiting node isStart := ⟨node, isStart, ReflTransGen.refl⟩
  taken := nofun
  seen := rfl
  distinct := List.nodup_nil
  fresh := nofun

/-- One node is followed. -/
theorem Follows.step {start : List Node} {initial : List Mark} {followed : Node → Prop}
    {seen : List Mark} {taken : List Edge} {node : Node} {pending : List Node}
    (follows : Follows graph mark target start initial followed ⟨seen, taken, node :: pending⟩) :
    Follows graph mark target start initial (fun other => followed other ∨ other = node)
      (explore mark target (graph.next node) ⟨seen, taken, pending⟩) := by
  rcases @explore_cases _ _ _ _ mark target (graph.next node) ⟨seen, taken, pending⟩ with
    ⟨fresh, explored, new, distinct, all⟩
  rw [explored]
  have reached := follows.waiting node List.mem_cons_self
  have still : ∀ other, followed other ∨ other ∈ node :: pending →
      (followed other ∨ other = node) ∨ other ∈ fresh.map target ++ pending := by
    rintro other (done | isPending)
    · exact Or.inl (Or.inl done)
    · rcases List.mem_cons.mp isPending with isNode | isPending
      · exact Or.inl (Or.inr isNode)
      · exact Or.inr (List.mem_append_right _ isPending)
  constructor
  case started => exact fun other isStart => still other (follows.started other isStart)
  case closed =>
    rintro other (done | rfl)
    · refine ⟨(follows.closed other done).1, fun edge isEdge => ?_⟩
      exact List.mem_append_right _ ((follows.closed other done).2 edge isEdge)
    · refine ⟨reached, fun edge isEdge => List.mem_append.mpr ?_⟩
      exact (all edge isEdge).symm
  case waiting =>
    intro other isPending
    rcases List.mem_append.mp isPending with isTarget | isPending
    · rcases List.mem_map.mp isTarget with ⟨edge, isFresh, rfl⟩
      exact reached.next (new edge isFresh).1
    · exact follows.waiting other (List.mem_cons_of_mem _ isPending)
  case taken =>
    intro edge isTaken
    rcases List.mem_append.mp isTaken with isFresh | isTaken
    · refine ⟨⟨node, reached, (new edge isFresh).1⟩, Or.inr ?_⟩
      exact List.mem_append_left _ (List.mem_map_of_mem isFresh)
    · exact ⟨(follows.taken edge isTaken).1, still _ (follows.taken edge isTaken).2⟩
  case seen =>
    have before := follows.seen
    dsimp only at before ⊢
    rw [before, List.map_append, List.append_assoc]
  case distinct =>
    dsimp only
    rw [List.map_append, List.nodup_append]
    refine ⟨distinct, follows.distinct, ?_⟩
    rintro _ isFresh _ isTaken rfl
    rcases List.mem_map.mp isFresh with ⟨edge, isFresh, same⟩
    have before := follows.seen
    dsimp only at before
    refine (new edge isFresh).2 ?_
    rw [same]
    dsimp only
    rw [before]
    exact List.mem_append_left _ isTaken
  case fresh =>
    intro edge isTaken isInitial
    rcases List.mem_append.mp isTaken with isFresh | isTaken
    · have before := follows.seen
      dsimp only at before
      refine (new edge isFresh).2 ?_
      dsimp only
      rw [before]
      exact List.mem_append_right _ isInitial
    · exact follows.fresh edge isTaken isInitial

theorem Follows.traverse {start : List Node} {initial : List Mark}
    {progress : Progress Node Edge Mark} {followed : Node → Prop}
    (follows : Follows graph mark target start initial followed progress) :
    (traverse graph mark target progress).pending = [] ∧ ∃ all : Node → Prop,
        Follows graph mark target start initial all (traverse graph mark target progress) := by
  induction progress using traverse.induct graph mark target generalizing followed with
  | case1 seen taken =>
    rw [FiniteGraph.traverse]
    exact ⟨rfl, followed, follows⟩
  | case2 seen taken node pending ih =>
    rw [FiniteGraph.traverse]
    exact ih follows.step

/-- What the worklist ends with, if edges with one mark have one target and the marks that it starts
with are those of edges into the start. -/
theorem traverse_spec {start : List Node} {initial : List Mark}
    (sameTarget : ∀ edge other, mark edge = mark other → target edge = target other)
    (intoStart : ∀ edge, mark edge ∈ initial → target edge ∈ start) :
    (∀ node, Reached graph target start node → ∀ edge ∈ graph.next node, mark edge ∈ initial ∨
        mark edge ∈ (traverse graph mark target ⟨initial, [], start⟩).taken.map mark) ∧
    (∀ edge ∈ (traverse graph mark target ⟨initial, [], start⟩).taken,
      mark edge ∉ initial ∧ ∃ node, Reached graph target start node ∧ edge ∈ graph.next node) ∧
    (traverse graph mark target ⟨initial, [], start⟩).seen =
      (traverse graph mark target ⟨initial, [], start⟩).taken.map mark ++ initial ∧
    ((traverse graph mark target ⟨initial, [], start⟩).taken.map mark).Nodup := by
  rcases (@follows_start _ _ _ graph mark target start initial).traverse with
    ⟨finished, all, follows⟩
  have reachedAll : ∀ node, Reached graph target start node → all node := by
    rintro node ⟨first, isStart, path⟩
    induction path with
    | refl =>
      have either := follows.started first isStart
      rw [finished] at either
      exact either.resolve_right List.not_mem_nil
    | tail _ step ih =>
      rcases step with ⟨edge, isEdge, rfl⟩
      have isSeen := (follows.closed _ ih).2 edge isEdge
      rw [follows.seen] at isSeen
      rcases List.mem_append.mp isSeen with isTaken | isInitial
      · rcases List.mem_map.mp isTaken with ⟨other, isTaken, same⟩
        have either := (follows.taken other isTaken).2
        rw [finished, sameTarget other edge same] at either
        exact either.resolve_right List.not_mem_nil
      · have either := follows.started _ (intoStart edge isInitial)
        rw [finished] at either
        exact either.resolve_right List.not_mem_nil
  refine ⟨?_, ?_, follows.seen, follows.distinct⟩
  · intro node reached edge isEdge
    have isSeen := (follows.closed node (reachedAll node reached)).2 edge isEdge
    rw [follows.seen] at isSeen
    exact (List.mem_append.mp isSeen).symm
  · exact fun edge isTaken => ⟨follows.fresh edge isTaken, (follows.taken edge isTaken).1⟩

end Worklist

/-! ## A worklist of nodes -/

section Walk

variable {Node Edge : Type} [DecidableEq Node] (graph : FiniteGraph Node Edge)
  (target : Edge → Node)

/-- Where the edges of a node lead. -/
def targets (node : Node) : List Node := (graph.next node).map target

/-- Every node is visited once; its targets are pending, whether they were visited or not. -/
def walk (visited pending : List Node) : List Node := match pending with
  | [] => visited
  | node :: pending =>
    if node ∈ visited then walk visited pending
    else walk (node :: visited) ((targets graph target node).reverse ++ pending)
termination_by ((graph.nodes.filter fun other => other ∉ visited).length, pending.length)
decreasing_by
  · exact Prod.Lex.right _ (Nat.lt_succ_self _)
  · rename_i unvisited
    have fewer : ∀ other, other ∉ node :: visited → other ∉ visited :=
      fun other new isVisited => new (List.mem_cons_of_mem _ isVisited)
    by_cases isListed : node ∈ graph.nodes
    · exact Prod.Lex.left _ _
        (length_filter_lt (fun other _ => fewer other) isListed unvisited (by simp))
    · have noEdges : graph.next node = [] := by
        by_contra some
        exact isListed (graph.listed node some)
      have same : (graph.nodes.filter fun other => other ∉ node :: visited) =
          graph.nodes.filter fun other => other ∉ visited := by
        refine List.filter_congr fun other isOther => ?_
        have different : other ≠ node := by
          rintro rfl
          exact isListed isOther
        simp [different]
      rw [targets, noEdges, same]
      exact Prod.Lex.right _ (Nat.lt_succ_self _)

variable {graph target}

/-- The invariant of the walk. -/
structure Walks (graph : FiniteGraph Node Edge) (target : Edge → Node)
    (start visited pending : List Node) : Prop where
  started : ∀ node ∈ start, node ∈ visited ∨ node ∈ pending
  closed : ∀ node ∈ visited, ∀ edge ∈ graph.next node, target edge ∈ visited ∨ target edge ∈ pending
  sources : ∀ node ∈ visited, Reached graph target start node
  waiting : ∀ node ∈ pending, Reached graph target start node
  distinct : visited.Nodup

omit [DecidableEq Node] in
theorem walks_start (start : List Node) : Walks graph target start [] start where
  started _ isStart := Or.inr isStart
  closed := nofun
  sources := nofun
  waiting node isStart := ⟨node, isStart, ReflTransGen.refl⟩
  distinct := List.nodup_nil

omit [DecidableEq Node] in
theorem Walks.skip {start seen pending : List Node} {node : Node}
    (walks : Walks graph target start seen (node :: pending)) (isSeen : node ∈ seen) :
    Walks graph target start seen pending := by
  have still : ∀ other, other ∈ seen ∨ other ∈ node :: pending → other ∈ seen ∨
    other ∈ pending := by
    rintro other (isOld | waits)
    · exact Or.inl isOld
    · rcases List.mem_cons.mp waits with rfl | later
      · exact Or.inl isSeen
      · exact Or.inr later
  exact ⟨fun other isStart => still other (walks.started other isStart),
    fun other isOther edge isEdge => still _ (walks.closed other isOther edge isEdge),
      walks.sources,
    fun other later => walks.waiting other (List.mem_cons_of_mem _ later), walks.distinct⟩

omit [DecidableEq Node] in
theorem Walks.step {start seen pending : List Node} {node : Node}
    (walks : Walks graph target start seen (node :: pending)) (new : node ∉ seen) :
    Walks graph target start (node :: seen) ((targets graph target node).reverse ++ pending) := by
  have reached := walks.waiting node List.mem_cons_self
  have still : ∀ other, other ∈ seen ∨ other ∈ node :: pending →
      other ∈ node :: seen ∨ other ∈ (targets graph target node).reverse ++ pending := by
    rintro other (isOld | waits)
    · exact Or.inl (List.mem_cons_of_mem _ isOld)
    · rcases List.mem_cons.mp waits with rfl | later
      · exact Or.inl List.mem_cons_self
      · exact Or.inr (List.mem_append_right _ later)
  constructor
  case started => exact fun other isStart => still other (walks.started other isStart)
  case closed =>
    intro other isOther edge isEdge
    rcases List.mem_cons.mp isOther with rfl | isOld
    · refine Or.inr (List.mem_append_left _ (List.mem_reverse.mpr ?_))
      exact List.mem_map_of_mem isEdge
    · exact still _ (walks.closed other isOld edge isEdge)
  case sources => exact List.forall_mem_cons.mpr ⟨reached, walks.sources⟩
  case waiting =>
    intro other waits
    rcases List.mem_append.mp waits with isTarget | later
    · rcases List.mem_map.mp (List.mem_reverse.mp isTarget) with ⟨edge, isEdge, rfl⟩
      exact reached.next isEdge
    · exact walks.waiting other (List.mem_cons_of_mem _ later)
  case distinct => exact List.nodup_cons.mpr ⟨new, walks.distinct⟩

theorem Walks.walk {start seen pending : List Node}
    (walks : Walks graph target start seen pending) :
    Walks graph target start (walk graph target seen pending) [] := by
  induction seen, pending using walk.induct graph target with
  | case1 seen =>
    rw [FiniteGraph.walk]
    exact walks
  | case2 seen node pending isSeen ih =>
    rw [FiniteGraph.walk, if_pos isSeen]
    exact ih (walks.skip isSeen)
  | case3 seen node pending new ih =>
    rw [FiniteGraph.walk, if_neg new]
    exact ih (walks.step new)

/-- The walk visits exactly what is reached from the start, each node once. -/
theorem walk_spec (start : List Node) :
    (∀ node, node ∈ walk graph target [] start ↔ Reached graph target start node) ∧
      (walk graph target [] start).Nodup := by
  have walks := (@walks_start _ _ graph target start).walk
  refine ⟨fun node => ⟨walks.sources node, ?_⟩, walks.distinct⟩
  rintro ⟨first, isStart, path⟩
  induction path with
  | refl => exact (walks.started first isStart).resolve_right List.not_mem_nil
  | tail _ step ih =>
    rcases step with ⟨edge, isEdge, rfl⟩
    exact (walks.closed _ ih edge isEdge).resolve_right List.not_mem_nil

end Walk

end FiniteGraph

end Reperio
