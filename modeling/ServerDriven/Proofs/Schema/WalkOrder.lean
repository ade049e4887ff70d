/-
Module: ServerDriven.Proofs.Schema.WalkOrder
Purpose: The walk through a tree, the search in it and its outline go by one order of its nodes.
Main exports:
  Node.visits, Node.mem_visits, Node.pairwise_visits, Node.map_snd_visits, Node.indent_eq,
  Node.line_eq, Node.outline_eq, Node.find?_eq, walk_find_outline_agree
-/
import Mathlib.Data.List.Basic
import ServerDriven.Proofs.Schema.ContainedFaults
import ServerDriven.Screen.Outline

namespace ServerDriven

/-!
A node is known by its address, since several nodes of a tree may be equal.  In the lexicographic
order an address comes before those that go on from it, and what goes on with an earlier child comes
before what goes on with a later one.  That is the order in which a tree is walked.
-/

namespace Node

/-- A visit in a child, as one in the tree that has the child at some place. -/
def inChild (place : Nat) (visit : List Nat × Node) : List Nat × Node :=
  (place :: visit.1, visit.2)

mutual

/-- The nodes of a tree with their addresses, as they are walked. -/
def visits : Node → List (List Nat × Node)
  | node@⟨_, _, _, _, _, children, _, _, _, _, _, _⟩ => ([], node) :: visitsFrom 0 children

/-- The same for several trees, which are children from some place on. -/
def visitsFrom (place : Nat) : List Node → List (List Nat × Node)
  | [] => []
  | node :: rest => (visits node).map (inChild place) ++ visitsFrom (place + 1) rest

end

theorem visits_eq (node : Node) : node.visits = ([], node) :: visitsFrom 0 node.children := by
  cases node
  rw [visits]

/-! ### Addresses -/

/-- What is visited in the children has an address that begins with the place of a child. -/
theorem exists_of_mem_visitsFrom {place : Nat} {nodes : List Node} {address : List Nat}
    {node : Node} (mem : (address, node) ∈ visitsFrom place nodes) :
    ∃ i rest child, address = (place + i) :: rest ∧ nodes[i]? = some child ∧
      (rest, node) ∈ child.visits := by
  induction nodes generalizing place with
  | nil =>
      cases mem
  | cons first others ih =>
      rw [visitsFrom, List.mem_append] at mem
      rcases mem with here | later
      · obtain ⟨⟨rest, same⟩, inside, moved⟩ := List.mem_map.mp here
        cases moved
        exact ⟨0, rest, first, rfl, rfl, inside⟩
      · obtain ⟨i, rest, child, rfl, there, inside⟩ := ih later
        exact ⟨i + 1, rest, child, by rw [Nat.add_right_comm, Nat.add_assoc], there, inside⟩

theorem mem_visitsFrom {nodes : List Node} {i : Nat} {child : Node} (there : nodes[i]? = some child)
    {rest : List Nat} {node : Node} (inside : (rest, node) ∈ child.visits) (place : Nat) :
    ((place + i) :: rest, node) ∈ visitsFrom place nodes := by
  induction nodes generalizing place i with
  | nil =>
      cases there
  | cons first others ih =>
      rw [visitsFrom, List.mem_append]
      cases i with
      | zero =>
          obtain rfl := Option.some.inj there
          exact .inl (List.mem_map_of_mem inside)
      | succ i =>
          have later := ih there (place + 1)
          rw [Nat.add_assoc, Nat.add_comm 1] at later
          exact .inr later

/-- Every node of a tree is visited at its address, and nothing else is. -/
theorem mem_visits {tree node : Node} {address : List Nat} :
    (address, node) ∈ tree.visits ↔ tree.at? address = some node := by
  induction address generalizing tree with
  | nil =>
      rw [visits_eq, List.mem_cons, at?, Option.some_inj]
      constructor
      · rintro (root | below)
        · exact (congrArg Prod.snd root).symm
        · obtain ⟨i, rest, child, longer, -⟩ := exists_of_mem_visitsFrom below
          cases longer
      · rintro rfl
        exact .inl rfl
  | cons place address ih =>
      rw [visits_eq, List.mem_cons, at?, Option.bind_eq_some_iff]
      constructor
      · rintro (root | below)
        · cases root
        · obtain ⟨i, rest, child, same, there, inside⟩ := exists_of_mem_visitsFrom below
          obtain ⟨rfl, rfl⟩ := List.cons.inj same
          rw [Nat.zero_add]
          exact ⟨child, there, ih.mp inside⟩
      · rintro ⟨child, there, found⟩
        have inside := mem_visitsFrom there (ih.mpr found) 0
        rw [Nat.zero_add] at inside
        exact .inr inside

mutual

/-- The addresses increase along the walk, so that no node is visited twice. -/
theorem pairwise_visits : ∀ tree : Node, (tree.visits.map Prod.fst).Pairwise (· < ·)
  | ⟨_, _, _, _, _, children, _, _, _, _, _, _⟩ => by
    rw [visits, List.map_cons, List.pairwise_cons]
    refine ⟨fun address mem => ?_, pairwise_visitsFrom 0 children⟩
    obtain ⟨⟨_, node⟩, visited, rfl⟩ := List.mem_map.mp mem
    obtain ⟨i, rest, child, rfl, -⟩ := exists_of_mem_visitsFrom visited
    exact List.nil_lt_cons _ _

theorem pairwise_visitsFrom : ∀ (place : Nat) (nodes : List Node),
    ((visitsFrom place nodes).map Prod.fst).Pairwise (· < ·)
  | _, [] => .nil
  | place, node :: rest => by
    rw [visitsFrom, List.map_append, List.map_map, List.pairwise_append]
    refine ⟨?_, pairwise_visitsFrom (place + 1) rest, fun earlier mem later mem' => ?_⟩
    · have inside := pairwise_visits node
      rw [List.pairwise_map] at inside ⊢
      exact inside.imp fun before => List.cons_lt_cons_iff.mpr (.inr ⟨rfl, before⟩)
    · obtain ⟨visit, -, rfl⟩ := List.mem_map.mp mem
      obtain ⟨⟨_, other⟩, visited, rfl⟩ := List.mem_map.mp mem'
      obtain ⟨i, address, child, rfl, -⟩ := exists_of_mem_visitsFrom visited
      exact List.cons_lt_cons_iff.mpr (.inl (by omega))

end

/-! ### Three ways through a tree -/

mutual

theorem map_snd_visits : ∀ tree : Node, tree.visits.map Prod.snd = tree.walk
  | ⟨_, _, _, _, _, children, _, _, _, _, _, _⟩ => by
    rw [visits, walk, List.map_cons, map_snd_visitsFrom 0 children]

theorem map_snd_visitsFrom : ∀ (place : Nat) (nodes : List Node),
    (visitsFrom place nodes).map Prod.snd = walkAll nodes
  | _, [] => rfl
  | place, node :: rest => by
    have same : Prod.snd ∘ inChild place = (Prod.snd : List Nat × Node → Node) := rfl
    rw [visitsFrom, walkAll, List.map_append, List.map_map, same, map_snd_visits node,
      map_snd_visitsFrom (place + 1) rest]

end

/-- What a line says of a node: its kind, its id or a dash in brackets, its text in quotes if it has
one, and after an arrow the kind of its action if it has one. -/
def caption (node : Node) : String :=
  node.kind ++ " [" ++ node.id.getD "-" ++ "]" ++
    (node.contentText?.or node.dataText?).elim "" (fun text => " \"" ++ text ++ "\"") ++
    node.parsedAction?.elim "" fun action => " -> " ++ action.kind

theorem line_eq (node : Node) : node.line = node.caption := by
  unfold line caption
  cases node.id <;> cases node.contentText?.or node.dataText? <;> cases node.parsedAction? <;> rfl

/-- Two blanks for each level. -/
theorem indent_eq (depth : Nat) (line : String) :
    indent depth line = String.ofList (List.replicate (2 * depth) ' ') ++ line := by
  unfold indent
  congr 1
  induction depth with
  | zero =>
      rfl
  | succ depth ih =>
      rw [List.replicate_succ, String.join_cons, ih, Nat.mul_succ, Nat.add_comm,
        ← List.replicate_append_replicate, String.ofList_append]
      rfl

/-- The line of a visited node, below a root at some depth. -/
def visitLine (depth : Nat) (visit : List Nat × Node) : String :=
  String.ofList (List.replicate (2 * (depth + visit.1.length)) ' ') ++ visit.2.caption

mutual

theorem outline_eq : ∀ (depth : Nat) (tree : Node),
    tree.outline depth = tree.visits.map (visitLine depth)
  | depth, ⟨_, _, _, _, _, children, _, _, _, _, _, _⟩ => by
    rw [outline, visits, List.map_cons, outlineAll_eq depth 0 children, indent_eq, line_eq]
    rfl

/-- The children are one level deeper, and so much longer are the addresses in them. -/
theorem outlineAll_eq : ∀ (depth place : Nat) (nodes : List Node),
    outlineAll (depth + 1) nodes = (visitsFrom place nodes).map (visitLine depth)
  | _, _, [] => by
    rw [outlineAll, visitsFrom, List.map_nil]
  | depth, place, node :: rest => by
    have deeper : visitLine depth ∘ inChild place = visitLine (depth + 1) := by
      funext visit
      unfold visitLine inChild
      rw [Function.comp_apply, List.length_cons, Nat.add_assoc, Nat.add_comm 1]
    rw [outlineAll, visitsFrom, List.map_append, List.map_map, deeper, outline_eq (depth + 1) node,
      outlineAll_eq depth (place + 1) rest]

end

mutual

/-- The search stops at the node at which a walk would first meet the id. -/
theorem find?_eq (wanted : String) : ∀ tree : Node,
    tree.find? wanted = tree.walk.find? fun node => node.id = some wanted
  | ⟨id, _, _, _, _, children, _, _, _, _, _, _⟩ => by
    rw [find?, walk, List.find?_cons, findIn?_eq wanted children]
    by_cases here : id = some wanted
    · simp [here]
    · simp [here]

theorem findIn?_eq (wanted : String) : ∀ nodes : List Node,
    findIn? wanted nodes = (walkAll nodes).find? fun node => node.id = some wanted
  | [] => rfl
  | node :: rest => by
    rw [findIn?, walkAll, List.find?_append, find?_eq wanted node, findIn?_eq wanted rest]
    cases node.walk.find? fun node => node.id = some wanted with
    | none => rfl
    | some found => rfl

end

theorem outlineAll_eq_flatMap (depth : Nat) (nodes : List Node) :
    outlineAll depth nodes = nodes.flatMap (outline depth) := by
  induction nodes with
  | nil =>
      rfl
  | cons node rest ih =>
      rw [outlineAll, ih, List.flatMap_cons]

end Node

/-- The search in a screen is the search along the walks through its sections. -/
theorem ScreenSchema.findNode?_eq (schema : ScreenSchema) (wanted : String) :
    schema.findNode? wanted =
      (schema.screen.sections.present.flatMap Node.walk).find?
        fun node => node.id = some wanted := by
  unfold findNode?
  induction schema.screen.sections.present with
  | nil =>
      rfl
  | cons tree rest ih =>
      rw [List.findSome?_cons, List.flatMap_cons, List.find?_append, ← Node.find?_eq, ih]
      cases tree.find? wanted with
      | none => rfl
      | some found => rfl

/-- A tree is walked, searched and outlined in one order.

The walk goes through the nodes of the tree by their addresses, each once: a node before those
inside it, and what is inside one child before what is inside the next.  The search for an id ends
at the first node on the walk that has it, be there others or not, and at none if the walk meets
none.  The outline has a line for each node on the walk: two blanks for each level that the outline
begins at or that the node is below the root, and then what there is to say of the node.  In a
screen the sections come one after the other, from the top bar to the bottom bar, all at the first
level. -/
theorem walk_find_outline_agree :
    (∀ tree : Node, ∃ visits : List (List Nat × Node),
      (visits.map Prod.fst).Pairwise (· < ·) ∧
      (∀ address node, (address, node) ∈ visits ↔ tree.at? address = some node) ∧
      tree.walk = visits.map Prod.snd ∧
      ∀ depth, tree.outline depth = visits.map fun (address, node) =>
        String.ofList (List.replicate (2 * (depth + address.length)) ' ') ++
          (node.kind ++ " [" ++ node.id.getD "-" ++ "]" ++
            (node.contentText?.or node.dataText?).elim "" (fun text => " \"" ++ text ++ "\"") ++
            node.parsedAction?.elim "" fun action => " -> " ++ action.kind)) ∧
    (∀ (tree : Node) (wanted : String),
      (tree.find? wanted = tree.walk.find? fun node => node.id = some wanted) ∧
      (tree.find? wanted = none ↔ ∀ node ∈ tree.walk, node.id ≠ some wanted)) ∧
    ∀ schema : ScreenSchema,
      let sections := schema.screen.sections
      let trees := sections.topBar.toList ++ sections.body.toList ++ sections.bottomBar.toList
      (∀ wanted, schema.findNode? wanted =
        (trees.flatMap Node.walk).find? fun node => node.id = some wanted) ∧
      schema.outline = (schema.document.name ++ " (" ++ schema.screen.id ++ ")") ::
        trees.flatMap (Node.outline 1) := by
  refine ⟨fun tree => ?_, fun tree wanted => ?_, fun schema => ?_⟩
  · refine ⟨tree.visits, tree.pairwise_visits, fun address node => Node.mem_visits, ?_, ?_⟩
    · exact tree.map_snd_visits.symm
    · exact fun depth => Node.outline_eq depth tree
  · have found := tree.find?_eq wanted
    refine ⟨found, ?_⟩
    rw [found, List.find?_eq_none]
    simp
  · refine ⟨schema.findNode?_eq, ?_⟩
    unfold ScreenSchema.outline
    rw [Node.outlineAll_eq_flatMap]
    rfl

end ServerDriven
