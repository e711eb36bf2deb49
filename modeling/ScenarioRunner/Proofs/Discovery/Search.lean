import ScenarioRunner.Proofs.Discovery.Identity

/-!
# Looking for an identifier

`Node.find?` passes over every subtree whose root has an identifier that does not start the one that is
looked for.  In the trees that discovery builds nothing is missed in this way, and of several nodes
with one identifier the first one is found.

* `Node.find?_eq` is the search at one node, with the search below it as a search among the children.
* `Node.Nested.find?_eq`: where identifiers grow from parent to child, the search finds what a search
  through the list of all nodes finds.
* `Discovery.nested_discover` and `Discovery.find?_discover`: so it does at every node of a discovered
  tree.
-/

namespace ScenarioRunner

namespace Node

variable {n m : Node}

lemma findIn?_eq (wanted : NodeId) (nodes : List Node) :
    findIn? wanted nodes = nodes.findSome? (find? wanted) := by
  induction nodes with
  | nil => rfl
  | cons node nodes ih =>
      rw [findIn?, ih, List.findSome?_cons]
      cases node.find? wanted <;> rfl

lemma find?_eq (wanted : NodeId) (n : Node) :
    n.find? wanted =
      if n.id = wanted then some n
      else if wanted.startsWith n.id then n.children.findSome? (find? wanted) else none := by
  obtain ⟨id, name, kind, source, retryable, children⟩ := n
  rw [find?, findIn?_eq]

namespace Nested

lemma of_mem_descendants (h : n.Nested) : ∀ m ∈ n.descendants, m.Nested := by
  induction h with
  | @intro n segment below ih =>
      intro m hm
      rw [descendants_eq, List.mem_cons, List.mem_flatMap] at hm
      obtain rfl | ⟨child, hchild, hm⟩ := hm
      · exact .intro segment below
      · exact ih child hchild m hm

/-- A node and all nodes below it have identifiers that start with its own one. -/
lemma startsWith_of_mem (h : n.Nested) (hm : m ∈ n.descendants) : m.id.startsWith n.id = true :=
  List.isPrefixOf_iff_prefix.mpr (h.prefix_of_mem m.id (List.mem_map_of_mem hm))

/-- **Nothing is missed**: a subtree that is passed over holds no node with the identifier that is
looked for. -/
theorem find?_eq (h : n.Nested) (wanted : NodeId) :
    n.find? wanted = n.descendants.find? fun m => m.id = wanted := by
  induction h with
  | @intro n segment below ih =>
      rw [Node.find?_eq, descendants_eq, List.find?_cons]
      by_cases hown : n.id = wanted
      · simp [hown]
      · rw [if_neg hown, decide_eq_false hown]
        cases hstart : wanted.startsWith n.id with
        | true =>
            rw [if_pos rfl, List.find?_flatMap, ← Function.id_comp (find? wanted), ← List.findSome?_map,
              List.map_congr_left ih, List.findSome?_map]
            rfl
        | false =>
            refine (List.find?_eq_none.mpr fun m hm => ?_).symm
            rw [decide_eq_true_iff]
            rintro rfl
            have hbelow : m ∈ n.descendants := by
              rw [descendants_eq]
              exact List.mem_cons_of_mem _ hm
            have hnested : n.Nested := .intro segment below
            exact Bool.false_ne_true (hstart.symm.trans (hnested.startsWith_of_mem hbelow))

end Nested

end Node

namespace Discovery

/-- Identifiers of discovered trees grow from parent to child. -/
lemma nested_discover (catalog : Catalog) (stepAsTest : Bool) (request : DiscoveryRequest) :
    (discover catalog stepAsTest request).root.Nested := by
  rw [root_discover]
  refine .intro (fun m hm => ?_) fun m hm => ?_ <;> obtain ⟨c, -, rfl⟩ := List.mem_map.mp hm
  · exact ⟨_, _, rfl⟩
  · exact nested_classNode

/-- **What is found by its identifier**: at every node of a discovered tree, the search gives the first
node with the identifier in the list of the node and all nodes below it, and none if the list has
none.  Nodes can share an identifier. -/
theorem find?_discover (catalog : Catalog) (stepAsTest : Bool) (request : DiscoveryRequest) :
    ∀ n ∈ (discover catalog stepAsTest request).root.descendants, ∀ wanted : NodeId,
      n.find? wanted = n.descendants.find? fun m => m.id = wanted :=
  fun n hn wanted => ((nested_discover catalog stepAsTest request).of_mem_descendants n hn).find?_eq wanted

/-- Of two scenarios with one identifier the first one is found, and the identifier of a class that was
not discovered leads nowhere. -/
theorem find?_discover_shared :
    let root := (discover (listAndSingle "p#1") false .all).root
    root ∈ root.descendants ∧
      (root.find? ((classId "a.A").append "scenario" "p#1")).map Node.name = some "first" ∧
      (root.find? (classId "a.B")).map Node.name = none := by
  intro root
  have hroot : root ∈ root.descendants := by
    rw [Node.descendants_eq]
    exact List.mem_cons_self
  refine ⟨hroot, ?_, ?_⟩ <;> rw [find?_discover _ _ _ root hroot] <;> decide +kernel

end Discovery

end ScenarioRunner
