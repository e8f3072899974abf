import Blueprint.Debug.Item

/-!
Encoding debug items as plain data. The nodes of the graph that are being encoded are open: a
reference to an open node is written as a mark, and any other one opens its node, is replaced by the
tree it stands for and closes its node again, so that a tree that is merely shared is written every
time. Records carry their kind under a key of its own, and other keys that start with a dollar sign or
an underscore are left out.
-/
set_option autoImplicit false

namespace Blueprint

namespace DebugItem

def kindKey : String := "$type"

def circularMark : String := "[Circular]"

/-- Whether a key is internal, and so left out. -/
def isInternal (key : String) : Bool :=
  key != kindKey && (key.toList.head? == some '$' || key.toList.head? == some '_')

def unopened (graph : List DebugItem) (active : List Nat) : List Nat :=
  (List.range graph.length).filter fun node => !active.contains node

theorem unopened_cons_length {graph : List DebugItem} {active : List Nat} {node : Nat}
    (inside : node < graph.length) (fresh : active.contains node = false) :
    (unopened graph (node :: active)).length < (unopened graph active).length := by
  have same : unopened graph (node :: active) =
      (unopened graph active).filter fun other => other != node := by
    unfold unopened
    rw [List.filter_filter]
    congr 1
    funext other
    by_cases equal : other = node <;> simp [equal]
  rw [same]
  apply List.length_filter_lt_length_iff_exists.mpr
  refine ⟨node, ?_, by simp⟩
  unfold unopened
  simp only [List.mem_filter, List.mem_range, fresh, Bool.not_false, and_true]
  exact inside

/-- What encoding delivers, and the nodes that are open after it: those that were open before. -/
structure Encoded (active : List Nat) (α : Type) where
  value : α
  left : List Nat
  restored : left = active

mutual

/-- Encodes an item of a graph while some nodes are open. A node is opened before the tree that it
stands for is encoded, and closed after it. -/
def encode (graph : List DebugItem) (active : List Nat) (item : DebugItem) :
    Encoded active Value :=
  match item with
  | .scalar s => ⟨s.toValue, active, rfl⟩
  | .list items =>
    let parts := encodeItems graph active items
    ⟨.list parts.value, parts.left, parts.restored⟩
  | .object entries =>
    let parts := encodeEntries graph active entries
    ⟨.object (Fields.ofList parts.value), parts.left, parts.restored⟩
  | .record kind fields =>
    let parts := encodeEntries graph active fields
    ⟨.object (Fields.ofList ((kindKey, .text kind) :: parts.value)), parts.left, parts.restored⟩
  | .ref node =>
    if opened : active.contains node then ⟨.text circularMark, active, rfl⟩
    else if inside : node < graph.length then
      let tree := encode graph (node :: active) graph[node]
      ⟨tree.value, tree.left.erase node, by rw [tree.restored, List.erase_cons_head]⟩
    else ⟨.null, active, rfl⟩
termination_by ((unopened graph active).length, sizeOf item)
decreasing_by
  · exact Prod.Lex.right _ (by simp only [list.sizeOf_spec]; omega)
  · exact Prod.Lex.right _ (by simp only [object.sizeOf_spec]; omega)
  · exact Prod.Lex.right _ (by simp only [record.sizeOf_spec]; omega)
  · exact Prod.Lex.left _ _ (unopened_cons_length inside (by simpa using opened))

def encodeItems (graph : List DebugItem) (active : List Nat) (items : List DebugItem) :
    Encoded active (List Value) :=
  match items with
  | [] => ⟨[], active, rfl⟩
  | item :: rest =>
    let ⟨first, left, restored⟩ := encode graph active item
    let others := encodeItems graph left rest
    ⟨first :: others.value, others.left, others.restored.trans restored⟩
termination_by ((unopened graph active).length, sizeOf items)
decreasing_by
  · exact Prod.Lex.right _ (by simp only [List.cons.sizeOf_spec]; omega)
  · rw [restored]
    exact Prod.Lex.right _ (by simp only [List.cons.sizeOf_spec]; omega)

def encodeEntries (graph : List DebugItem) (active : List Nat)
    (entries : List (String × DebugItem)) : Encoded active (List (String × Value)) :=
  match entries with
  | [] => ⟨[], active, rfl⟩
  | (key, item) :: rest =>
    if isInternal key then encodeEntries graph active rest
    else
      let ⟨first, left, restored⟩ := encode graph active item
      let others := encodeEntries graph left rest
      ⟨(key, first) :: others.value, others.left, others.restored.trans restored⟩
termination_by ((unopened graph active).length, sizeOf entries)
decreasing_by
  · exact Prod.Lex.right _ (by simp only [List.cons.sizeOf_spec, Prod.mk.sizeOf_spec]; omega)
  · exact Prod.Lex.right _ (by simp only [List.cons.sizeOf_spec, Prod.mk.sizeOf_spec]; omega)
  · rw [restored]
    exact Prod.Lex.right _ (by simp only [List.cons.sizeOf_spec, Prod.mk.sizeOf_spec]; omega)

end

def data (item : DebugItem) : Value := (item.encode [] []).value

end DebugItem

def debugDataOf (graph : List DebugItem) (root : Nat) : Value :=
  (DebugItem.encode graph [] (.ref root)).value

end Blueprint
