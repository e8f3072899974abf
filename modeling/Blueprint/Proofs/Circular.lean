import Blueprint.Debug.Unfold

/-!
What encoding a graph delivers. `Unfolds` says what the unfolding of an item is, given the nodes on
the path from the root to it; `encode_exact` says that encoding delivers it for every graph, circular
or not, whatever was encoded before.
-/
set_option autoImplicit false

namespace Blueprint.DebugItem

/-- A key that starts with a dollar sign or an underscore and does not name a kind. -/
def Internal (key : String) : Prop :=
  key ≠ kindKey ∧ ∃ first rest, key.toList = first :: rest ∧ (first = '$' ∨ first = '_')

theorem isInternal_iff (key : String) : isInternal key = true ↔ Internal key := by
  unfold isInternal Internal
  rw [Bool.and_eq_true, bne_iff_ne]
  refine and_congr_right fun _ => ?_
  cases key.toList with
  | nil => simp
  | cons first rest => simp

instance : DecidablePred Internal := fun key => decidable_of_iff _ (isInternal_iff key)

mutual

/-- The unfolding of an item of a graph, given the nodes on the path to it. -/
inductive Unfolds (graph : List DebugItem) : List Nat → DebugItem → Value → Prop where
  | scalar {path : List Nat} (s : Scalar) : Unfolds graph path (.scalar s) s.toValue
  | list {path : List Nat} {items : List DebugItem} {values : List Value}
    (parts : UnfoldsItems graph path items values) :
    Unfolds graph path (.list items) (.list values)
  | object {path : List Nat} {entries : List (String × DebugItem)} {fields : List (String × Value)}
    (parts : UnfoldsEntries graph path entries fields) :
    Unfolds graph path (.object entries) (.object (Fields.ofList fields))
  | record {path : List Nat} {entries : List (String × DebugItem)} {fields : List (String × Value)}
    (kind : String) (parts : UnfoldsEntries graph path entries fields) :
    Unfolds graph path (.record kind entries)
      (.object (Fields.ofList ((kindKey, .text kind) :: fields)))
  | circular {path : List Nat} {node : Nat} (onPath : node ∈ path) :
    Unfolds graph path (.ref node) (.text circularMark)
  | expanded {path : List Nat} {node : Nat} {tree : DebugItem} {value : Value}
    (offPath : node ∉ path) (found : graph[node]? = some tree)
    (unfolds : Unfolds graph (node :: path) tree value) : Unfolds graph path (.ref node) value

/-- The unfoldings of items, one by one. -/
inductive UnfoldsItems (graph : List DebugItem) : List Nat → List DebugItem → List Value → Prop where
  | nil {path : List Nat} : UnfoldsItems graph path [] []
  | cons {path : List Nat} {item : DebugItem} {items : List DebugItem} {value : Value}
    {values : List Value} (first : Unfolds graph path item value)
    (others : UnfoldsItems graph path items values) :
    UnfoldsItems graph path (item :: items) (value :: values)

/-- The unfoldings of entries, one by one; those with internal keys are left out. -/
inductive UnfoldsEntries (graph : List DebugItem) :
    List Nat → List (String × DebugItem) → List (String × Value) → Prop where
  | nil {path : List Nat} : UnfoldsEntries graph path [] []
  | internal {path : List Nat} {key : String} {item : DebugItem}
    {entries : List (String × DebugItem)} {fields : List (String × Value)} (isInternal : Internal key)
    (others : UnfoldsEntries graph path entries fields) :
    UnfoldsEntries graph path ((key, item) :: entries) fields
  | kept {path : List Nat} {key : String} {item : DebugItem} {entries : List (String × DebugItem)}
    {value : Value} {fields : List (String × Value)} (notInternal : ¬ Internal key)
    (first : Unfolds graph path item value) (others : UnfoldsEntries graph path entries fields) :
    UnfoldsEntries graph path ((key, item) :: entries) ((key, value) :: fields)

end

/-- All references of an item are to nodes below a bound. -/
inductive Closed (bound : Nat) : DebugItem → Prop where
  | scalar (s : Scalar) : Closed bound (.scalar s)
  | list {items : List DebugItem} (parts : ∀ item ∈ items, Closed bound item) :
    Closed bound (.list items)
  | object {entries : List (String × DebugItem)} (parts : ∀ entry ∈ entries, Closed bound entry.2) :
    Closed bound (.object entries)
  | record {fields : List (String × DebugItem)} (kind : String)
    (parts : ∀ field ∈ fields, Closed bound field.2) : Closed bound (.record kind fields)
  | ref {node : Nat} (inside : node < bound) : Closed bound (.ref node)

/-! ## What encoding does in each case -/

section Encode

variable (graph : List DebugItem) (active : List Nat)

@[simp] theorem encode_scalar (s : Scalar) :
    (encode graph active (.scalar s)).value = s.toValue := by
  rw [encode]

@[simp] theorem encode_list (items : List DebugItem) :
    (encode graph active (.list items)).value = .list (encodeItems graph active items).value := by
  rw [encode]

@[simp] theorem encode_object (entries : List (String × DebugItem)) :
    (encode graph active (.object entries)).value =
      .object (Fields.ofList (encodeEntries graph active entries).value) := by
  rw [encode]

@[simp] theorem encode_record (kind : String) (fields : List (String × DebugItem)) :
    (encode graph active (.record kind fields)).value = .object (Fields.ofList
      ((kindKey, .text kind) :: (encodeEntries graph active fields).value)) := by
  rw [encode]

variable {graph active}

theorem encode_open {node : Nat} (opened : node ∈ active) :
    (encode graph active (.ref node)).value = .text circularMark := by
  rw [encode, dif_pos (by simpa using opened)]

theorem encode_closed {node : Nat} {tree : DebugItem} (closed : node ∉ active)
    (found : graph[node]? = some tree) :
    (encode graph active (.ref node)).value = (encode graph (node :: active) tree).value := by
  obtain ⟨inside, rfl⟩ := List.getElem?_eq_some_iff.mp found
  rw [encode, dif_neg (by simpa using closed), dif_pos inside]

theorem encode_dangling {node : Nat} (closed : node ∉ active) (outside : ¬ node < graph.length) :
    (encode graph active (.ref node)).value = .null := by
  rw [encode, dif_neg (by simpa using closed), dif_neg outside]

variable (graph active)

@[simp] theorem encodeItems_nil : (encodeItems graph active []).value = [] := by
  rw [encodeItems]

@[simp] theorem encodeItems_cons (item : DebugItem) (items : List DebugItem) :
    (encodeItems graph active (item :: items)).value =
      (encode graph active item).value :: (encodeItems graph active items).value := by
  rw [encodeItems]
  obtain ⟨value, left, rfl⟩ := encode graph active item
  rfl

@[simp] theorem encodeEntries_nil : (encodeEntries graph active []).value = [] := by
  rw [encodeEntries]

variable {graph active}

theorem encodeEntries_internal {key : String} (internal : Internal key) (item : DebugItem)
    (entries : List (String × DebugItem)) :
    (encodeEntries graph active ((key, item) :: entries)).value =
      (encodeEntries graph active entries).value := by
  rw [encodeEntries, if_pos ((isInternal_iff key).mpr internal)]

theorem encodeEntries_kept {key : String} (kept : ¬ Internal key) (item : DebugItem)
    (entries : List (String × DebugItem)) :
    (encodeEntries graph active ((key, item) :: entries)).value =
      (key, (encode graph active item).value) :: (encodeEntries graph active entries).value := by
  rw [encodeEntries, if_neg fun internal => kept ((isInternal_iff key).mp internal)]
  obtain ⟨value, left, rfl⟩ := encode graph active item
  rfl

end Encode

section Induction

variable {graph : List DebugItem} {onItem : List Nat → DebugItem → Value → Prop}
  {onEntries : List Nat → List (String × DebugItem) → List (String × Value) → Prop}
  {onItems : List Nat → List DebugItem → List Value → Prop}

/-- What holds of an item and what it is encoded as, if it is handed on from the parts of an item, and
from the tree at a node that is opened. -/
theorem encode_induct (scalar : ∀ active s, onItem active (.scalar s) s.toValue)
    (list : ∀ active items values, onItems active items values →
      onItem active (.list items) (.list values))
    (object : ∀ active entries fields, onEntries active entries fields →
      onItem active (.object entries) (.object (Fields.ofList fields)))
    (record : ∀ active kind entries fields, onEntries active entries fields →
      onItem active (.record kind entries)
        (.object (Fields.ofList ((kindKey, .text kind) :: fields))))
    (circular : ∀ active node, node ∈ active → onItem active (.ref node) (.text circularMark))
    (expanded : ∀ active node tree value, node ∉ active → graph[node]? = some tree →
      onItem (node :: active) tree value → onItem active (.ref node) value)
    (dangling : ∀ active node, node ∉ active → ¬ node < graph.length →
      onItem active (.ref node) .null)
    (noEntry : ∀ active, onEntries active [] [])
    (internal : ∀ active key item entries fields, Internal key → onEntries active entries fields →
      onEntries active ((key, item) :: entries) fields)
    (kept : ∀ active key item entries value fields, ¬ Internal key → onItem active item value →
      onEntries active entries fields → onEntries active ((key, item) :: entries) ((key, value) :: fields))
    (noItem : ∀ active, onItems active [] [])
    (item : ∀ active item items value values, onItem active item value →
      onItems active items values → onItems active (item :: items) (value :: values)) :
    ∀ active item, onItem active item (encode graph active item).value := by
  -- By the recursion of the encoder, with its tests and results put into words.
  refine encode.induct graph
    (fun active item => onItem active item (encode graph active item).value)
    (fun active entries => onEntries active entries (encodeEntries graph active entries).value)
    (fun active items => onItems active items (encodeItems graph active items).value)
    ?scalar ?list ?object ?record ?circular ?expanded ?dangling ?noEntry ?internal ?kept ?noItem ?item
  case scalar =>
    intro active s
    rw [encode_scalar]
    exact scalar active s
  case list =>
    intro active items ih
    rw [encode_list]
    exact list active items _ ih
  case object =>
    intro active entries ih
    rw [encode_object]
    exact object active entries _ ih
  case record =>
    intro active kind fields ih
    rw [encode_record]
    exact record active kind fields _ ih
  case circular =>
    intro active node opened
    have onPath : node ∈ active := by simpa using opened
    rw [encode_open onPath]
    exact circular active node onPath
  case expanded =>
    intro active node notOpened inside ih
    have offPath : node ∉ active := by simpa using notOpened
    have found : graph[node]? = some graph[node] := List.getElem?_eq_getElem inside
    rw [encode_closed offPath found]
    exact expanded active node _ _ offPath found ih
  case dangling =>
    intro active node notOpened outside
    have offPath : node ∉ active := by simpa using notOpened
    rw [encode_dangling offPath outside]
    exact dangling active node offPath outside
  case noEntry =>
    intro active
    rw [encodeEntries_nil]
    exact noEntry active
  case internal =>
    intro active key item entries isInternal ih
    have leftOut := (isInternal_iff key).mp isInternal
    rw [encodeEntries_internal leftOut]
    exact internal active key item entries _ leftOut ih
  case kept =>
    intro key item entries notInternal first active _ ih ih'
    have isKept : ¬ Internal key := fun leftOut => notInternal ((isInternal_iff key).mpr leftOut)
    rw [encodeEntries_kept isKept]
    exact kept active key item entries _ _ isKept ih ih'
  case noItem =>
    intro active
    rw [encodeItems_nil]
    exact noItem active
  case item =>
    intro first items _ active _ ih ih'
    rw [encodeItems_cons]
    exact item active first items _ _ ih ih'

end Induction

/-! ## Encoding is unfolding -/

variable {graph : List DebugItem}

/-- Encoding under open nodes delivers an unfolding on a path through them. -/
theorem encode_unfolds (closed : ∀ tree ∈ graph, Closed graph.length tree) :
    ∀ active item, Closed graph.length item →
      Unfolds graph active item (encode graph active item).value := by
  apply @encode_induct graph
    (fun active item value => Closed graph.length item → Unfolds graph active item value)
    (fun active entries fields => (∀ entry ∈ entries, Closed graph.length entry.2) →
      UnfoldsEntries graph active entries fields)
    (fun active items values => (∀ item ∈ items, Closed graph.length item) →
      UnfoldsItems graph active items values)
  case scalar => exact fun _ s _ => .scalar s
  case list =>
    rintro active items values ih ⟨⟩
    exact .list (ih ‹_›)
  case object =>
    rintro active entries fields ih ⟨⟩
    exact .object (ih ‹_›)
  case record =>
    rintro active kind entries fields ih ⟨⟩
    exact .record kind (ih ‹_›)
  case circular => exact fun _ _ onPath _ => .circular onPath
  case expanded =>
    intro active node tree value offPath found ih _
    exact .expanded offPath found (ih (closed tree (List.mem_of_getElem? found)))
  case dangling =>
    rintro active node _ outside ⟨⟩
    contradiction
  case noEntry => exact fun _ _ => .nil
  case internal =>
    intro active key item entries fields internal ih parts
    exact .internal internal (ih (List.forall_mem_cons.mp parts).2)
  case kept =>
    intro active key item entries value fields kept ih ih' parts
    have ⟨first, others⟩ := List.forall_mem_cons.mp parts
    exact .kept kept (ih first) (ih' others)
  case noItem => exact fun _ _ => .nil
  case item =>
    intro active item items value values ih ih' parts
    have ⟨first, others⟩ := List.forall_mem_cons.mp parts
    exact .cons (ih first) (ih' others)

/-- An unfolding is what encoding delivers; so there is one at most. -/
theorem Unfolds.encoded {path : List Nat} {item : DebugItem} {value : Value}
    (unfolds : Unfolds graph path item value) : (encode graph path item).value = value := by
  refine @Unfolds.rec graph (fun path item value _ => (encode graph path item).value = value)
    (fun path items values _ => (encodeItems graph path items).value = values)
    (fun path entries fields _ => (encodeEntries graph path entries).value = fields)
    ?scalar ?list ?object ?record ?circular ?expanded ?noItem ?item ?noEntry ?internal ?kept
    path item value unfolds
  case scalar => exact fun s => encode_scalar graph _ s
  case list =>
    intro path items values _ ih
    rw [encode_list, ih]
  case object =>
    intro path entries fields _ ih
    rw [encode_object, ih]
  case record =>
    intro path entries fields kind _ ih
    rw [encode_record, ih]
  case circular =>
    intro path node onPath
    exact encode_open onPath
  case expanded =>
    intro path node tree value offPath found _ ih
    rw [encode_closed offPath found, ih]
  case noItem => exact encodeItems_nil graph _
  case item =>
    intro path item items value values _ _ ih ih'
    rw [encodeItems_cons, ih, ih']
  case noEntry => exact encodeEntries_nil graph _
  case internal =>
    intro path key item entries fields internal _ ih
    rw [encodeEntries_internal internal, ih]
  case kept =>
    intro path key item entries value fields kept _ _ ih ih'
    rw [encodeEntries_kept kept, ih, ih']

/-- Two lists of the same nodes. -/
def SameNodes (active active' : List Nat) : Prop := ∀ node, node ∈ active ↔ node ∈ active'

theorem SameNodes.cons {active active' : List Nat} (same : SameNodes active active') (node : Nat) :
    SameNodes (node :: active) (node :: active') := by
  intro other
  rw [List.mem_cons, List.mem_cons, same other]

/-- What encoding delivers depends on which nodes are open, and on nothing else about them. -/
theorem encode_congr : ∀ active item active', SameNodes active active' →
    (encode graph active' item).value = (encode graph active item).value := by
  apply @encode_induct graph
    (fun active item value => ∀ active', SameNodes active active' →
      (encode graph active' item).value = value)
    (fun active entries fields => ∀ active', SameNodes active active' →
      (encodeEntries graph active' entries).value = fields)
    (fun active items values => ∀ active', SameNodes active active' →
      (encodeItems graph active' items).value = values)
  case scalar => exact fun _ s active' _ => encode_scalar graph active' s
  case list =>
    intro active items values ih active' same
    rw [encode_list, ih active' same]
  case object =>
    intro active entries fields ih active' same
    rw [encode_object, ih active' same]
  case record =>
    intro active kind entries fields ih active' same
    rw [encode_record, ih active' same]
  case circular => exact fun _ node onPath _ same => encode_open ((same node).mp onPath)
  case expanded =>
    intro active node tree value offPath found ih active' same
    have offPath' : node ∉ active' := fun onPath => offPath ((same node).mpr onPath)
    rw [encode_closed offPath' found, ih _ (same.cons node)]
  case dangling =>
    intro active node offPath outside active' same
    exact encode_dangling (fun onPath => offPath ((same node).mpr onPath)) outside
  case noEntry => exact fun _ active' _ => encodeEntries_nil graph active'
  case internal =>
    intro active key item entries fields internal ih active' same
    rw [encodeEntries_internal internal, ih active' same]
  case kept =>
    intro active key item entries value fields kept ih ih' active' same
    rw [encodeEntries_kept kept, ih active' same, ih' active' same]
  case noItem => exact fun _ active' _ => encodeItems_nil graph active'
  case item =>
    intro active item items value values ih ih' active' same
    rw [encodeItems_cons, ih active' same, ih' active' same]

/-- Encoding is exact on every graph, circular or not: what it delivers for a root is the unfolding of
the graph from there, in which a reference is marked as circular if it is to a node on the path from
the root, and expanded in full if it is not; and the encoding of an item depends on the item and the
set of the open nodes alone, which is the same after it as before. -/
theorem encode_exact (closed : ∀ tree ∈ graph, Closed graph.length tree) :
    (∀ root < graph.length, ∀ value,
      debugDataOf graph root = value ↔ Unfolds graph [] (.ref root) value) ∧
    (∀ active item, Closed graph.length item → ∀ value,
      (encode graph active item).value = value ↔ Unfolds graph active item value) ∧
    ∀ active item, (encode graph active item).left = active ∧
      ∀ active', (∀ node, node ∈ active ↔ node ∈ active') →
        (encode graph active' item).value = (encode graph active item).value := by
  have exact : ∀ active item, Closed graph.length item → ∀ value,
      (encode graph active item).value = value ↔ Unfolds graph active item value := by
    intro active item isClosed value
    constructor
    · intro same
      rw [← same]
      exact encode_unfolds closed active item isClosed
    · exact Unfolds.encoded
  refine ⟨fun root inside => exact [] (.ref root) (.ref inside), exact, fun active item => ⟨?_, ?_⟩⟩
  · exact (encode graph active item).restored
  · intro active' same
    exact encode_congr active item active' same

/-- A node that holds itself and, twice, a node that refers back to it. -/
def knot : List DebugItem :=
  [.object [("first", .ref 1), ("_back", .ref 0), ("second", .ref 1), ("self", .ref 0)],
    .record "Leaf" [("parent", .ref 0), ("items", .list [.scalar (.int 1), .ref 1])]]

def knotLeaf : Value :=
  .object [("$type", .text "Leaf"), ("parent", .text "[Circular]"),
    ("items", .list [.int 1, .text "[Circular]"])]

theorem closed_knot : ∀ tree ∈ knot, Closed knot.length tree := by
  have first : Closed 2 (.ref 0) := .ref (by decide)
  have second : Closed 2 (.ref 1) := .ref (by decide)
  have items : Closed 2 (.list [.scalar (.int 1), .ref 1]) :=
    .list (by simpa using ⟨Closed.scalar (.int 1), second⟩)
  have opening : Closed 2 (.object
      [("first", .ref 1), ("_back", .ref 0), ("second", .ref 1), ("self", .ref 0)]) :=
    .object (by simpa using ⟨second, first, second, first⟩)
  have leaf : Closed 2 (.record "Leaf"
      [("parent", .ref 0), ("items", .list [.scalar (.int 1), .ref 1])]) :=
    .record _ (by simpa using ⟨first, items⟩)
  simpa [knot] using ⟨opening, leaf⟩

theorem unfolds_knotLeaf : Unfolds knot [0] (.ref 1) knotLeaf := by
  have items : Unfolds knot [1, 0] (.list [.scalar (.int 1), .ref 1])
      (.list [.int 1, .text "[Circular]"]) :=
    .list (.cons (.scalar (.int 1)) (.cons (.circular (by decide)) .nil))
  have fields : UnfoldsEntries knot [1, 0]
      [("parent", .ref 0), ("items", .list [.scalar (.int 1), .ref 1])]
      [("parent", .text "[Circular]"), ("items", .list [.int 1, .text "[Circular]"])] :=
    .kept (by decide) (.circular (by decide)) (.kept (by decide) items .nil)
  exact .expanded (by decide) rfl (.record "Leaf" fields)

/-- Both references to the shared node are expanded; those on the way are marked. -/
theorem encode_exact_knot : (∀ tree ∈ knot, Closed knot.length tree) ∧
    debugDataOf knot 0 = .object [("first", knotLeaf), ("second", knotLeaf),
      ("self", .text "[Circular]")] := by
  have fields : UnfoldsEntries knot [0]
      [("first", .ref 1), ("_back", .ref 0), ("second", .ref 1), ("self", .ref 0)]
      [("first", knotLeaf), ("second", knotLeaf), ("self", .text "[Circular]")] :=
    .kept (by decide) unfolds_knotLeaf (.internal (by decide) (.kept (by decide) unfolds_knotLeaf
      (.kept (by decide) (.circular (by decide)) .nil)))
  have unfolds : Unfolds knot [] (.ref 0) (.object [("first", knotLeaf), ("second", knotLeaf),
      ("self", .text "[Circular]")]) := .expanded (by decide) rfl (.object fields)
  exact ⟨closed_knot, ((encode_exact closed_knot).1 0 (by decide) _).mpr unfolds⟩

end Blueprint.DebugItem
