import EntityRelationship.Snapshot.Fault

/-!
# Reading a snapshot

A snapshot is an object with a list of nodes and a list of edges. Each element is an object of
its fields, in any order and with unknown fields ignored, or an array of them in the fixed order.
A kind is a name, or an object with that name as its only key and nothing as its value.

The tokens are read from left to right, and the first fault found is the one reported. A field is
refused where its key is repeated, a missing field where its object closes, and a repeated id once
the whole object has been read. The readers take a list of tokens and give what they read with the
tokens that are left.
-/

namespace EntityRelationship.Snapshot

/-! ## Plain values -/

/-- The fault of a flawed text. -/
def flawed (flaw : Flaw) : SnapshotFault := .flaw flaw

/-- The fault of a value that does not fit. -/
def misfit (expected : Expected) : List Token → SnapshotFault
  | [] => flawed .cutOff
  | .null :: _ => .mismatch (.wrongType .null expected)
  | .bool b :: _ => .mismatch (.wrongType (.bool b) expected)
  | .number n :: _ => .mismatch (.wrongType (.number n) expected)
  | .text s :: _ => .mismatch (.wrongType (.text s) expected)
  | .openArray :: _ => .mismatch (.wrongType .array expected)
  | .openObject :: _ => .mismatch (.wrongType .object expected)
  | .brokenText flaw _ :: _ => flawed flaw
  | .broken flaw _ :: _ => flawed flaw
  | .closeObject :: _ | .closeArray :: _ | .comma :: _ | .colon :: _ => flawed .malformed

/-- The fault where a bracket or separator is wanted. -/
def misplaced : List Token → SnapshotFault
  | [] => flawed .cutOff
  | _ :: _ => flawed .malformed

/-- Reads a text. -/
def readText : List Token → Except SnapshotFault (String × List Token)
  | .text s :: rest => .ok (s, rest)
  | toks => .error (misfit .text toks)

/-- Reads a text or nothing. -/
def readOptionalText : List Token → Except SnapshotFault (Option String × List Token)
  | .null :: rest => .ok (none, rest)
  | .text s :: rest => .ok (some s, rest)
  | toks => .error (misfit .text toks)

/-- Passes over a colon. -/
def readColon : List Token → Except SnapshotFault (List Token)
  | .colon :: rest => .ok rest
  | toks => .error (misplaced toks)

/-! ## Passing over a value -/

/-- A container that is open around the current place. -/
inductive Container where
  | object
  | array
  deriving DecidableEq

/-- What may come next while a value is passed over. -/
inductive Awaited where
  | value
  /-- A value, or the end of an array. -/
  | valueOrEnd
  | key
  /-- A key, or the end of an object. -/
  | keyOrEnd
  | colon
  /-- A comma, or the end of the innermost container. -/
  | commaOrEnd
  deriving DecidableEq

/-- The outcome of passing over one token. -/
inductive Passed where
  | done
  | more (open_ : List Container) (awaited : Awaited)
  | fault (flaw : Flaw)

/-- What follows a complete value. -/
def afterValue (containers : List Container) : Passed :=
  if containers = [] then .done else .more containers .commaOrEnd

/-- Passes over a token where a value is awaited. -/
def passValue (containers : List Container) : Token → Passed
  | .null | .bool _ | .number _ | .text _ => afterValue containers
  | .openArray => .more (.array :: containers) .valueOrEnd
  | .openObject => .more (.object :: containers) .keyOrEnd
  | .brokenText _ none | .broken _ none => afterValue containers
  | .brokenText _ (some flaw) | .broken _ (some flaw) => .fault flaw
  | .closeObject | .closeArray | .comma | .colon => .fault .malformed

/-- Passes over a token where a key is awaited. -/
def passKey (containers : List Container) : Token → Passed
  | .text _ | .brokenText _ none => .more containers .colon
  | .brokenText _ (some flaw) => .fault flaw
  | _ => .fault .malformed

/-- Passes over one token. -/
def passToken (containers : List Container) (awaited : Awaited) (t : Token) : Passed :=
  match awaited with
  | .value => passValue containers t
  | .valueOrEnd =>
    if t = .closeArray then afterValue containers.tail else passValue containers t
  | .key => passKey containers t
  | .keyOrEnd =>
    if t = .closeObject then afterValue containers.tail else passKey containers t
  | .colon => if t = .colon then .more containers .value else .fault .malformed
  | .commaOrEnd =>
    match containers.head?, t with
    | some .array, .comma => .more containers .value
    | some .object, .comma => .more containers .key
    | some .array, .closeArray => afterValue containers.tail
    | some .object, .closeObject => afterValue containers.tail
    | _, _ => .fault .malformed

/-- Passes over the rest of a value. -/
def passFrom (containers : List Container) (awaited : Awaited) :
    List Token → Except SnapshotFault (List Token)
  | [] => .error (flawed .cutOff)
  | t :: rest =>
    match passToken containers awaited t with
    | .done => .ok rest
    | .more containers awaited => passFrom containers awaited rest
    | .fault flaw => .error (flawed flaw)

/-- Passes over a value. -/
def pass (toks : List Token) : Except SnapshotFault (List Token) :=
  passFrom [] .value toks

/-! ## Arrays and objects -/

/-- The tokens at the next item of an array, or `none` at the end of the array. -/
def nextItem (first : Bool) : List Token → Except SnapshotFault (Option (List Token))
  | .closeArray :: _ => .ok none
  | toks =>
    if first then
      if toks = [] then .error (flawed .cutOff) else .ok (some toks)
    else
      match toks with
      | .comma :: rest =>
        match rest with
        | [] => .error (flawed .cutOff)
        | .closeArray :: _ => .error (flawed .malformed)
        | _ => .ok (some rest)
      | toks => .error (misplaced toks)

/-- Reads the items of an array; `fuel` bounds their number. -/
def readItems {α : Type} (item : List Token → Except SnapshotFault (α × List Token)) :
    Nat → Bool → List Token → Except SnapshotFault (List α × List Token)
  | 0, _, _ => .error (flawed .cutOff)
  | fuel + 1, first, toks => do
    match ← nextItem first toks with
    | none => return ([], toks.tail)
    | some toks =>
      let (a, rest) ← item toks
      let (as, rest) ← readItems item fuel false rest
      return (a :: as, rest)

/-- Reads an array. Every item takes a token, so there are fewer items than tokens. -/
def readArray {α : Type} (item : List Token → Except SnapshotFault (α × List Token)) :
    List Token → Except SnapshotFault (List α × List Token)
  | .openArray :: rest => readItems item (rest.length + 1) true rest
  | toks => .error (misfit .array toks)

/-- Reads a key. -/
def readKey : List Token → Except SnapshotFault (String × List Token)
  | .text key :: rest => .ok (key, rest)
  | .brokenText flaw _ :: _ => .error (flawed flaw)
  | toks => .error (misplaced toks)

/-- The next key of an object and the tokens behind it, or `none` at the end of the object. -/
def nextKey (first : Bool) :
    List Token → Except SnapshotFault (Option (String × List Token))
  | .closeObject :: _ => .ok none
  | toks =>
    if first then (readKey toks).map some
    else
      match toks with
      | .comma :: rest => (readKey rest).map some
      | toks => .error (misplaced toks)

/-- Reads the members of an object into a draft; `fuel` bounds their number. -/
def readMembers {α : Type}
    (member : α → String → List Token → Except SnapshotFault (α × List Token)) :
    Nat → Bool → α → List Token → Except SnapshotFault (α × List Token)
  | 0, _, _, _ => .error (flawed .cutOff)
  | fuel + 1, first, draft, toks => do
    match ← nextKey first toks with
    | none => return (draft, toks.tail)
    | some (key, rest) =>
      let (draft, rest) ← member draft key rest
      readMembers member fuel false draft rest

/-- Reads the rest of an object whose brace is open. Every member takes a token. -/
def readObject {α : Type}
    (member : α → String → List Token → Except SnapshotFault (α × List Token)) (draft : α)
    (toks : List Token) : Except SnapshotFault (α × List Token) :=
  readMembers member (toks.length + 1) true draft toks

/-- Reads the value of a field, which must not have been read before. -/
def readField {α : Type} (name : String) (before : Option α)
    (value : List Token → Except SnapshotFault (α × List Token)) (toks : List Token) :
    Except SnapshotFault (Option α × List Token) :=
  if before.isSome then .error (.mismatch (.duplicateField name))
  else do
    let rest ← readColon toks
    let (a, rest) ← value rest
    return (some a, rest)

/-- A field that has to be there. -/
def required {α : Type} (name : String) : Option α → Except SnapshotFault α
  | some a => .ok a
  | none => .error (.mismatch (.missingField name))

/-- Passes over the value of an unknown field. -/
def passField {α : Type} (draft : α) (toks : List Token) :
    Except SnapshotFault (α × List Token) := do
  let rest ← readColon toks
  return (draft, ← pass rest)

/-! ## Elements written as arrays -/

/-- Reads a field of an element that is written as an array. If the array ends, the field has the
given default, or the array is too short. -/
def readPlace {α : Type} (first : Bool) (value : List Token → Except SnapshotFault (α × List Token))
    (absent : Except Mismatch α) (toks : List Token) : Except SnapshotFault (α × List Token) := do
  match ← nextItem first toks with
  | some toks => value toks
  | none =>
    match absent with
    | .ok a => return (a, toks)
    | .error mismatch => .error (.mismatch mismatch)

/-- Passes over the end of an array. -/
def readArrayEnd : List Token → Except SnapshotFault (List Token)
  | .closeArray :: rest => .ok rest
  | toks => .error (misplaced toks)

/-! ## Kinds -/

/-- The kind of a name among the known ones. -/
def kindOf {κ : Type} (ofName? : String → Option κ) (known : List String) (name : String) :
    Except SnapshotFault κ :=
  match ofName? name with
  | some k => .ok k
  | none => .error (.mismatch (.unknownKind name known))

/-- Reads a kind. -/
def readKind {κ : Type} (ofName? : String → Option κ) (known : List String) :
    List Token → Except SnapshotFault (κ × List Token)
  | .text s :: rest => do return (← kindOf ofName? known s, rest)
  | .openObject :: rest => do
    let (name, rest) ← readKey rest
    let kind ← kindOf ofName? known name
    match ← readColon rest with
    | .null :: .closeObject :: rest => return (kind, rest)
    | .null :: rest => .error (misplaced rest)
    | toks => .error (misfit .nothing toks)
  | .brokenText flaw _ :: _ => .error (flawed flaw)
  | toks => .error (misplaced toks)

/-- Reads the kind of a node. -/
def readNodeKind : List Token → Except SnapshotFault (NodeKind × List Token) :=
  readKind NodeKind.ofName? (NodeKind.all.map (·.name))

/-- Reads the kind of an edge. -/
def readEdgeKind : List Token → Except SnapshotFault (EdgeKind × List Token) :=
  readKind EdgeKind.ofName? (EdgeKind.all.map (·.name))

/-! ## Nodes -/

/-- The fields of a node that have been read. -/
structure NodeDraft where
  id : Option String
  kind : Option NodeKind
  label : Option String
  equation : Option (Option String)

/-- Reads a member of a node. -/
def readNodeMember (n : NodeDraft) (key : String) (toks : List Token) :
    Except SnapshotFault (NodeDraft × List Token) :=
  if key = "id" then do
    let (id, rest) ← readField key n.id readText toks
    return ({ n with id }, rest)
  else if key = "kind" then do
    let (kind, rest) ← readField key n.kind readNodeKind toks
    return ({ n with kind }, rest)
  else if key = "label" then do
    let (label, rest) ← readField key n.label readText toks
    return ({ n with label }, rest)
  else if key = "equation" then do
    let (equation, rest) ← readField key n.equation readOptionalText toks
    return ({ n with equation }, rest)
  else passField n toks

/-- The node of a complete draft. A label that is missing is empty. -/
def NodeDraft.node (n : NodeDraft) : Except SnapshotFault Node := do
  let id ← required "id" n.id
  let kind ← required "kind" n.kind
  return ⟨id, kind, n.label.getD "", n.equation.join⟩

/-- Reads a node that is written as an array. -/
def readNodeArray (toks : List Token) : Except SnapshotFault (Node × List Token) := do
  let (id, rest) ← readPlace true readText (.error (.tooShort 0 .node 4)) toks
  let (kind, rest) ← readPlace false readNodeKind (.error (.tooShort 1 .node 4)) rest
  let (label, rest) ← readPlace false readText (.ok "") rest
  let (equation, rest) ← readPlace false readOptionalText (.ok none) rest
  let rest ← readArrayEnd rest
  return (⟨id, kind, label, equation⟩, rest)

/-- Reads a node. -/
def readNode : List Token → Except SnapshotFault (Node × List Token)
  | .openObject :: toks => do
    let (draft, rest) ← readObject readNodeMember ⟨none, none, none, none⟩ toks
    return (← draft.node, rest)
  | .openArray :: toks => readNodeArray toks
  | toks => .error (misfit .node toks)

/-! ## Edges -/

/-- The fields of an edge that have been read. -/
structure EdgeDraft where
  id : Option String
  kind : Option EdgeKind
  source : Option String
  target : Option String
  label : Option (Option String)

/-- Reads a member of an edge. -/
def readEdgeMember (e : EdgeDraft) (key : String) (toks : List Token) :
    Except SnapshotFault (EdgeDraft × List Token) :=
  if key = "id" then do
    let (id, rest) ← readField key e.id readText toks
    return ({ e with id }, rest)
  else if key = "kind" then do
    let (kind, rest) ← readField key e.kind readEdgeKind toks
    return ({ e with kind }, rest)
  else if key = "source" then do
    let (source, rest) ← readField key e.source readText toks
    return ({ e with source }, rest)
  else if key = "target" then do
    let (target, rest) ← readField key e.target readText toks
    return ({ e with target }, rest)
  else if key = "label" then do
    let (label, rest) ← readField key e.label readOptionalText toks
    return ({ e with label }, rest)
  else passField e toks

/-- The edge of a complete draft. A kind that is missing is the plain link. -/
def EdgeDraft.edge (e : EdgeDraft) : Except SnapshotFault Edge := do
  let id ← required "id" e.id
  let source ← required "source" e.source
  let target ← required "target" e.target
  return ⟨id, e.kind.getD .transition, source, target, e.label.join⟩

/-- Reads an edge that is written as an array. -/
def readEdgeArray (toks : List Token) : Except SnapshotFault (Edge × List Token) := do
  let (id, rest) ← readPlace true readText (.error (.tooShort 0 .edge 5)) toks
  let (kind, rest) ← readPlace false readEdgeKind (.ok .transition) rest
  let (source, rest) ← readPlace false readText (.error (.tooShort 2 .edge 5)) rest
  let (target, rest) ← readPlace false readText (.error (.tooShort 3 .edge 5)) rest
  let (label, rest) ← readPlace false readOptionalText (.ok none) rest
  let rest ← readArrayEnd rest
  return (⟨id, kind, source, target, label⟩, rest)

/-- Reads an edge. -/
def readEdge : List Token → Except SnapshotFault (Edge × List Token)
  | .openObject :: toks => do
    let (draft, rest) ← readObject readEdgeMember ⟨none, none, none, none, none⟩ toks
    return (← draft.edge, rest)
  | .openArray :: toks => readEdgeArray toks
  | toks => .error (misfit .edge toks)

/-! ## Diagrams -/

/-- The fields of a diagram that have been read. -/
structure DiagramDraft where
  nodes : Option (List Node)
  edges : Option (List Edge)

/-- Reads a member of a diagram. -/
def readDiagramMember (d : DiagramDraft) (key : String) (toks : List Token) :
    Except SnapshotFault (DiagramDraft × List Token) :=
  if key = "nodes" then do
    let (nodes, rest) ← readField key d.nodes (readArray readNode) toks
    return ({ d with nodes }, rest)
  else if key = "edges" then do
    let (edges, rest) ← readField key d.edges (readArray readEdge) toks
    return ({ d with edges }, rest)
  else passField d toks

/-- The diagram of a complete draft. Edges that are missing are none. -/
def DiagramDraft.diagram (d : DiagramDraft) : Except SnapshotFault Diagram := do
  let nodes ← required "nodes" d.nodes
  match Diagram.ofElements nodes (d.edges.getD []) with
  | .ok d => .ok d
  | .error fault => .error (.mismatch (.edit fault))

/-- Reads a diagram, behind which nothing may follow. -/
def readDiagram : List Token → Except SnapshotFault Diagram
  | .openObject :: toks => do
    let (draft, rest) ← readObject readDiagramMember ⟨none, none⟩ toks
    let d ← draft.diagram
    if rest = [] then return d else .error (flawed .malformed)
  | toks => .error (misplaced toks)

/-- Reads the diagram that a snapshot describes. -/
def read (text : String) : Except SnapshotFault Diagram :=
  readDiagram (tokens text)

end EntityRelationship.Snapshot
