import StarSurvey.Yaml.Token

/-!
# Documents

The tokens of a text make a tree of scalars, lists and maps. A node may be given a name by an anchor,
and a later place may refer to it. A text holds one document; one without any stands for an empty
scalar. Of a malformed text the tree holds what stands in front of the fault; behind it nodes are
lost.
-/

namespace StarSurvey.Yaml

/-- A node of a document, with the place where it begins. -/
inductive Node where
  | scalar (mark : Mark) (style : Style) (tag : Option String) (text : String)
  | list (mark : Mark) (items : List Node)
  | map (mark : Mark) (entries : List (Node × Node))
  /-- A reference to the node with a number. -/
  | alias (mark : Mark) (number : Nat)
  /-- A node behind a fault. -/
  | lost (f : Fault)

def Node.mark : Node → Mark
  | .scalar m .. | .list m _ | .map m _ | .alias m _ => m
  | .lost f => f.mark

def Node.empty (m : Mark) : Node := .scalar m .plain none ""

mutual

/-- The first fault in a tree. -/
def Node.fault? : Node → Option Fault
  | .lost f => some f
  | .list _ items => itemsFault? items
  | .map _ entries => entriesFault? entries
  | .scalar .. | .alias .. => none

/-- The first fault in a list. -/
def itemsFault? : List Node → Option Fault
  | [] => none
  | n :: ns => n.fault?.or (itemsFault? ns)

/-- The first fault in a map. -/
def entriesFault? : List (Node × Node) → Option Fault
  | [] => none
  | (k, v) :: es => (k.fault?.or v.fault?).or (entriesFault? es)

end

/-- The anchors of a document. An anchor gets as its number how many names there are by then; a later
anchor of the same number takes the place of an earlier one. -/
structure Anchors where
  /-- The number of each name. -/
  numbers : List (String × Nat) := []
  /-- The anchor that each number stands for, by how many anchors are in front of it. -/
  places : List (Nat × Nat) := []
  /-- How many anchors there are. -/
  count : Nat := 0
  /-- The node behind each anchor. -/
  nodes : List (Nat × Node) := []

namespace Anchors

/-- Takes in an anchor, whose node is not known yet. -/
def add (a : Anchors) (name : String) : Anchors :=
  let number := a.numbers.length
  { a with
    numbers := (name, number) :: a.numbers.filter fun e => e.1 != name
    places := (number, a.count) :: a.places
    count := a.count + 1 }

/-- Takes in the node behind an anchor. -/
def setNode (a : Anchors) (place : Nat) (n : Node) : Anchors :=
  { a with nodes := (place, n) :: a.nodes }

/-- The node with a number. -/
def node? (a : Anchors) (number : Nat) : Option Node := do
  a.nodes.lookup (← a.places.lookup number)

end Anchors

/-! ## Readers of tokens -/

/-- What is read: the tokens that are left and what is wrong behind them, the anchors so far, the
shorthands for tags, and the fault that ended all reading. -/
structure Reading where
  tokens : List Placed
  beyond : Fault
  anchors : Anchors := {}
  shorthands : List (String × String) := []
  fault : Option Fault := none

/-- Reads from tokens up to a fault. -/
abbrev TokenReader := ExceptT Fault (StateM Reading)

/-- What a reader reads, or its fault, which ends all reading. -/
def attempt {α : Type} (r : TokenReader α) : StateM Reading (Except Fault α) := do
  let a ← r.run
  if let .error f := a then modify fun s => { s with fault := some f }
  return a

/-- What a reader reads, or a lost node. -/
def orLost (r : TokenReader Node) : StateM Reading Node := do
  match ← attempt r with
  | .ok n => return n
  | .error f => return .lost f

/-- The fault of a text that ends too early. -/
def endless : Fault := ⟨.textEnds, .start, none⟩

/-- What a reader reads in turn until there is no more. Behind a fault something is lost. -/
def readItems {α : Type} (lost : Fault → α) (item : (first : Bool) → TokenReader (Option α)) :
    (fuel : Nat) → (first : Bool) → StateM Reading (List α)
  | 0, _ => return [lost endless]
  | fuel + 1, first => do
    match ← attempt (item first) with
    | .error f => return [lost f]
    | .ok none => return []
    | .ok (some a) => return a :: (← readItems lost item fuel false)

/-- The next token, left in place. -/
def peekToken : TokenReader Placed := do
  let r ← get
  if let some f := r.fault then throw f
  match r.tokens with
  | t :: _ => return t
  | [] => throw r.beyond

def passToken : TokenReader Unit := modify fun r => { r with tokens := r.tokens.tail }

/-! ## Properties of nodes -/

/-- The shorthands for tags that need not be declared. -/
def usualShorthands : List (String × String) := [("!", "!"), ("!!", "tag:yaml.org,2002:")]

/-- A tag as it is written, and its place. -/
structure WrittenTag where
  handle : String
  suffix : String
  mark : Mark

/-- The tag that stands for a written one in a node that begins at a place. -/
def fullTag (t : WrittenTag) (start : Mark) : TokenReader String := do
  if t.handle.isEmpty then return t.suffix
  match ((← get).shorthands ++ usualShorthands).lookup t.handle with
  | some stem => return stem ++ t.suffix
  | none => throw ⟨.unknownHandle, t.mark, some (.node, start)⟩

/-- An anchor, if one stands here: how many are in front of it. -/
def readAnchor : TokenReader (Option Nat) := do
  match (← peekToken).token with
  | .anchor name =>
    passToken
    let place := (← get).anchors.count
    modify fun r => { r with anchors := r.anchors.add name }
    return some place
  | _ => return none

/-- A tag, if one stands here. -/
def readTag : TokenReader (Option WrittenTag) := do
  let t ← peekToken
  match t.token with
  | .tag handle suffix =>
    passToken
    return some ⟨handle, suffix, t.start⟩
  | _ => return none

/-- An anchor and a tag in any order, either of which may be missing. -/
def readProperties : TokenReader (Option Nat × Option WrittenTag) := do
  match ← readTag with
  | some tag => return (← readAnchor, some tag)
  | none =>
    let anchor ← readAnchor
    return (anchor, ← readTag)

/-! ## Nodes -/

/-- A token that ends an entry of a map that shows by indentation, or begins the next. -/
def Token.isBlockStop : Token → Bool
  | .key | .value | .blockEnd => true
  | _ => false

/-- A token that ends an entry of a collection in brackets. -/
def Token.isFlowStop (t close : Token) : Bool := t == .comma || t == close

/-- An entry of a map behind a fault. -/
def lostEntry (f : Fault) : Node × Node := (.lost f, .lost f)

mutual

/-- A node. Where a map shows by indentation, a list as its value needs none of its own. -/
def readNode (fuel : Nat) (block bare : Bool) : TokenReader Node :=
  match fuel with
  | 0 => throw endless
  | fuel + 1 => do
    let t ← peekToken
    match t.token with
    | .alias name =>
      passToken
      match (← get).anchors.numbers.lookup name with
      | some number => return .alias t.start number
      | none => throw ⟨.unknownAnchor, t.start, none⟩
    | _ =>
      let (anchor, written) ← readProperties
      let next ← peekToken
      let tag ← written.mapM (fullTag · t.start)
      let size := (← get).tokens.length + 1
      let n ←
        match next.token, block, bare with
        | .scalar style text, _, _ =>
          passToken
          pure (Node.scalar t.start style (if tag = some "!" then none else tag) text)
        | .openList, _, _ =>
          passToken
          pure (.list t.start (← readItems .lost (readFlowItem fuel next.start) size true))
        | .openMap, _, _ =>
          passToken
          pure (.map t.start (← readItems lostEntry (readFlowEntry fuel next.start) size true))
        | .blockList, true, _ =>
          passToken
          pure (.list t.start (← readItems .lost (readBlockItem fuel next.start) size true))
        | .blockMap, true, _ =>
          passToken
          pure (.map t.start (← readItems lostEntry (readBlockEntry fuel next.start) size true))
        | .entry, _, true =>
          pure (.list t.start (← readItems .lost (readBareItem fuel) size true))
        | _, _, _ =>
          if anchor.isNone ∧ tag.isNone then
            throw ⟨.noNode, next.start, some (.nodeContent block, t.start)⟩
          pure (.scalar t.start .plain tag "")
      if let some place := anchor then
        modify fun r => { r with anchors := r.anchors.setNode place n }
      return n

/-- An item of a list that shows by indentation and begins at a place. -/
def readBlockItem (fuel : Nat) (m : Mark) (_first : Bool) : TokenReader (Option Node) :=
  match fuel with
  | 0 => throw endless
  | fuel + 1 => do
    let t ← peekToken
    match t.token with
    | .blockEnd => passToken; return none
    | .entry =>
      passToken
      let next := (← peekToken).token
      if next = .entry ∨ next = .blockEnd then return some (.empty t.stop)
      return some (← readNode fuel true false)
    | _ => throw ⟨.noDash, t.start, some (.blockList, m)⟩

/-- An item of a list without indentation of its own. -/
def readBareItem (fuel : Nat) (_first : Bool) : TokenReader (Option Node) :=
  match fuel with
  | 0 => throw endless
  | fuel + 1 => do
    let t ← peekToken
    if t.token ≠ .entry then return none
    passToken
    let next := (← peekToken).token
    if next = .entry ∨ next.isBlockStop then return some (.empty t.stop)
    return some (← readNode fuel true false)

/-- The key or the value behind its token, in a map that shows by indentation. -/
def readBlockPart (fuel : Nat) (t : Placed) : TokenReader Node :=
  match fuel with
  | 0 => throw endless
  | fuel + 1 => do
    if (← peekToken).token.isBlockStop then return .empty t.stop
    readNode fuel true true

/-- The value of an entry of a map that shows by indentation. -/
def readBlockValue (fuel : Nat) : TokenReader Node :=
  match fuel with
  | 0 => throw endless
  | fuel + 1 => do
    let t ← peekToken
    if t.token ≠ .value then return .empty t.start
    passToken
    readBlockPart fuel t

/-- An entry of a map that shows by indentation and begins at a place. -/
def readBlockEntry (fuel : Nat) (m : Mark) (_first : Bool) :
    TokenReader (Option (Node × Node)) :=
  match fuel with
  | 0 => throw endless
  | fuel + 1 => do
    let t ← peekToken
    match t.token with
    | .blockEnd => passToken; return none
    | .key =>
      passToken
      let k ← readBlockPart fuel t
      return some (k, ← orLost (readBlockValue fuel))
    | _ => throw ⟨.noKey, t.start, some (.blockMap, m)⟩

/-- The value of an entry in brackets, which may be missing. -/
def readFlowValue (fuel : Nat) (close : Token) : TokenReader Node :=
  match fuel with
  | 0 => throw endless
  | fuel + 1 => do
    let t ← peekToken
    if t.token ≠ .value then return .empty t.start
    passToken
    let next ← peekToken
    if next.token.isFlowStop close then return .empty next.start
    readNode fuel false false

/-- An item of a list in brackets. One that begins with a key is a map of one entry. -/
def readFlowItem (fuel : Nat) (m : Mark) (first : Bool) : TokenReader (Option Node) :=
  match fuel with
  | 0 => throw endless
  | fuel + 1 => do
    let t ← peekToken
    if t.token = .closeList then passToken; return none
    if !first then
      if t.token ≠ .comma then throw ⟨.listGoesOn, t.start, some (.flowList, m)⟩
      passToken
    let t ← peekToken
    match t.token with
    | .closeList => passToken; return none
    | .key =>
      passToken
      let next ← peekToken
      let k ← if next.token = .value ∨ next.token.isFlowStop .closeList then do
          passToken; pure (.empty next.stop)
        else readNode fuel false false
      return some (.map t.start [(k, ← orLost (readFlowValue fuel .closeList))])
    | _ => return some (← readNode fuel false false)

def readFlowEntry (fuel : Nat) (m : Mark) (first : Bool) : TokenReader (Option (Node × Node)) :=
  match fuel with
  | 0 => throw endless
  | fuel + 1 => do
    let t ← peekToken
    if t.token = .closeMap then passToken; return none
    if !first then
      if t.token ≠ .comma then throw ⟨.mapGoesOn, t.start, some (.flowMap, m)⟩
      passToken
    let t ← peekToken
    match t.token with
    | .closeMap => passToken; return none
    | .key =>
      passToken
      let next ← peekToken
      let k ← if next.token = .value ∨ next.token.isFlowStop .closeMap then
          pure (.empty next.start)
        else readNode fuel false false
      return some (k, ← orLost (readFlowValue fuel .closeMap))
    | _ =>
      let k ← readNode fuel false false
      return some (k, ← orLost (do return .empty (← peekToken).start))

end

/-! ## The document of a text -/

/-- A document: its tree, its anchors, and what is wrong with its text. -/
structure Document where
  root : Node
  anchors : Anchors
  fault : Option Fault

/-- Directives in front of a document: at most one version, and shorthands that differ. -/
def readDirectives (versioned : Bool) : Nat → TokenReader Unit
  | 0 => throw endless
  | fuel + 1 => do
    let t ← peekToken
    match t.token with
    | .version major minor =>
      if versioned then throw ⟨.secondVersion, t.start, none⟩
      if major ≠ 1 ∨ (minor ≠ 1 ∧ minor ≠ 2) then throw ⟨.otherVersion, t.start, none⟩
      passToken
      readDirectives true fuel
    | .tagShorthand handle stem =>
      if ((← get).shorthands.lookup handle).isSome then
        throw ⟨.secondShorthand, t.start, none⟩
      modify fun r => { r with shorthands := (handle, stem) :: r.shorthands }
      passToken
      readDirectives versioned fuel
    | _ => return

/-- What stands behind the dashes that begin a document. -/
def readContent (fuel : Nat) : TokenReader Node := do
  let t ← peekToken
  match t.token with
  | .version .. | .tagShorthand .. | .documentStart | .documentEnd | .streamEnd =>
    return .empty t.start
  | _ => readNode fuel true false

/-- The tree of the first document. -/
def readRoot (fuel : Nat) : TokenReader Node := do
  let t ← peekToken
  match t.token with
  | .streamEnd => return .empty t.start
  | .version .. | .tagShorthand .. | .documentStart =>
    readDirectives false fuel
    let t ← peekToken
    if t.token ≠ .documentStart then throw ⟨.noDocumentStart, t.start, none⟩
    passToken
    readContent fuel
  | _ => readNode fuel true false

/-- What stands behind the first document: only marks of its end. All else counts as another
document, be it malformed or not. -/
def readEnd : TokenReader Unit := do
  discard peekToken
  modify fun r => { r with tokens := r.tokens.dropWhile fun t => t.token == .documentEnd }
  if (← get).tokens.head?.map (·.token) ≠ some .streamEnd then
    throw ⟨.secondDocument, .start, none⟩

def Document.ofText (s : String) : Document :=
  let (tokens, beyond) := tokens s
  let read : StateM Reading Document := do
    let root ← orLost (readRoot (4 * tokens.length + 8))
    discard (attempt readEnd)
    let r ← get
    return ⟨root, r.anchors, r.fault⟩
  (read.run { tokens, beyond := beyond.getD endless }).1

/-- The node that a node stands for: a reference stands for what it refers to. -/
def Document.resolve (d : Document) (n : Node) : Node :=
  match n with
  | .alias m number => (d.anchors.node? number).getD (.empty m)
  | n => n

end StarSurvey.Yaml
