import RuleLint.Yaml.Node
import RuleLint.Yaml.Scanner

namespace RuleLint.Yaml

structure Composer where
  tokens : List Token
  /-- Why there are no more tokens. -/
  fault : Option Fault
  anchors : List (String × Nat) := []
  /-- The nodes with anchors, the last that started being first, and by when they started. -/
  anchored : List (Nat × Nat × Node) := []
  started : Nat := 0
  handles : List (String × String) := []

abbrev Composing := StateM Composer

namespace Composing

def peek? : Composing (Option Token) := return (← get).tokens.head?

def skip : Composing Unit := modify fun s => { s with tokens := s.tokens.tail }

def stop (fault : Fault) : Composing Node := do
  modify fun s => { s with tokens := [], fault := some fault }
  return .cut

def fail (problem : Problem) (mark : Mark) (activity : Option (Activity × Mark) := none) :
    Composing Node :=
  stop (.malformed problem mark activity)

def unwritten (mark : Mark) : Node := .scalar mark none ⟨.plain, ""⟩

structure Properties where
  start : Mark
  anchor : Option String := none
  tag : Option (String × String × Mark) := none

/-- Reads an anchor and a tag, in either order. -/
def readProperties (first : Token) : Composing Properties := do
  match first.kind with
  | .anchor name =>
    skip
    match ← peek? with
    | some ⟨.tag handle suffix, mark⟩ =>
      skip
      return ⟨first.mark, some name, some (handle, suffix, mark)⟩
    | _ => return ⟨first.mark, some name, none⟩
  | .tag handle suffix =>
    skip
    match ← peek? with
    | some ⟨.anchor name, _⟩ =>
      skip
      return ⟨first.mark, some name, some (handle, suffix, first.mark)⟩
    | _ => return ⟨first.mark, none, some (handle, suffix, first.mark)⟩
  | _ => return ⟨first.mark, none, none⟩

/-- The whole of a tag, if its handle is known. It ends at a null character. -/
def wholeTag? (handles : List (String × String)) (handle suffix : String) : Option String :=
  (if handle = "" then some suffix else (handles.lookup handle).map (· ++ suffix)).map fun s =>
    .ofList (s.toList.takeWhile (· ≠ '\x00'))

/-- Reads a node and keeps it for its anchor. The number of an anchor is the number of different
names that there were before it. -/
def anchored (anchor : Option String) (read : Composing Node) : Composing Node := do
  match anchor with
  | none => read
  | some name =>
    let s ← get
    let number := s.anchors.length
    set { s with anchors := (name, number) :: s.anchors.filter (·.1 ≠ name), started :=
      s.started + 1 }
    let n ← read
    modify fun later => { later with anchored := ⟨number, s.started, n⟩ :: later.anchored }
    return n

/-- Reads a node, which is unwritten if one of `ends` follows. Such a scalar is at `mark`, or where
that token is. -/
def readUnless (ends : List TokenKind) (mark : Option Mark) (read : Composing Node) :
    Composing Node := do
  match ← peek? with
  | none => return .cut
  | some t => if t.kind ∈ ends then return unwritten (mark.getD t.mark) else read

def readValue (ends : List TokenKind) (besideColon : Bool) (read : Composing Node) :
    Composing Node := do
  match ← peek? with
  | none => return .cut
  | some t =>
    if t.kind = .value then
      skip
      readUnless ends (if besideColon then some t.mark.right else none) read
    else return unwritten t.mark

def blockEnds : List TokenKind := [.key, .value, .blockEnd]

mutual

/-- Reads a node. Blocks are read if `block` holds, and so is, if `indentless` holds, a block
sequence that is not indented. -/
def readNode (block indentless : Bool) : (fuel : Nat) → Composing Node
  | 0 => return .cut
  | fuel + 1 => do
    let some first ← peek? | return .cut
    if let .alias name := first.kind then
      match (← get).anchors.lookup name with
      | some number =>
        skip
        return .alias first.mark number
      | none => stop (.unknownAnchor first.mark)
    else
      let ⟨start, anchor, named⟩ ← readProperties first
      let some t ← peek? | return .cut
      let handles := (← get).handles
      match named, named.bind fun (handle, suffix, _) => wholeTag? handles handle suffix with
      | some (_, _, mark), none => fail .undefinedHandle mark (some (.node, start))
      | _, tag =>
        match t.kind with
        | .scalar content =>
          anchored anchor do
            skip
            return .scalar start tag content
        | .flowSequenceStart =>
          anchored anchor do
            skip
            return .sequence start tag (← readFlowItems t.mark true fuel)
        | .flowMappingStart =>
          anchored anchor do
            skip
            return .mapping start tag (← readFlowEntries t.mark true fuel)
        | kind =>
          if indentless ∧ kind = .blockEntry then
            anchored anchor do return .sequence start tag (← readDashes fuel)
          else if block ∧ kind = .blockSequenceStart then
            anchored anchor do
              skip
              return .sequence start tag (← readBlockItems t.mark fuel)
          else if block ∧ kind = .blockMappingStart then
            anchored anchor do
              skip
              return .mapping start tag (← readBlockEntries t.mark fuel)
          else if anchor.isSome ∨ named.isSome then
            anchored anchor do return .scalar start tag ⟨.plain, ""⟩
          else fail .noContent t.mark (some (if block then .blockNode else .flowNode, start))

def readBlockItems (start : Mark) : (fuel : Nat) → Composing (List Node)
  | 0 => return [.cut]
  | fuel + 1 => do
    let some t ← peek? | return [.cut]
    match t.kind with
    | .blockEntry =>
      skip
      let item ← readUnless [.blockEntry, .blockEnd] (some t.mark.right) (readNode true false fuel)
      return item :: (← readBlockItems start fuel)
    | .blockEnd =>
      skip
      return []
    | _ => return [← fail .noDash t.mark (some (.blockSequence, start))]

def readDashes : (fuel : Nat) → Composing (List Node)
  | 0 => return [.cut]
  | fuel + 1 => do
    let some t ← peek? | return [.cut]
    match t.kind with
    | .blockEntry =>
      skip
      let item ← readUnless (.blockEntry :: blockEnds) (some t.mark.right)
        (readNode true false fuel)
      return item :: (← readDashes fuel)
    | _ => return []

def readBlockEntries (start : Mark) : (fuel : Nat) → Composing (List (Node × Node))
  | 0 => return [(.cut, .cut)]
  | fuel + 1 => do
    let some t ← peek? | return [(.cut, .cut)]
    match t.kind with
    | .key =>
      skip
      let key ← readUnless blockEnds (some t.mark.right) (readNode true true fuel)
      let value ← readValue blockEnds true (readNode true true fuel)
      return (key, value) :: (← readBlockEntries start fuel)
    | .blockEnd =>
      skip
      return []
    | _ => return [(← fail .noKey t.mark (some (.blockMapping, start)), .cut)]

/-- Reads the items of a sequence in brackets up to the closing one. An item may be a single entry
of a mapping. -/
def readFlowItems (start : Mark) (first : Bool) : (fuel : Nat) → Composing (List Node)
  | 0 => return [.cut]
  | fuel + 1 => do
    let some t ← peek? | return [.cut]
    if t.kind = .flowSequenceEnd then
      skip
      return []
    if ¬ first ∧ t.kind ≠ .flowEntry then
      return [← fail .noCommaOrBracket t.mark (some (.flowSequence, start))]
    if ¬ first then skip
    let some t ← peek? | return [.cut]
    match t.kind with
    | .flowSequenceEnd =>
      skip
      return []
    | .key =>
      skip
      let entry ← readPair fuel
      let ended := if (← peek?).isSome then [] else [(Node.cut, Node.cut)]
      return .mapping t.mark none (entry :: ended) :: (← readFlowItems start false fuel)
    | _ =>
      let item ← readNode false false fuel
      return item :: (← readFlowItems start false fuel)

/-- Reads the key and the value of an entry that is an item of a sequence. The sign behind a missing
key is passed over. -/
def readPair : (fuel : Nat) → Composing (Node × Node)
  | 0 => return (.cut, .cut)
  | fuel + 1 => do
    let some t ← peek? | return (.cut, .cut)
    let ends := [.flowEntry, .flowSequenceEnd]
    let key ←
      if t.kind ∈ TokenKind.value :: ends then
        skip
        pure (unwritten t.mark.right)
      else readNode false false fuel
    return (key, ← readValue ends false (readNode false false fuel))

def readFlowEntries (start : Mark) (first : Bool) : (fuel : Nat) → Composing (List (Node × Node))
  | 0 => return [(.cut, .cut)]
  | fuel + 1 => do
    let some t ← peek? | return [(.cut, .cut)]
    if t.kind = .flowMappingEnd then
      skip
      return []
    if ¬ first ∧ t.kind ≠ .flowEntry then
      return [(← fail .noCommaOrBrace t.mark (some (.flowMapping, start)), .cut)]
    if ¬ first then skip
    let some t ← peek? | return [(.cut, .cut)]
    let ends := [.flowEntry, .flowMappingEnd]
    match t.kind with
    | .flowMappingEnd =>
      skip
      return []
    | .key =>
      skip
      let key ← readUnless (.value :: ends) none (readNode false false fuel)
      let value ← readValue ends false (readNode false false fuel)
      return (key, value) :: (← readFlowEntries start false fuel)
    | _ =>
      let key ← readNode false false fuel
      let value := (← peek?).elim .cut fun next => unwritten next.mark
      return (key, value) :: (← readFlowEntries start false fuel)

end

def usualHandles : List (String × String) := [("!", "!"), ("!!", "tag:yaml.org,2002:")]

/-- Reads directives. The answer tells whether they are in order. -/
def readDirectives (versioned : Bool) : (fuel : Nat) → Composing Bool
  | 0 => return false
  | fuel + 1 => do
    let some t ← peek? | return false
    match t.kind with
    | .version major minor =>
      if versioned then discard (fail .repeatedVersion t.mark)
      else if major ≠ 1 ∨ minor ≠ 1 ∧ minor ≠ 2 then discard (fail .badVersion t.mark)
      else skip
      readDirectives true fuel
    | .tagHandle handle stem =>
      if ((← get).handles.lookup handle).isSome then discard (fail .repeatedHandle t.mark)
      else
        modify fun s => { s with handles := s.handles ++ [(handle, stem)] }
        skip
      readDirectives versioned fuel
    | _ =>
      modify fun s => { s with handles := s.handles ++ usualHandles }
      return true

def isDirective : TokenKind → Bool
  | .version .. | .tagHandle .. => true
  | _ => false

/-- Reads the first document. Without a sign at its start a document has no directives. -/
def readRoot (fuel : Nat) : Composing (Option Node) := do
  let some t ← peek? | return some .cut
  if t.kind = .streamEnd then return none
  if t.kind = .documentStart ∨ isDirective t.kind then
    if ! (← readDirectives false fuel) then return some .cut
    let some t ← peek? | return some .cut
    if t.kind ≠ .documentStart then return some (← fail .noDocumentStart t.mark)
    skip
    let some t ← peek? | return some .cut
    if t.kind ∈ [.documentStart, .documentEnd, .streamEnd] ∨ isDirective t.kind then
      return some (unwritten t.mark)
    readNode true false fuel
  else
    modify fun s => { s with handles := usualHandles }
    readNode true false fuel

def skipEnds : (fuel : Nat) → Composing Unit
  | 0 => return
  | fuel + 1 => do
    if (← peek?).any (·.kind = .documentEnd) then
      skip
      skipEnds fuel

/-- Reads the first document and looks for another one. A fault behind the signs at the end of the
first belongs to that other one. -/
def readDocument (fuel : Nat) : Composing Document := do
  let root ← readRoot fuel
  let behind ← get
  let fault := if behind.tokens = [] then behind.fault else none
  skipEnds fuel
  let isFollowed := (← peek?).all (·.kind ≠ .streamEnd)
  let anchored := (← get).anchored.mergeSort fun a b => b.2.1 ≤ a.2.1
  return ⟨root, anchored.map fun (number, _, n) => (number, n), fault, isFollowed⟩

end Composing

def Document.ofText (text : String) : Document :=
  let (tokens, fault) := tokens text
  let fuel := 4 * tokens.length + 4
  ((Composing.readDocument fuel).run { tokens, fault }).1

end RuleLint.Yaml
