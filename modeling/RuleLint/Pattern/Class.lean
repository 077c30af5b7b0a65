import RuleLint.Pattern.Escape

namespace RuleLint.Pattern

/-- Items read so far, the last first, and the span they cover. -/
structure UnionDraft where
  span : Span
  items : List ClassSet := []

def UnionDraft.push (u : UnionDraft) (item : ClassSet) : UnionDraft :=
  ⟨⟨if u.items = [] then item.span.start else u.span.start, item.span.stop⟩, item :: u.items⟩

def UnionDraft.done (u : UnionDraft) : ClassSet :=
  match u.items with
  | [] => .empty u.span
  | [item] => item
  | items => .union u.span items.reverse

def applyOp (pending : Option (ClassOp × ClassSet)) (right : ClassSet) : ClassSet :=
  match pending with
  | none => right
  | some (op, left) => .binary ⟨left.span.start, right.span.stop⟩ op left right

def posixWords : List (String × PosixKind) :=
  [("alnum", .alnum), ("alpha", .alpha), ("ascii", .ascii), ("blank", .blank), ("cntrl", .cntrl),
    ("digit", .digit), ("graph", .graph), ("lower", .lower), ("print", .print), ("punct", .punct),
    ("space", .space), ("upper", .upper), ("word", .word), ("xdigit", .xdigit)]

def readPosix? : Reading (Option ClassSet) := do
  let r ← get
  match Text.rest? ['[', ':'] r.rest with
  | none => return none
  | some s =>
    let (negated, s) := match s with
      | '^' :: s => (true, s)
      | s => (false, s)
    match Text.rest? [':', ']'] (s.dropWhile (· ≠ ':')) with
    | none => return none
    | some after =>
      match posixWords.lookup (.ofList (s.takeWhile (· ≠ ':'))) with
      | none => return none
      | some kind =>
        let length := r.rest.length - after.length
        let pos := (r.rest.take length).foldl Position.next r.pos
        set { r with rest := after, pos }
        return some (.posix ⟨r.pos, pos⟩ kind negated)

def readClassPrimitive : Reading Primitive := do
  let r ← get
  match r.rest with
  | '\\' :: _ => readEscape
  | c :: _ =>
    set r.bump
    return .literal ⟨r.charSpan, c, false⟩
  | [] => fail .classUnclosed r.point

def Primitive.classItem : Primitive → Reading ClassSet
  | .literal l => return .literal l
  | .escaped e => return .escaped e
  | p => fail .classEscape p.span

def Primitive.boundary : Primitive → Reading Literal
  | .literal l => return l
  | p => fail .classBoundary p.span

/-- Reads an item or a range; `opened` is the span of the class's opening. A minus before the
closing bracket or before another minus makes no range. -/
def readClassRange (opened : Span) : Reading ClassSet := do
  let first ← readClassPrimitive
  modify Reader.skipSpace
  let r ← get
  if r.atEnd then fail .classUnclosed opened
  if ! r.sees '-' || r.peekSolid? = some ']' || r.peekSolid? = some '-' then first.classItem
  else
    modify Reader.bumpSpace
    if (← get).atEnd then fail .classUnclosed opened
    let last ← readClassPrimitive
    let span : Span := ⟨first.span.start, last.span.stop⟩
    let low ← first.boundary
    let high ← last.boundary
    if high.char < low.char then fail .classRange span
    return .range span low high

def readMinuses (start : Position) (draft : UnionDraft) : (count : Nat) → Reading UnionDraft
  | 0 => return draft
  | count + 1 => do
    let r ← get
    if r.sees '-' then
      modify Reader.bumpSpace
      if (← get).atEnd then fail .classUnclosed ⟨start, start⟩
      readMinuses start (draft.push (.literal ⟨r.charSpan, '-', false⟩)) count
    else return draft

/-- Reads the opening of a class at its bracket: a negation, minus signs, or a closing bracket that
stands for itself because it comes first. -/
def readClassOpening : Reading (Span × Bool × UnionDraft) := do
  let start := (← get).pos
  modify Reader.bumpSpace
  if (← get).atEnd then fail .classUnclosed (← since start)
  let negated := (← get).sees '^'
  if negated then
    modify Reader.bumpSpace
    if (← get).atEnd then fail .classUnclosed (← since start)
  let r ← get
  let draft ← readMinuses start ⟨r.point, []⟩ r.rest.length
  let r ← get
  if draft.items = [] && r.sees ']' then
    modify Reader.bumpSpace
    if (← get).atEnd then fail .classUnclosed (← since start)
    return (← since start, negated, draft.push (.literal ⟨r.charSpan, ']', false⟩))
  else return (← since start, negated, draft)

def readOp? : Reading (Option ClassOp) := do
  let r ← get
  match r.rest with
  | '&' :: '&' :: _ => set r.bump.bump; return some .intersection
  | '-' :: '-' :: _ => set r.bump.bump; return some .difference
  | '~' :: '~' :: _ => set r.bump.bump; return some .symmetricDifference
  | _ => return none

mutual

def readClass : (fuel : Nat) → Reading (Span × Bool × ClassSet)
  | 0 => do fail .classUnclosed (← get).point
  | fuel + 1 => do
    let (opened, negated, draft) ← readClassOpening
    let set ← readClassItems opened none draft fuel
    return (← since opened.start, negated, set)

def readClassItems (opened : Span) (pending : Option (ClassOp × ClassSet)) (draft : UnionDraft) :
    (fuel : Nat) → Reading ClassSet
  | 0 => fail .classUnclosed opened
  | fuel + 1 => do
    modify Reader.skipSpace
    let r ← get
    match r.rest with
    | [] => fail .classUnclosed opened
    | '[' :: _ =>
      match ← readPosix? with
      | some item => readClassItems opened pending (draft.push item) fuel
      | none =>
        let (span, negated, set) ← readClass fuel
        readClassItems opened pending (draft.push (.bracketed span negated set)) fuel
    | ']' :: _ =>
      set r.bump
      return applyOp pending draft.done
    | _ =>
      match ← readOp? with
      | some op =>
        readClassItems opened (some (op, applyOp pending draft.done)) ⟨(← get).point, []⟩ fuel
      | none => readClassItems opened pending (draft.push (← readClassRange opened)) fuel

end

end RuleLint.Pattern
