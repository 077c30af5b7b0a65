import RuleLint.CommandLine.Basic

namespace RuleLint.CommandLine

/-- Reads a number of 64 bits in decimal, perhaps with a plus sign. -/
def secondsOfText (s : String) : Except String Nat :=
  match s.toList with
  | [] => .error "cannot parse integer from empty string"
  | '+' :: c :: cs => go 0 (c :: cs)
  | cs => go 0 cs
where
  go (n : Nat) : List Char → Except String Nat
    | [] => .ok n
    | c :: cs =>
      if ! c.isDigit then .error "invalid digit found in string"
      else
        let n := 10 * n + (c.toNat - 0x30)
        if UInt64.size ≤ n then .error "number too large to fit in target type" else go n cs

def pathValue (s : Switch) (value : String) : Except Stop Path :=
  if value = "" then .error (.misused (.noValue s)) else .ok ⟨value⟩

def Options.has (o : Options) : Switch → Bool
  | .root => o.root.isSome
  | .config => o.config.isSome
  | .settings => o.settings.isSome
  | .reachability => o.reachability.isSome
  | .timeout => o.timeout.isSome
  | .format => o.format.isSome
  | .quiet => o.quiet
  | .verbose => o.verbose
  | .help | .version => false

def Options.setValue (o : Options) (s : Switch) (value : String) : Except Stop Options :=
  let checked {α : Type} : Except String α → Except Stop α :=
    Except.mapError fun reason => .misused (.badValue s value reason)
  match s with
  | .root => return { o with root := some (← pathValue s value) }
  | .config => return { o with config := some (← pathValue s value) }
  | .settings => return { o with settings := some (← pathValue s value) }
  | .reachability =>
    return { o with reachability := some (← checked (ReachabilityPolicy.ofText value)) }
  | .timeout => return { o with timeout := some (← checked (secondsOfText value)) }
  | .format => return { o with format := some (← checked (OutputFormat.ofText value)) }
  | .quiet | .verbose | .help | .version => .error (.misused (.needlessValue s value))

def Options.setFlag (o : Options) (s : Switch) : Except Stop Options :=
  match s with
  | .quiet => .ok { o with quiet := true }
  | .verbose => .ok { o with verbose := true }
  | .help => .error .help
  | .version => .error .version
  | s => .error (.misused (.noValue s))

/-- Takes up a switch, which may be done once. -/
def Options.set (o : Options) (s : Switch) (value : Option String) : Except Stop Options :=
  if s.takesValue ∧ value.isNone then .error (.misused (.noValue s))
  else if o.has s then .error (.misused (.repeated s))
  else value.elim (o.setFlag s) (o.setValue s)

/-- A switch that has not been taken up yet, and its value if that has come. It is taken up when the
next switch is, or at the end: of two misuses the later one may be found first. -/
structure Pending where
  switch : Switch
  value : Option String := none
deriving DecidableEq, Repr

structure State where
  options : Options := {}
  pending : Option Pending := none
deriving DecidableEq, Repr

namespace State

def settle (s : State) : Except Stop State :=
  match s.pending with
  | none => .ok s
  | some p => return ⟨← s.options.set p.switch p.value, none⟩

def take (s : State) (switch : Switch) (value : Option String := none) : Except Stop State := do
  let s ← s.settle
  return { s with options := ← s.options.set switch value }

def await (s : State) (switch : Switch) : Except Stop State := do
  return { ← s.settle with pending := some { switch } }

def unknown {α : Type} (argument : String) : Except Stop α := .error (.misused (.unknown argument))

def readLong (s : State) (argument : List Char) : Except Stop State :=
  let name := argument.takeWhile (· ≠ '=')
  let value := (argument.drop name.length).tail?.map String.ofList
  match Switch.ofName? name with
  | none => unknown (.ofList ('-' :: '-' :: name))
  | some switch =>
    match switch.takesValue, value with
    | true, some v => s.take switch (some v)
    | true, none => s.await switch
    | false, some v => .error (.misused (.needlessValue switch v))
    | false, none => s.take switch

/-- The letters behind one dash. What follows the letter of a switch with a value is the value. -/
def readShort (s : State) : List Char → Except Stop State
  | [] => .ok s
  | c :: rest =>
    match Switch.ofLetter? c with
    | none => unknown (.ofList ['-', c])
    | some switch =>
      if switch.takesValue then
        match rest with
        | [] => s.await switch
        | '=' :: value => s.take switch (some (.ofList value))
        | value => s.take switch (some (.ofList value))
      else do (← s.take switch).readShort rest

/-- Behind a double dash nothing may follow. -/
def read (s : State) : List String → Except Stop State
  | [] => s.settle
  | argument :: rest =>
    match argument.toList with
    | ['-', '-'] =>
      match rest with
      | [] => s.settle
      | next :: _ => unknown next
    | '-' :: '-' :: long => do (← s.readLong long).read rest
    | '-' :: c :: letters => do (← s.readShort (c :: letters)).read rest
    | _ =>
      match s.pending with
      | some ⟨switch, none⟩ => read { s with pending := some ⟨switch, some argument⟩ } rest
      | _ => unknown argument

end State

/-- Reads the arguments. Where they name no root, `rootVariable` from the environment does. -/
def read (arguments : List String) (rootVariable : Option String := none) :
    Except Stop Options := do
  let o := (← State.read {} arguments).options
  match o.root, rootVariable with
  | none, some value => o.set .root (some value)
  | _, _ => return o

end RuleLint.CommandLine
