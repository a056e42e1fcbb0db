import ActivityFlow.Yaml.Serial
import ActivityFlow.Yaml.Token

/-!
# Putting tokens together

The tokens of a text are read as one document. Missing keys, values and items are read as
empty scalars.
-/
namespace ActivityFlow.Yaml

/-- The state between two nodes. -/
structure Assembly where
  tokens : List Token
  /-- The number of each anchor name in use. -/
  anchors : List (String × Nat)
  /-- What each handle abbreviates. -/
  handles : List (String × String)

/-- A part of the reading, which may fail. -/
abbrev Assembling := StateT Assembly Option

namespace Assembly

def peek? : Assembling (Option Token) := do return (← get).tokens.head?

/-- Passes the next token. -/
def pass : Assembling Unit := modify fun s => { s with tokens := s.tokens.drop 1 }

/-- Whether the next token is one of the given ones. -/
def isNext (tokens : List Token) : Assembling Bool := do
  match ← peek? with
  | none => return false
  | some token => return tokens.contains token

/-- Passes the next token if it is the given one, and says so. -/
def accept (token : Token) : Assembling Bool := do
  if ← isNext [token] then
    pass
    return true
  else return false

def expect (token : Token) : Assembling Unit := do
  if !(← accept token) then failure

/-! ## Properties -/

/-- Gives a node with the given anchor name its number: the number of names in use before. -/
def number : Option String → Assembling (Option Nat)
  | none => return none
  | some name => do
    let s ← get
    let n := s.anchors.length
    set { s with anchors := (name, n) :: s.anchors.filter fun e => e.1 != name }
    return some n

/-- The number that an alias name means at this place. -/
def numberOf (name : String) : Assembling Nat := do
  match (← get).anchors.find? fun e => e.1 == name with
  | some e => return e.2
  | none => failure

def fullTag (handle rest : String) : Assembling String := do
  if handle.isEmpty then return rest
  else
    match (← get).handles.find? fun e => e.1 == handle with
    | some e => return e.2 ++ rest
    | none => failure

def anchor? : Assembling (Option String) := do
  match ← peek? with
  | some (.anchor name) => do
    pass
    return some name
  | _ => return none

def tag? : Assembling (Option String) := do
  match ← peek? with
  | some (.tag handle rest) => do
    pass
    return some (← fullTag handle rest)
  | _ => return none

/-- Reads an anchor and a tag in either order. -/
def properties : Assembling (Option String × Option String) := do
  match ← anchor? with
  | some name => return (some name, ← tag?)
  | none => do
    let tag ← tag?
    if tag.isSome then return (← anchor?, tag) else return (none, none)

/-! ## Nodes -/

/-- The tag of a written scalar: a single mark asks for no type. -/
def scalarTag (tag : Option String) : Option String := tag.filter (· != "!")

mutual

/-- Reads a node. Blocks are admitted where `block` holds, and a list without indentation of
its own where `indentless` holds. -/
def node (block indentless : Bool) : Nat → Assembling Serial
  | 0 => failure
  | fuel + 1 => do
    match ← peek? with
    | some (.alias name) => do
      pass
      return .alias (← numberOf name)
    | _ =>
      let (name, tag) ← properties
      match ← peek? with
      | some (.scalar text style) =>
        pass
        return .scalar (← number name) ⟨text, style, scalarTag tag⟩
      | some .flowSequenceStart =>
        pass
        let anchor ← number name
        return .sequence anchor tag (← flowItems true fuel)
      | some .flowMappingStart =>
        pass
        let anchor ← number name
        return .mapping anchor tag (← flowEntries true fuel)
      | token =>
        if indentless && token == some .blockEntry then
          let anchor ← number name
          return .sequence anchor tag (← indentlessItems fuel)
        else if block && token == some .blockSequenceStart then
          pass
          let anchor ← number name
          return .sequence anchor tag (← blockItems fuel)
        else if block && token == some .blockMappingStart then
          pass
          let anchor ← number name
          return .mapping anchor tag (← blockEntries fuel)
        else if name.isSome || tag.isSome then
          return .scalar (← number name) ⟨"", .plain, tag⟩
        else failure

def nodeUnless (tokens : List Token) (block indentless : Bool) : Nat → Assembling Serial
  | 0 => failure
  | fuel + 1 => do
    if ← isNext tokens then return .empty else node block indentless fuel

def blockItems : Nat → Assembling (List Serial)
  | 0 => failure
  | fuel + 1 => do
    if ← accept .blockEntry then
      let item ← nodeUnless [.blockEntry, .blockEnd] true false fuel
      return item :: (← blockItems fuel)
    else
      expect .blockEnd
      return []

/-- Reads the items of a sequence that ends with the mapping entry that holds it. -/
def indentlessItems : Nat → Assembling (List Serial)
  | 0 => failure
  | fuel + 1 => do
    if ← accept .blockEntry then
      let item ← nodeUnless [.blockEntry, .key, .value, .blockEnd] true false fuel
      return item :: (← indentlessItems fuel)
    else return []

def blockEntries : Nat → Assembling (List (Serial × Serial))
  | 0 => failure
  | fuel + 1 => do
    if ← accept .key then
      let key ← nodeUnless [.key, .value, .blockEnd] true true fuel
      let value ←
        if ← accept .value then nodeUnless [.key, .value, .blockEnd] true true fuel
        else pure .empty
      return (key, value) :: (← blockEntries fuel)
    else
      expect .blockEnd
      return []

/-- Reads an entry of a sequence in brackets that is a mapping of one key. -/
def flowPair : Nat → Assembling Serial
  | 0 => failure
  | fuel + 1 => do
    let key ←
      if ← isNext [.value, .flowEntry, .flowSequenceEnd] then
        pass
        pure .empty
      else node false false fuel
    let value ←
      if ← accept .value then nodeUnless [.flowEntry, .flowSequenceEnd] false false fuel
      else pure .empty
    return .mapping none none [(key, value)]

/-- Reads the items of a sequence in brackets to its end. -/
def flowItems (first : Bool) : Nat → Assembling (List Serial)
  | 0 => failure
  | fuel + 1 => do
    if ← accept .flowSequenceEnd then return []
    else
      if !first then expect .flowEntry
      if ← accept .key then
        let item ← flowPair fuel
        return item :: (← flowItems false fuel)
      else if ← accept .flowSequenceEnd then return []
      else
        let item ← node false false fuel
        return item :: (← flowItems false fuel)

/-- Reads the entries of a mapping in brackets to its end. -/
def flowEntries (first : Bool) : Nat → Assembling (List (Serial × Serial))
  | 0 => failure
  | fuel + 1 => do
    if ← accept .flowMappingEnd then return []
    else
      if !first then expect .flowEntry
      if ← accept .key then
        let key ← nodeUnless [.value, .flowEntry, .flowMappingEnd] false false fuel
        let value ←
          if ← accept .value then nodeUnless [.flowEntry, .flowMappingEnd] false false fuel
          else pure .empty
        return (key, value) :: (← flowEntries false fuel)
      else if ← accept .flowMappingEnd then return []
      else
        let key ← node false false fuel
        return (key, .empty) :: (← flowEntries false fuel)

end

/-! ## Documents -/

/-- The handles that every document knows. -/
def standardHandles : List (String × String) := [("!", "!"), ("!!", "tag:yaml.org,2002:")]

/-- Reads directives: the version at most once, and each handle at most once. Tells whether
there were any. -/
def directives (versionSeen : Bool) (declared : List (String × String)) :
    Nat → Assembling (List (String × String))
  | 0 => failure
  | fuel + 1 => do
    match ← peek? with
    | some (.version major minor) =>
      if versionSeen || major != 1 || (minor != 1 && minor != 2) then failure
      else
        pass
        directives true declared fuel
    | some (.handle name expansion) =>
      if declared.any (·.1 == name) then failure
      else
        pass
        directives versionSeen (declared ++ [(name, expansion)]) fuel
    | _ => return declared

/-- Whether the next token belongs to the frame of a document and not to its content. -/
def atFrame : Assembling Bool := do
  match ← peek? with
  | none => return true
  | some (.version _ _) => return true
  | some (.handle _ _) => return true
  | some .documentStart => return true
  | some .documentEnd => return true
  | some _ => return false

/-- Passes the marks for the end of a document. -/
def passEnds : Nat → Assembling Unit
  | 0 => return ()
  | fuel + 1 => do
    if ← accept .documentEnd then passEnds fuel

def content (fuel : Nat) : Assembling Serial := do
  match ← peek? with
  | none => return .empty
  | some .documentEnd => failure
  | _ =>
    if ← atFrame then
      let declared ← directives false [] fuel
      modify fun s => { s with handles := declared ++ standardHandles }
      expect .documentStart
      if ← atFrame then return .empty else node true false fuel
    else node true false fuel

def document (fuel : Nat) : Assembling Serial := do
  let root ← content fuel
  passEnds fuel
  if (← peek?).isSome then failure
  return root

end Assembly

namespace Serial

/-- The document that tokens spell. -/
def ofTokens? (tokens : List Token) : Option Serial :=
  (·.1) <$> (Assembly.document (4 * tokens.length + 4)).run
    ⟨tokens, [], Assembly.standardHandles⟩

end Serial

end ActivityFlow.Yaml
