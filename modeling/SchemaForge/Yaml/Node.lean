import SchemaForge.Yaml.Lexer

/-! The nodes of a YAML document, read from its tokens. -/

namespace SchemaForge.Yaml

inductive Node where
  | scalar (text : String) (plain : Bool) (tag : Option String)
  | sequence (items : List Node) (tag : Option String)
  | mapping (entries : List (Node × Node)) (tag : Option String)
  | alias (name : String)
  | anchored (name : String) (node : Node)
  deriving Inhabited, Repr

namespace Node

def fail {α : Type} (cause : String) (ts : List Placed) : Result α :=
  .error ⟨cause, ts.head?.map (·.mark)⟩

def missingContent : String := "did not find expected node content"

def tooDeep : String := "recursion limit exceeded"

def blank : Node := .scalar "" true none

def withAnchor (anchor : Option String) (n : Node) : Node :=
  match anchor with
  | some name => .anchored name n
  | none => n

def properties : List Placed → Option String × Option String × List Placed
  | ⟨_, .anchor a⟩ :: ⟨_, .tag t⟩ :: rest => (some a, some t, rest)
  | ⟨_, .tag t⟩ :: ⟨_, .anchor a⟩ :: rest => (some a, some t, rest)
  | ⟨_, .anchor a⟩ :: rest => (some a, none, rest)
  | ⟨_, .tag t⟩ :: rest => (none, some t, rest)
  | rest => (none, none, rest)

/-- Tokens behind which a block key or value has nothing written for it. -/
def endsBlockPart : List Placed → Bool
  | ⟨_, .key⟩ :: _ | ⟨_, .value⟩ :: _ | ⟨_, .blockEnd⟩ :: _ | [] => true
  | _ => false

def endsBlockItem : List Placed → Bool
  | ⟨_, .blockEntry⟩ :: _ | ⟨_, .blockEnd⟩ :: _ | [] => true
  | _ => false

/-- Tokens behind which an item of a list that is not indented has nothing written for it. -/
def endsFlushItem : List Placed → Bool
  | ⟨_, .blockEntry⟩ :: _ | ⟨_, .key⟩ :: _ | ⟨_, .value⟩ :: _ | ⟨_, .blockEnd⟩ :: _ | [] => true
  | _ => false

def endsFlowKey (closing : Token) : List Placed → Bool
  | ⟨_, .value⟩ :: _ | ⟨_, .flowEntry⟩ :: _ | [] => true
  | t :: _ => t.token == closing

def endsFlowValue (closing : Token) : List Placed → Bool
  | ⟨_, .flowEntry⟩ :: _ | [] => true
  | t :: _ => t.token == closing

mutual

/-- Read a node; `flush` allows a list whose entries stand in the column of the key in front. -/
def read (block flush : Bool) : Nat → List Placed → Result (Node × List Placed)
  | 0, ts => fail tooDeep ts
  | fuel + 1, ts =>
    match ts with
    | ⟨_, .alias name⟩ :: rest => .ok (.alias name, rest)
    | ts =>
      let (anchor, tag, rest) := properties ts
      let give (r : Node × List Placed) : Node × List Placed := (withAnchor anchor r.1, r.2)
      match rest with
      | ⟨_, .scalar text plain⟩ :: rest => .ok (give (.scalar text plain tag, rest))
      | ⟨_, .flowSequenceStart⟩ :: rest => do
        let (items, rest) ← flowItems true fuel rest
        .ok (give (.sequence items tag, rest))
      | ⟨_, .flowMappingStart⟩ :: rest => do
        let (entries, rest) ← flowEntries true fuel rest
        .ok (give (.mapping entries tag, rest))
      | rest =>
        match block, rest with
        | true, ⟨_, .blockSequenceStart⟩ :: rest => do
          let (items, rest) ← blockItems fuel rest
          .ok (give (.sequence items tag, rest))
        | true, ⟨_, .blockMappingStart⟩ :: rest => do
          let (entries, rest) ← blockEntries fuel rest
          .ok (give (.mapping entries tag, rest))
        | _, rest =>
          match flush, rest with
          | true, entry@⟨_, .blockEntry⟩ :: rest => do
            let (items, rest) ← flushItems fuel (entry :: rest)
            .ok (give (.sequence items tag, rest))
          | _, rest =>
            if anchor.isSome || tag.isSome then .ok (give (.scalar "" true tag, rest))
            else fail missingContent rest

def blockItems : Nat → List Placed → Result (List Node × List Placed)
  | 0, ts => fail tooDeep ts
  | fuel + 1, ts =>
    match ts with
    | ⟨_, .blockEnd⟩ :: rest => .ok ([], rest)
    | ⟨_, .blockEntry⟩ :: rest => do
      let (item, rest) ← if endsBlockItem rest then .ok (blank, rest) else read true false fuel rest
      let (items, rest) ← blockItems fuel rest
      .ok (item :: items, rest)
    | ts => fail "did not find expected '-' indicator" ts

def flushItems : Nat → List Placed → Result (List Node × List Placed)
  | 0, ts => fail tooDeep ts
  | fuel + 1, ts =>
    match ts with
    | ⟨_, .blockEntry⟩ :: rest => do
      let (item, rest) ← if endsFlushItem rest then .ok (blank, rest) else read true false fuel rest
      let (items, rest) ← flushItems fuel rest
      .ok (item :: items, rest)
    | rest => .ok ([], rest)

def blockEntries : Nat → List Placed → Result (List (Node × Node) × List Placed)
  | 0, ts => fail tooDeep ts
  | fuel + 1, ts =>
    match ts with
    | ⟨_, .blockEnd⟩ :: rest => .ok ([], rest)
    | ⟨_, .key⟩ :: rest => do
      let (key, rest) ← if endsBlockPart rest then .ok (blank, rest) else read true true fuel rest
      let (value, rest) ← blockValue fuel rest
      let (entries, rest) ← blockEntries fuel rest
      .ok ((key, value) :: entries, rest)
    | ts => fail "did not find expected key" ts

def blockValue : Nat → List Placed → Result (Node × List Placed)
  | 0, ts => fail tooDeep ts
  | fuel + 1, ts =>
    match ts with
    | ⟨_, .value⟩ :: rest => if endsBlockPart rest then .ok (blank, rest) else read true true fuel rest
    | rest => .ok (blank, rest)

/-- Read the items of a list in brackets; `first` tells that no comma is due. -/
def flowItems (first : Bool) : Nat → List Placed → Result (List Node × List Placed)
  | 0, ts => fail tooDeep ts
  | fuel + 1, ts =>
    match ts with
    | ⟨_, .flowSequenceEnd⟩ :: rest => .ok ([], rest)
    | ts => do
      let ts ← if first then .ok ts
        else
          match ts with
          | ⟨_, .flowEntry⟩ :: rest => .ok rest
          | ts => fail "did not find expected ',' or ']'" ts
      match ts with
      | ⟨_, .flowSequenceEnd⟩ :: rest => .ok ([], rest)
      | ⟨_, .key⟩ :: rest =>
        let (key, rest) ← if endsFlowKey .flowSequenceEnd rest then .ok (blank, rest)
          else read false false fuel rest
        let (value, rest) ← flowValue .flowSequenceEnd fuel rest
        let (items, rest) ← flowItems false fuel rest
        .ok (.mapping [(key, value)] none :: items, rest)
      | ts =>
        let (item, rest) ← read false false fuel ts
        let (items, rest) ← flowItems false fuel rest
        .ok (item :: items, rest)

/-- Read the entries of a mapping in braces; `first` tells that no comma is due. -/
def flowEntries (first : Bool) : Nat → List Placed → Result (List (Node × Node) × List Placed)
  | 0, ts => fail tooDeep ts
  | fuel + 1, ts =>
    match ts with
    | ⟨_, .flowMappingEnd⟩ :: rest => .ok ([], rest)
    | ts => do
      let ts ← if first then .ok ts
        else
          match ts with
          | ⟨_, .flowEntry⟩ :: rest => .ok rest
          | ts => fail "did not find expected ',' or '\x7d'" ts
      match ts with
      | ⟨_, .flowMappingEnd⟩ :: rest => .ok ([], rest)
      | ⟨_, .key⟩ :: rest =>
        let (key, rest) ← if endsFlowKey .flowMappingEnd rest then .ok (blank, rest)
          else read false false fuel rest
        let (value, rest) ← flowValue .flowMappingEnd fuel rest
        let (entries, rest) ← flowEntries false fuel rest
        .ok ((key, value) :: entries, rest)
      | ts =>
        let (key, rest) ← read false false fuel ts
        let (entries, rest) ← flowEntries false fuel rest
        .ok ((key, blank) :: entries, rest)

def flowValue (closing : Token) : Nat → List Placed → Result (Node × List Placed)
  | 0, ts => fail tooDeep ts
  | fuel + 1, ts =>
    match ts with
    | ⟨_, .value⟩ :: rest =>
      if endsFlowValue closing rest then .ok (blank, rest) else read false false fuel rest
    | rest => .ok (blank, rest)

end

def isDocumentEnd (t : Placed) : Bool := t.token == .documentEnd

def atEnd {α : Type} (ending : Mark) : Result α → Result α :=
  Except.mapError fun e => { e with mark := e.mark.or (some ending) }

/-- Read the only document of a text. A text without one stands for nothing written. -/
def ofTokens (ts : List Placed) (ending : Mark) : Result Node := do
  let fuel := 4 * ts.length + 8
  let ts := ts.dropWhile isDocumentEnd
  let directives := ts.takeWhile (·.token == .directive)
  let ts := ts.dropWhile (·.token == .directive)
  let explicit := ts.head?.map (·.token) == some .documentStart
  if !directives.isEmpty && !explicit then
    atEnd ending (fail "did not find expected <document start>" ts)
  else
    let ts := if explicit then ts.drop 1 else ts
    let (node, rest) ← match ts with
      | [] | ⟨_, .documentEnd⟩ :: _ | ⟨_, .documentStart⟩ :: _ => .ok (blank, ts)
      | ts => atEnd ending (read true false fuel ts)
    match rest.dropWhile isDocumentEnd with
    | [] => .ok node
    | _ => unplaced "deserializing from YAML containing more than one document is not supported"

end Node

end SchemaForge.Yaml
