import ShellSuite.Yaml.Token

set_option autoImplicit false
set_option relaxedAutoImplicit false

/-!
YAML documents as trees. Aliases are replaced by the nodes they stand for.
-/

namespace ShellSuite.Yaml

inductive Node where
  | scalar (text : String) (style : Style) (tag : Option String)
  | sequence (items : List Node)
  | mapping (members : List (Node × Node))
  deriving Inhabited

def Node.missing : Node := .scalar "" .plain none

/-- The state of the reader: the tokens to come, the anchors seen (without a node while it is open),
and the handles of tags. -/
structure Composer where
  tokens : List Token
  anchors : List (String × Option Node)
  handles : List (String × String)

namespace Composer

def defaultHandles : List (String × String) :=
  [("!", "!"), ("!!", "tag:yaml.org,2002:")]

def next (c : Composer) : Composer :=
  { c with tokens := c.tokens.tail }

def resolveTag (c : Composer) (handle suffix : String) : Option String :=
  if handle = "" then some suffix
  else (c.handles.find? fun h => h.1 = handle).map fun h => h.2 ++ suffix

def properties (c : Composer) : Option (Option String × Option String × Composer) :=
  match c.tokens with
  | .anchor a :: .tag h s :: _ => do
    let t ← c.resolveTag h s
    return (some a, some t, c.next.next)
  | .tag h s :: .anchor a :: _ => do
    let t ← c.resolveTag h s
    return (some a, some t, c.next.next)
  | .anchor a :: _ => some (some a, none, c.next)
  | .tag h s :: _ => do
    let t ← c.resolveTag h s
    return (none, some t, c.next)
  | _ => some (none, none, c)

def bind (c : Composer) (anchor : Option String) (n : Option Node) : Composer :=
  match anchor with
  | some a => { c with anchors := (a, n) :: c.anchors }
  | none => c

end Composer

def entryEnds (stop : Token → Bool) : List Token → Bool
  | [] => true
  | t :: _ => stop t

def endsBlockPart : Token → Bool
  | .key | .value | .blockEnd => true
  | _ => false

def endsFlowPart (close : Token) : Token → Bool
  | .flowEntry => true
  | t => t = close

mutual

/-- Reads a node; a block may start here if `block`, and a sequence that is not indented more than
its key if `indentless`. -/
def readNode (block indentless : Bool) : Nat → Composer → Option (Node × Composer)
  | 0, _ => none
  | n + 1, c =>
    match c.tokens with
    | .alias name :: _ =>
      match c.anchors.find? fun a => a.1 = name with
      | some (_, some node) => some (node, c.next)
      | _ => none
    | _ => do
      let (anchor, tag, c) ← c.properties
      let c := c.bind anchor none
      let (node, c) ←
        match c.tokens with
        | .scalar text style :: _ => some (.scalar text style tag, c.next)
        | .flowSequenceStart :: _ => do
          let (items, c) ← readFlowItems true n c.next
          return (.sequence items, c)
        | .flowMappingStart :: _ => do
          let (members, c) ← readFlowMembers true n c.next
          return (.mapping members, c)
        | .blockSequenceStart :: _ =>
          if block then do
            let (items, c) ← readBlockItems n c.next
            return (.sequence items, c)
          else none
        | .blockMappingStart :: _ =>
          if block then do
            let (members, c) ← readBlockMembers n c.next
            return (.mapping members, c)
          else none
        | .blockEntry :: _ =>
          if indentless then do
            let (items, c) ← readIndentlessItems n c
            return (.sequence items, c)
          else if anchor.isSome || tag.isSome then some (.scalar "" .plain tag, c)
          else none
        | _ => if anchor.isSome || tag.isSome then some (.scalar "" .plain tag, c) else none
      return (node, c.bind anchor (some node))

def readBlockItems : Nat → Composer → Option (List Node × Composer)
  | 0, _ => none
  | n + 1, c =>
    match c.tokens with
    | .blockEntry :: rest =>
      if entryEnds (fun t => t = .blockEntry || t = .blockEnd) rest then do
        let (items, c) ← readBlockItems n c.next
        return (.missing :: items, c)
      else do
        let (item, c) ← readNode true false n c.next
        let (items, c) ← readBlockItems n c
        return (item :: items, c)
    | .blockEnd :: _ => some ([], c.next)
    | _ => none

def readIndentlessItems : Nat → Composer → Option (List Node × Composer)
  | 0, _ => none
  | n + 1, c =>
    match c.tokens with
    | .blockEntry :: rest =>
      if entryEnds (fun t => t = .blockEntry || endsBlockPart t) rest then do
        let (items, c) ← readIndentlessItems n c.next
        return (.missing :: items, c)
      else do
        let (item, c) ← readNode true false n c.next
        let (items, c) ← readIndentlessItems n c
        return (item :: items, c)
    | _ => some ([], c)

def readBlockMembers : Nat → Composer → Option (List (Node × Node) × Composer)
  | 0, _ => none
  | n + 1, c =>
    match c.tokens with
    | .key :: rest => do
      let (key, c) ←
        if entryEnds endsBlockPart rest then some (.missing, c.next)
        else readNode true true n c.next
      let (value, c) ←
        match c.tokens with
        | .value :: rest =>
          if entryEnds endsBlockPart rest then some (.missing, c.next)
          else readNode true true n c.next
        | _ => some (.missing, c)
      let (members, c) ← readBlockMembers n c
      return ((key, value) :: members, c)
    | .blockEnd :: _ => some ([], c.next)
    | _ => none

/-- Reads the items between square brackets; a key there is a mapping of one member. -/
def readFlowItems (first : Bool) : Nat → Composer → Option (List Node × Composer)
  | 0, _ => none
  | n + 1, c =>
    match c.tokens with
    | .flowSequenceEnd :: _ => some ([], c.next)
    | t :: _ =>
      let c? : Option Composer :=
        if first then some c else if t = .flowEntry then some c.next else none
      match c? with
      | none => none
      | some c =>
        match c.tokens with
        | .flowSequenceEnd :: _ => some ([], c.next)
        | .key :: rest => do
          let ends := endsFlowPart .flowSequenceEnd
          let (key, c) ←
            if entryEnds (fun t => t = .value || ends t) rest then some (.missing, c.next)
            else readNode false false n c.next
          let (value, c) ←
            match c.tokens with
            | .value :: rest =>
              if entryEnds ends rest then some (.missing, c.next) else readNode false false n c.next
            | _ => some (.missing, c)
          let (items, c) ← readFlowItems false n c
          return (.mapping [(key, value)] :: items, c)
        | _ => do
          let (item, c) ← readNode false false n c
          let (items, c) ← readFlowItems false n c
          return (item :: items, c)
    | [] => none

def readFlowMembers (first : Bool) : Nat → Composer → Option (List (Node × Node) × Composer)
  | 0, _ => none
  | n + 1, c =>
    match c.tokens with
    | .flowMappingEnd :: _ => some ([], c.next)
    | t :: _ =>
      let c? : Option Composer :=
        if first then some c else if t = .flowEntry then some c.next else none
      match c? with
      | none => none
      | some c =>
        let ends := endsFlowPart .flowMappingEnd
        match c.tokens with
        | .flowMappingEnd :: _ => some ([], c.next)
        | .key :: rest => do
          let (key, c) ←
            if entryEnds (fun t => t = .value || ends t) rest then some (.missing, c.next)
            else readNode false false n c.next
          let (value, c) ←
            match c.tokens with
            | .value :: rest =>
              if entryEnds ends rest then some (.missing, c.next) else readNode false false n c.next
            | _ => some (.missing, c)
          let (members, c) ← readFlowMembers false n c
          return ((key, value) :: members, c)
        | _ => do
          let (key, c) ← readNode false false n c
          let (members, c) ← readFlowMembers false n c
          return ((key, .missing) :: members, c)
    | [] => none

end

/-- Reads the directives in front of a document: at most one version, and each handle once. -/
def readDirectives (version : Bool) (handles : List (String × String)) :
    List Token → Option (List (String × String) × List Token)
  | .version :: ts => if version then none else readDirectives true handles ts
  | .tagHandle h e :: ts =>
    if handles.any fun x => x.1 = h then none else readDirectives version ((h, e) :: handles) ts
  | ts => some (handles, ts)

inductive Stream where
  | empty
  | single (document : Node)

/-- The one document of a text; a text with several documents is refused. -/
def parse (text : String) : Option Stream := do
  let ts ← tokens text
  match ts with
  | [] => return .empty
  | .version :: _ | .tagHandle _ _ :: _ | .documentStart :: _ => do
    let (handles, ts) ← readDirectives false [] ts
    match ts with
    | .documentStart :: ts => finish ts (isEmptyDocument ts) (handles ++ Composer.defaultHandles)
    | _ => none
  | ts => finish ts false Composer.defaultHandles
where
  /-- Whether a document that was announced has nothing in it. -/
  isEmptyDocument : List Token → Bool
    | [] | .documentEnd :: _ | .documentStart :: _ | .version :: _ | .tagHandle _ _ :: _ => true
    | _ => false
  /-- The one document, behind which only marks of its end may stand. -/
  finish (ts : List Token) (isEmpty : Bool) (handles : List (String × String)) : Option Stream := do
    let composer : Composer := ⟨ts, [], handles⟩
    let (node, c) ←
      if isEmpty then some (.missing, composer)
      else readNode true false (4 * ts.length + 4) composer
    if c.tokens.all (· = .documentEnd) then return .single node else none

end ShellSuite.Yaml
