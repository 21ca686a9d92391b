import TeacherDirectory.Yaml.Token

/-!
# YAML trees

The tokens of a text are read into a tree. Content may be left out wherever the next token shows that
none comes; it is then an empty plain scalar. An anchor gets a number when it is met and a reference is
resolved to the number that its name has at that place, so a name that is declared again only concerns
what follows. A text holds one document.
-/

namespace TeacherDirectory.Yaml

set_option autoImplicit false

inductive Node
  | scalar (text : String) (style : ScalarStyle) (tag : Option String)
  | sequence (items : List Node)
  | mapping (members : List (Node × Node))
  | anchored (number : Nat) (content : Node)
  | reference (number : Nat)

namespace Node

def blank : Node := .scalar "" .plain none

abbrev Handles := List (String × String)

def builtInHandles : Handles := [("!", "!"), ("!!", "tag:yaml.org,2002:")]

def fullTag? (handles : Handles) (tag : Tag) : Option String :=
  if tag.handle.isEmpty then some tag.suffix
  else (handles.lookup tag.handle).map fun start => start ++ tag.suffix

abbrev Names := List (String × Nat)

/-- The number of the next anchor: how many different names there are. -/
def Names.next (names : Names) : Nat := (names.map Prod.fst).eraseDups.length

structure Remainder where
  tokens : List Token
  names : Names

structure Properties where
  anchor : Option String
  tag : Option Tag

def takeProperties : List Token → Properties × List Token
  | .anchor name :: .tag tag :: rest => (⟨some name, some tag⟩, rest)
  | .tag tag :: .anchor name :: rest => (⟨some name, some tag⟩, rest)
  | .anchor name :: rest => (⟨some name, none⟩, rest)
  | .tag tag :: rest => (⟨none, some tag⟩, rest)
  | tokens => (⟨none, none⟩, tokens)

/-- Where content stands. Items may be written without indentation as the value of a key. -/
inductive Position
  | document
  | blockItem
  | looseItem
  | blockKey
  | blockValue
  | flowItem
  | pairKey
  | pairValue
  | flowKey
  | flowValue
  deriving DecidableEq

def Position.isLeftOut : Position → Token → Bool
  | .document, token =>
      match token with
      | .directive _ | .documentStart | .documentEnd => true
      | _ => false
  | .blockItem, token => token = .blockEntry || token = .blockEnd
  | .looseItem, token =>
      token = .blockEntry || token = .key || token = .value || token = .blockEnd
  | .blockKey, token => token = .key || token = .value || token = .blockEnd
  | .blockValue, token => token = .key || token = .value || token = .blockEnd
  | .flowItem, _ => false
  | .pairKey, token => token = .value || token = .flowEntry || token = .flowSequenceEnd
  | .pairValue, token => token = .flowEntry || token = .flowSequenceEnd
  | .flowKey, token => token = .value || token = .flowEntry || token = .flowMappingEnd
  | .flowValue, token => token = .flowEntry || token = .flowMappingEnd

def Position.inBlock : Position → Bool
  | .document | .blockItem | .looseItem | .blockKey | .blockValue => true
  | _ => false

/-- Whether a sequence may begin without a deeper column. -/
def Position.allowsLoose (position : Position) : Bool :=
  position = .blockKey || position = .blockValue

def under (anchor : Option Nat) (content : Node) : Node :=
  match anchor with
  | some number => .anchored number content
  | none => content

mutual

def optional? (handles : Handles) :
    Nat → Position → Remainder → Option (Node × Remainder)
  | 0, _, _ => none
  | budget + 1, position, rest =>
      if rest.tokens.head?.any position.isLeftOut then some (blank, rest)
      else node? handles budget position rest

def node? (handles : Handles) :
    Nat → Position → Remainder → Option (Node × Remainder)
  | 0, _, _ => none
  | budget + 1, position, rest =>
      match rest.tokens with
      | .reference name :: tokens =>
          (rest.names.lookup name).map fun number => (.reference number, { rest with tokens })
      | tokens => do
          let (properties, tokens) := takeProperties tokens
          let tag ← match properties.tag with
            | some tag => (fullTag? handles tag).map some
            | none => some none
          let anchor := properties.anchor.map fun _ => rest.names.next
          let names := match properties.anchor with
            | some name => (name, rest.names.next) :: rest.names
            | none => rest.names
          let isMarked := properties.anchor.isSome || tag.isSome
          let (content, rest) ← content? handles budget position tag isMarked ⟨tokens, names⟩
          some (under anchor content, rest)

/-- Reads content after its tag. After a tag or an anchor it may be left out. -/
def content? (handles : Handles) :
    Nat → Position → Option String → Bool → Remainder → Option (Node × Remainder)
  | 0, _, _, _, _ => none
  | budget + 1, position, tag, isMarked, rest =>
      let leftOut := if isMarked then some (.scalar "" .plain tag, rest) else none
      match rest.tokens with
      | .scalar text style :: tokens =>
          some (.scalar text style tag, { rest with tokens })
      | .flowSequenceStart :: tokens =>
          (flowItems? handles budget true { rest with tokens }).map fun (items, rest) =>
            (.sequence items, rest)
      | .flowMappingStart :: tokens =>
          (flowMembers? handles budget true { rest with tokens }).map fun (members, rest) =>
            (.mapping members, rest)
      | .blockSequenceStart :: tokens =>
          if position.inBlock then
            (blockItems? handles budget { rest with tokens }).map fun (items, rest) =>
              (.sequence items, rest)
          else leftOut
      | .blockMappingStart :: tokens =>
          if position.inBlock then
            (blockMembers? handles budget { rest with tokens }).map fun (members, rest) =>
              (.mapping members, rest)
          else leftOut
      | .blockEntry :: _ =>
          if position.allowsLoose then
            (looseItems? handles budget rest).map fun (items, rest) => (.sequence items, rest)
          else leftOut
      | _ => leftOut

def blockItems? (handles : Handles) : Nat → Remainder → Option (List Node × Remainder)
  | 0, _ => none
  | budget + 1, rest =>
      match rest.tokens with
      | .blockEntry :: tokens => do
          let (item, rest) ← optional? handles budget .blockItem { rest with tokens }
          let (items, rest) ← blockItems? handles budget rest
          some (item :: items, rest)
      | .blockEnd :: tokens => some ([], { rest with tokens })
      | _ => none

/-- Reads the items of a sequence that is not indented; it ends where no item comes. -/
def looseItems? (handles : Handles) : Nat → Remainder → Option (List Node × Remainder)
  | 0, _ => none
  | budget + 1, rest =>
      match rest.tokens with
      | .blockEntry :: tokens => do
          let (item, rest) ← optional? handles budget .looseItem { rest with tokens }
          let (items, rest) ← looseItems? handles budget rest
          some (item :: items, rest)
      | _ => some ([], rest)

def value? (handles : Handles) :
    Nat → Position → Remainder → Option (Node × Remainder)
  | 0, _, _ => none
  | budget + 1, position, rest =>
      match rest.tokens with
      | .value :: tokens => optional? handles budget position { rest with tokens }
      | _ => some (blank, rest)

def blockMembers? (handles : Handles) :
    Nat → Remainder → Option (List (Node × Node) × Remainder)
  | 0, _ => none
  | budget + 1, rest =>
      match rest.tokens with
      | .key :: tokens => do
          let (key, rest) ← optional? handles budget .blockKey { rest with tokens }
          let (value, rest) ← value? handles budget .blockValue rest
          let (members, rest) ← blockMembers? handles budget rest
          some ((key, value) :: members, rest)
      | .blockEnd :: tokens => some ([], { rest with tokens })
      | _ => none

def flowItems? (handles : Handles) :
    Nat → Bool → Remainder → Option (List Node × Remainder)
  | 0, _, _ => none
  | budget + 1, isFirst, rest =>
      match rest.tokens with
      | .flowSequenceEnd :: tokens => some ([], { rest with tokens })
      | tokens => do
          let tokens ← if isFirst then some tokens else match tokens with
            | .flowEntry :: tokens => some tokens
            | _ => none
          match tokens with
          | .flowSequenceEnd :: tokens => some ([], { rest with tokens })
          | .key :: tokens => do
              let (item, rest) ← pair? handles budget { rest with tokens }
              let (items, rest) ← flowItems? handles budget false rest
              some (item :: items, rest)
          | tokens => do
              let (item, rest) ← node? handles budget .flowItem { rest with tokens }
              let (items, rest) ← flowItems? handles budget false rest
              some (item :: items, rest)

/-- Reads an item that is a single member. The token that shows that the key is left out is passed
over. -/
def pair? (handles : Handles) : Nat → Remainder → Option (Node × Remainder)
  | 0, _ => none
  | budget + 1, rest => do
      let (key, rest) ←
        if rest.tokens.head?.any Position.pairKey.isLeftOut then
          some (blank, { rest with tokens := rest.tokens.tail })
        else node? handles budget .pairKey rest
      let (value, rest) ← value? handles budget .pairValue rest
      some (.mapping [(key, value)], rest)

/-- Reads the members between braces, the first of which has no comma in front. A comma may follow
the last. Content without the mark of a key is a key too; it has no value. -/
def flowMembers? (handles : Handles) :
    Nat → Bool → Remainder → Option (List (Node × Node) × Remainder)
  | 0, _, _ => none
  | budget + 1, isFirst, rest =>
      match rest.tokens with
      | .flowMappingEnd :: tokens => some ([], { rest with tokens })
      | tokens => do
          let tokens ← if isFirst then some tokens else match tokens with
            | .flowEntry :: tokens => some tokens
            | _ => none
          match tokens with
          | .flowMappingEnd :: tokens => some ([], { rest with tokens })
          | .key :: tokens => do
              let (key, rest) ← optional? handles budget .flowKey { rest with tokens }
              let (value, rest) ← value? handles budget .flowValue rest
              let (members, rest) ← flowMembers? handles budget false rest
              some ((key, value) :: members, rest)
          | tokens => do
              let (key, rest) ← node? handles budget .flowItem { rest with tokens }
              let (members, rest) ← flowMembers? handles budget false rest
              some ((key, blank) :: members, rest)

end

def versions (directives : List Directive) : List (Nat × Nat) :=
  directives.filterMap fun directive =>
    match directive with
    | .version major minor => some (major, minor)
    | .tag _ _ => none

def declarations (directives : List Directive) : Handles :=
  directives.filterMap fun directive =>
    match directive with
    | .version _ _ => none
    | .tag handle start => some (handle, start)

/-- The handles after some directives. There may be one version, 1.1 or 1.2, and no handle may be
declared twice. -/
def handles? (directives : List Directive) : Option Handles :=
  let stated := versions directives
  let declared := declarations directives
  if stated.length ≤ 1 && stated.all (fun version => [(1, 1), (1, 2)].contains version) &&
      (declared.map Prod.fst).eraseDups.length = declared.length then
    some (declared ++ builtInHandles)
  else none

def takeDirectives : List Token → List Directive × List Token
  | .directive directive :: rest =>
      let (directives, rest) := takeDirectives rest
      (directive :: directives, rest)
  | tokens => ([], tokens)

def budget (tokens : List Token) : Nat := 3 * tokens.length + 3

/-- Reads the content of a document, which may be left out also at the end of the text. -/
def root? (handles : Handles) (tokens : List Token) : Option (Node × Remainder) :=
  if tokens.isEmpty then some (blank, ⟨[], []⟩)
  else optional? handles (budget tokens) .document ⟨tokens, []⟩

/-- Reads a document from its first token. Directives need the mark of a document's start. -/
def document? (tokens : List Token) : Option (Node × Remainder) :=
  match tokens with
  | [] => some (blank, ⟨[], []⟩)
  | .directive _ :: _ | .documentStart :: _ => do
      let (directives, rest) := takeDirectives tokens
      let handles ← handles? directives
      match rest with
      | .documentStart :: rest => root? handles rest
      | _ => none
  | tokens => node? builtInHandles (budget tokens) .document ⟨tokens, []⟩

def ofTokens? (tokens : List Token) : Option Node := do
  let (root, rest) ← document? tokens
  if (rest.tokens.dropWhile (· = .documentEnd)).isEmpty then some root else none

def read? (text : String) : Option Node := (Token.scan? text).bind ofTokens?

end Node

end TeacherDirectory.Yaml
