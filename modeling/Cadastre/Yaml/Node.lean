import Cadastre.Yaml.Scanner

/-!
# From tokens to nodes

A document is a tree of scalars, sequences and mappings. It is built as far as the tokens allow; the
place where they do not is marked, so that a reader that walks the tree in the order of the text
meets the mark exactly when it comes to that place. An alias stands for the node with its number,
which is looked up in the document's table of anchored nodes.
-/

namespace Cadastre.Yaml

open Text (Mark)

/-- A node of a document, with the mark of its place. -/
inductive Node where
  /-- A scalar. -/
  | scalar (mark : Mark) (tag : Option Tag) (style : Style) (text : String)
  /-- A sequence, and whether it is well formed to its end. -/
  | sequence (mark : Mark) (tag : Option Tag) (items : List Node) (closed : Bool)
  /-- A mapping, and whether it is well formed to its end. -/
  | mapping (mark : Mark) (tag : Option Tag) (entries : List (Node × Node)) (closed : Bool)
  /-- A place where an anchored node stands again. -/
  | alias (mark : Mark) (number : Nat)
  /-- There is no document. -/
  | absent (mark : Mark)
  /-- The document is not well formed from here on. -/
  | broken

namespace Node

/-- A scalar that is not written. -/
def empty (mark : Mark) : Node := scalar mark none .plain ""

/-- Where the node stands. -/
def mark : Node → Mark
  | .scalar m _ _ _ => m
  | .sequence m _ _ _ => m
  | .mapping m _ _ _ => m
  | .alias m _ => m
  | .absent m => m
  | .broken => {}

end Node

/-- An anchored node: the number of its anchor, which anchor of the document it is, and the node. -/
structure Anchored where
  /-- The number that aliases refer to. -/
  number : Nat
  /-- How many anchors stand before it. -/
  serial : Nat
  /-- The node. -/
  node : Node

/-- The state between two tokens of a document. -/
structure Composer where
  /-- The tokens that are left. -/
  tokens : List Lexeme
  /-- What is wrong with the text after the last token. -/
  fault : Fault
  /-- Why the document is not well formed from here on, if it is not. -/
  stopped : Option Fault := none
  /-- What tag handles stand for. -/
  handles : List (String × Tag) := []
  /-- The numbers of the anchors that have been named. -/
  names : List (String × Nat) := []
  /-- How many anchors there have been. -/
  serial : Nat := 0
  /-- The nodes with anchors. -/
  anchored : List Anchored := []

namespace Composer

/-- Whether nothing is well formed from here on. -/
def hasStopped (s : Composer) : Bool := s.stopped.isSome

/-- The next token, if there is one. -/
def peek? (s : Composer) : Option Lexeme := if s.hasStopped then none else s.tokens.head?

/-- The state after the next token. -/
def skip (s : Composer) : Composer := { s with tokens := s.tokens.tail }

/-- The state from which nothing is well formed, because of a fault. -/
def stop (f : Fault) (s : Composer) : Composer := { s with stopped := s.stopped <|> some f }

/-- The state where a token is needed and there is none. -/
def runOut (s : Composer) : Composer := s.stop s.fault

/-- The state where another token was expected than a given one. -/
def stopAt (l : Lexeme) (problem : String) (context : Context) (s : Composer) : Composer :=
  s.stop { problem, mark := l.mark, context := some context }

/-- The state in which an anchor has its number, and the number. A name that is used again gets the
number of distinct names before it. -/
def nameAnchor (name : String) (s : Composer) : Nat × Nat × Composer :=
  let number := s.names.length
  let names := (name, number) :: s.names.filter fun n => n.1 != name
  (number, s.serial, { s with names, serial := s.serial + 1 })

/-- The anchor and tag before a node. -/
structure Properties where
  /-- Where they begin, if there are any. -/
  mark : Option Mark := none
  /-- The anchor. -/
  anchor : Option String := none
  /-- The tag as it is written, its handle and the rest, and where it stands. -/
  tag : Option (String × Tag × Mark) := none

/-- The anchor and tag at the place, in either order. -/
def properties (s : Composer) : Properties × Composer :=
  match s.peek? with
  | some ⟨.anchor a, m⟩ =>
    match s.skip.peek? with
    | some ⟨.tag h t, n⟩ => (⟨m, some a, some (h, t, n)⟩, s.skip.skip)
    | _ => (⟨m, some a, none⟩, s.skip)
  | some ⟨.tag h t, m⟩ =>
    match s.skip.peek? with
    | some ⟨.anchor a, _⟩ => (⟨m, some a, some (h, t, m)⟩, s.skip.skip)
    | _ => (⟨m, none, some (h, t, m)⟩, s.skip)
  | _ => ({}, s)

/-- A tag with its handle replaced, in a node that begins at a mark; a handle that stands for
nothing is a fault. -/
def resolveTag (start : Mark) (s : Composer) :
    Option (String × Tag × Mark) → Except Fault (Option Tag)
  | none => .ok none
  | some (handle, suffix, mark) =>
    if handle.isEmpty then .ok (some suffix)
    else
      match s.handles.lookup handle with
      | some replacement => .ok (some (replacement.append suffix))
      | none =>
        .error
          { problem := "found undefined tag handle", mark
            context := some ⟨"while parsing a node", start⟩ }

/-- The state with an anchored node in its table. -/
def keep (anchor : Option (Nat × Nat)) (node : Node) (s : Composer) : Composer :=
  match anchor with
  | some (number, serial) => { s with anchored := ⟨number, serial, node⟩ :: s.anchored }
  | none => s

/-- Whether a token may stand where the value of an entry has been left out. -/
def endsValue (t : Token) : Bool := t == .key || t == .value || t == .blockEnd

/-- Whether a token ends an entry of a mapping between brackets. -/
def endsFlowEntry (t : Token) : Bool := t == .flowEntry || t == .flowMappingEnd

/-- Whether a token ends an item of a sequence between brackets. -/
def endsFlowItem (t : Token) : Bool := t == .flowEntry || t == .flowSequenceEnd

/-- A node that is not written. -/
def omitted (m : Mark) (s : Composer) : Node × Composer := (.empty m, s)

/-- The place of a fault. -/
def broken (f : Fault) (s : Composer) : Node × Composer := (.broken, s.stop f)

/-- A node where a token is needed and there is none. -/
def lost (s : Composer) : Node × Composer := s.broken s.fault

mutual

/-- The node at the place. `block` says whether block collections may stand there, and `indentless`
whether a sequence may stand in the column of the mapping around it. The number bounds the steps. -/
def node (block indentless : Bool) : Nat → Composer → Node × Composer
  | 0, s => s.lost
  | fuel + 1, s =>
    match s.peek? with
    | some ⟨.alias name, mark⟩ =>
      match s.names.lookup name with
      | some number => (.alias mark number, s.skip)
      | none => s.broken { problem := "unknown anchor", mark }
    | _ =>
      let (p, s) := s.properties
      match s.peek? with
      | none => s.lost
      | some l =>
        let start := p.mark.getD l.mark
        match s.resolveTag start p.tag with
        | .error f => s.broken f
        | .ok tag =>
          let (anchor, named) :=
            match p.anchor with
            | some name =>
              let (number, serial, s) := s.nameAnchor name
              (some (number, serial), s)
            | none => (none, s)
          let whole := fun (r : Node × Composer) => (r.1, r.2.keep anchor r.1)
          match l.token with
          | .scalar style text => whole (.scalar start tag style text, named.skip)
          | .flowSequenceStart =>
            let (items, s) := flowItems l.mark fuel true named.skip
            whole (.sequence start tag items !s.hasStopped, s)
          | .flowMappingStart =>
            let (entries, s) := flowEntries l.mark fuel true named.skip
            whole (.mapping start tag entries !s.hasStopped, s)
          | t =>
            if indentless && t == .blockEntry then
              let (items, s) := indentlessItems fuel named
              whole (.sequence start tag items !s.hasStopped, s)
            else if block && t == .blockSequenceStart then
              let (items, s) := blockItems l.mark fuel named.skip
              whole (.sequence start tag items !s.hasStopped, s)
            else if block && t == .blockMappingStart then
              let (entries, s) := blockEntries l.mark fuel named.skip
              whole (.mapping start tag entries !s.hasStopped, s)
            else if p.mark.isSome then whole (.scalar start tag .plain "", named)
            else
              s.broken
                { problem := "did not find expected node content", mark := l.mark
                  context := some
                    ⟨if block then "while parsing a block node" else "while parsing a flow node",
                      start⟩ }

/-- The items of a block sequence that begins at a mark, after its start. -/
def blockItems (start : Mark) : Nat → Composer → List Node × Composer
  | 0, s => ([], s.runOut)
  | fuel + 1, s =>
    match s.peek? with
    | none => ([], s.runOut)
    | some l =>
      if l.token == .blockEntry then
        let s := s.skip
        match s.peek? with
        | none => ([.broken], s.runOut)
        | some ⟨t, _⟩ =>
          let (item, s) :=
            if t == .blockEntry || t == .blockEnd then s.omitted l.mark.next
            else node true false fuel s
          if s.hasStopped then ([item], s)
          else
            let (items, s) := blockItems start fuel s
            (item :: items, s)
      else if l.token == .blockEnd then ([], s.skip)
      else
        ([], s.stopAt l "did not find expected '-' indicator"
          ⟨"while parsing a block collection", start⟩)

/-- The items of a sequence in the column of the mapping around it. -/
def indentlessItems : Nat → Composer → List Node × Composer
  | 0, s => ([], s.runOut)
  | fuel + 1, s =>
    match s.peek? with
    | none => ([], s.runOut)
    | some l =>
      if l.token == .blockEntry then
        let s := s.skip
        match s.peek? with
        | none => ([.broken], s.runOut)
        | some ⟨t, _⟩ =>
          let (item, s) :=
            if t == .blockEntry || endsValue t then s.omitted l.mark.next
            else node true false fuel s
          if s.hasStopped then ([item], s)
          else
            let (items, s) := indentlessItems fuel s
            (item :: items, s)
      else ([], s)

/-- The entries of a block mapping that begins at a mark, after its start. -/
def blockEntries (start : Mark) : Nat → Composer → List (Node × Node) × Composer
  | 0, s => ([], s.runOut)
  | fuel + 1, s =>
    match s.peek? with
    | none => ([], s.runOut)
    | some l =>
      if l.token == .key then
        let s := s.skip
        match s.peek? with
        | none => ([(.broken, .broken)], s.runOut)
        | some ⟨t, _⟩ =>
          let (key, s) := if endsValue t then s.omitted l.mark.next else node true true fuel s
          if s.hasStopped then ([(key, .broken)], s)
          else
            let (value, s) := blockValue fuel s
            if s.hasStopped then ([(key, value)], s)
            else
              let (entries, s) := blockEntries start fuel s
              ((key, value) :: entries, s)
      else if l.token == .blockEnd then ([], s.skip)
      else
        ([], s.stopAt l "did not find expected key" ⟨"while parsing a block mapping", start⟩)

/-- The value of an entry of a block mapping. -/
def blockValue : Nat → Composer → Node × Composer
  | 0, s => s.lost
  | fuel + 1, s =>
    match s.peek? with
    | none => s.lost
    | some l =>
      if l.token == .value then
        let s := s.skip
        match s.peek? with
        | none => s.lost
        | some ⟨t, _⟩ => if endsValue t then s.omitted l.mark.next else node true true fuel s
      else s.omitted l.mark

/-- The items of a sequence between brackets that begins at a mark, after the opening one; `first`
says whether no item stands before. -/
def flowItems (start : Mark) : Nat → Bool → Composer → List Node × Composer
  | 0, _, s => ([], s.runOut)
  | fuel + 1, first, s =>
    match s.peek? with
    | none => ([], s.runOut)
    | some ⟨.flowSequenceEnd, _⟩ => ([], s.skip)
    | some l =>
      if !first && l.token != .flowEntry then
        ([], s.stopAt l "did not find expected ',' or ']'" ⟨"while parsing a flow sequence", start⟩)
      else
        let s := if first then s else s.skip
        match s.peek? with
        | none => ([], s.runOut)
        | some ⟨.flowSequenceEnd, _⟩ => ([], s.skip)
        | some ⟨t, mark⟩ =>
          let (item, s) := if t == .key then pair mark fuel s.skip else node false false fuel s
          if s.hasStopped then ([item], s)
          else
            let (items, s) := flowItems start fuel false s
            (item :: items, s)

/-- The mapping of one entry that stands as an item between brackets and begins at a mark, after the
mark of its key. -/
def pair (start : Mark) : Nat → Composer → Node × Composer
  | 0, s => s.lost
  | fuel + 1, s =>
    match s.peek? with
    | none => (.mapping start none [(.broken, .broken)] false, s.runOut)
    | some ⟨t, mark⟩ =>
      let (key, s) :=
        if t == .value || endsFlowItem t then s.skip.omitted mark.next
        else node false false fuel s
      if s.hasStopped then (.mapping start none [(key, .broken)] false, s)
      else
        let (value, s) := pairValue fuel s
        if s.hasStopped then (.mapping start none [(key, value)] false, s)
        else if s.peek?.isNone then (.mapping start none [(key, value)] false, s.runOut)
        else (.mapping start none [(key, value)] true, s)

/-- The value of the entry of such a mapping. -/
def pairValue : Nat → Composer → Node × Composer
  | 0, s => s.lost
  | fuel + 1, s =>
    match s.peek? with
    | none => s.lost
    | some l =>
      if l.token == .value then
        let s := s.skip
        match s.peek? with
        | none => s.lost
        | some ⟨t, mark⟩ => if endsFlowItem t then s.omitted mark else node false false fuel s
      else s.omitted l.mark

/-- The entries of a mapping between brackets that begins at a mark, after the opening one; `first`
says whether no entry stands before. -/
def flowEntries (start : Mark) : Nat → Bool → Composer → List (Node × Node) × Composer
  | 0, _, s => ([], s.runOut)
  | fuel + 1, first, s =>
    match s.peek? with
    | none => ([], s.runOut)
    | some ⟨.flowMappingEnd, _⟩ => ([], s.skip)
    | some l =>
      if !first && l.token != .flowEntry then
        ([], s.stopAt l "did not find expected ',' or '\x7d'"
          ⟨"while parsing a flow mapping", start⟩)
      else
        let s := if first then s else s.skip
        match s.peek? with
        | none => ([], s.runOut)
        | some ⟨.flowMappingEnd, _⟩ => ([], s.skip)
        | some ⟨t, _⟩ =>
          let (key, value, s) :=
            if t == .key then flowEntry fuel s.skip
            else
              let (key, s) := node false false fuel s
              match s.peek? with
              | none => (key, .broken, s.runOut)
              | some ⟨_, mark⟩ => (key, .empty mark, s)
          if s.hasStopped then ([(key, value)], s)
          else
            let (entries, s) := flowEntries start fuel false s
            ((key, value) :: entries, s)

/-- An entry of a mapping between brackets, after the mark of its key. -/
def flowEntry : Nat → Composer → Node × Node × Composer
  | 0, s => (.broken, .broken, s.runOut)
  | fuel + 1, s =>
    match s.peek? with
    | none => (.broken, .broken, s.runOut)
    | some ⟨t, mark⟩ =>
      let (key, s) :=
        if t == .value || endsFlowEntry t then s.omitted mark else node false false fuel s
      if s.hasStopped then (key, .broken, s)
      else
        let (value, s) := flowValue fuel s
        (key, value, s)

/-- The value of an entry of a mapping between brackets. -/
def flowValue : Nat → Composer → Node × Composer
  | 0, s => s.lost
  | fuel + 1, s =>
    match s.peek? with
    | none => s.lost
    | some l =>
      if l.token == .value then
        let s := s.skip
        match s.peek? with
        | none => s.lost
        | some ⟨t, mark⟩ => if endsFlowEntry t then s.omitted mark else node false false fuel s
      else s.omitted l.mark

end

/-! ## Documents -/

/-- The handles that every document has. -/
def usualHandles : List (String × Tag) :=
  [("!", ⟨"!", true⟩), ("!!", ⟨"tag:yaml.org,2002:", true⟩)]

/-- The state after the directives of a document. A second version, a version other than 1.1 and
1.2, and a handle that is given twice are faults. The number bounds the steps. -/
def directives : Nat → Bool → List (String × Tag) → Composer → Composer
  | 0, _, _, s => s.runOut
  | fuel + 1, versioned, given, s =>
    match s.peek? with
    | none => s.runOut
    | some ⟨.version major minor, mark⟩ =>
      if versioned then s.stop { problem := "found duplicate %YAML directive", mark }
      else if major != 1 || !(minor == 1 || minor == 2) then
        s.stop { problem := "found incompatible YAML document", mark }
      else directives fuel true given s.skip
    | some ⟨.tagHandle handle replacement, mark⟩ =>
      if (given.lookup handle).isSome then
        s.stop { problem := "found duplicate %TAG directive", mark }
      else directives fuel versioned ((handle, replacement) :: given) s.skip
    | some _ => { s with handles := given ++ usualHandles }

/-- Whether a token begins a document with directives or a border. -/
def opensDocument : Token → Bool
  | .version _ _ => true
  | .tagHandle _ _ => true
  | .documentStart => true
  | _ => false

/-- Whether a token cannot begin the content of a document. -/
def endsContent (t : Token) : Bool := opensDocument t || t == .documentEnd || t == .streamEnd

/-- The root of the first document. -/
def root (s : Composer) : Node × Composer :=
  let fuel := 4 * s.tokens.length + 16
  match s.peek? with
  | none => s.lost
  | some ⟨.streamEnd, mark⟩ => (.absent mark, s)
  | some ⟨t, _⟩ =>
    if opensDocument t then
      let s := directives fuel false [] s
      match s.peek? with
      | none => s.lost
      | some ⟨.documentStart, _⟩ =>
        let s := s.skip
        match s.peek? with
        | none => s.lost
        | some ⟨t, mark⟩ => if endsContent t then s.omitted mark else node true false fuel s
      | some ⟨_, mark⟩ => s.broken { problem := "did not find expected <document start>", mark }
    else node true false fuel { s with handles := usualHandles }

/-- What is wrong with the text after the first document. A token must follow it; if that is not the
end of the text, marks of document ends left aside, there is more than one document. -/
def ending (s : Composer) : Option Fault :=
  match s.peek? with
  | none => some (s.stopped.getD s.fault)
  | some _ =>
    match s.tokens.dropWhile (·.token == .documentEnd) with
    | ⟨.streamEnd, _⟩ :: _ => none
    | _ =>
      some
        { problem := "deserializing from YAML containing more than one document is not supported" }

end Composer

/-- A document: its root, the nodes that aliases stand for, what makes it not well formed, and what
is wrong with the text, be it in the document or after it. -/
structure Document where
  /-- The root. -/
  root : Node
  /-- The anchored nodes. -/
  anchored : List Anchored
  /-- The fault in the document. -/
  fault : Fault
  /-- The fault in the text. -/
  ending : Option Fault

/-- The document in a text. -/
def Document.ofString (text : String) : Document :=
  let (tokens, fault) := tokensOf text.toList
  let fault := fault.getD { problem := "did not find expected <stream-end>" }
  let (root, s) := Composer.root { tokens, fault }
  ⟨root, s.anchored, s.stopped.getD fault, s.ending⟩

end Cadastre.Yaml
