/-
This file turns the tokens of a YAML text into the tree of nodes of its first document.
-/

import DeskScript.Yaml.Lexer

namespace DeskScript.Yaml

/-- A structure fault is a fault of syntax or a reference to a name that is not known. -/
inductive StructureFault where
  | grammar (fault : SyntaxFault)
  | unknownAnchor (mark : Mark)
  deriving DecidableEq

/--
A node is broken where the text could not be read on. It is then the last node of its document. An
alias refers to a node by number.
-/
inductive Node where
  | scalar (start : Mark) (tag : Option String) (style : ScalarStyle) (text : String)
  | sequence (start : Mark) (tag : Option String) (items : List Node)
  | mapping (start : Mark) (tag : Option String) (entries : List (Node × Node))
  | alias (number : Nat)
  | broken (fault : StructureFault)

namespace Node

/-- An absent node is an empty plain scalar. -/
def absent (start : Mark) : Node := .scalar start none .plain ""

mutual

/-- This is the number of marks that a document is made of: two for a collection, else one. -/
def size : Node → Nat
  | .sequence _ _ items => sizeOfItems items + 2
  | .mapping _ _ entries => sizeOfEntries entries + 2
  | .scalar .. => 1
  | .alias _ => 1
  | .broken _ => 0

def sizeOfItems : List Node → Nat
  | [] => 0
  | item :: rest => item.size + sizeOfItems rest

def sizeOfEntries : List (Node × Node) → Nat
  | [] => 0
  | (key, item) :: rest => key.size + item.size + sizeOfEntries rest

end

end Node

/--
Anchors give numbers to nodes. A name gets the number of names known so far, so the number of a
name that is given again may be taken over by a later name. Nodes are told apart by the order in
which they start.
-/
structure Anchors where
  names : List (String × Nat)
  owners : List (Nat × Nat)
  nodes : List (Nat × Node)

namespace Anchors

def empty : Anchors := ⟨[], [], []⟩

/-- This is the node that a number refers to. -/
def node? (anchors : Anchors) (number : Nat) : Option Node :=
  (anchors.owners.lookup number).bind fun owner => anchors.nodes.lookup owner

/-- A name is given to the node that starts now. -/
def give (anchors : Anchors) (name : String) : Anchors :=
  let number := anchors.names.length
  { anchors with
    names := (name, number) :: anchors.names.filter fun known => known.1 ≠ name
    owners := (number, anchors.owners.length) :: anchors.owners }

/-- The node that started as number `owner` is complete. -/
def complete (anchors : Anchors) (owner : Nat) (node : Node) : Anchors :=
  { anchors with nodes := (owner, node) :: anchors.nodes }

end Anchors

/-- A source holds the tokens that are still to be read, and the fault that comes after them. -/
structure Source where
  tokens : List PlacedToken
  fault : SyntaxFault
  handles : List (String × TagText)
  anchors : Anchors
  halted : Bool

namespace Source

def halt (source : Source) (fault : StructureFault) : Node × Source :=
  (.broken fault, { source with halted := true })

/-- No more tokens can be had. -/
def stop (source : Source) : Node × Source :=
  source.halt (.grammar source.fault)

def refuse (source : Source) (problem context : String) (start : Mark) : Node × Source :=
  source.halt (.grammar ⟨problem, some context, start⟩)

/-- This function goes to the tokens after the next one. -/
def skip (source : Source) : Source :=
  { source with tokens := source.tokens.drop 1 }

def next? (source : Source) : Option PlacedToken := source.tokens.head?

end Source

/-- An anchor and a tag may stand before a node, in either order. -/
structure NodeProperties where
  start : Option Mark
  anchor : Option String
  tag : Option (TagName × Mark)

def readProperties (source : Source) : NodeProperties × Source :=
  match source.tokens with
  | ⟨.anchor name, start⟩ :: ⟨.tag tag, tagStart⟩ :: rest =>
      (⟨some start, some name, some (tag, tagStart)⟩, { source with tokens := rest })
  | ⟨.tag tag, start⟩ :: ⟨.anchor name, _⟩ :: rest =>
      (⟨some start, some name, some (tag, start)⟩, { source with tokens := rest })
  | ⟨.anchor name, start⟩ :: rest => (⟨some start, some name, none⟩, { source with tokens := rest })
  | ⟨.tag tag, start⟩ :: rest =>
      (⟨some start, none, some (tag, start)⟩, { source with tokens := rest })
  | _ => (⟨none, none, none⟩, source)

/-- A handle has to be declared. A tag without a handle stands as it is written. -/
def resolveTag (handles : List (String × TagText)) (tag : Option (TagName × Mark)) :
    Except SyntaxFault (Option String) :=
  match tag with
  | none => .ok none
  | some (name, mark) =>
      if name.handle.isEmpty then .ok name.suffix.tag?
      else
        match handles.lookup name.handle with
        | some start => .ok (TagText.tag? (start ++ name.suffix))
        | none => .error ⟨"found undefined tag handle", some "while parsing a node", mark⟩

def endsBlockItem : Token → Bool
  | .blockEntry | .blockEnd => true
  | _ => false

def endsIndentlessItem : Token → Bool
  | .blockEntry | .key | .value | .blockEnd => true
  | _ => false

def endsBlockEntry : Token → Bool
  | .key | .value | .blockEnd => true
  | _ => false

def endsFlowPairKey : Token → Bool
  | .value | .flowEntry | .flowSequenceEnd => true
  | _ => false

def endsFlowPairValue : Token → Bool
  | .flowEntry | .flowSequenceEnd => true
  | _ => false

def endsFlowKey : Token → Bool
  | .value | .flowEntry | .flowMappingEnd => true
  | _ => false

def endsFlowValue : Token → Bool
  | .flowEntry | .flowMappingEnd => true
  | _ => false

/--
A flow collection has commas between its items, and one may stand after the last. This function
passes the comma.
-/
def passComma (first : Bool) (closing : Token) (source : Source) : Option Source :=
  match source.next? with
  | none => none
  | some placed =>
      if first || placed.token = closing then some source
      else if placed.token = .flowEntry then some source.skip
      else none

mutual

/-- Only a node of a block may be a block itself, and only one of a mapping a sequence without
indentation. -/
def readNode (block indentless : Bool) : Nat → Source → Node × Source
  | 0, source => source.stop
  | fuel + 1, source =>
      match source.tokens with
      | [] => source.stop
      | ⟨.alias name, start⟩ :: _ =>
          match source.anchors.names.lookup name with
          | some number => (.alias number, source.skip)
          | none => source.halt (.unknownAnchor start)
      | _ =>
          let (properties, source) := readProperties source
          match source.tokens with
          | [] => source.stop
          | placed :: _ =>
              match resolveTag source.handles properties.tag with
              | .error fault => source.halt (.grammar fault)
              | .ok tag =>
                  let start := properties.start.getD placed.start
                  let owner := source.anchors.owners.length
                  let source := match properties.anchor with
                    | some name => { source with anchors := source.anchors.give name }
                    | none => source
                  let (node, source) :=
                    readContent block indentless start tag properties.start.isSome placed fuel
                      source
                  match properties.anchor with
                  | some _ => (node, { source with anchors := source.anchors.complete owner node })
                  | none => (node, source)

/-- The properties of a node may stand for an empty scalar. -/
def readContent (block indentless : Bool) (start : Mark) (tag : Option String)
    (hasProperties : Bool) (placed : PlacedToken) : Nat → Source → Node × Source
  | 0, source => source.stop
  | fuel + 1, source =>
      match placed.token with
      | .scalar text style => (.scalar start tag style text, source.skip)
      | .flowSequenceStart =>
          let (items, source) := readFlowItems true fuel source.skip
          (.sequence start tag items, source)
      | .flowMappingStart =>
          let (entries, source) := readFlowEntries true fuel source.skip
          (.mapping start tag entries, source)
      | token =>
          if indentless && token = .blockEntry then
            let (items, source) := readIndentlessItems fuel source
            (.sequence start tag items, source)
          else if block && token = .blockSequenceStart then
            let (items, source) := readBlockItems fuel source.skip
            (.sequence start tag items, source)
          else if block && token = .blockMappingStart then
            let (entries, source) := readBlockEntries fuel source.skip
            (.mapping start tag entries, source)
          else if hasProperties then (.scalar start tag .plain "", source)
          else
            source.refuse "did not find expected node content"
              (if block then "while parsing a block node" else "while parsing a flow node")
              placed.start

/-- A node is absent where something follows that cannot start one. -/
def readPresent (block indentless : Bool) (isEnd : Token → Bool) : Nat → Source → Node × Source
  | 0, source => source.stop
  | fuel + 1, source =>
      match source.next? with
      | none => source.stop
      | some placed =>
          if isEnd placed.token then (.absent placed.start, source)
          else readNode block indentless fuel source

def readBlockItems : Nat → Source → List Node × Source
  | 0, source => ([], source)
  | fuel + 1, source =>
      match source.next? with
      | some ⟨.blockEntry, _⟩ =>
          let (item, source) := readPresent true false endsBlockItem fuel source.skip
          if source.halted then ([item], source)
          else
            let (items, source) := readBlockItems fuel source
            (item :: items, source)
      | some ⟨.blockEnd, _⟩ => ([], source.skip)
      | some ⟨_, start⟩ =>
          let (item, source) := source.refuse "did not find expected '-' indicator"
            "while parsing a block collection" start
          ([item], source)
      | none => let (item, source) := source.stop; ([item], source)

def readIndentlessItems : Nat → Source → List Node × Source
  | 0, source => ([], source)
  | fuel + 1, source =>
      match source.next? with
      | some ⟨.blockEntry, _⟩ =>
          let (item, source) := readPresent true false endsIndentlessItem fuel source.skip
          if source.halted then ([item], source)
          else
            let (items, source) := readIndentlessItems fuel source
            (item :: items, source)
      | some _ => ([], source)
      | none => let (item, source) := source.stop; ([item], source)

/-- A value may be missing together with its colon. -/
def readBlockEntries : Nat → Source → List (Node × Node) × Source
  | 0, source => ([], source)
  | fuel + 1, source =>
      match source.next? with
      | some ⟨.key, _⟩ =>
          let (key, source) := readPresent true true endsBlockEntry fuel source.skip
          if source.halted then ([(key, key)], source)
          else
            let (item, source) := match source.next? with
              | some ⟨.value, _⟩ => readPresent true true endsBlockEntry fuel source.skip
              | some ⟨_, start⟩ => (.absent start, source)
              | none => source.stop
            if source.halted then ([(key, item)], source)
            else
              let (entries, source) := readBlockEntries fuel source
              ((key, item) :: entries, source)
      | some ⟨.blockEnd, _⟩ => ([], source.skip)
      | some ⟨_, start⟩ =>
          let (item, source) := source.refuse "did not find expected key"
            "while parsing a block mapping" start
          ([(item, item)], source)
      | none => let (item, source) := source.stop; ([(item, item)], source)

/-- An item of a flow sequence may be a mapping with a single entry. -/
def readFlowItems (first : Bool) : Nat → Source → List Node × Source
  | 0, source => ([], source)
  | fuel + 1, source =>
      match passComma first .flowSequenceEnd source with
      | none =>
          let (item, source) := match source.next? with
            | none => source.stop
            | some placed => source.refuse "did not find expected ',' or ']'"
                "while parsing a flow sequence" placed.start
          ([item], source)
      | some source =>
          match source.next? with
          | none => let (item, source) := source.stop; ([item], source)
          | some ⟨.flowSequenceEnd, _⟩ => ([], source.skip)
          | some ⟨token, itemStart⟩ =>
              let (item, source) :=
                if token = .key then
                  let (entry, source) := readFlowPair fuel source.skip
                  (.mapping itemStart none [entry], source)
                else readNode false false fuel source
              if source.halted then ([item], source)
              else
                let (items, source) := readFlowItems false fuel source
                (item :: items, source)

/-- A key that is missing takes the token after it along. -/
def readFlowPair : Nat → Source → (Node × Node) × Source
  | 0, source => let (node, source) := source.stop; ((node, node), source)
  | fuel + 1, source =>
      let (key, source) := match source.next? with
        | none => source.stop
        | some placed =>
            if endsFlowPairKey placed.token then (.absent placed.start, source.skip)
            else readNode false false fuel source
      if source.halted then ((key, key), source)
      else
        let (item, source) := match source.next? with
          | some ⟨.value, _⟩ => readPresent false false endsFlowPairValue fuel source.skip
          | some ⟨_, start⟩ => (.absent start, source)
          | none => source.stop
        ((key, item), source)

/-- A key that is not marked as one has no value. -/
def readFlowEntries (first : Bool) : Nat → Source → List (Node × Node) × Source
  | 0, source => ([], source)
  | fuel + 1, source =>
      match passComma first .flowMappingEnd source with
      | none =>
          let (item, source) := match source.next? with
            | none => source.stop
            | some placed => source.refuse "did not find expected ',' or '\x7d'"
                "while parsing a flow mapping" placed.start
          ([(item, item)], source)
      | some source =>
          match source.next? with
          | none => let (item, source) := source.stop; ([(item, item)], source)
          | some ⟨.flowMappingEnd, _⟩ => ([], source.skip)
          | some ⟨token, _⟩ =>
              let (key, source) :=
                if token = .key then readPresent false false endsFlowKey fuel source.skip
                else readNode false false fuel source
              if source.halted then ([(key, key)], source)
              else
                let (item, source) := match source.next? with
                  | none => source.stop
                  | some ⟨next, itemStart⟩ =>
                      if token = Token.key ∧ next = Token.value then
                        readPresent false false endsFlowValue fuel source.skip
                      else (.absent itemStart, source)
                if source.halted then ([(key, item)], source)
                else
                  let (entries, source) := readFlowEntries false fuel source
                  ((key, item) :: entries, source)

end

/-! ### Documents -/

/-- These handles need no declaration. -/
def knownHandles : List (String × TagText) :=
  [("!", .ofText "!"), ("!!", .ofText "tag:yaml.org,2002:")]

/-- The version is one of two, and neither it nor a handle may be declared twice. -/
def readDirectives (versionSeen : Bool) (declared : List (String × TagText)) :
    List PlacedToken → Except SyntaxFault (List (String × TagText) × List PlacedToken)
  | ⟨.versionDirective major minor, start⟩ :: rest =>
      if versionSeen then .error ⟨"found duplicate %YAML directive", none, start⟩
      else if major ≠ 1 ∨ (minor ≠ 1 ∧ minor ≠ 2) then
        .error ⟨"found incompatible YAML document", none, start⟩
      else readDirectives true declared rest
  | ⟨.tagDirective handle start, mark⟩ :: rest =>
      if (declared.lookup handle).isSome then
        .error ⟨"found duplicate %TAG directive", none, mark⟩
      else readDirectives versionSeen ((handle, start) :: declared) rest
  | tokens => .ok (declared ++ knownHandles, tokens)

/-- The content of a document that has been opened may be missing. -/
def endsDocument : Token → Bool
  | .versionDirective .. | .tagDirective .. | .documentStart | .documentEnd | .streamEnd => true
  | _ => false

/-- After the first document the text may end or go on, or the next token may be faulty. -/
inductive AfterDocument where
  | nothing
  | more
  | fault (fault : SyntaxFault)

/-- A reading is the first document of a text, if it holds any, and what comes after it. -/
structure Reading where
  root : Option Node
  anchors : Anchors
  after : AfterDocument

/--
One token after a document belongs to it. What follows the end of a document is no longer read, so
that a fault there counts as more text.
-/
def afterDocument (source : Source) : AfterDocument :=
  match source.tokens with
  | [] => if source.halted then .nothing else .fault source.fault
  | tokens =>
      let rest := tokens.dropWhile fun placed => placed.token = .documentEnd
      if rest.head?.map PlacedToken.token = some .streamEnd then .nothing else .more

def readRoot (source : Source) (isOpened : Bool) : Reading :=
  let fuel := 4 * source.tokens.length + 4
  let (root, source) := readPresent true false (fun token => isOpened && endsDocument token) fuel
    source
  ⟨some root, source.anchors, afterDocument source⟩

/-- A document that starts with directives has to be opened by three dashes. -/
def firstDocument (text : List Char) : Reading :=
  let (tokens, fault) := tokensOf text
  let fault := fault.getD ⟨"did not find expected <document start>", none, default⟩
  let source : Source := ⟨tokens, fault, knownHandles, .empty, false⟩
  let refused (fault : SyntaxFault) : Reading := ⟨some (.broken (.grammar fault)), .empty, .nothing⟩
  match tokens with
  | [] => refused fault
  | ⟨first, _⟩ :: _ =>
      match first with
      | .streamEnd => ⟨none, .empty, .nothing⟩
      | .versionDirective .. | .tagDirective .. | .documentStart =>
          match readDirectives false [] tokens with
          | .error fault => refused fault
          | .ok (handles, ⟨.documentStart, _⟩ :: rest) =>
              readRoot { source with tokens := rest, handles := handles } true
          | .ok (_, ⟨_, start⟩ :: _) =>
              refused ⟨"did not find expected <document start>", none, start⟩
          | .ok (_, []) => refused fault
      | _ => readRoot source false

end DeskScript.Yaml
