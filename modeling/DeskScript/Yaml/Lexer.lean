/-
This file turns a YAML text into a row of tokens. Indentation becomes tokens of its own, and the
token that opens a key is put in front of it once the colon after it has been seen.
-/

import DeskScript.Yaml.Token

namespace DeskScript.Yaml

/-- A placed token knows where it starts. -/
structure PlacedToken where
  token : Token
  start : Mark

/--
A key candidate is a place where a key may have started. The token there has the given number in
the row, and a candidate is required when nothing but a key can stand there.
-/
structure KeyCandidate where
  required : Bool
  number : Nat
  start : Mark

/--
The lexer keeps one key candidate, if any, for every open flow collection and one for the blocks
around them. The indentations are those of the open blocks, from the inside out.
-/
structure Lexer where
  cursor : Cursor
  tokens : Array PlacedToken
  indents : List Nat
  candidate : Option KeyCandidate
  outerCandidates : List (Option KeyCandidate)
  keyAllowed : Bool

abbrev LexerStep := Except SyntaxFault Lexer

namespace Lexer

def ofText (text : List Char) : Lexer :=
  ⟨.ofText text, #[], [], none, [], true⟩

def mark (lexer : Lexer) : Mark := lexer.cursor.mark

def inFlow (lexer : Lexer) : Bool := !lexer.outerCandidates.isEmpty

def candidates (lexer : Lexer) : List KeyCandidate :=
  (lexer.candidate :: lexer.outerCandidates).filterMap id

def push (lexer : Lexer) (token : Token) (start : Mark) : Lexer :=
  { lexer with tokens := lexer.tokens.push ⟨token, start⟩ }

/-! ### Key candidates -/

def missingColon (mark : Mark) : SyntaxFault :=
  ⟨"could not find expected ':'", some "while scanning a simple key", mark⟩

/-- A key stands on one line and has at most 1024 characters. -/
def isStale (mark : Mark) (candidate : KeyCandidate) : Bool :=
  candidate.start.line < mark.line || candidate.start.index + 1024 < mark.index

/-- Candidates that can no longer be keys are dropped, which is a fault for a required one. -/
def dropStale (lexer : Lexer) : LexerStep :=
  if lexer.candidates.any fun candidate => isStale lexer.mark candidate && candidate.required then
    .error (missingColon lexer.mark)
  else
    let keep := fun candidate : KeyCandidate => !isStale lexer.mark candidate
    .ok { lexer with
      candidate := lexer.candidate.filter keep
      outerCandidates := lexer.outerCandidates.map fun candidate => candidate.filter keep }

/-- This function gives up the innermost candidate. -/
def dropCandidate (lexer : Lexer) : LexerStep :=
  if (lexer.candidate.map KeyCandidate.required).getD false then .error (missingColon lexer.mark)
  else .ok { lexer with candidate := none }

/-- The next token becomes the innermost candidate where a key is allowed. -/
def saveCandidate (lexer : Lexer) : LexerStep :=
  if lexer.keyAllowed then do
    let required := !lexer.inFlow && lexer.indents.head? = some lexer.mark.column
    let number := lexer.tokens.size
    let lexer ← lexer.dropCandidate
    return { lexer with candidate := some ⟨required, number, lexer.mark⟩ }
  else .ok lexer

/-! ### Indentation -/

/-- A block opens when its first token is indented more than the blocks around it. -/
def openBlock (lexer : Lexer) (token : Token) (number : Nat) (start : Mark) : Lexer :=
  let isDeeper := match lexer.indents with
    | [] => true
    | indent :: _ => indent < start.column
  if lexer.inFlow || !isDeeper then lexer
  else
    { lexer with
      indents := start.column :: lexer.indents
      tokens := lexer.tokens.insertIdxIfInBounds number ⟨token, start⟩ }

/-- The blocks that are indented more than a column are closed there. -/
def closeBlocksAfter (lexer : Lexer) (isOpen : Nat → Bool) : List Nat → Lexer
  | [] => { lexer with indents := [] }
  | indent :: rest =>
      if isOpen indent then { lexer with indents := indent :: rest }
      else (lexer.push .blockEnd lexer.mark).closeBlocksAfter isOpen rest

def closeBlocks (lexer : Lexer) : Lexer :=
  if lexer.inFlow then lexer
  else lexer.closeBlocksAfter (fun indent => indent ≤ lexer.mark.column) lexer.indents

def closeAllBlocks (lexer : Lexer) : Lexer :=
  if lexer.inFlow then lexer else lexer.closeBlocksAfter (fun _ => false) lexer.indents

/-! ### Gaps between tokens -/

/--
Blanks, comments and line breaks are passed, and so is a byte order mark that starts a line. A tab
does not count as indentation, so it is passed only where no key may start.
-/
def passGap : Nat → Lexer → Lexer
  | 0, lexer => lexer
  | fuel + 1, lexer =>
      let cursor :=
        if lexer.mark.column = 0 ∧ lexer.cursor.first? = some '\ufeff' then lexer.cursor.skip 1
        else lexer.cursor
      let tabs := lexer.inFlow || !lexer.keyAllowed
      let cursor :=
        (cursor.span fun character => character = ' ' || (tabs && character = '\t')).2.skipComment
      match cursor.lineBreak? with
      | some (_, nextLine) =>
          passGap fuel { lexer with
            cursor := nextLine
            keyAllowed := lexer.keyAllowed || !lexer.inFlow }
      | none => { lexer with cursor := cursor }

/-! ### Tokens -/

/-- This function takes a token of some characters that has been recognised already. -/
def take (lexer : Lexer) (token : Token) (width : Nat) : Lexer :=
  { lexer.push token lexer.mark with cursor := lexer.cursor.skip width }

/-- This function takes a token that a reader has to recognise. -/
def takeRead (lexer : Lexer) (read : Cursor → TokenRead) : LexerStep := do
  let (token, after) ← read lexer.cursor
  return { lexer.push token lexer.mark with cursor := after }

/-- At the end of the text a new line is begun, so that the last block can be closed there. -/
def takeEnd (lexer : Lexer) : LexerStep := do
  let mark := lexer.mark
  let mark := if mark.column = 0 then mark else ⟨mark.index, mark.line + 1, 0⟩
  let lexer := { lexer with cursor := { lexer.cursor with rest := [], mark } }
  let lexer ← lexer.closeAllBlocks.dropCandidate
  return { lexer.push .streamEnd mark with keyAllowed := false }

def takeDirective (lexer : Lexer) : LexerStep := do
  let lexer ← lexer.closeAllBlocks.dropCandidate
  { lexer with keyAllowed := false }.takeRead readDirective

def takeDocumentBound (lexer : Lexer) : LexerStep := do
  let token : Token := if lexer.cursor.first? = some '-' then .documentStart else .documentEnd
  let lexer ← lexer.closeAllBlocks.dropCandidate
  return { lexer with keyAllowed := false }.take token 3

def takeFlowStart (lexer : Lexer) (token : Token) : LexerStep := do
  let lexer ← lexer.saveCandidate
  let lexer := { lexer with
    candidate := none
    outerCandidates := lexer.candidate :: lexer.outerCandidates
    keyAllowed := true }
  return lexer.take token 1

def takeFlowEnd (lexer : Lexer) (token : Token) : LexerStep := do
  let lexer ← lexer.dropCandidate
  let lexer := match lexer.outerCandidates with
    | candidate :: rest => { lexer with candidate := candidate, outerCandidates := rest }
    | [] => lexer
  return { lexer with keyAllowed := false }.take token 1

def takeFlowEntry (lexer : Lexer) : LexerStep := do
  let lexer ← lexer.dropCandidate
  return { lexer with keyAllowed := true }.take .flowEntry 1

/-- This function opens a block at an indicator, where one may stand. -/
def openBlockHere (lexer : Lexer) (token : Token) (refused : String) : LexerStep :=
  if lexer.inFlow then .ok lexer
  else if !lexer.keyAllowed then .error ⟨refused, none, lexer.mark⟩
  else .ok (lexer.openBlock token lexer.tokens.size lexer.mark)

def takeBlockEntry (lexer : Lexer) : LexerStep := do
  let lexer ← lexer.openBlockHere .blockSequenceStart
    "block sequence entries are not allowed in this context"
  let lexer ← lexer.dropCandidate
  return { lexer with keyAllowed := true }.take .blockEntry 1

def takeKey (lexer : Lexer) : LexerStep := do
  let lexer ← lexer.openBlockHere .blockMappingStart
    "mapping keys are not allowed in this context"
  let lexer ← lexer.dropCandidate
  return { lexer with keyAllowed := !lexer.inFlow }.take .key 1

/-- A colon after a key candidate makes it a key. Otherwise it follows a key of its own lines. -/
def takeValue (lexer : Lexer) : LexerStep :=
  match lexer.candidate with
  | some candidate =>
      let lexer := { lexer with
        candidate := none
        keyAllowed := false
        tokens := lexer.tokens.insertIdxIfInBounds candidate.number ⟨.key, candidate.start⟩ }
      .ok ((lexer.openBlock .blockMappingStart candidate.number candidate.start).take .value 1)
  | none => do
      let lexer ← lexer.openBlockHere .blockMappingStart
        "mapping values are not allowed in this context"
      return { lexer with keyAllowed := !lexer.inFlow }.take .value 1

/-- This function takes a token that may be a key or the start of one. -/
def takeCandidate (lexer : Lexer) (read : Cursor → TokenRead) : LexerStep := do
  let lexer ← lexer.saveCandidate
  { lexer with keyAllowed := false }.takeRead read

def takeBlockScalar (lexer : Lexer) (literal : Bool) : LexerStep := do
  let lexer ← lexer.dropCandidate
  { lexer with keyAllowed := true }.takeRead fun cursor => do
    let (text, after) ← readBlock literal lexer.indents.head? cursor
    return (.scalar (String.ofList text) .quoted, after)

def takeQuoted (lexer : Lexer) (single : Bool) : LexerStep :=
  lexer.takeCandidate fun cursor => do
    let (text, after) ← readQuoted single cursor
    return (.scalar (String.ofList text) .quoted, after)

def takePlain (lexer : Lexer) : LexerStep := do
  let lexer ← lexer.saveCandidate
  let indent := (lexer.indents.head?.map (· + 1)).getD 0
  let scalar ← readPlain lexer.inFlow indent lexer.cursor
  let lexer := lexer.push (.scalar (String.ofList scalar.text) .plain) lexer.mark
  return { lexer with cursor := scalar.after, keyAllowed := scalar.lineEnded }

/-- These characters have a meaning of their own, so a plain scalar does not start with one. -/
def isIndicator (character : Char) : Bool :=
  "-?:,[]\x7b\x7d#&*!|>\x27\"%@\x60".toList.contains character

/-- This test tells whether a plain scalar starts with a character, given what follows it. -/
def startsPlain (inFlow : Bool) (character : Char) (rest : List Char) : Bool :=
  let startsText := !(isBlank character || isBreak character || isIndicator character)
  startsText || (character = '-' && !(rest.head?.map isBlank).getD false) ||
    (!inFlow && (character = '?' || character = ':') && !startsBlank rest)

/-- The character at the cursor tells which token comes next. -/
def takeToken (lexer : Lexer) (character : Char) (rest : List Char) : LexerStep :=
  if lexer.mark.column = 0 ∧ character = '%' then lexer.takeDirective
  else if lexer.cursor.isAtDocumentBound then lexer.takeDocumentBound
  else if character = '[' then lexer.takeFlowStart .flowSequenceStart
  else if character = '\x7b' then lexer.takeFlowStart .flowMappingStart
  else if character = ']' then lexer.takeFlowEnd .flowSequenceEnd
  else if character = '\x7d' then lexer.takeFlowEnd .flowMappingEnd
  else if character = ',' then lexer.takeFlowEntry
  else if character = '-' ∧ startsBlank rest then lexer.takeBlockEntry
  else if character = '?' ∧ (lexer.inFlow ∨ startsBlank rest) then lexer.takeKey
  else if character = ':' ∧ (lexer.inFlow ∨ startsBlank rest) then lexer.takeValue
  else if character = '*' then lexer.takeCandidate (readAnchor true)
  else if character = '&' then lexer.takeCandidate (readAnchor false)
  else if character = '!' then lexer.takeCandidate (readTag lexer.inFlow)
  else if character = '|' ∧ !lexer.inFlow then lexer.takeBlockScalar true
  else if character = '>' ∧ !lexer.inFlow then lexer.takeBlockScalar false
  else if character = '\x27' then lexer.takeQuoted true
  else if character = '"' then lexer.takeQuoted false
  else if startsPlain lexer.inFlow character rest then lexer.takePlain
  else
    .error ⟨"found character that cannot start any token",
      some "while scanning for the next token", lexer.mark⟩

/-- This function passes a gap and takes the token after it. -/
def next (lexer : Lexer) : LexerStep := do
  let lexer := passGap (lexer.cursor.size + 1) lexer
  let lexer ← lexer.dropStale
  let lexer := lexer.closeBlocks
  let lexer ← match lexer.cursor.rest with
    | [] => lexer.takeEnd
    | character :: rest => lexer.takeToken character rest
  lexer.dropStale

/-- The tokens before every key candidate cannot change any more. -/
def settled (lexer : Lexer) : List PlacedToken :=
  let count := lexer.candidates.foldl (fun count candidate => min count candidate.number)
    lexer.tokens.size
  lexer.tokens.toList.take count

def isDone (lexer : Lexer) : Bool :=
  match lexer.tokens.back? with
  | some placed => placed.token = .streamEnd
  | none => false

/-- This function takes tokens until the text ends or a fault is found. -/
def run : Nat → Lexer → List PlacedToken × Option SyntaxFault
  | 0, lexer => (lexer.tokens.toList, none)
  | fuel + 1, lexer =>
      if lexer.isDone then (lexer.tokens.toList, none)
      else
        match lexer.next with
        | .ok lexer => run fuel lexer
        | .error fault => (lexer.settled, some fault)

end Lexer

/--
These are the tokens of a text. After a fault only those tokens are given that no later character
could have changed.
-/
def tokensOf (text : List Char) : List PlacedToken × Option SyntaxFault :=
  Lexer.run (text.length + 2) (.ofText text)

end DeskScript.Yaml
