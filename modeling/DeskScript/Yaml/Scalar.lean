/-
This file reads the three written forms of a YAML scalar.
-/

import DeskScript.Decimal.Reader
import DeskScript.Yaml.Cursor

namespace DeskScript.Yaml

/-- Only a plain scalar can stand for something other than a text. -/
inductive ScalarStyle where
  | plain
  | quoted
  deriving DecidableEq

/-- This is a text read from the front of a cursor, and the place after it. -/
abbrev TextRead := Except SyntaxFault (List Char × Cursor)

/-! ### Plain scalars -/

/-- These brackets and commas belong to flow collections. -/
def isFlowIndicator (character : Char) : Bool :=
  character = ',' || character = '[' || character = ']' || character = '\x7b' ||
    character = '\x7d'

/-- Within a flow collection a colon may not be followed by one of these. -/
def isBadAfterColon (character : Char) : Bool :=
  isFlowIndicator character || character = '?'

/--
This is the number of characters of a plain scalar up to the next blank. A colon with a blank
after it ends the scalar, and so does a flow indicator within a flow collection.
-/
def plainRun (inFlow : Bool) : List Char → Except Nat Nat
  | [] => .ok 0
  | character :: rest =>
      if isBlank character || isBreak character then .ok 0
      else if inFlow && character = ':' && (rest.head?.map isBadAfterColon).getD false then .error 0
      else if (character = ':' && startsBlank rest) || (inFlow && isFlowIndicator character) then
        .ok 0
      else
        match plainRun inFlow rest with
        | .ok count => .ok (count + 1)
        | .error count => .error (count + 1)

/-- A plain scalar goes over lines as long as they are indented more than what it belongs to. -/
structure PlainScalar where
  text : List Char
  after : Cursor
  /-- The scalar was followed by a line break, so that a new line has begun. -/
  lineEnded : Bool

/--
The text read so far is `before`. The gap after it, `gap`, belongs to the scalar only if more of
the scalar follows.
-/
def plainAfter (inFlow : Bool) (indent : Nat) (start : Mark) (before gap : List Char)
    (lineEnded : Bool) : Nat → Cursor → Except SyntaxFault PlainScalar
  | 0, cursor => .ok ⟨before, cursor, lineEnded⟩
  | fuel + 1, cursor =>
      if cursor.isAtDocumentBound || cursor.first? = some '#' then
        .ok ⟨before, cursor, lineEnded⟩
      else
        let context := some "while scanning a plain scalar"
        match plainRun inFlow cursor.rest with
        | .error count => .error ⟨"found unexpected ':'", context, (cursor.skip count).mark⟩
        | .ok count =>
            let joined := if count = 0 then before else before ++ gap ++ cursor.rest.take count
            let lineEnded := lineEnded && count = 0
            let cursor := cursor.skip count
            match cursor.rest with
            | [] => .ok ⟨joined, cursor, lineEnded⟩
            | next :: _ =>
                if !(isBlank next || isBreak next) then .ok ⟨joined, cursor, lineEnded⟩
                else
                  let (blanks, lineEnd) := cursor.span isBlank
                  match lineEnd.lineBreak? with
                  | none =>
                      let gap := if count = 0 then gap else blanks
                      plainAfter inFlow indent start joined gap lineEnded fuel lineEnd
                  | some (mark, nextLine) =>
                      match passBreaks indent [mark] nextLine.size nextLine with
                      | .error tab =>
                          .error ⟨"found a tab character that violates indentation", context,
                            tab.mark⟩
                      | .ok (breaks, cursor) =>
                          if !inFlow && cursor.mark.column < indent then .ok ⟨joined, cursor, true⟩
                          else
                            plainAfter inFlow indent start joined (foldBreaks breaks) true fuel
                              cursor

/-- This function reads a plain scalar that is inside something with an indentation. -/
def readPlain (inFlow : Bool) (indent : Nat) (cursor : Cursor) : Except SyntaxFault PlainScalar :=
  plainAfter inFlow indent cursor.mark [] [] false (cursor.size + 1) cursor

/-! ### Quoted scalars -/

def quotedContext : Option String := some "while scanning a quoted scalar"

def escapeContext : Option String := some "while parsing a quoted scalar"

/-- These letters after a backslash stand for one character each. -/
def namedEscape? : Char → Option Char
  | '0' => some '\x00'
  | 'a' => some '\x07'
  | 'b' => some '\x08'
  | 't' => some '\t'
  | '\t' => some '\t'
  | 'n' => some '\n'
  | 'v' => some '\x0b'
  | 'f' => some '\x0c'
  | 'r' => some '\r'
  | 'e' => some '\x1b'
  | ' ' => some ' '
  | '"' => some '"'
  | '/' => some '/'
  | '\\' => some '\\'
  | 'N' => some '\x85'
  | '_' => some '\xa0'
  | 'L' => some '\u2028'
  | 'P' => some '\u2029'
  | _ => none

/-- These letters after a backslash are followed by a code of so many hexadecimal digits. -/
def codeLength? : Char → Option Nat
  | 'x' => some 2
  | 'u' => some 4
  | 'U' => some 8
  | _ => none

/-- This function reads what follows a backslash within double quotes. -/
def readQuotedEscape (cursor : Cursor) : Except SyntaxFault (Char × Cursor) :=
  let unknown : SyntaxFault := ⟨"found unknown escape character", escapeContext, cursor.mark⟩
  match cursor.rest with
  | _ :: letter :: rest =>
      match namedEscape? letter, codeLength? letter with
      | some character, _ => .ok (character, cursor.skip 2)
      | none, none => .error unknown
      | none, some length =>
          let digits := rest.take length
          let cursor := cursor.skip 2
          match if digits.length = length then Decimal.digits? 16 digits else none with
          | none => .error ⟨"did not find expected hexdecimal number", escapeContext, cursor.mark⟩
          | some code =>
              if (0xD800 ≤ code ∧ code ≤ 0xDFFF) ∨ 0x10FFFF < code then
                .error ⟨"found invalid Unicode character escape code", escapeContext, cursor.mark⟩
              else .ok (Char.ofNat code, cursor.skip length)
  | _ => .error unknown

/-- A run of a quoted scalar ends at a blank, at the closing quote or at an escaped line break. -/
structure QuotedRun where
  text : List Char
  after : Cursor
  escapedBreak : Bool

/-- The characters of the run read so far, reversed, are `before`. -/
def quotedRun (single : Bool) (before : List Char) : Nat → Cursor → Except SyntaxFault QuotedRun
  | 0, cursor => .ok ⟨before.reverse, cursor, false⟩
  | fuel + 1, cursor =>
      let done : QuotedRun := ⟨before.reverse, cursor, false⟩
      match cursor.rest with
      | [] => .ok done
      | character :: rest =>
          if isBlank character || isBreak character then .ok done
          else if single then
            if character = '\x27' then
              if rest.head? = some '\x27' then
                quotedRun single (character :: before) fuel (cursor.skip 2)
              else .ok done
            else quotedRun single (character :: before) fuel (cursor.skip 1)
          else if character = '"' then .ok done
          else if character = '\\' then
            match (cursor.skip 1).lineBreak? with
            | some (_, nextLine) => .ok ⟨before.reverse, nextLine, true⟩
            | none =>
                match readQuotedEscape cursor with
                | .error fault => .error fault
                | .ok (character, cursor) => quotedRun single (character :: before) fuel cursor
          else quotedRun single (character :: before) fuel (cursor.skip 1)

/-- This is the gap between two runs: blanks of one line, or folded line breaks. -/
def quotedGap (escapedBreak : Bool) (cursor : Cursor) : List Char × Cursor :=
  let (blanks, lineEnd) := cursor.span isBlank
  match lineEnd.lineBreak? with
  | none => (if escapedBreak then [] else blanks, lineEnd)
  | some (mark, nextLine) =>
      match passBreaks 0 [mark] nextLine.size nextLine with
      | .ok (breaks, cursor) => (if escapedBreak then breaks else foldBreaks breaks, cursor)
      | .error cursor => ([], cursor)

/-- The runs and gaps read so far, joined, are `before`. -/
def quotedAfter (single : Bool) (before : List Char) : Nat → Cursor → TextRead
  | 0, cursor => .error ⟨"found unexpected end of stream", quotedContext, cursor.mark⟩
  | fuel + 1, cursor =>
      if cursor.isAtDocumentBound then
        .error ⟨"found unexpected document indicator", quotedContext, cursor.mark⟩
      else if cursor.rest.isEmpty then
        .error ⟨"found unexpected end of stream", quotedContext, cursor.mark⟩
      else
        match quotedRun single [] cursor.size cursor with
        | .error fault => .error fault
        | .ok run =>
            let joined := before ++ run.text
            if run.after.first? = some (if single then '\x27' else '"') then
              .ok (joined, run.after.skip 1)
            else
              let (gap, cursor) := quotedGap run.escapedBreak run.after
              quotedAfter single (joined ++ gap) fuel cursor

/-- This function reads a scalar between quotes. -/
def readQuoted (single : Bool) (cursor : Cursor) : TextRead :=
  quotedAfter single [] (cursor.size + 1) (cursor.skip 1)

/-! ### Block scalars -/

def blockContext : Option String := some "while scanning a block scalar"

/-- A chomping tells what becomes of the line breaks at the end of a block scalar. -/
inductive Chomping where
  | strip
  | clip
  | keep
  deriving DecidableEq

def chomping? : Char → Option Chomping
  | '+' => some .keep
  | '-' => some .strip
  | _ => none

/-- This function reads the chomping at the front of a cursor. -/
def readChomping (cursor : Cursor) : Chomping × Cursor :=
  match cursor.first?.bind chomping? with
  | some chomping => (chomping, cursor.skip 1)
  | none => (.clip, cursor)

/-- This function reads the digit that adds to the indentation. A zero is refused. -/
def readIncrement (cursor : Cursor) : Except SyntaxFault (Option Nat × Cursor) :=
  match cursor.first? with
  | some '0' => .error ⟨"found an indentation indicator equal to 0", blockContext, cursor.mark⟩
  | some character =>
      if Decimal.isDecimalDigit character then .ok (some (character.toNat - 48), cursor.skip 1)
      else .ok (none, cursor)
  | none => .ok (none, cursor)

/-- The header of a block scalar is its first line. -/
structure BlockHeader where
  chomping : Chomping
  increment : Option Nat
  after : Cursor

/-- The chomping and the digit may come in either order. -/
def readBlockHeader (cursor : Cursor) : Except SyntaxFault BlockHeader := do
  let (early, cursor) := readChomping cursor
  let (increment, cursor) ← readIncrement cursor
  let (chomping, cursor) :=
    if early = .clip ∧ increment.isSome then readChomping cursor else (early, cursor)
  let cursor := cursor.skipBlanks.skipComment
  match cursor.lineBreak? with
  | some (_, nextLine) => return ⟨chomping, increment, nextLine⟩
  | none =>
      if cursor.rest.isEmpty then return ⟨chomping, increment, cursor⟩
      else throw ⟨"did not find expected comment or line break", blockContext, cursor.mark⟩

/--
This function passes the empty lines before a line of a block scalar. An indentation that is not
settled yet is the widest one seen, and at least `least`.
-/
def passEmptyLines (least : Nat) (indent : Option Nat) (widest : Nat) (before : List Char) :
    Nat → Cursor → Except SyntaxFault (List Char × Nat × Cursor)
  | 0, cursor => .ok (before.reverse, indent.getD (max widest least), cursor)
  | fuel + 1, cursor =>
      let spaces := (cursor.rest.takeWhile fun character => character = ' ').length
      let passed := match indent with
        | some indent => min spaces (indent - cursor.mark.column)
        | none => spaces
      let cursor := cursor.skip passed
      let widest := max widest cursor.mark.column
      let isIndenting := match indent with
        | some indent => cursor.mark.column < indent
        | none => true
      if isIndenting && cursor.first? = some '\t' then
        .error ⟨"found a tab character where an indentation space is expected", blockContext,
          cursor.mark⟩
      else
        match cursor.lineBreak? with
        | some (mark, nextLine) =>
            passEmptyLines least indent widest (mark :: before) fuel nextLine
        | none => .ok (before.reverse, indent.getD (max widest least), cursor)

/-- A block scalar ends with a first line break and then further ones. -/
structure BlockText where
  text : List Char
  leadingBreak : List Char
  trailingBreaks : List Char
  after : Cursor

/--
This function reads the lines of a block scalar. In a folded scalar a single line break between
two lines that do not start with a blank becomes a space.
-/
def blockLines (literal : Bool) (indent : Nat) (block : BlockText) (leadingBlank : Bool) :
    Nat → Except SyntaxFault BlockText
  | 0 => .ok block
  | fuel + 1 =>
      let cursor := block.after
      if cursor.mark.column ≠ indent ∨ cursor.rest.isEmpty then .ok block
      else
        let startsWithBlank := (cursor.first?.map isBlank).getD false
        let folds :=
          !literal && block.leadingBreak = ['\n'] && !leadingBlank && !startsWithBlank
        let joint :=
          if folds then if block.trailingBreaks.isEmpty then [' '] else []
          else block.leadingBreak
        let (line, lineEnd) := cursor.span fun character => !isBreak character
        let text := block.text ++ joint ++ block.trailingBreaks ++ line
        let (leadingBreak, next) := match lineEnd.lineBreak? with
          | some (mark, next) => ([mark], next)
          | none => ([], lineEnd)
        match passEmptyLines indent (some indent) 0 [] (next.size + 1) next with
        | .error fault => .error fault
        | .ok (trailingBreaks, _, after) =>
            blockLines literal indent ⟨text, leadingBreak, trailingBreaks, after⟩ startsWithBlank
              fuel

/-- The indentation of what the scalar belongs to is `parent`, or nothing at the top. -/
def readBlock (literal : Bool) (parent : Option Nat) (cursor : Cursor) : TextRead := do
  let header ← readBlockHeader (cursor.skip 1)
  let least := match parent with
    | some indent => indent + 1
    | none => 0
  let indent := header.increment.map fun increment => parent.getD 0 + increment
  let (breaks, indent, after) ←
    passEmptyLines (max least 1) indent 0 [] (header.after.size + 1) header.after
  let block ← blockLines literal indent ⟨[], [], breaks, after⟩ false (after.size + 1)
  let leadingBreak := if header.chomping = .strip then [] else block.leadingBreak
  let trailingBreaks := if header.chomping = .keep then block.trailingBreaks else []
  return (block.text ++ leadingBreak ++ trailingBreaks, block.after)

end DeskScript.Yaml
