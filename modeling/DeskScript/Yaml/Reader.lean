/-
This file gives the nodes of a YAML document their meaning as a JSON value.
-/

import DeskScript.Json.Basic
import DeskScript.Text.Printable
import DeskScript.Yaml.Node

namespace DeskScript.Yaml

/-- A text is refused for its octets, its syntax, or a node that no JSON value stands for. -/
inductive ReadError where
  | encoding (fault : EncodingFault)
  | structural (fault : StructureFault)
  | meaning (reason : String) (start : Mark)
  | tooDeep (start : Mark)
  | tooManyAliases
  | moreThanOneDocument
  deriving DecidableEq

def ReadError.message : ReadError → String
  | .encoding fault => fault.message
  | .structural (.grammar fault) => fault.message
  | .structural (.unknownAnchor start) => located "unknown anchor" start
  | .meaning reason start => located reason start
  | .tooDeep start => located "recursion limit exceeded" start
  | .tooManyAliases => "repetition limit exceeded"
  | .moreThanOneDocument =>
      "deserializing from YAML containing more than one document is not supported"

/-- The text itself is at fault when the message tells a place in it or is about its references. -/
def ReadError.isAboutText : ReadError → Bool
  | .structural (.grammar fault) => fault.mark.isKnown
  | .structural (.unknownAnchor _) => true
  | .meaning _ start => start.isKnown
  | .tooDeep _ => true
  | _ => false

/-! ### Plain scalars -/

def isNullWord (text : String) : Bool :=
  text = "null" || text = "Null" || text = "NULL" || text = "~"

def boolWord? (text : String) : Option Bool :=
  if text = "true" || text = "True" || text = "TRUE" then some true
  else if text = "false" || text = "False" || text = "FALSE" then some false
  else none

def dropSign : List Char → List Char
  | '-' :: rest => rest
  | '+' :: rest => rest
  | characters => characters

def startsSigned : List Char → Bool
  | '-' :: _ => true
  | '+' :: _ => true
  | _ => false

/-- Digits after a leading zero do not make a number. -/
def isZeroPadded (characters : List Char) : Bool :=
  match dropSign characters with
  | '0' :: rest => !rest.isEmpty && rest.all Decimal.isDecimalDigit
  | _ => false

/-- A letter after a zero tells the radix of the digits that follow. -/
def radixDigits? : List Char → Option (Nat × List Char)
  | '0' :: 'x' :: digits => some (16, digits)
  | '0' :: 'o' :: digits => some (8, digits)
  | '0' :: 'b' :: digits => some (2, digits)
  | _ => none

/-- This is the value of a number with at most one plus sign that lies below `bound`. -/
def unsigned? (bound : Nat) (characters : List Char) : Option Nat :=
  let body := match characters with
    | '+' :: rest => rest
    | _ => characters
  let fromRadix := (radixDigits? body).bind fun (radix, digits) =>
    if startsSigned digits then none else Decimal.natBelow? radix bound digits
  match fromRadix with
  | some value => some value
  | none =>
      if startsSigned body || isZeroPadded characters then none
      else Decimal.natBelow? 10 bound body

/-- This is the value of a number that lies in `-bound ≤ value < bound`. -/
def signed? (bound : Nat) (characters : List Char) : Option Int :=
  let fromRadix := match characters with
    | '-' :: body =>
        (radixDigits? body).bind fun (radix, digits) =>
          Decimal.intWithin? radix bound ('-' :: digits)
    | _ => none
  match fromRadix with
  | some value => some value
  | none => if isZeroPadded characters then none else Decimal.intWithin? 10 bound characters

/-- A whole number is read with 64 bits. One that needs up to 128 bits has no JSON value. -/
inductive WholeWord where
  | fits (value : Int)
  | tooLarge

def wholeWord? (characters : List Char) : Option WholeWord :=
  match unsigned? (2 ^ 64) characters with
  | some value => some (.fits value)
  | none =>
      match signed? (2 ^ 63) characters with
      | some value => some (.fits value)
      | none =>
          if (unsigned? (2 ^ 128) characters).isSome || (signed? (2 ^ 127) characters).isSome then
            some .tooLarge
          else none

/-- Infinities and what is not a number have words of their own, and no JSON value but null. -/
def isFloatWord (text : String) : Bool :=
  [".inf", ".Inf", ".INF", "+.inf", "+.Inf", "+.INF", "-.inf", "-.Inf", "-.INF", ".nan", ".NaN",
    ".NAN"].contains text

/-- A double that is a decimal number has to be finite. -/
def floatWord? (text : String) : Option Json :=
  if isFloatWord text then some .null
  else
    let body := match text.toList with
      | '+' :: rest => if startsSigned rest then none else some rest
      | characters => some characters
    ((body.bind Decimal.float?).filter Float.isFinite).map Json.decimal

/-- This is the JSON value of a scalar, or why it has none. -/
abbrev ScalarValue := Except String Json

def wholeValue : WholeWord → ScalarValue
  | .fits value => .ok (.whole value)
  | .tooLarge => .error "JSON number out of range"

/-- A plain scalar is a text unless it is written as null, as a truth value or as a number. -/
def plainValue (text : String) : ScalarValue :=
  if text.isEmpty || isNullWord text then .ok .null
  else
    match boolWord? text with
    | some value => .ok (.bool value)
    | none =>
        match wholeWord? text.toList with
        | some word => wholeValue word
        | none =>
            if isZeroPadded text.toList then .ok (.string text)
            else .ok ((floatWord? text).getD (.string text))

/-! ### Tags -/

/-- A tag of one's own starts with an exclamation mark. -/
def isOwnTag (tag : Option String) : Bool :=
  (tag.bind fun tag => tag.toList.head?) = some '!'

def ownTagReason : String :=
  "invalid type: enum, expected any valid JSON value"

def wrongValue (text expected : String) : ScalarValue :=
  .error ("invalid value: string " ++ Text.quoted text ++ ", expected " ++ expected)

/-- Some tags ask for a value of a kind. A scalar with any other tag is a text. -/
def taggedValue (tag text : String) : ScalarValue :=
  if tag = "tag:yaml.org,2002:bool" then
    match boolWord? text with
    | some value => .ok (.bool value)
    | none => wrongValue text "a boolean"
  else if tag = "tag:yaml.org,2002:int" then
    match wholeWord? text.toList with
    | some word => wholeValue word
    | none => wrongValue text "an integer"
  else if tag = "tag:yaml.org,2002:float" then
    match floatWord? text with
    | some value => .ok value
    | none => wrongValue text "a float"
  else if tag = "tag:yaml.org,2002:null" then
    if isNullWord text then .ok .null else wrongValue text "null"
  else .ok (.string text)

def scalarValue (tag : Option String) (style : ScalarStyle) (text : String) : ScalarValue :=
  match tag with
  | some tag => taggedValue tag text
  | none => if style = .plain then plainValue text else .ok (.string text)

/-! ### Nodes -/

/-- The aliases that have been followed so far are counted. -/
abbrev Meaning := StateT Nat (Except ReadError)

/-- A document of so many marks may follow a hundred times as many aliases. -/
structure DocumentContext where
  anchors : Anchors
  aliasLimit : Nat

namespace DocumentContext

/-- This function follows an alias. -/
def follow (context : DocumentContext) (number : Nat) : Meaning Node := do
  let count := (← get) + 1
  set count
  if context.aliasLimit < count then throw .tooManyAliases
  match context.anchors.node? number with
  | some node => return node
  | none => throw (.structural (.unknownAnchor default))

/-- A key has to be a scalar, whose text it is. -/
def keyText (context : DocumentContext) (key : Node) : Meaning String := do
  let node ← match key with
    | .alias number => context.follow number
    | node => pure node
  match node with
  | .scalar _ _ _ text => return text
  | .sequence start .. => throw (.meaning "invalid type: sequence, expected a string key" start)
  | .mapping start .. => throw (.meaning "invalid type: map, expected a string key" start)
  | .broken fault => throw (.structural fault)
  | .alias _ => throw (.structural (.unknownAnchor default))

/-- Collections may be nested up to a depth. An alias counts as what it refers to. -/
def value (context : DocumentContext) : Nat → Node → Meaning Json
  | depth, node => do
    let node ← match node with
      | .alias number => context.follow number
      | node => pure node
    match node with
    | .alias _ => throw (.structural (.unknownAnchor default))
    | .broken fault => throw (.structural fault)
    | .scalar start tag style text =>
        if isOwnTag tag then throw (.meaning ownTagReason start)
        else
          match scalarValue tag style text with
          | .ok value => return value
          | .error reason => throw (.meaning reason start)
    | .sequence start tag items =>
        if isOwnTag tag then throw (.meaning ownTagReason start)
        else
          match depth with
          | 0 => throw (.tooDeep start)
          | depth + 1 => return .array (← items.mapM (value context depth))
    | .mapping start tag entries =>
        if isOwnTag tag then throw (.meaning ownTagReason start)
        else
          match depth with
          | 0 => throw (.tooDeep start)
          | depth + 1 =>
              let members ← entries.mapM fun (key, item) => do
                let key ← context.keyText key
                return (key, ← value context depth item)
              return .object members

end DocumentContext

/-- Collections may be nested this deep. -/
def depthLimit : Nat := 128

/-- This is the value of the first document of a text, which has to be the only one. -/
def valueOfText (text : List Char) : Except ReadError Json := do
  let reading := firstDocument text
  match reading.root with
  | none => return .null
  | some root =>
      let context : DocumentContext := ⟨reading.anchors, 100 * root.size⟩
      let (value, _) ← (context.value depthLimit root).run 0
      match reading.after with
      | .nothing => return value
      | .more => throw .moreThanOneDocument
      | .fault fault => throw (.structural (.grammar fault))

/-- This is the value of a YAML file. -/
def read (content : ByteArray) : Except ReadError Json :=
  match charactersOf content with
  | .error fault => .error (.encoding fault)
  | .ok text => valueOfText text

end DeskScript.Yaml
