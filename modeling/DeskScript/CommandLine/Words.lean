/-
This file takes the words of a command line apart into options and operands.
-/

import DeskScript.Table

namespace DeskScript.CommandLine

/-- An option is a flag, or it takes a value that has to pass a test. -/
inductive OptionKind where
  | flag
  | value (accepts : String → Bool)
  /-- This option may be given several times. -/
  | values (accepts : String → Bool)

/-- An option has a name and perhaps a letter. A variable of the environment may stand for it. -/
structure OptionRule where
  name : String
  letter : Option Char
  kind : OptionKind
  standIn : Option String

/-- A grammar lists the options and the number of operands. -/
structure Grammar where
  options : List OptionRule
  operands : Nat
  /-- The version can be asked for only where no command has been given yet. -/
  hasVersion : Bool
  /-- After its operands this grammar leaves the rest of the words to a command. -/
  hasCommand : Bool

/-- Reading stops early when help or the version is asked for, or when a word is refused. -/
inductive Stop where
  | help
  | version
  | refused
  deriving DecidableEq

/-- Options are listed in the order in which they were given. Flags have an empty value. -/
structure Words where
  options : List (String × String)
  operands : List String
  rest : List String
  deriving DecidableEq

namespace Words

def empty : Words := ⟨[], [], []⟩

def has (words : Words) (name : String) : Bool := (words.options.lookup name).isSome

def value? (words : Words) (name : String) : Option String := words.options.lookup name

def values (words : Words) (name : String) : List String :=
  (words.options.filter fun entry => entry.1 = name).map Prod.snd

def addOption (words : Words) (name value : String) : Words :=
  { words with options := words.options ++ [(name, value)] }

end Words

/-! ### Single options -/

/-- An option that takes one value must not be given twice. -/
def takeValue (rule : OptionRule) (words : Words) (value : String) : Except Stop Words :=
  match rule.kind with
  | .flag => .error .refused
  | .value accepts =>
      if words.has rule.name || !accepts value then .error .refused
      else .ok (words.addOption rule.name value)
  | .values accepts =>
      if accepts value then .ok (words.addOption rule.name value) else .error .refused

def takeFlag (rule : OptionRule) (words : Words) : Except Stop Words :=
  if words.has rule.name then .error .refused else .ok (words.addOption rule.name "")

def OptionRule.isFlag (rule : OptionRule) : Bool :=
  match rule.kind with
  | .flag => true
  | _ => false

/-- After an option word an option may still wait for its value. -/
abbrev Taken := Words × Option OptionRule

namespace Grammar

def ruleNamed? (grammar : Grammar) (name : List Char) : Option OptionRule :=
  grammar.options.find? fun rule => rule.name.toList = name

def ruleLettered? (grammar : Grammar) (letter : Char) : Option OptionRule :=
  grammar.options.find? fun rule => rule.letter = some letter

/-- A long option may have its value after an equals sign. -/
def takeLong (grammar : Grammar) (words : Words) (characters : List Char) : Except Stop Taken :=
  let name := characters.takeWhile (· ≠ '=')
  let value := (characters.dropWhile (· ≠ '=')).tail?
  match grammar.ruleNamed? name, value with
  | some rule, some value =>
      (takeValue rule words (String.ofList value)).map fun words => (words, none)
  | some rule, none =>
      if rule.isFlag then (takeFlag rule words).map fun words => (words, none)
      else .ok (words, some rule)
  | none, some _ => .error .refused
  | none, none =>
      if name = "help".toList then .error .help
      else if name = "version".toList && grammar.hasVersion then .error .version
      else .error .refused

/-- This is the value of a letter that takes one, without an equals sign before it. -/
def attached : List Char → List Char
  | '=' :: value => value
  | value => value

/-- Several letters may share one word. The first of them that takes a value ends the letters. -/
def takeLetters (grammar : Grammar) : Words → List Char → Except Stop Taken
  | words, [] => .ok (words, none)
  | words, letter :: rest =>
      match grammar.ruleLettered? letter with
      | some rule =>
          if rule.isFlag then do
            grammar.takeLetters (← takeFlag rule words) rest
          else if rest.isEmpty then .ok (words, some rule)
          else
            (takeValue rule words (String.ofList (attached rest))).map fun words => (words, none)
      | none =>
          if letter = 'h' then .error .help
          else if letter = 'V' && grammar.hasVersion then .error .version
          else .error .refused

/-! ### All words -/

/-- Operands are names of files, which are not empty. -/
def takeOperand (grammar : Grammar) (words : Words) (word : String) : Except Stop Words :=
  if words.operands.length < grammar.operands && word ≠ "" then
    .ok { words with operands := words.operands ++ [word] }
  else .error .refused

/-- After two dashes all words are operands. -/
def takeOperands (grammar : Grammar) (words : Words) : List String → Except Stop Words
  | [] => .ok words
  | word :: rest => do
      grammar.takeOperands (← grammar.takeOperand words word) rest

/-- A word with a dash before other characters is an option. -/
def isOptionWord (word : String) : Bool :=
  match word.toList with
  | '-' :: _ :: _ => true
  | _ => false

def takeOption (grammar : Grammar) (words : Words) (word : String) : Except Stop Taken :=
  match word.toList with
  | '-' :: '-' :: name => grammar.takeLong words name
  | _ :: letters => grammar.takeLetters words letters
  | [] => .error .refused

/-- The words are taken from the first to the last. An option may wait for the next word. -/
def take (grammar : Grammar) : Option OptionRule → Words → List String → Except Stop Words
  | none, words, [] => .ok words
  | some _, _, [] => .error .refused
  | waiting, words, word :: rest =>
      if word = "--" then
        if waiting.isSome || grammar.hasCommand && !rest.isEmpty then .error .refused
        else grammar.takeOperands words rest
      else if isOptionWord word then
        match waiting with
        | some _ => .error .refused
        | none => do
            let (words, waiting) ← grammar.takeOption words word
            grammar.take waiting words rest
      else
        match waiting with
        | some rule => do grammar.take none (← takeValue rule words word) rest
        | none =>
            if grammar.hasCommand then .ok { words with rest := word :: rest }
            else do grammar.take none (← grammar.takeOperand words word) rest

/-! ### The environment -/

/-- A variable stands for an option that was not given. -/
def takeVariable (environment : Table String) (words : Words) (rule : OptionRule) :
    Except Stop Words :=
  match rule.standIn.bind environment.find? with
  | some value => if words.has rule.name then .ok words else takeValue rule words value
  | none => .ok words

/-- After the words the environment is looked at. -/
def complete (grammar : Grammar) (environment : Table String) (words : Words) :
    Except Stop Words :=
  grammar.options.foldlM (takeVariable environment) words

end Grammar

end DeskScript.CommandLine
