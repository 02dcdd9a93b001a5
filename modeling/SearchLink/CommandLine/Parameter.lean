import SearchLink.Text.Basic

/-!
# `SearchLink.CommandLine.Parameter`: what a command line may hold

The program has three commands, and parameters that are written as options. Two parameters go
with every command and may stand in front of it as well.
-/

set_option autoImplicit false

namespace SearchLink.CommandLine

/-- The commands. -/
inductive CommandName where
  /-- Answers requests. -/
  | serve
  /-- Fills in one template. -/
  | expand
  /-- Checks the templates of a catalog. -/
  | lint
  deriving Repr, DecidableEq

/-- The command of a name. -/
def CommandName.ofText? (t : Text) : Option CommandName :=
  match String.ofList t with
  | "serve" => some .serve
  | "expand" => some .expand
  | "lint" => some .lint
  | _ => none

/-- The word that asks for help where a command may stand. -/
def helpWord : Text := "help".toList

/-- What is written as an option. -/
inductive Parameter where
  /-- The file that describes the engines. -/
  | engines
  /-- The address to answer requests at. -/
  | bind
  /-- The template to fill in. -/
  | template
  /-- The text to fill in. -/
  | text
  /-- The name of the variable that stands for the text. -/
  | variableName
  /-- Whether to leave the text as it is. -/
  | noEncode
  /-- Whether to explain the command line. -/
  | help
  deriving Repr, DecidableEq

namespace Parameter

/-- The word behind two hyphens. -/
def word : Parameter → String
  | engines => "engines"
  | bind => "bind"
  | template => "template"
  | text => "text"
  | variableName => "variable"
  | noEncode => "no-encode"
  | help => "help"

/-- The letter behind one hyphen. -/
def letter? : Parameter → Option Char
  | engines => some 'e'
  | bind => some 'b'
  | template => some 't'
  | text => some 'x'
  | variableName => some 'v'
  | noEncode => none
  | help => some 'h'

/-- What is written in place of the value where the parameter is described; a parameter without
it has no value. -/
def placeholder? : Parameter → Option String
  | engines => some "ENGINES"
  | bind => some "ADDRESS"
  | template => some "TEMPLATE"
  | text => some "TEXT"
  | variableName => some "NAME"
  | noEncode => none
  | help => none

/-- The parameter as it is written in messages. -/
def label (p : Parameter) : Text :=
  '-' :: '-' :: p.word.toList ++
    match p.placeholder? with
    | some placeholder => " <".toList ++ placeholder.toList ++ ['>']
    | none => []

/-- The parameters in front of a command, or behind one. -/
def known : Option CommandName → List Parameter
  | some .expand => [engines, bind, template, text, variableName, noEncode, help]
  | _ => [engines, bind, help]

/-- The parameters that a command cannot do without. -/
def required : CommandName → List Parameter
  | .expand => [template, text]
  | _ => []

/-- The parameter of a word. -/
def ofWord? (place : Option CommandName) (word : Text) : Option Parameter :=
  (known place).find? fun p => p.word.toList = word

/-- The parameter of a letter. -/
def ofLetter? (place : Option CommandName) (letter : Char) : Option Parameter :=
  (known place).find? fun p => p.letter? = some letter

end Parameter

end SearchLink.CommandLine
