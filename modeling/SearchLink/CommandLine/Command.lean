import SearchLink.CommandLine.Parameter
import SearchLink.Template.Lint

/-!
# `SearchLink.CommandLine.Command`: reading a command line

An option is a word behind two hyphens or a letter behind one. Its value follows behind an
equals sign, is the next argument, or stands right behind the letter. An argument that looks
like an option is never taken for a value, and two hyphens alone end the options.

A value that was the next argument is recorded only when another option comes, or the end: what
is wrong with it may be passed over in favour of a later fault.
-/

set_option autoImplicit false

namespace SearchLink.CommandLine

/-- What can be wrong with a command line. -/
inductive UsageError where
  /-- The argument is no option, or stands where nothing may stand. -/
  | unexpectedArgument (argument : Text)
  /-- There is no such command. -/
  | unknownCommand (name : Text)
  /-- The value of the parameter is missing. -/
  | valueMissing (p : Parameter)
  /-- The parameter has a value and should have none. -/
  | valueUnexpected (p : Parameter) (value : Text)
  /-- The parameter is given twice. -/
  | givenTwice (p : Parameter)
  /-- A parameter is missing. -/
  | parameterMissing
  deriving Repr, DecidableEq

/-- The wording of an error. -/
def UsageError.message : UsageError → Text
  | .unexpectedArgument argument => "unexpected argument '".toList ++ argument ++ "' found".toList
  | .unknownCommand name => "unrecognized subcommand '".toList ++ name ++ ['\x27']
  | .valueMissing p =>
    "a value is required for '".toList ++ p.label ++ "' but none was supplied".toList
  | .valueUnexpected p value =>
    "unexpected value '".toList ++ value ++ "' for '".toList ++ p.label ++
      "' found; no more were expected".toList
  | .givenTwice p =>
    "the argument '".toList ++ p.label ++ "' cannot be used multiple times".toList
  | .parameterMissing => "the following required arguments were not provided:".toList

/-- Why a command line is no command. -/
inductive Interruption where
  /-- It asks for help. -/
  | help
  /-- It is wrong. -/
  | misuse (e : UsageError)
  deriving Repr, DecidableEq

/-! ### Arguments -/

/-- An argument by its looks. -/
inductive Argument where
  /-- Two hyphens alone. -/
  | separator
  /-- A word behind two hyphens, and a value behind an equals sign. -/
  | word (name : Text) (value : Option Text)
  /-- Letters behind one hyphen. -/
  | letters (cs : Text)
  /-- Anything else; a hyphen alone too. -/
  | plain
  deriving Repr, DecidableEq

/-- What an argument looks like. -/
def Argument.ofText : Text → Argument
  | ['-', '-'] => .separator
  | '-' :: '-' :: t =>
    .word (t.takeWhile (· ≠ '='))
      (match t.dropWhile (· ≠ '=') with
        | _ :: value => some value
        | [] => none)
  | '-' :: c :: r => .letters (c :: r)
  | _ => .plain

/-! ### Options -/

/-- The options that have been read in front of a command, or behind it. -/
structure Options where
  /-- The parameters with their values; a parameter without a value has an empty one. -/
  given : List (Parameter × Text) := []
  /-- The last parameter, with its value if that has come, until it is recorded. -/
  pending : Option (Parameter × Option Text) := none
  deriving Repr, DecidableEq

namespace Options

/-- The value of a parameter. -/
def value? (o : Options) (p : Parameter) : Option Text := o.given.lookup p

/-- Records a parameter. -/
def record (o : Options) (p : Parameter) (value : Text) : Except Interruption Options :=
  if (o.value? p).isSome then .error (.misuse (.givenTwice p))
  else .ok { o with given := o.given ++ [(p, value)] }

/-- Records what is pending. -/
def settle (o : Options) : Except Interruption Options :=
  match o.pending with
  | none => .ok o
  | some (p, none) => .error (.misuse (.valueMissing p))
  | some (p, some value) => { o with pending := none }.record p value

/-- Reads a parameter whose value is at hand. -/
def give (o : Options) (p : Parameter) (value : Text) : Except Interruption Options := do
  (← o.settle).record p value

/-- Reads a parameter whose value is the next argument. -/
def await (o : Options) (p : Parameter) : Except Interruption Options := do
  return { ← o.settle with pending := some (p, none) }

/-- Reads a parameter that has no value. -/
def switch (o : Options) (p : Parameter) : Except Interruption Options :=
  if p = .help then o.settle >>= fun _ => .error .help else o.give p []

/-- Reads a word behind two hyphens. -/
def readWord (place : Option CommandName) (o : Options) (name : Text) (value : Option Text) :
    Except Interruption Options :=
  match Parameter.ofWord? place name with
  | none => .error (.misuse (.unexpectedArgument ('-' :: '-' :: name)))
  | some p =>
    match p.placeholder?, value with
    | some _, some value => o.give p value
    | some _, none => o.await p
    | none, some value => .error (.misuse (.valueUnexpected p value))
    | none, none => o.switch p

/-- Reads letters behind one hyphen. What stands behind the letter of a parameter with a value
is the value, with or without an equals sign in front of it. -/
def readLetters (place : Option CommandName) (o : Options) : Text → Except Interruption Options
  | [] => .ok o
  | c :: r =>
    match Parameter.ofLetter? place c with
    | none => .error (.misuse (.unexpectedArgument ['-', c]))
    | some p =>
      match p.placeholder?, r with
      | some _, [] => o.await p
      | some _, '=' :: value => o.give p value
      | some _, value => o.give p value
      | none, r => do readLetters place (← o.switch p) r

end Options

/-- What is wrong with an argument that is neither an option nor a value. -/
def misplaced (place : Option CommandName) (argument : Text) : UsageError :=
  match place with
  | none => .unknownCommand argument
  | some _ => .unexpectedArgument argument

/-- What is wrong with an argument behind two hyphens. -/
def misplacedBehindSeparator (place : Option CommandName) (argument : Text) : UsageError :=
  if argument = helpWord || (CommandName.ofText? argument).isSome then
    .unexpectedArgument argument
  else misplaced place argument

/-- Reads options up to the end of the arguments, or up to a word in the place of a command,
which is returned with the arguments behind it. -/
def readOptions (place : Option CommandName) (o : Options) :
    List Text → Except Interruption (Options × Option (Text × List Text))
  | [] => .ok (o, none)
  | a :: rest =>
    match Argument.ofText a with
    | .separator =>
      match rest with
      | [] => .ok (o, none)
      | b :: _ => .error (.misuse (misplacedBehindSeparator place b))
    | .word name value => do readOptions place (← o.readWord place name value) rest
    | .letters cs => do readOptions place (← o.readLetters place cs) rest
    | .plain =>
      match o.pending with
      | some (p, none) => readOptions place { o with pending := some (p, some a) } rest
      | _ => if place.isNone then .ok (o, some (a, rest)) else .error (.misuse (misplaced place a))

/-! ### Commands -/

/-- A command with everything that it needs. -/
inductive Command where
  /-- Answers requests for the engines in a file, at an address. -/
  | serve (file address : Text)
  /-- Fills in a template. -/
  | expand (template variableName value : Text) (encode : Bool)
  /-- Checks the templates of the engines in a file. -/
  | lint (file : Text)
  deriving Repr, DecidableEq

namespace Command

/-- The file that describes the engines, unless another one is given. -/
def defaultFile : Text := "engines.yml".toList

/-- The address to answer requests at, unless another one is given. -/
def defaultAddress : Text := "127.0.0.1:8000".toList

/-- The command that a name and options stand for. An option behind the command counts more than
the same one in front of it. -/
def ofOptions (name : CommandName) (outer inner : Options) : Command :=
  let value (p : Parameter) (standard : Text) : Text :=
    ((inner.value? p).or (outer.value? p)).getD standard
  match name with
  | .serve => .serve (value .engines defaultFile) (value .bind defaultAddress)
  | .lint => .lint (value .engines defaultFile)
  | .expand =>
    .expand (value .template []) (value .variableName Template.searchTerms) (value .text [])
      (inner.value? .noEncode).isNone

/-- Reads a request for help on some commands. No command has commands of its own. -/
def readHelp : List Text → Interruption
  | [] => .help
  | a :: rest =>
    if a ≠ helpWord && (CommandName.ofText? a).isNone then .misuse (.unknownCommand a)
    else
      match rest with
      | [] => .help
      | b :: _ => .misuse (.unknownCommand b)

/-- Reads the arguments behind a command. -/
def readBehind (name : CommandName) (arguments : List Text) : Except Interruption Options := do
  let o ← (← readOptions (some name) {} arguments).1.settle
  if (Parameter.required name).all fun p => (o.value? p).isSome then return o
  else throw (.misuse .parameterMissing)

/-- Reads a command line. Without a command, requests are answered. -/
def parse (arguments : List Text) : Except Interruption Command := do
  let (outer, command) ← readOptions none {} arguments
  match command with
  | none => return ofOptions .serve (← outer.settle) {}
  | some (word, rest) =>
    if word = helpWord then throw (readHelp rest)
    match CommandName.ofText? word with
    | none => throw (.misuse (misplaced none word))
    | some name =>
      let inner ← readBehind name rest
      return ofOptions name (← outer.settle) inner

/-- The file that a command reads. -/
def file? : Command → Option Text
  | .serve file _ => some file
  | .expand _ _ _ _ => none
  | .lint file => some file

end Command

end SearchLink.CommandLine
