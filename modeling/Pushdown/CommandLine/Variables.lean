import Pushdown.Settings
import Pushdown.Text.Letter

/-!
# Variables from a file

A file can add variables to the environment, one per line: a name, an equals sign and a value. The
word `export` may stand in front, and what follows a hash behind a blank is a comment. Quotes keep
blanks together; outside single quotes a backslash takes the next character as it is, and a dollar
sign puts in the value of another variable. A variable that is already there is not changed.

The lines are read in order up to the first that cannot be read; what was read before it counts.
-/

namespace Pushdown.CommandLine

/-- An environment with one more variable, unless it is there already. -/
def withVariable (environment : Environment) (name value : String) : Environment :=
  if (environment name).isSome then environment
  else fun other => if other = name then some value else environment other

/-! ### Values -/

/-- **Where a value is being read.** -/
inductive ValueMode where
  /-- Outside of quotes. -/
  | plain
  /-- Between double quotes. -/
  | double
  /-- Between single quotes. -/
  | single
  /-- Behind a blank that ends the value. -/
  | ended
  deriving DecidableEq, Repr

/-- A character that a backslash may stand in front of. -/
def escapedChar? : Char → Option Char
  | 'n' => some '\n'
  | c => if c = '\\' ∨ c = '\'' ∨ c = '"' ∨ c = '$' ∨ c = ' ' then some c else none

/-- The value of a variable, nothing if it is not there. -/
def substituted (environment : Environment) (name : List Char) : List Char :=
  ((environment (String.ofList name)).getD "").toList

/-- The name of a variable behind a dollar sign, in braces or as far as letters and digits go, and
what follows it. -/
def variableName? : List Char → Option (List Char × List Char)
  | '{' :: cs =>
    match Text.splitFirst '}' cs with
    | some parts => some parts
    | none => none
  | cs => some (cs.takeWhile Text.isAlphanumeric, cs.dropWhile Text.isAlphanumeric)

/-- **The value ahead**, or nothing if it cannot be read. -/
def valueOf (environment : Environment) : (allowance : Nat) → ValueMode → List Char →
    Option (List Char)
  | 0, _, _ => none
  | _ + 1, .plain, [] => some []
  | _ + 1, .ended, [] => some []
  | _ + 1, _, [] => none
  | allowance + 1, .ended, c :: cs =>
    if c = ' ' ∨ c = '\t' then valueOf environment allowance .ended cs
    else if c = '#' then some []
    else none
  | allowance + 1, .single, c :: cs =>
    if c = '\'' then valueOf environment allowance .plain cs
    else (valueOf environment allowance .single cs).map (c :: ·)
  | allowance + 1, mode, c :: cs =>
    if c = '$' then do
      let (name, rest) ← variableName? cs
      let more ← valueOf environment allowance mode rest
      return substituted environment name ++ more
    else if c = '\\' then
      match cs with
      | [] => if mode = .plain then some [] else none
      | e :: rest => do
        let c ← escapedChar? e
        (valueOf environment allowance mode rest).map (c :: ·)
    else if c = '"' then
      valueOf environment allowance (if mode = .double then .plain else .double) cs
    else if mode = .plain ∧ c = '\'' then valueOf environment allowance .single cs
    else if mode = .plain ∧ (c = ' ' ∨ c = '\t') then valueOf environment allowance .ended cs
    else (valueOf environment allowance mode cs).map (c :: ·)

/-! ### Lines -/

/-- A character that a name can start with. -/
def startsName (c : Char) : Bool := c.isAlpha || c == '_'

/-- A character that a name can go on with. -/
def continuesName (c : Char) : Bool := c.isAlphanum || c == '_'

/-- A name, and what follows it and blanks. -/
def nameAhead? : List Char → Option (List Char × List Char)
  | c :: cs =>
    if startsName c then
      some (c :: cs.takeWhile continuesName, Text.trimStart (cs.dropWhile continuesName))
    else none
  | [] => none

/-- What follows an equals sign. -/
def afterEquals? : List Char → Option (List Char)
  | '=' :: cs => some cs
  | _ => none

/-- The name of a line's variable, and what follows the equals sign. -/
def nameOfLine? (cs : List Char) : Option (List Char × List Char) := do
  let (name, rest) ← nameAhead? cs
  match afterEquals? rest with
  | some value => return (name, value)
  | none =>
    if name = "export".toList then do
      let (name, rest) ← nameAhead? rest
      return (name, ← afterEquals? rest)
    else none

/-- **What a line adds**: nothing for a blank line or a comment. -/
def lineVariable? (environment : Environment) (line : List Char) :
    Option (Option (String × String)) :=
  match Text.trim line with
  | [] => some none
  | '#' :: _ => some none
  | cs => do
    let (name, rest) ← nameOfLine? cs
    match Text.trimStart rest with
    | [] => return some (String.ofList name, "")
    | '#' :: _ => return some (String.ofList name, "")
    | value =>
      let text ← valueOf environment (value.length + 1) .plain value
      return some (String.ofList name, String.ofList text)

/-- The environment with the variables of lines. -/
def withLines (environment : Environment) : List (List Char) → Environment
  | [] => environment
  | line :: rest =>
    match lineVariable? environment line with
    -- a line that cannot be read ends the file
    | none => environment
    | some none => withLines environment rest
    | some (some (name, value)) => withLines (withVariable environment name value) rest

/-- **The environment with the variables of a file's text.** -/
def withVariables (environment : Environment) (text : String) : Environment :=
  withLines environment (Text.lines text.toList)

end Pushdown.CommandLine
