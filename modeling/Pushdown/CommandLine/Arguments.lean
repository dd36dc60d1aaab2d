import Pushdown.Text.Blank

/-!
# Arguments

A run is asked for by the file of a dataset and a statement, in this order; options may stand
anywhere. Arguments are read from left to right. A value that an argument brings is only taken up
when the next argument needs its place or when there are no more, so of two faults the earlier one
may be reported second; `settle` is the point where a value is taken up.
-/

namespace Pushdown.CommandLine

/-- **What a run is asked for.** -/
structure Arguments where
  /-- The file of the dataset. -/
  dataset : String
  /-- The statement. -/
  sql : String
  /-- Rows are written as JSON lines. -/
  json : Bool
  /-- The file to write rows to. -/
  out : Option String
  deriving DecidableEq, Repr

/-- **Why there is no run.** Two of the causes are requests for information. -/
inductive UsageError where
  /-- The help was asked for. -/
  | help
  /-- The version was asked for. -/
  | version
  /-- The dataset or the statement is not given. -/
  | missing
  /-- There is no such argument. -/
  | unknown (argument : String)
  /-- A value is missing or empty. -/
  | badValue (argument : String)
  /-- A value is given where none is taken. -/
  | extraValue (argument : String)
  /-- An option is given twice. -/
  | conflict (argument : String)
  deriving DecidableEq, Repr

/-- A value that is not taken up yet. -/
inductive Pending where
  /-- There is none. -/
  | none
  /-- The option for a file to write to, its value still to come. -/
  | out
  /-- The value of that option. -/
  | outValue (value : String)
  /-- The file of the dataset. -/
  | dataset (value : String)
  /-- The statement. -/
  | sql (value : String)
  deriving DecidableEq, Repr

/-- **How far the arguments have been read.** -/
structure Scan where
  /-- Rows are written as JSON lines. -/
  json : Bool
  /-- The file to write rows to. -/
  out : Option String
  /-- The file of the dataset. -/
  dataset : Option String
  /-- The statement. -/
  sql : Option String
  /-- How many arguments stood in a position. -/
  positions : Nat
  /-- Options have come to an end. -/
  optionsOver : Bool
  /-- The value that is not taken up yet. -/
  pending : Pending
  deriving DecidableEq, Repr

/-- Before the first argument. -/
def Scan.start : Scan := ⟨false, none, none, none, 0, false, .none⟩

/-- Takes up the file to write to. -/
def Scan.withOut (p : Scan) (value : String) : Except UsageError Scan :=
  if p.out.isSome then .error (.conflict "--out")
  else if value = "" then .error (.badValue "--out")
  else .ok { p with out := some value, pending := .none }

/-- **Takes up the value that is pending.** A file has a name that is not empty. -/
def Scan.settle (p : Scan) : Except UsageError Scan :=
  match p.pending with
  | .none => .ok p
  | .out => .error (.badValue "--out")
  | .outValue value => p.withOut value
  | .dataset value =>
    if value = "" then .error (.badValue "the dataset")
    else .ok { p with dataset := some value, pending := .none }
  | .sql value => .ok { p with sql := some value, pending := .none }

/-- An option by its long name, with the value attached to it. -/
def Scan.longOption (p : Scan) (argument name : String) (attached : Option String) :
    Except UsageError Scan :=
  if name = "out" then do
    let p ← p.settle
    match attached with
    | some value => p.withOut value
    | none => return { p with pending := .out }
  else if name = "json" ∨ name = "help" ∨ name = "version" then
    if attached.isSome then .error (.extraValue argument)
    else do
      let p ← p.settle
      if name = "help" then throw .help
      if name = "version" then throw .version
      if p.json then throw (.conflict "--json")
      return { p with json := true }
  else .error (.unknown argument)

/-- An option by its short name. -/
def Scan.shortOption (p : Scan) (argument : String) (name : Char) :
    Except UsageError Scan := do
  if name = 'h' then
    let _ ← p.settle
    throw .help
  else if name = 'V' then
    let _ ← p.settle
    throw .version
  else throw (.unknown argument)

/-- An argument in a position. -/
def Scan.positional (p : Scan) (argument : String) : Except UsageError Scan :=
  match p.positions with
  | 0 => p.settle.map fun p => { p with positions := 1, pending := .dataset argument }
  | 1 => p.settle.map fun p => { p with positions := 2, pending := .sql argument }
  | _ => .error (.unknown argument)

/-- An argument that is no option. -/
def Scan.value (p : Scan) (argument : String) : Except UsageError Scan :=
  match p.pending with
  | .out => .ok { p with pending := .outValue argument }
  | _ => p.positional argument

/-- **One more argument.** Two hyphens end the options. -/
def Scan.next (p : Scan) (argument : String) : Except UsageError Scan :=
  if p.optionsOver then p.positional argument
  else
    match argument.toList with
    | ['-', '-'] => .ok { p with optionsOver := true }
    | '-' :: '-' :: rest =>
      match Text.splitFirst '=' rest with
      | some (name, value) =>
        p.longOption argument (String.ofList name) (some (String.ofList value))
      | none => p.longOption argument (String.ofList rest) none
    | '-' :: name :: _ => p.shortOption argument name
    | _ => p.value argument

/-- **The arguments of a run.** -/
def Arguments.read (arguments : List String) : Except UsageError Arguments := do
  let p ← arguments.foldlM Scan.next .start
  let p ← p.settle
  match p.dataset, p.sql with
  | some dataset, some sql => return ⟨dataset, sql, p.json, p.out⟩
  | _, _ => throw .missing

end Pushdown.CommandLine
