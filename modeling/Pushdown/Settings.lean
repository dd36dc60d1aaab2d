import Pushdown.Json.Excerpt
import Pushdown.Plan
import Pushdown.Text.Blank

/-!
# Settings

The engine has four settings: the default limit of stores, the time a request may take, how much is
logged, and adjustments to what single remote sides can do. They have defaults, a file can change
them, and variables of the environment come last.

The file is JSON. An object names the settings, each at most once, and may hold other entries, which
are skipped; an array gives the settings in their order. A setting that the file leaves out keeps
its default. If one value is not of its kind the whole file counts for nothing.
-/

namespace Pushdown

open Number

/-! ### Adjustments -/

/-- **Adjustments to capabilities.** What is left out stays as it is. -/
structure Overrides where
  /-- Whether the remote side filters. -/
  filter : Option Bool
  /-- Whether the remote side sorts. -/
  sort : Option Bool
  /-- Whether the remote side limits. -/
  limit : Option Bool
  /-- Whether the remote side skips. -/
  offset : Option Bool
  /-- The ceiling of the window. -/
  windowCeiling : Option Nat
  /-- The default limit. -/
  defaultLimit : Option Nat
  deriving DecidableEq, Repr

/-- No adjustment. -/
def Overrides.unchanged : Overrides := ⟨none, none, none, none, none, none⟩

/-- **Capabilities after adjustment.** -/
def Overrides.apply (o : Overrides) (base : Capabilities) : Capabilities where
  filter := o.filter.getD base.filter
  sort := o.sort.getD base.sort
  limit := o.limit.getD base.limit
  offset := o.offset.getD base.offset
  windowCeiling := o.windowCeiling.or base.windowCeiling
  defaultLimit := o.defaultLimit.or base.defaultLimit

@[simp] theorem Overrides.apply_unchanged (base : Capabilities) :
    Overrides.unchanged.apply base = base := rfl

/-! ### Settings -/

/-- **The settings of the engine.** -/
structure Settings where
  /-- The limit of a request to a store that would otherwise have none. -/
  defaultLimit : Nat
  /-- How many seconds a request may take. -/
  timeoutSeconds : Nat
  /-- How much is logged. -/
  logLevel : String
  /-- Adjustments by the name of the remote side. -/
  targets : List (String × Overrides)
  deriving DecidableEq, Repr

/-- The settings without file and environment. -/
def Settings.standard : Settings := ⟨100, 30, "info", []⟩

/-- The adjustments for a remote side: the last that are given for its name. -/
def Settings.overrides? (s : Settings) (target : String) : Option Overrides :=
  (s.targets.reverse.find? (·.1 == target)).map (·.2)

/-- **What a remote side can do under the settings.** -/
def Settings.capabilitiesFor (s : Settings) (target : String) (base : Capabilities) :
    Capabilities :=
  match s.overrides? target with
  | some o => o.apply base
  | none => base

/-! ### Reading a file -/

/-- The values of named entries: of an object the value under each name, of an array the value at
each position. Every name has at most one value, and an array has no more values than there are
names. -/
def namedValues (names : List String) : Json → Option (List (Option Json))
  | .object entries =>
    names.mapM fun name =>
      match entries.filter (·.1 == name) with
      | [] => some none
      | [entry] => some (some entry.2)
      | _ => none
  | .array items =>
    if items.length ≤ names.length then
      some ((List.range names.length).map fun i => items[i]?)
    else none
  | _ => none

/-- A setting of a kind: its default if it is left out, nothing if its value is not of the kind. -/
def settingOf {α : Type} (kind : Json → Option α) (default : α) : Option Json → Option α
  | none => some default
  | some v => kind v

/-- A count below two to the sixty-fourth. -/
def countValue (v : Json) : Option Nat := v.nat?.filter Number.fitsNat64

/-- A truth value. -/
def boolValue : Json → Option Bool
  | .bool b => some b
  | _ => none

/-- A value of a kind, or null for none. -/
def optionalValue {α : Type} (kind : Json → Option α) : Json → Option (Option α)
  | .null => some none
  | v => (kind v).map some

/-- The names of the adjustments, in their order. -/
def Overrides.names : List String :=
  ["filter", "sort", "limit", "offset", "window_ceiling", "default_limit"]

/-- **Adjustments from JSON.** -/
def Overrides.ofJson? (v : Json) : Option Overrides := do
  match ← namedValues Overrides.names v with
  | [filter, sort, limit, offset, ceiling, default] =>
    return {
      filter := ← settingOf (optionalValue boolValue) none filter
      sort := ← settingOf (optionalValue boolValue) none sort
      limit := ← settingOf (optionalValue boolValue) none limit
      offset := ← settingOf (optionalValue boolValue) none offset
      windowCeiling := ← settingOf (optionalValue countValue) none ceiling
      defaultLimit := ← settingOf (optionalValue countValue) none default }
  | _ => none

/-- Adjustments by name, from an object. -/
def targetsOfJson? : Json → Option (List (String × Overrides))
  | .object entries => entries.mapM fun e => (Overrides.ofJson? e.2).map fun o => (e.1, o)
  | _ => none

/-- **What of a file is read**: the settings by their names, in their order. -/
def Settings.parts : List (String × Json.Selection) :=
  [("default_limit", .whole), ("http_timeout_secs", .whole), ("log_level", .whole),
   ("targets", .entries (.fields (Overrides.names.map fun name => (name, .whole))))]

/-- **Settings from JSON.** -/
def Settings.ofJson? (v : Json) : Option Settings := do
  match ← namedValues (Settings.parts.map (·.1)) v with
  | [limit, timeout, log, targets] =>
    return {
      defaultLimit := ← settingOf countValue standard.defaultLimit limit
      timeoutSeconds := ← settingOf countValue standard.timeoutSeconds timeout
      logLevel := ← settingOf Json.string? standard.logLevel log
      targets := ← settingOf targetsOfJson? standard.targets targets }
  | _ => none

/-- **Settings from the text of a file.** -/
def Settings.read? (text : String) : Option Settings :=
  (Json.readPart (.fields Settings.parts) text.toList).toOption.bind Settings.ofJson?

/-! ### The environment -/

/-- Variables by name. -/
abbrev Environment := String → Option String

/-- A count in a variable; blanks around it do not count. -/
def variableCount (environment : Environment) (name : String) : Option Nat :=
  (environment name).bind fun value => readNat64? (Text.trim value.toList)

/-- **Settings after the environment.** A variable that holds no count, or only blanks, changes
nothing. -/
def Settings.withEnvironment (s : Settings) (environment : Environment) : Settings where
  defaultLimit := (variableCount environment "SQLBRIDGE_DEFAULT_LIMIT").getD s.defaultLimit
  timeoutSeconds := (variableCount environment "SQLBRIDGE_HTTP_TIMEOUT_SECS").getD s.timeoutSeconds
  logLevel :=
    match environment "SQLBRIDGE_LOG" with
    | some value => if Text.isBlankText value.toList then s.logLevel else Text.trimmed value
    | none => s.logLevel
  targets := s.targets

/-- **The settings of a run**: the file, if it is there and can be read, then the environment. -/
def Settings.load (file : Option String) (environment : Environment) : Settings :=
  ((file.bind Settings.read?).getD .standard).withEnvironment environment

end Pushdown
