import PlotLabels.Logging.Settings
import PlotLabels.Text.CodeSet
import PlotLabels.Text.CaseMap
/-!
# Log targets

The list of log targets is written as comma-separated items, each trimmed of blanks, empty
items skipped. `all` sets the level of this program's own components to TRACE; `v` sets it to
DEBUG unless `all` or `v` came before. Any other item is a target name, optionally followed
by `=` and a level name (TRACE when there is none; text after a second `=` is ignored); a
level name is matched in lower case. A later item for the same target replaces an earlier
one, and named targets override the keyword's level. The result is sorted by name.

* `ownTargets`: the components the keywords set.
* `Level.read`: a level from its name in any case.
* `targets`: the parsed list, or the first unsupported level.
-/

namespace PlotLabels.Logging

/-- The components whose level the keywords `all` and `v` set. -/
def ownTargets : List String := ["plotnft", "plotnft_logging", "plotnft_names"]

/-- The level a name spells in any case, by its full lower-case form. -/
def Level.read (raw : String) : Except LoggingError Level :=
  let lower := Text.toLowerText raw
  if lower = "info" then .ok .info
  else if lower = "debug" then .ok .debug
  else if lower = "trace" then .ok .trace
  else if lower = "warn" then .ok .warn
  else if lower = "error" then .ok .error
  else .error (.unsupportedLevel raw)

/-- A name and level added to a name-sorted list, replacing the name's earlier level. -/
def setTarget (name : String) (level : Level) : List (String × Level) → List (String × Level)
  | [] => [(name, level)]
  | (n, l) :: rest =>
    if name < n then (name, level) :: (n, l) :: rest
    else if name = n then (name, level) :: rest
    else (n, l) :: setTarget name level rest

/-- What the items read so far say: the keyword level and the named targets. -/
structure TargetList where
  keyword : Option Level := none
  named : List (String × Level) := []

/-- One trimmed item applied to the list. -/
def TargetList.add (t : TargetList) (item : String) : Except LoggingError TargetList :=
  if item.isEmpty then .ok t
  else if item = "all" then .ok { t with keyword := some .trace }
  else if item = "v" then .ok { t with keyword := t.keyword.orElse fun _ => some .debug }
  else
    match item.toList.splitOn '=' with
    | name :: level :: _ => do
      let l ← Level.read (String.ofList level)
      pure { t with named := setTarget (String.ofList name) l t.named }
    | [name] => pure { t with named := setTarget (String.ofList name) .trace t.named }
    | [] => .error .noTargetName

/-- The targets of a list, sorted by name: the keyword's level for this program's components,
overridden by the named targets. -/
def TargetList.result (t : TargetList) : List (String × Level) :=
  let base := match t.keyword with
    | some l => ownTargets.foldl (fun acc n => setTarget n l acc) []
    | none => []
  t.named.foldl (fun acc (n, l) => setTarget n l acc) base

/-- The targets a comma-separated setting names, or the first unsupported level. -/
def targets (setting : String) : Except LoggingError (List (String × Level)) := do
  let items := (setting.toList.splitOn ',').map fun cs => Text.trimBlank (String.ofList cs)
  let t ← items.foldlM TargetList.add {}
  pure t.result

end PlotLabels.Logging
