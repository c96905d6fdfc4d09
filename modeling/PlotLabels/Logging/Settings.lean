/-!
# Logging settings

The words the logging settings are given in: levels, the output format and the output
destination, and the error that refuses a setting.

* `Level`: from `TRACE`, the most verbose, to `ERROR`.
* `LogFormat.read`: `default` or `json`.
* `OutputDest.read`: standard output, standard error, or a directory path.
-/

namespace PlotLabels.Logging

/-- Why a logging setting is refused. -/
inductive LoggingError where
  /-- A level name that is none of the five. -/
  | unsupportedLevel (raw : String)
  /-- A target item that splits into no parts at all, so has no name. -/
  | noTargetName
  /-- A format name that is neither `default` nor `json`. -/
  | unknownFormat

/-- The words of a logging error. -/
def LoggingError.message : LoggingError → String
  | .unsupportedLevel raw => "Could not configure logging: Log level " ++ raw ++ " is not supported"
  | .noTargetName => "Could not configure logging: Could not obtain crate name in logging string"
  | .unknownFormat =>
    "Could not configure logging: The only valid values for this argument are \"default\" or \"json\""

/-- How much is logged. -/
inductive Level where
  | trace
  | debug
  | info
  | warn
  | error
  deriving DecidableEq, Repr

/-- The name of a level, in capitals. -/
def Level.name : Level → String
  | .trace => "TRACE"
  | .debug => "DEBUG"
  | .info => "INFO"
  | .warn => "WARN"
  | .error => "ERROR"

/-- How log lines are written. -/
inductive LogFormat where
  | default
  | json
  deriving DecidableEq, Repr

/-- The name of a format. -/
def LogFormat.name : LogFormat → String
  | .default => "default"
  | .json => "json"

/-- The format with exactly this name. -/
def LogFormat.read (s : String) : Except LoggingError LogFormat :=
  if s = "default" then .ok .default
  else if s = "json" then .ok .json
  else .error .unknownFormat

/-- Where log lines go. -/
inductive OutputDest where
  | stdout
  | stderr
  /-- A directory, created if missing. -/
  | path (p : String)
  deriving DecidableEq, Repr

/-- The destination a setting names: `stdout`, `stderr`, or any other text as a path. -/
def OutputDest.read (s : String) : OutputDest :=
  if s = "stdout" then .stdout else if s = "stderr" then .stderr else .path s

/-- How a destination is shown. -/
def OutputDest.display : OutputDest → String
  | .stdout => "stdout"
  | .stderr => "stderr"
  | .path p => p

end PlotLabels.Logging
