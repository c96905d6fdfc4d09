import PlotLabels.Command
/-!
# The `plotnft` program

Reads the command line, the two configuration variables and, for `plot-nfts`, the file;
prints the lines of `PlotLabels.Command` to standard output and an error to standard error.
The exit code is 0 on success, 1 when naming fails and 2 for a refused command line.
-/

open PlotLabels PlotLabels.Command

/-- Print the lines, then the error if there is one; the exit code says which. -/
def finish (out : List String × Option String) : IO UInt32 := do
  for line in out.1 do
    IO.println line
  match out.2 with
  | some e =>
    IO.eprintln ("Error: " ++ e)
    pure 1
  | none => pure 0

def main (args : List String) : IO UInt32 := do
  match parseArgs args with
  | .error e =>
    IO.eprintln ("error: " ++ e.message)
    pure 2
  | .ok inv =>
    let attempts ← IO.getEnv Config.attemptsVariable
    let style ← IO.getEnv Config.styleVariable
    let lookup := fun k =>
      if k = Config.attemptsVariable then attempts
      else if k = Config.styleVariable then style
      else none
    match inv.config lookup >>= fun c => Allocator.new c with
    | .error e =>
      IO.eprintln ("Error: " ++ e.message)
      pure 1
    | .ok a =>
      match inv.task with
      | .resolve seeds => finish (resolveLines a seeds)
      | .plotNfts file =>
        match ← (IO.FS.readFile file).toBaseIO with
        | .ok contents => finish (plotNftLines file contents a)
        | .error _ =>
          IO.eprintln ("Error: Failed to read plot NFT records from " ++ Text.quote file)
          pure 1
