import WikiRows.Command.Run

/-!
# The program

Reads the files and variables that a command needs and carries out its plan. This build has no
network of its own, so that requests get no reply, and no texts about its options.
-/

open WikiRows

def readFile? (path : String) : IO (Option (List UInt8)) := do
  match ← (IO.FS.readBinFile path).toBaseIO with
  | .ok bytes => return some bytes.toList
  | .error _ => return none

def surroundings (paths : List String) : IO Surroundings := do
  let files ← paths.filterMapM fun path => do return (← readFile? path).map (path, ·)
  let values ← Settings.variableNames.filterMapM fun name => do
    return (← IO.getEnv name).map (name, ·)
  return ⟨(List.lookup · files), (List.lookup · values)⟩

def main (arguments : List String) : IO UInt32 := do
  let paths := match Command.ofArguments arguments with
    | .ok command => command.paths
    | .error _ => []
  let plan := Plan.ofArguments (← surroundings paths) arguments
  let outcome := plan.carryOut fun _ => none
  IO.print outcome.output
  outcome.messages.forM IO.eprintln
  return outcome.exitCode.toUInt32
