import TouchOverlay.Replay

/-!
# Entry point

Reads the arguments, the environment and the files that the replay program asks for, and prints
its report.
-/

open TouchOverlay

def readContent (path : String) : IO FileContent := do
  try
    return .bytes (← IO.FS.readBinFile path)
  catch
    | .noFileOrDirectory .. => return .missing
    | _ => return .unreadable

def main (args : List String) : IO UInt32 := do
  let names := ["OVERLAY_SCENARIO", "OVERLAY_CONFIG", "RUST_LOG"]
  let values ← names.mapM fun n => do return (n, ← IO.getEnv n)
  let env := fun n => (values.lookup n).join
  let paths := match Replay.Command.ofArguments env args with
    | .run scenario settings => [scenario, settings]
    | _ => []
  let files ← paths.mapM fun p => do return (p, ← readContent p)
  let seed ← IO.rand 0 0x3fffffffffffffff
  let ids : IdSource := { bits := fun n => (randNat (mkStdGen (seed + n)) 0 (1 <<< 122 - 1)).1 }
  let report := Replay.run ids env (fun p => (files.lookup p).getD .missing) args
  report.output.forM IO.println
  report.complaints.forM IO.eprintln
  return report.exit.toUInt32
