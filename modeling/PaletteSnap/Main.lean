import PaletteSnap.Command.Response

open PaletteSnap

def ioErrorOf : IO.Error → IoError
  | .noFileOrDirectory _ _ _ => .notFound
  | .inappropriateType _ 20 _ => .notFolder
  | .inappropriateType _ 21 _ => .isFolder
  | e => .other e.toString

def readDisk (p : Path) : IO (Except IoError (List UInt8)) := do
  try
    return .ok (← IO.FS.readBinFile p.toText).toList
  catch e => return .error (ioErrorOf e)

def writeDisk (p : Path) (content : List UInt8) : IO (Except IoError Unit) := do
  try
    IO.FS.writeBinFile p.toText ⟨content.toArray⟩
    return .ok ()
  catch e => return .error (ioErrorOf e)

def perform {α : Type} : FileProgram α → IO α
  | .done a => return a
  | .read p next => do perform (next (← readDisk p))
  | .write p content next => do perform (next (← writeDisk p content))

def main (args : List String) : IO UInt32 := do
  let config ← IO.getEnv "PIET_CLEANER_CONFIG"
  let colored ← (← IO.getStdout).isTty
  let answer ← perform (respond args (config.map Path.ofText) .standard colored)
  IO.print answer.output
  if let some line := answer.error then IO.eprintln line
  return UInt32.ofNat answer.exitCode
