import PaletteSnap.FileTree

namespace PaletteSnap

inductive FileProgram (α : Type) where
  | done (a : α)
  | read (p : Path) (next : Except IoError (List UInt8) → FileProgram α)
  | write (p : Path) (content : List UInt8) (next : Except IoError Unit → FileProgram α)

namespace FileProgram

variable {α β : Type}

def bind : FileProgram α → (α → FileProgram β) → FileProgram β
  | done a, f => f a
  | read p next, f => read p fun got => (next got).bind f
  | write p content next, f => write p content fun got => (next got).bind f

instance : Monad FileProgram where
  pure := done
  bind := bind

def on (t : FileTree) : FileProgram α → α × FileTree
  | done a => (a, t)
  | read p next => (next (t.read p)).on t
  | write p content next =>
    match t.write p content with
    | .error e => (next (.error e)).on t
    | .ok t => (next (.ok ())).on t

theorem on_bind (t : FileTree) (p : FileProgram α) (f : α → FileProgram β) :
    (p >>= f).on t = (f (p.on t).1).on (p.on t).2 := by
  induction p generalizing t with
  | done a => rfl
  | read p next ih => exact ih (t.read p) t
  | write p content next ih =>
    show on t (write p content fun got => (next got).bind f) = _
    simp only [on]
    split
    · exact ih _ t
    · exact ih _ _

def readFile (p : Path) : FileProgram (Except IoError (List UInt8)) :=
  read p done

def writeFile (p : Path) (content : List UInt8) : FileProgram (Except IoError Unit) :=
  write p content done

def readText (p : Path) : FileProgram (Except IoError String) := do
  match ← readFile p with
  | .error e => return .error e
  | .ok content =>
    match Text.decodeUtf8? content with
    | some text => return .ok text
    | none => return .error .notUtf8

end FileProgram

end PaletteSnap
