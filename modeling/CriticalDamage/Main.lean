import CriticalDamage.Command.Run

/-!
# The program

Reads the files that the arguments name, runs the command and prints its output. Faces come from a
generator of random numbers that starts from the seed.
-/

namespace CriticalDamage.Command

/-- Draws a face for every die. -/
def drawFaces : List Die → StdGen → Dice.Faces
  | [], _ => []
  | die :: dice, g =>
    let (face, g) := randNat g 1 die.sides
    .saturate face :: drawFaces dice g

/-- Faces for dice terms, from a generator that starts from a seed. -/
def seededFaces (seed : Nat) (terms : List (Count × Die)) : Dice.Faces :=
  drawFaces (terms.flatMap fun t => List.replicate t.1.val t.2) (mkStdGen seed)

/-- The text of a file, or why it cannot be read. -/
def readFile (path : String) : IO (Except String String) := do
  try return .ok (← IO.FS.readFile path)
  catch e => return .error (toString e)

/-- The world in which the given files are found, and no others. -/
def World.ofFiles (files : List (String × Except String String)) : World where
  readText path :=
    match files.find? (·.1 == path) with
    | some file => file.2
    | none => .error "not read"
  faces := seededFaces

end CriticalDamage.Command

open CriticalDamage.Command in
def main (args : List String) : IO UInt32 := do
  let files ← (paths args).mapM fun path => do return (path, ← readFile path)
  let out := run (.ofFiles files) args
  IO.print out.stdout
  IO.eprint out.stderr
  return UInt32.ofNat out.status
