import Reconciler.World

/-!
# Simulated files

Files under the directory that paths start in. A path is walked step by step, so a step behind a file
leads nowhere, and a step back out of the starting directory leads to a directory without files.
-/

namespace Reconciler

/-- The names of files, with their texts. -/
abbrev SimulatedFiles := List (String × String)

namespace SimulatedFiles

/-- What the beginning of a path leads to. -/
inductive Spot where
  /-- The directory behind these steps from the starting one. -/
  | directory (steps : List String)
  /-- A directory outside the starting one. -/
  | outside
  /-- A file with this text. -/
  | file (text : String)
deriving DecidableEq, Repr

/-- The steps of a path that move. -/
def steps (path : String) : List String :=
  (Text.split '/' path).filter fun step => !step.isEmpty && step != "."

/-- What a name in a directory leads to. -/
def enter (files : SimulatedFiles) (place : List String) : Except FileFault Spot :=
  match files.find? fun file => steps file.1 == place with
  | some (_, text) => .ok (.file text)
  | none =>
    if files.any fun file => place.isPrefixOf (steps file.1) then .ok (.directory place)
    else .error .absent

/-- What one more step of a path leads to. -/
def follow (files : SimulatedFiles) (spot : Spot) (step : String) : Except FileFault Spot :=
  match spot with
  | .file _ => .error .notDirectory
  | .outside => if step.isEmpty || step == "." || step == ".." then .ok .outside else .error .absent
  | .directory place =>
    if step.isEmpty || step == "." then .ok spot
    else if step != ".." then files.enter (place ++ [step])
    else if place.isEmpty then .ok .outside
    else .ok (.directory place.dropLast)

/-- The bytes of a file. -/
def read (files : SimulatedFiles) (path : String) : Except FileFault (List UInt8) := do
  let start : Spot := if path.toList.head? == some '/' then .outside else .directory []
  let spot ← if path.isEmpty then .error .absent else (Text.split '/' path).foldlM files.follow start
  match spot with
  | .file text => pure (Text.Utf8.encode text)
  | .directory _ | .outside => throw .directory

end SimulatedFiles

end Reconciler
