import ScriptAssist.Text.Basic

/-!
# Paths

A path is kept in its normal form: without empty parts and parts that name the same directory. Two
slashes at the front are kept, three or more are one. Steps to the parent stay as they are.
-/

namespace ScriptAssist

structure Path where
  /-- The slashes at the front; a relative path has none. -/
  slashes : Nat
  parts : List Text
  deriving DecidableEq, Repr

namespace Path

def ofText (text : Text) : Path :=
  let slashes := (text.takeWhile (· == '/')).length
  { slashes := if slashes ≤ 2 then slashes else 1
    parts := (Text.splitOn '/' text).filter fun part => part != [] && part != ['.'] }

def text (path : Path) : Text :=
  let written := List.replicate path.slashes '/' ++ ['/'].intercalate path.parts
  if written.isEmpty then ['.'] else written

def isAbsolute (path : Path) : Bool :=
  path.slashes != 0

def join (directory path : Path) : Path :=
  if path.isAbsolute then path else { directory with parts := directory.parts ++ path.parts }

def file (directory : Path) (name : Text) : Path :=
  { directory with parts := directory.parts ++ [name] }

def isParentStep (part : Text) : Bool :=
  part == ['.', '.']

/-- Takes the steps to a parent; the top directory is its own parent. -/
def climb (parts : List Text) : List Text :=
  parts.foldl (fun done part => if isParentStep part then done.dropLast else done ++ [part]) []

def resolve (directory path : Path) : Path :=
  ⟨1, climb (directory.join path).parts⟩

end Path

end ScriptAssist
