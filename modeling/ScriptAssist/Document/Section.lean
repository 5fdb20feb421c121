import ScriptAssist.Snippet.Basic

/-!
# Sections and their tables

A line that starts with `[key]` opens the section of a known heading. A section ends where
another one opens.

A script declares its parameters in tables: the columns of the table of test data, and the rows of
the table of parameters with their descriptions and default values.
-/

namespace ScriptAssist.Section

def opens (key line : Text) : Bool :=
  ('[' :: key ++ [']']).isPrefixOf line

def opensAny (keys : List Text) (line : Text) : Bool :=
  keys.any fun key => !key.isEmpty && opens key line

/-- A line belongs to the section of a heading: the nearest line from it upwards that opens a
section opens that one. -/
def isUnder (lines : List Text) (line : Int) (heading : Text) (keys : List Text) : Bool :=
  ((lines.take (line + 1).toNat).reverse.find? (opensAny keys)).any (opens heading)

/-- The first section of a heading, from the line that opens it up to the next one that opens
the section of another key. -/
def linesOf (lines : List Text) (heading : Text) (keys : List Text) : List Text :=
  match lines.dropWhile (!opens heading ·) with
  | [] => []
  | header :: rest => header :: rest.takeWhile (!opensAny (keys.filter (· != heading)) ·)

end ScriptAssist.Section

namespace ScriptAssist.ParameterTable

def cells (row : Text) : List Text :=
  ((Text.splitOn '|' row).map Text.strip).filter (!·.isEmpty)

def rows (lines : List Text) (heading : Text) (keys : List Text) : List Text :=
  (((Section.linesOf lines heading keys).drop 1).map Text.strip).filter (!·.isEmpty)

def startsWithRule : Text → Bool
  | '|' :: '-' :: rest => (['|'] : Text).isPrefixOf (rest.dropWhile (· == '-'))
  | _ => false

/-- A row separates the head of a table from its body: somewhere it has dashes between two bars. -/
def isSeparator : Text → Bool
  | [] => false
  | c :: rest => startsWithRule (c :: rest) || isSeparator rest

def columnNames (rows : List Text) : List Text :=
  match (rows.takeWhile (!isSeparator ·)).getLast? with
  | some head => if rows.any isSeparator then cells head else []
  | none => []

def body (rows : List Text) : List Text :=
  if rows.any isSeparator then (rows.dropWhile (!isSeparator ·)).drop 1 else rows

def documentation (description : Text) : List Text → Text
  | [] => description
  | default :: _ => description ++ "  \n\n**Default Value:** `" ++ default ++ "`"

/-- A parameter needs a name and a description; a third cell is its default value. -/
def rowCandidate? (row : Text) : Option Candidate :=
  match cells row with
  | name :: description :: rest =>
    some (Candidate.plain .testParameter name (documentation description rest) "plugin parameter")
  | _ => none

def dataCandidates (lines : List Text) (heading : Text) (keys : List Text) : List Candidate :=
  (columnNames (rows lines heading keys)).map fun name =>
    Candidate.plain .testParameter name [] "dynamic parameter"

def parameterCandidates (lines : List Text) (heading : Text) (keys : List Text) :
    List Candidate :=
  (body (rows lines heading keys)).filterMap rowCandidate?

end ScriptAssist.ParameterTable
