import ScriptAssist.Engine.Completion

/-!
# Completion items

The form in which editors take candidates, and the kind of request that a typed character makes.
-/

namespace ScriptAssist

inductive Documentation
  | none
  | plain (text : Text)
  | markdown (text : Text)
  deriving DecidableEq, Repr

inductive ItemKind
  | asMethod
  | asFunction
  | asVariable
  | asProperty
  deriving DecidableEq, Repr

def ItemKind.number : ItemKind → Nat
  | asMethod => 2
  | asFunction => 3
  | asVariable => 6
  | asProperty => 10

structure Item where
  label : Text
  kind : ItemKind
  detail : Option Text
  documentation : Documentation
  insertText : Text
  isSnippet : Bool
  deriving DecidableEq, Repr

def CandidateKind.itemKind : CandidateKind → ItemKind
  | action => .asMethod
  | parameter => .asVariable
  | heading => .asProperty
  | macroName => .asFunction
  | assertion => .asMethod
  | assertionMethod => .asVariable
  | testParameter => .asProperty

def CandidateKind.hasMarkdown : CandidateKind → Bool
  | action => true
  | assertion => true
  | testParameter => true
  | _ => false

/-- An empty documentation or detail is left out. -/
def Candidate.item (candidate : Candidate) : Item :=
  { label := candidate.label
    kind := candidate.kind.itemKind
    detail := if candidate.detail.isEmpty then none else some candidate.detail
    documentation :=
      if candidate.documentation.isEmpty then .none
      else if candidate.kind.hasMarkdown then .markdown candidate.documentation
      else .plain candidate.documentation
    insertText := candidate.insertText
    isSnippet := candidate.isSnippet }

namespace RequestKind

def triggerCharacters : List Text :=
  [['-'], ['['], ['$'], ['{'], ['@']]

/-- The kind of a request by the typed character, or by the text of the line before the cursor. -/
def ofTrigger (trigger : Option Text) (before : Text) : RequestKind :=
  if trigger = some ['['] || before = ['['] then .heading
  else if trigger = some ['-'] || Cursor.flagMark.isSuffixOf before then .parameter
  else if trigger = some ['$'] || opener.isSuffixOf before then .macroName
  else if trigger = some ['@'] || (['@'] : Text).isSuffixOf before then .testParameter
  else if trigger = some ['{'] then .assertionMethod
  else .action

end RequestKind

end ScriptAssist
