import ScriptAssist.Keyed
import ScriptAssist.Text.Basic

/-!
# Snippets and candidates

A snippet is a template with tab stops. A candidate is one entry of a completion list; it inserts a
snippet or plain text.
-/

namespace ScriptAssist

structure Snippet where
  name : Text
  template : Text
  documentation : Text := []
  detail : Text := []
  deriving DecidableEq, Repr

inductive CandidateKind
  | action
  | parameter
  | heading
  | macroName
  | assertion
  | assertionMethod
  | testParameter
  deriving DecidableEq, Repr

def CandidateKind.name : CandidateKind → Text
  | action => "action"
  | parameter => "parameter"
  | heading => "annotation"
  | macroName => "macro"
  | assertion => "assertion"
  | assertionMethod => "assertion_method"
  | testParameter => "test_parameter"

structure Candidate where
  label : Text
  insertText : Text
  documentation : Text := []
  detail : Text := []
  kind : CandidateKind := .action
  isSnippet : Bool := false
  deriving DecidableEq, Repr

def Snippet.candidate (kind : CandidateKind) (snippet : Snippet) : Candidate :=
  { label := snippet.name
    insertText := snippet.template
    documentation := snippet.documentation
    detail := snippet.detail
    kind
    isSnippet := true }

/-- The candidate that inserts its own label. -/
def Candidate.plain (kind : CandidateKind) (label documentation detail : Text) : Candidate :=
  { label, insertText := label, documentation, detail, kind }

end ScriptAssist
