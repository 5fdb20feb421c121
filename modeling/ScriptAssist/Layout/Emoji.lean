import ScriptAssist.Layout.EmojiTable
import ScriptAssist.Text.Basic
import ScriptAssist.Text.Case
import ScriptAssist.Text.Digits

/-!
# Pictures by name

A name between two colons stands for its picture, in any case of its letters. The name may end by
asking for the picture as text or as emoji. What has no picture stays, and its colons are used up.
-/

namespace ScriptAssist.Layout.Emoji

def entryOf (entry : Text) : Text × Text :=
  let (name, codes) := entry.span (· != '=')
  (name, (Text.splitOn '-' (codes.drop 1)).map fun code => Char.ofNat (Text.hexValue code))

def pictures : List (Text × Text) :=
  emojiLines.flatMap fun line => (Text.splitOn ' ' line.toList).map entryOf

def variants : List (Text × Text) :=
  [("-emoji", ['️']), ("-text", ['︎'])]

def splitVariant (name : Text) : Text × Text :=
  match variants.find? fun (ending, _) => ending.isSuffixOf name with
  | some (ending, mark) => (name.take (name.length - ending.length), mark)
  | none => (name, [])

def picture? (name : Text) : Option Text :=
  let (stem, mark) := splitVariant name
  (pictures.lookup (Text.lower stem)).map (· ++ mark)

def nameAt? (text : Text) : Option Text :=
  match text.span fun c => c != ':' && !Text.isBlank c with
  | (name, ':' :: _) => some name
  | _ => none

/-- Puts pictures for names. The first `taken` characters belong to a name. -/
def replaceFrom (taken : Nat) : Text → Text
  | [] => []
  | c :: rest =>
    match taken with
    | taken + 1 => replaceFrom taken rest
    | 0 =>
      match if c = ':' then nameAt? rest else none with
      | some name =>
        (picture? name).getD (':' :: name ++ [':']) ++ replaceFrom (name.length + 1) rest
      | none => c :: replaceFrom 0 rest

def replace (text : Text) : Text :=
  replaceFrom 0 text

end ScriptAssist.Layout.Emoji
