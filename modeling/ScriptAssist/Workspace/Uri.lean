import ScriptAssist.Text.Digits
import ScriptAssist.Text.Utf8
import ScriptAssist.Workspace.Host
import ScriptAssist.Workspace.Path

/-!
# File URIs

Editors name files by URIs. The path of a file is the decoded path of its URI; a host before it is
kept as in a network path. A name that is no file URI stands for itself where a directory is named,
and for its decoded path where a document is.
-/

namespace ScriptAssist.Uri

def byteAt? : Text → Option UInt8
  | a :: b :: _ => do
    let high ← Text.hexDigit? a
    let low ← Text.hexDigit? b
    pure (UInt8.ofNat (high * 16 + low))
  | _ => none

/-- The bytes of a text in which a percent sign and two digits write a byte. The first `taken`
characters belong to a byte already written. -/
def percentBytes (taken : Nat) : Text → List UInt8
  | [] => []
  | c :: rest =>
    match taken with
    | taken + 1 => percentBytes taken rest
    | 0 =>
      if c = '%' then
        match byteAt? rest with
        | some byte => byte :: percentBytes 2 rest
        | none => 37 :: percentBytes 0 rest
      else Text.Utf8.encode [c] ++ percentBytes 0 rest

def percentDecode (text : Text) : Text :=
  Text.Utf8.decodeLossy (percentBytes 0 text)

def isSchemeChar (c : Char) : Bool :=
  c.isAlphanum || c == '+' || c == '-' || c == '.'

structure Parts where
  scheme : Text
  host : Text
  path : Text
  deriving DecidableEq, Repr

def splitScheme (uri : Text) : Text × Text :=
  match uri.span (· != ':') with
  | (c :: name, _ :: rest) =>
    if c.isAlpha && (c :: name).all isSchemeChar then ((c :: name).map Char.toLower, rest)
    else ([], uri)
  | _ => ([], uri)

def splitHost : Text → Text × Text
  | '/' :: '/' :: rest => rest.span fun c => c != '/' && c != '?' && c != '#'
  | text => ([], text)

def schemesWithParameters : List Text :=
  ["", "ftp", "hdl", "prospero", "http", "imap", "https", "shttp", "rtsp", "rtsps", "rtspu", "sip",
    "sips", "mms", "sftp", "tel"]

def dropParameters (path : Text) : Text :=
  let last := (path.reverse.takeWhile (· != '/')).reverse
  path.take (path.length - last.length) ++ last.takeWhile (· != ';')

def split (uri : Text) : Except HostFault Parts :=
  let cleaned :=
    (uri.dropWhile (·.toNat ≤ 32)).filter fun c => c != '\t' && c != '\r' && c != '\n'
  let (scheme, rest) := splitScheme cleaned
  let (host, rest) := splitHost rest
  let path := rest.takeWhile fun c => c != '#' && c != '?'
  let path := if schemesWithParameters.contains scheme then dropParameters path else path
  match Host.fault? host with
  | some fault => .error fault
  | none => .ok ⟨scheme, percentDecode host, percentDecode path⟩

/-- The path of a file. A drive letter starts its path. -/
def Parts.filePath (parts : Parts) : Text :=
  if !parts.host.isEmpty && !parts.path.isEmpty then ['/', '/'] ++ parts.host ++ parts.path
  else
    match parts.path with
    | '/' :: letter :: ':' :: rest =>
      if letter.isAlpha then letter.toLower :: ':' :: rest else parts.path
    | path => path

def Parts.namesFile (parts : Parts) : Bool :=
  parts.scheme == "file"

def directory (uri : Text) : Except HostFault Path := do
  let parts ← split uri
  if parts.namesFile && !parts.filePath.isEmpty then pure (Path.ofText parts.filePath)
  else pure (Path.ofText uri)

def document (uri : Text) : Except HostFault Path := do
  let parts ← split uri
  pure (Path.ofText (if parts.namesFile then parts.filePath else parts.path))

end ScriptAssist.Uri
