import ScriptAssist.Text.Basic

/-!
# UTF-8

Bytes are decoded by a machine that holds what is still to come of a character. `units` lists the
characters and marks each ill-formed part, as long as it can be taken, by `none`. `decode?` takes
well-formed bytes only, `decodeLossy` puts a replacement character for every ill-formed part.
-/

namespace ScriptAssist.Text.Utf8

/-- A character that has begun: `more` bytes follow, the next one from `low` to `high`. -/
structure Pending where
  more : Nat
  low : Nat
  high : Nat
  code : Nat

structure Step where
  emitted : List (Option Char)
  pending : Option Pending

def first (byte : Nat) : Step :=
  if byte < 0x80 then ⟨[some (Char.ofNat byte)], none⟩
  else if byte < 0xc2 then ⟨[none], none⟩
  else if byte < 0xe0 then ⟨[], some ⟨1, 0x80, 0xbf, byte - 0xc0⟩⟩
  else if byte < 0xf0 then
    ⟨[], some ⟨2, if byte = 0xe0 then 0xa0 else 0x80, if byte = 0xed then 0x9f else 0xbf,
      byte - 0xe0⟩⟩
  else if byte < 0xf5 then
    ⟨[], some ⟨3, if byte = 0xf0 then 0x90 else 0x80, if byte = 0xf4 then 0x8f else 0xbf,
      byte - 0xf0⟩⟩
  else ⟨[none], none⟩

def next (pending : Option Pending) (byte : Nat) : Step :=
  match pending with
  | none => first byte
  | some p =>
    if p.low ≤ byte && byte ≤ p.high then
      let code := p.code * 64 + (byte - 0x80)
      if p.more ≤ 1 then ⟨[some (Char.ofNat code)], none⟩
      else ⟨[], some ⟨p.more - 1, 0x80, 0xbf, code⟩⟩
    else
      let step := first byte
      ⟨none :: step.emitted, step.pending⟩

def unitsFrom (pending : Option Pending) : List UInt8 → List (Option Char)
  | [] => if pending.isSome then [none] else []
  | byte :: rest =>
    let step := next pending byte.toNat
    step.emitted ++ unitsFrom step.pending rest

/-- The characters of some bytes, with `none` for each ill-formed part. -/
def units (bytes : List UInt8) : List (Option Char) :=
  unitsFrom none bytes

def decode? (bytes : List UInt8) : Option Text :=
  (units bytes).mapM id

def decodeLossy (bytes : List UInt8) : Text :=
  (units bytes).map (·.getD '�')

def encode (text : Text) : List UInt8 :=
  text.flatMap String.utf8EncodeChar

end ScriptAssist.Text.Utf8
