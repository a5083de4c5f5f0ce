import ConsentGate.Json.Reader
import ConsentGate.Text.Quoted
import ConsentGate.Text.Utf8

namespace ConsentGate.Http.Percent

def byteOf (c : Char) : UInt8 := UInt8.ofNat c.toNat

/-- Escaped bytes are read as characters together with their neighbours. What was read so far is
in reverse, and a character that is not ASCII stands for itself. -/
def decodeFrom (read : List UInt8) : List Char → List Char
  | '%' :: a :: b :: rest =>
    match Json.Reader.hexDigit? a, Json.Reader.hexDigit? b with
    | some high, some low => decodeFrom (UInt8.ofNat (high * 16 + low) :: read) rest
    | _, _ => decodeFrom (byteOf '%' :: read) (a :: b :: rest)
  | c :: rest =>
    if c.toNat < 0x80 then decodeFrom (byteOf c :: read) rest
    else Text.decodeLossy read.reverse ++ c :: decodeFrom [] rest
  | [] => Text.decodeLossy read.reverse

def decode (cs : List Char) : List Char := decodeFrom [] cs

def isPlain (c : Char) : Bool :=
  c.isAlphanum || "_.-~:/%#?=@[]!$&'()*+,;".toList.contains c

def escapeByte (b : UInt8) : List Char :=
  '%' :: (Quoted.hex b.toNat 2).map Char.toUpper

def encodeAddress (cs : List Char) : List Char :=
  cs.flatMap fun c => if isPlain c then [c] else (Text.utf8 [c]).flatMap escapeByte

end ConsentGate.Http.Percent
