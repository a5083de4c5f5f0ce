import ConsentGate.Digest.Sha256

namespace ConsentGate.Hmac

def blockSize : Nat := 64

def blockKey (key : List UInt8) : List UInt8 :=
  let k := if blockSize < key.length then (Sha256.hash key).toList else key
  k ++ List.replicate (blockSize - k.length) 0

def tag (key message : List UInt8) : Vector UInt8 32 :=
  let k := blockKey key
  let inner := Sha256.hash (k.map (· ^^^ 0x36) ++ message)
  Sha256.hash (k.map (· ^^^ 0x5c) ++ inner.toList)

def hexByte (b : UInt8) : List Char := [Nat.digitChar (b.toNat / 16), Nat.digitChar (b.toNat % 16)]

def hexDigits (bytes : List UInt8) : List Char := bytes.flatMap hexByte

theorem length_hexDigits (bytes : List UInt8) : (hexDigits bytes).length = 2 * bytes.length := by
  induction bytes with
  | nil => rfl
  | cons b rest ih =>
    simp only [hexDigits, List.flatMap_cons, List.length_append, List.length_cons] at ih ⊢
    rw [ih]
    simp [hexByte]
    omega

def hexTag (key message : List UInt8) : String := .ofList (hexDigits (tag key message).toList)

theorem length_hexTag (key message : List UInt8) : (hexTag key message).length = 64 := by
  simp [hexTag, length_hexDigits]

example :
    let bytes (s : String) : List UInt8 := s.toList.map fun c => .ofNat c.toNat
    hexTag (bytes "test-secret-key")
        (bytes "203.0.113.5:Mozilla/5.0:12345:67890:example.com:en-US") =
      "de740e7c0ae5243f34a6a34dc5c2719f8969966639c3985c62c6a936fe343781" := by
  decide +kernel

theorem hexTag_congr {key₁ key₂ : List UInt8} (h : blockKey key₁ = blockKey key₂)
    (message : List UInt8) : hexTag key₁ message = hexTag key₂ message := by
  rw [hexTag, hexTag, tag, tag, h]

end ConsentGate.Hmac
