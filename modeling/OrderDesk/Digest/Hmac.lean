/-
Keyed digests.

HMAC over SHA-256: the message is digested behind the key, and the result once more
behind the key, the two times with the key changed in different ways.
-/
import OrderDesk.Digest.Sha256

namespace OrderDesk.Digest

/-- The key as one block: a long key is digested first, a short one filled with zeros. -/
def hmacKey (key : List UInt8) : List UInt8 :=
  let key := if 64 < key.length then Sha256.digest key else key
  key ++ List.replicate (64 - key.length) 0

/-- The keyed digest of a message. -/
def hmacSha256 (key message : List UInt8) : List UInt8 :=
  let key := hmacKey key
  Sha256.digest
    (key.map (· ^^^ 0x5C) ++ Sha256.digest (key.map (· ^^^ 0x36) ++ message))

end OrderDesk.Digest
