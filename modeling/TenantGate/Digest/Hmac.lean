import TenantGate.Digest.Sha256

/-!
# Keyed authentication codes

`code key message` is the HMAC of a message under a key, with SHA-256 as the hash. Keys of any
length are taken: a long one is hashed, a short one is filled with zeros to the block size.
-/

set_option autoImplicit false

namespace TenantGate.Digest.Hmac

/-- The number of octets in a block of the hash. -/
def blockSize : Nat := 64

/-- The key as one block. -/
def keyBlock (key : List UInt8) : List UInt8 :=
  let short := if key.length > blockSize then Sha256.digest key else key
  short ++ List.replicate (blockSize - short.length) 0

/-- The authentication code of a message. -/
def code (key message : List UInt8) : List UInt8 :=
  let block := keyBlock key
  let inner := Sha256.digest (block.map (· ^^^ 0x36) ++ message)
  Sha256.digest (block.map (· ^^^ 0x5C) ++ inner)

theorem length_code (key message : List UInt8) : (code key message).length = 32 :=
  Sha256.length_digest _

end TenantGate.Digest.Hmac
