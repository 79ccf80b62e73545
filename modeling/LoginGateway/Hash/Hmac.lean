import LoginGateway.Hash.Sha256

/-!
Keyed digests: HMAC over SHA-256.
-/
set_option autoImplicit false

namespace LoginGateway.Hmac

def blockKey (key : Bytes) : Bytes :=
  let short := if key.length > Sha256.blockSize then Sha256.digest key else key
  short ++ List.replicate (Sha256.blockSize - short.length) 0

def sha256 (key message : Bytes) : Bytes :=
  let block := blockKey key
  let inner := Sha256.digest (block.map (· ^^^ 0x36) ++ message)
  Sha256.digest (block.map (· ^^^ 0x5c) ++ inner)

theorem sha256_length (key message : Bytes) : (sha256 key message).length = 32 := Sha256.digest_length _

end LoginGateway.Hmac
