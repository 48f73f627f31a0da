import EdgeCache.Digest.Md5
import EdgeCache.Digest.Sha1
import EdgeCache.Digest.Sha2

/-!
Keyed hashing over any hash function.
-/

namespace EdgeCache.Digest

def hmac (hash : List UInt8 → List UInt8) (block : Nat) (key message : List UInt8) : List UInt8 :=
  let key := if block < key.length then hash key else key
  let key := key ++ List.replicate (block - key.length) 0
  hash (key.map (· ^^^ 0x5c) ++ hash (key.map (· ^^^ 0x36) ++ message))

end EdgeCache.Digest
