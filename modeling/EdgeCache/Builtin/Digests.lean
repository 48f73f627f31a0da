import EdgeCache.Builtin.Basic
import EdgeCache.Text.Base64

/-!
Functions that hash texts, with and without a key, and the coding in base 64.
-/

namespace EdgeCache.Builtin

open Arguments
open Value (ofString ofChars ofBool)

abbrev Hash := List UInt8 → List UInt8

def keyed (hash : Hash) (block : Nat) (args : List Value) : List UInt8 :=
  Digest.hmac hash block (bytes args 0) (bytes args 1)

def standardBase64 (bytes : List UInt8) : List Char := Base64.encode .standard true bytes

def hexadecimal (bytes : List UInt8) : List Char := '0' :: 'x' :: Hex.encode bytes

def hashOf (name : String) (hash : Hash) : Builtin :=
  plain name [.string] [] fun args => ofChars (Hex.encode (hash (bytes args 0)))

def decoded (args : List Value) : Except String (List UInt8) :=
  (Base64.decode .standard .optional (bytes args 0)).mapError fun e =>
    s!"invalid base64 input: {e.message}"

def hashOfBase64 (name : String) (hash : Hash) : Builtin :=
  failing name [.string] [] fun args => return ofChars (Hex.encode (hash (← decoded args)))

def keyedHash (name : String) (hash : Hash) (block : Nat) (write : List UInt8 → List Char) :
    Builtin :=
  plain name [.string, .string] [] fun args => ofChars (write (keyed hash block args))

def timeStep (now interval offset : Int) : Except String Int :=
  let moved := now + offset
  if moved < Int64.minValue.toInt ∨ Int64.maxValue.toInt < moved then
    .error "time step out of range"
  else .ok (moved / interval)

def timedHash (now : Instant) (args : List Value) : Except String Value := do
  let secret ← decoded args
  let interval := integer args 1
  if interval ≤ 0 then throw "interval must be positive"
  let step ← timeStep now.seconds interval.toInt (integer args 2).toInt
  let message := Digest.toBig 8 (step % Word.count).toNat
  return ofChars (standardBase64 (Digest.hmac Digest.sha1 64 secret message))

def encoding (name : String) (a : Base64.Alphabet) (pad : Bool) : Builtin :=
  plain name [.string] [] fun args => ofChars (Base64.encode a pad (bytes args 0))

def decoding (name : String) (a : Base64.Alphabet) : Builtin :=
  plain name [.string] [] fun args =>
    match Base64.decode a .optional (bytes args 0) with
    | .ok bytes => ofString (Utf8.toString bytes)
    | .error _ => ofString ""

def digests : List Builtin :=
  [hashOf "digest.hash_sha256" Digest.sha256,
    hashOf "digest.hash_sha512" Digest.sha512,
    hashOf "digest.hash_md5" Digest.md5,
    hashOf "digest.hash_sha1" Digest.sha1,
    hashOfBase64 "digest.hash_sha1_from_base64" Digest.sha1,
    hashOfBase64 "digest.hash_sha256_from_base64" Digest.sha256,
    hashOfBase64 "digest.hash_sha512_from_base64" Digest.sha512,
    keyedHash "digest.hmac_sha256" Digest.sha256 64 hexadecimal,
    keyedHash "digest.hmac_sha512" Digest.sha512 128 hexadecimal,
    keyedHash "digest.hmac_md5" Digest.md5 64 hexadecimal,
    keyedHash "digest.hmac_md5_base64" Digest.md5 64 standardBase64,
    make "digest.time_hmac_sha1" [.string, .integer, .integer] [] fun env args =>
      Stop.lift ((timedHash env.now args).mapError (.failed "digest.time_hmac_sha1")),
    keyedHash "digest.hmac_sha256_base64" Digest.sha256 64 standardBase64,
    keyedHash "digest.hmac_sha512_base64" Digest.sha512 128 standardBase64,
    encoding "digest.base64" .standard true,
    decoding "digest.base64_decode" .standard,
    encoding "digest.base64url" .url true,
    decoding "digest.base64url_decode" .url,
    encoding "digest.base64url_nopad" .url false,
    decoding "digest.base64url_nopad_decode" .url,
    plain "digest.secure_is_equal" [.string, .string] [] fun args =>
      ofBool (string args 0 == string args 1)]

end EdgeCache.Builtin
