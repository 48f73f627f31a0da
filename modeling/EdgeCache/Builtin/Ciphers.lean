import EdgeCache.Builtin.Basic
import EdgeCache.Digest.Aes
import EdgeCache.Text.Base64

/-!
Functions that encrypt. Key and initial block are given in hexadecimal, and each block is chained
with the one before.
-/

namespace EdgeCache.Builtin

open Arguments

def keyLength? : String → Option Nat
  | "aes128" => some 16
  | "aes192" => some 24
  | "aes256" => some 32
  | _ => none

def filling? : String → Option Bool
  | "pkcs7" => some true
  | "nopad" => some false
  | _ => none

def fromHex (what : String) (text : List UInt8) : Except String (List UInt8) :=
  (Hex.decode text).mapError fun e => s!"invalid {what}: {e.message}"

structure Coding where
  decode : List UInt8 → Except String (List UInt8)
  encode : List UInt8 → List Char

namespace Coding

def hex : Coding where
  decode := fromHex "plaintext"
  encode := Hex.encode

def base64 : Coding where
  decode text :=
    (Base64.decode .standard .required text).mapError fun e => s!"invalid plaintext: {e.message}"
  encode := Base64.encode .standard true

end Coding

def encryptBlocks (length : Nat) (fills : Bool) (key iv text : List UInt8) :
    Except String (List UInt8) :=
  if key.length ≠ length ∨ iv.length ≠ 16 then .error "invalid key or iv length"
  else if fills then .ok (Aes.encrypt key iv (Aes.fill text))
  else if text.length % 16 ≠ 0 then .error "plaintext is not a whole number of blocks"
  else .ok (Aes.encrypt key iv text)

def encrypt (coding : Coding) (args : List Value) : Except String Value := do
  let cipher := Arguments.name args 0
  let mode := Arguments.name args 1
  let padding := Arguments.name args 2
  match filling? padding with
  | none => throw s!"unsupported padding {Quoted.quote padding}"
  | some fills =>
    if mode ≠ "cbc" then throw s!"unsupported mode {Quoted.quote mode}"
    let key ← fromHex "key" (bytes args 3)
    let iv ← fromHex "iv" (bytes args 4)
    let text ← coding.decode (bytes args 5)
    match keyLength? cipher with
    | none => throw s!"unsupported cipher {Quoted.quote cipher}"
    | some length => return .ofChars (coding.encode (← encryptBlocks length fills key iv text))

def encrypting (name : String) (coding : Coding) : Builtin :=
  failing name [.ident, .ident, .ident, .string, .string, .string] [] (encrypt coding)

def ciphers : List Builtin :=
  [encrypting "crypto.encrypt_base64" .base64, encrypting "crypto.encrypt_hex" .hex]

end EdgeCache.Builtin
