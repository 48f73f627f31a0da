import EdgeCache.Digest.Hmac
import EdgeCache.Generator
import EdgeCache.Text.Hex

/-!
Universally unique identifiers: drawn from a generator, or made of a name by hashing; their plain
and hyphenated forms, and reading them in any of four forms.
-/

namespace EdgeCache

structure Uuid where
  bytes : List UInt8
  deriving Repr, DecidableEq

namespace Uuid

def stamped (version : Nat) (bytes : List UInt8) : Uuid :=
  ⟨bytes.mapIdx fun i b =>
    if i = 6 then UInt8.ofNat (b.toNat % 16 + version * 16)
    else if i = 8 then UInt8.ofNat (b.toNat % 64 + 128)
    else b⟩

def ofRandom (bytes : List UInt8) : Uuid := stamped 4 bytes

def draw (g : Generator) : Uuid × Generator :=
  let (bytes, g) := g.blocks 2
  (ofRandom bytes, g)

def ofNameMd5 (space : Uuid) (name : List UInt8) : Uuid :=
  stamped 3 (Digest.md5 (space.bytes ++ name))

def ofNameSha1 (space : Uuid) (name : List UInt8) : Uuid :=
  stamped 5 ((Digest.sha1 (space.bytes ++ name)).take 16)

def version (u : Uuid) : Nat := (u.bytes.getD 6 0).toNat / 16

def simple (u : Uuid) : List Char := Hex.encode u.bytes

def hyphenated (u : Uuid) : List Char :=
  let s := u.simple
  s.take 8 ++ '-' :: (s.drop 8).take 4 ++ '-' :: (s.drop 12).take 4 ++ '-' :: (s.drop 16).take 4 ++
    '-' :: s.drop 20

def hyphen : UInt8 := 45

def readSimple? (digits : List UInt8) : Option Uuid :=
  if digits.length = 32 then ((Hex.decode digits).toOption).map Uuid.mk else none

def readHyphenated? (text : List UInt8) : Option Uuid :=
  if text.length = 36 ∧ [8, 13, 18, 23].all (fun i => text[i]? == some hyphen) then
    readSimple? (text.take 8 ++ (text.drop 9).take 4 ++ (text.drop 14).take 4 ++
      (text.drop 19).take 4 ++ text.drop 24)
  else none

def urnStart : List UInt8 := [117, 114, 110, 58, 117, 117, 105, 100, 58]

def read? (text : List UInt8) : Option Uuid :=
  if text.length = 32 then readSimple? text
  else if text.length = 36 then readHyphenated? text
  else if text.length = 38 ∧ text.head? = some 123 ∧ text.getLast? = some 125 then
    readHyphenated? ((text.drop 1).take 36)
  else if text.length = 45 ∧ urnStart.isPrefixOf text then readHyphenated? (text.drop 9)
  else none

def space (fourth : UInt8) : Uuid :=
  ⟨[0x6b, 0xa7, 0xb8, fourth, 0x9d, 0xad, 0x11, 0xd1, 0x80, 0xb4, 0x00, 0xc0, 0x4f, 0xd4,
    0x30, 0xc8]⟩

def dns : Uuid := space 0x10
def url : Uuid := space 0x11
def oid : Uuid := space 0x12
def x500 : Uuid := space 0x14

end Uuid

end EdgeCache
