import EdgeCache.Json.Reader
import EdgeCache.Json.Writer
import EdgeCache.Time.Layout
import EdgeCache.Time.Reader

/-!
Settings of an interpreter, as they are read from a text in the data format and written back. Every
field has a default.
-/

namespace EdgeCache

structure Config where
  maxRestarts : Nat
  seed : Option UInt64
  hostname : String
  identity : String
  datacenter : String
  region : String
  testing : Bool
  fixedTime : Option Instant
  deriving DecidableEq

namespace Config

def standard : Config :=
  ⟨3, none, "edgevcl-local", "edgevcl-local", "LCL", "US-East", false, none⟩

def standardTime : Instant := (Instant.make? 1136239445 0).getD .epoch

/-- The time at which requests are handled. It stands still, so that a run can be repeated. -/
def time (c : Config) : Instant := c.fixedTime.getD standardTime

def fieldNames : List String :=
  ["max_restarts", "seed", "server_hostname", "server_identity", "datacenter", "region", "testing",
    "fixed_time"]

def ofJson? (j : Json) : Option Config := do
  let fs ← j.record? fieldNames
  let maxRestarts ← Json.fieldOr? fs "max_restarts" standard.maxRestarts (Json.nat? (twoTo 32 - 1))
  let seed ← Json.optional? fs "seed" (Json.nat? (Word.count - 1))
  let hostname ← Json.fieldOr? fs "server_hostname" standard.hostname Json.text?
  let identity ← Json.fieldOr? fs "server_identity" standard.identity Json.text?
  let datacenter ← Json.fieldOr? fs "datacenter" standard.datacenter Json.text?
  let region ← Json.fieldOr? fs "region" standard.region Json.text?
  let testing ← Json.fieldOr? fs "testing" standard.testing Json.bool?
  let fixedTime ←
    Json.optional? fs "fixed_time" fun t => t.text?.bind (TimeReader.lenient? ·.toList)
  return ⟨maxRestarts, seed.map UInt64.ofNat, hostname, identity, datacenter, region, testing,
    fixedTime⟩

def toJson (c : Config) : Json :=
  .object [("max_restarts", .int c.maxRestarts),
    ("seed", Json.ofOption (fun n => .int n.toNat) c.seed),
    ("server_hostname", .string c.hostname),
    ("server_identity", .string c.identity),
    ("datacenter", .string c.datacenter),
    ("region", .string c.region),
    ("testing", .bool c.testing),
    ("fixed_time", Json.ofOption (fun t => .string (String.ofList (Layout.zulu t))) c.fixedTime)]

def ofText? (text : String) : Option Config := (Json.ofText? text).bind ofJson?

def toText (c : Config) : String := c.toJson.toIndentedText

end Config

end EdgeCache
