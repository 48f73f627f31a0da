import EdgeCache.Value.Basic

/-!
The places of a request's context that hold a value, and what they hold at first. An assignment
never changes the type of what a slot holds.
-/

namespace EdgeCache

inductive WafSlot where
  | anomalyScore
  | blocked
  | counter
  | executed
  | failures
  | httpViolationScore
  | inboundAnomalyScore
  | lfiScore
  | logdata
  | logged
  | message
  | passed
  | phpInjectionScore
  | rceScore
  | rfiScore
  | ruleId
  | sessionFixationScore
  | severity
  | sqlInjectionScore
  | xssScore
  deriving Repr, DecidableEq

inductive Slot where
  | lastError
  | hash
  | esi
  | alwaysMiss
  | ignoreBusy
  | rangeOnPass
  | segmentedCaching
  | maxStaleIfError
  | maxStaleWhileRevalidate
  | connectTimeout
  | firstByteTimeout
  | betweenBytesTimeout
  | backendReason
  | backendTtl
  | backendGrace
  | backendStaleIfError
  | backendStaleWhileRevalidate
  | backendCacheable
  | backendDoEsi
  | backendDoStream
  | backendGzip
  | backendBrotli
  | backendSaintmode
  | objectStatus
  | objectReason
  | objectTtl
  | objectGrace
  | objectHits
  | responseReason
  | socketAlgorithm
  | socketWindow
  | socketPace
  | socketLoss
  | socketNextHop
  | waf (w : WafSlot)
  deriving Repr, DecidableEq

namespace Slot

def ofMillis (n : Int) : Value := .ofRTime ((Duration.ofMillis? n).getD .zero)

def staleMillis : Int := 9223372036854

def wafInitial : WafSlot → Value
  | .blocked | .executed | .logged | .passed => .ofBool false
  | .logdata | .message => .ofString ""
  | _ => .ofInteger 0

def initial : Slot → Value
  | lastError | hash => .ofString ""
  | esi | backendCacheable => .ofBool true
  | alwaysMiss | ignoreBusy | rangeOnPass | segmentedCaching => .ofBool false
  | maxStaleIfError | maxStaleWhileRevalidate => ofMillis staleMillis
  | connectTimeout => ofMillis 1000
  | firstByteTimeout => ofMillis 15000
  | betweenBytesTimeout => ofMillis 10000
  | backendReason | responseReason => .ofString "OK"
  | backendTtl => ofMillis 120000
  | backendGrace | backendStaleIfError | backendStaleWhileRevalidate | backendSaintmode =>
    ofMillis 0
  | backendDoEsi | backendDoStream | backendGzip | backendBrotli => .ofBool false
  | objectStatus => .ofInteger 500
  | objectReason => .ofString "error"
  | objectTtl | objectGrace => ofMillis 0
  | objectHits | socketPace => .ofInteger 0
  | socketAlgorithm => .ofString "cubic"
  | socketWindow => .ofInteger 60
  | socketLoss => .ofFloat 0.0
  | socketNextHop => .ofIp .loopback
  | waf w => wafInitial w

end Slot

@[ext]
structure Slots where
  get : Slot → Value

namespace Slots

def initial : Slots := ⟨Slot.initial⟩

def put (s : Slots) (slot : Slot) (v : Value) : Slots := ⟨fun t => if t = slot then v else s.get t⟩

theorem get_put (s : Slots) (slot other : Slot) (v : Value) :
    (s.put slot v).get other = if other = slot then v else s.get other := rfl

end Slots

end EdgeCache
