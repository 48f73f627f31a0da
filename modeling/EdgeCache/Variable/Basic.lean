import EdgeCache.Context.Slot
import EdgeCache.Context.Basic

/-!
Predefined variables. A name stands for a place in the context or for something that is read off it;
which names are known depends on the stage.
-/

namespace EdgeCache

inductive Reading where
  | constant (v : Value)
  | clientAddress
  | clientPort
  | isIpv6
  | target (m : MessageName)
  | path (m : MessageName)
  | query (m : MessageName)
  | baseName
  | directory
  | fileExtension
  | protocol (m : MessageName)
  | body (m : MessageName)
  | bodyBase64
  | restarts
  | requestId
  | backendName
  | backendHealthy
  | backendIsOrigin
  | hostname
  | identity
  | datacenter
  | region
  | now
  | nowSeconds
  | start
  | startSeconds
  | startMillis
  | elapsed
  | elapsedMillis
  | state
  | selectedName
  | selectedAddress
  | selectedPort
  | locallyGenerated
  | bodyBytes
  | headerBytes
  | allBytes
  | notBefore
  | notAfter

inductive Variable where
  | slot (s : Slot)
  | header (m : MessageName) (name : String)
  | local (name : String)
  | group (index : String)
  | clientIdentity
  | method (m : MessageName)
  | url (m : MessageName)
  | status (m : MessageName)
  | backend
  | reading (r : Reading)

namespace Variable

def integer (n : Int64) : Variable := .reading (.constant (.ofInteger n))
def float (x : Float) : Variable := .reading (.constant (.ofFloat x))
def string (s : String) : Variable := .reading (.constant (.ofString s))
def bool (b : Bool) : Variable := .reading (.constant (.ofBool b))

def cipherNumbers : String :=
    "130213031301C02FC02BC030C02C009EC0270067C028006B00A3009FCCA9CCA8CCAAC0AFC0ADC0A3C09FC05DC0" ++
    "61C057C05300A2C0AEC0ACC0A2C09EC05CC060C056C052C024006AC0230040C00AC01400390038C009C0130033" ++
    "0032009DC0A1C09DC051009CC0A0C09CC050003D003C0035002F00FF"

def cipherNames : List String :=
  ["TLS_AES_256_GCM_SHA384", "TLS_CHACHA20_POLY1305_SHA256", "TLS_AES_128_GCM_SHA256",
   "TLS_ECDHE_RSA_WITH_AES_128_GCM_SHA256", "TLS_ECDHE_ECDSA_WITH_AES_128_GCM_SHA256",
   "TLS_ECDHE_RSA_WITH_AES_256_GCM_SHA384", "TLS_ECDHE_ECDSA_WITH_AES_256_GCM_SHA384",
   "TLS_DHE_RSA_WITH_AES_128_GCM_SHA256", "TLS_ECDHE_RSA_WITH_AES_128_CBC_SHA256",
   "TLS_DHE_RSA_WITH_AES_128_CBC_SHA256", "TLS_ECDHE_RSA_WITH_AES_256_CBC_SHA384",
   "TLS_DHE_RSA_WITH_AES_256_CBC_SHA256", "TLS_DHE_DSS_WITH_AES_256_GCM_SHA384",
   "TLS_DHE_RSA_WITH_AES_256_GCM_SHA384", "TLS_ECDHE_ECDSA_WITH_CHACHA20_POLY1305_SHA256",
   "TLS_ECDHE_RSA_WITH_CHACHA20_POLY1305_SHA256", "TLS_DHE_RSA_WITH_CHACHA20_POLY1305_SHA256",
   "TLS_ECDHE_ECDSA_WITH_AES_256_CCM_8", "TLS_ECDHE_ECDSA_WITH_AES_256_CCM",
   "TLS_DHE_RSA_WITH_AES_256_CCM_8", "TLS_DHE_RSA_WITH_AES_256_CCM",
   "TLS_ECDHE_ECDSA_WITH_ARIA_256_GCM_SHA384", "TLS_ECDHE_RSA_WITH_ARIA_256_GCM_SHA384",
   "TLS_DHE_DSS_WITH_ARIA_256_GCM_SHA384", "TLS_DHE_RSA_WITH_ARIA_256_GCM_SHA384",
   "TLS_DHE_DSS_WITH_AES_128_GCM_SHA256", "TLS_ECDHE_ECDSA_WITH_AES_128_CCM_8",
   "TLS_ECDHE_ECDSA_WITH_AES_128_CCM", "TLS_DHE_RSA_WITH_AES_128_CCM_8",
   "TLS_DHE_RSA_WITH_AES_128_CCM", "TLS_ECDHE_ECDSA_WITH_ARIA_128_GCM_SHA256",
   "TLS_ECDHE_RSA_WITH_ARIA_128_GCM_SHA256", "TLS_DHE_DSS_WITH_ARIA_128_GCM_SHA256",
   "TLS_DHE_RSA_WITH_ARIA_128_GCM_SHA256", "TLS_ECDHE_ECDSA_WITH_AES_256_CBC_SHA384",
   "TLS_DHE_DSS_WITH_AES_256_CBC_SHA256", "TLS_ECDHE_ECDSA_WITH_AES_128_CBC_SHA256",
   "TLS_DHE_DSS_WITH_AES_128_CBC_SHA256", "TLS_ECDHE_ECDSA_WITH_AES_256_CBC_SHA",
   "TLS_ECDHE_RSA_WITH_AES_256_CBC_SHA", "TLS_DHE_RSA_WITH_AES_256_CBC_SHA",
   "TLS_DHE_DSS_WITH_AES_256_CBC_SHA", "TLS_ECDHE_ECDSA_WITH_AES_128_CBC_SHA",
   "TLS_ECDHE_RSA_WITH_AES_128_CBC_SHA", "TLS_DHE_RSA_WITH_AES_128_CBC_SHA",
   "TLS_DHE_DSS_WITH_AES_128_CBC_SHA", "TLS_RSA_WITH_AES_256_GCM_SHA384",
   "TLS_RSA_WITH_AES_256_CCM_8", "TLS_RSA_WITH_AES_256_CCM",
   "TLS_RSA_WITH_ARIA_256_GCM_SHA384", "TLS_RSA_WITH_AES_128_GCM_SHA256",
   "TLS_RSA_WITH_AES_128_CCM_8", "TLS_RSA_WITH_AES_128_CCM",
   "TLS_RSA_WITH_ARIA_128_GCM_SHA256", "TLS_RSA_WITH_AES_256_CBC_SHA256",
   "TLS_RSA_WITH_AES_128_CBC_SHA256", "TLS_RSA_WITH_AES_256_CBC_SHA",
   "TLS_RSA_WITH_AES_128_CBC_SHA", "TLS_EMPTY_RENEGOTIATION_INFO_SCSV"]

def mathConstants : List (String × Variable) :=
  [("math.E", float 2.71828182845904523536),
    ("math.PI", float 3.14159265358979323846),
    ("math.2PI", float 6.28318530717958647693),
    ("math.PI_2", float 1.57079632679489661923),
    ("math.PI_4", float 0.785398163397448309616),
    ("math.1_PI", float 0.318309886183790671538),
    ("math.2_PI", float 0.636619772367581343076),
    ("math.2_SQRTPI", float 1.12837916709551257390),
    ("math.SQRT2", float 1.41421356237309504880),
    ("math.SQRT1_2", float 0.707106781186547524401),
    ("math.LN2", float 0.693147180559945309417),
    ("math.LN10", float 2.30258509299404568402),
    ("math.LOG2E", float 1.44269504088896340736),
    ("math.LOG10E", float 0.434294481903251827651),
    ("math.FLOAT_EPSILON", float 2.2204460492503131e-16),
    ("math.FLOAT_MAX", float 1.7976931348623157e308),
    ("math.FLOAT_MIN", float 2.2250738585072014e-308),
    ("math.NAN", float Binary64.nan),
    ("math.POS_INFINITY", float Binary64.infinity),
    ("math.NEG_INFINITY", float (-Binary64.infinity)),
    ("math.POS_HUGE_VAL", float Binary64.infinity),
    ("math.NEG_HUGE_VAL", float (-Binary64.infinity)),
    ("math.INTEGER_MAX", integer 9223372036854775807),
    ("math.INTEGER_MIN", integer (-9223372036854775808)),
    ("math.FLOAT_DIG", integer 15),
    ("math.FLOAT_MANT_DIG", integer 53),
    ("math.FLOAT_RADIX", integer 2)]

def common : List (String × Variable) :=
  [("client.ip", .reading .clientAddress),
    ("client.port", .reading .clientPort),
    ("client.identity", .clientIdentity),
    ("client.requests", integer 1),
    ("client.socket.congestion_algorithm", .slot .socketAlgorithm),
    ("client.socket.cwnd", .slot .socketWindow),
    ("client.socket.pace", .slot .socketPace),
    ("client.socket.ploss", .slot .socketLoss),
    ("client.socket.nexthop", .slot .socketNextHop),
    ("req.method", .method .request),
    ("req.request", .method .request),
    ("req.url", .url .request),
    ("req.topurl", .reading (.target .request)),
    ("req.url.path", .reading (.path .request)),
    ("req.url.qs", .reading (.query .request)),
    ("req.url.basename", .reading .baseName),
    ("req.url.dirname", .reading .directory),
    ("req.url.ext", .reading .fileExtension),
    ("req.proto", .reading (.protocol .request)),
    ("req.body", .reading (.body .request)),
    ("req.body.base64", .reading .bodyBase64),
    ("req.restarts", .reading .restarts),
    ("req.is_ssl", bool false),
    ("req.is_ipv6", .reading .isIpv6),
    ("req.xid", .reading .requestId),
    ("req.hash", .slot .hash),
    ("req.esi", .slot .esi),
    ("req.hash_always_miss", .slot .alwaysMiss),
    ("req.hash_ignore_busy", .slot .ignoreBusy),
    ("req.enable_range_on_pass", .slot .rangeOnPass),
    ("req.enable_segmented_caching", .slot .segmentedCaching),
    ("req.max_stale_if_error", .slot .maxStaleIfError),
    ("req.max_stale_while_revalidate", .slot .maxStaleWhileRevalidate),
    ("req.vcl", string "edgevcl.1_0"),
    ("req.vcl.generation", integer 1),
    ("req.vcl.version", integer 1),
    ("req.backend", .backend),
    ("req.backend.healthy", .reading .backendHealthy),
    ("req.backend.is_origin", .reading .backendIsOrigin),
    ("server.hostname", .reading .hostname),
    ("server.identity", .reading .identity),
    ("server.datacenter", .reading .datacenter),
    ("server.region", .reading .region),
    ("now", .reading .now),
    ("now.sec", .reading .nowSeconds),
    ("time.start", .reading .start),
    ("time.start.sec", .reading .startSeconds),
    ("time.start.msec", .reading .startMillis),
    ("time.elapsed", .reading .elapsed),
    ("time.elapsed.msec", .reading .elapsedMillis),
    ("fastly.error", .slot .lastError),
    ("fastly_info.state", .reading .state),
    ("fastly_info.is_h2", bool false),
    ("fastly_info.is_h3", bool false),
    ("fastly_info.h2.is_push", bool false),
    ("fastly_info.h2.stream_id", integer 1),
    ("fastly_info.edge.is_tls", bool false)]

def firewall : List (String × Variable) :=
  [("waf.anomaly_score", .slot (.waf .anomalyScore)),
    ("waf.blocked", .slot (.waf .blocked)),
    ("waf.counter", .slot (.waf .counter)),
    ("waf.executed", .slot (.waf .executed)),
    ("waf.failures", .slot (.waf .failures)),
    ("waf.http_violation_score", .slot (.waf .httpViolationScore)),
    ("waf.inbound_anomaly_score", .slot (.waf .inboundAnomalyScore)),
    ("waf.lfi_score", .slot (.waf .lfiScore)),
    ("waf.logdata", .slot (.waf .logdata)),
    ("waf.logged", .slot (.waf .logged)),
    ("waf.message", .slot (.waf .message)),
    ("waf.passed", .slot (.waf .passed)),
    ("waf.php_injection_score", .slot (.waf .phpInjectionScore)),
    ("waf.rce_score", .slot (.waf .rceScore)),
    ("waf.rfi_score", .slot (.waf .rfiScore)),
    ("waf.rule_id", .slot (.waf .ruleId)),
    ("waf.session_fixation_score", .slot (.waf .sessionFixationScore)),
    ("waf.severity", .slot (.waf .severity)),
    ("waf.sql_injection_score", .slot (.waf .sqlInjectionScore)),
    ("waf.xss_score", .slot (.waf .xssScore))]

/-- The variables of the connection. They are fixed, apart from two dates around the present. -/
def connection : List (String × Variable) :=
  [("client.socket.tcp_info", bool false),
    ("tls.client.cipher", string "ECDHE-RSA-AES128-GCM-SHA256"),
    ("tls.client.ciphers_list", string cipherNumbers),
    ("tls.client.ciphers_list_sha", string "JZtiTn8H/ntxORk+XXvU2EvNoz8="),
    ("tls.client.ciphers_list_txt", string (String.intercalate ":" cipherNames)),
    ("tls.client.ciphers_sha", string "+7dB1w3Ov9S4Ct3HG3Qed68pSko="),
    ("tls.client.handshake_sent_bytes", integer 4759),
    ("tls.client.iana_chosen_cipher_id", integer 49199),
    ("tls.client.ja3_md5", string "582a3b42ab84f78a5b376b1e29d6d367"),
    ("tls.client.protocol", string "TLSv1.2"),
    ("tls.client.servername", string ""),
    ("tls.client.tlsexts_list", string ""),
    ("tls.client.tlsexts_list_sha", string ""),
    ("tls.client.tlsexts_list_txt", string ""),
    ("tls.client.tlsexts_sha", string ""),
    ("tls.client.certificate.dn", string ""),
    ("tls.client.certificate.issuer_dn", string ""),
    ("tls.client.certificate.raw_certificate_b64", string ""),
    ("tls.client.certificate.serial_number", string ""),
    ("tls.client.certificate.is_cert_bad", bool false),
    ("tls.client.certificate.is_cert_expired", bool false),
    ("tls.client.certificate.is_cert_missing", bool false),
    ("tls.client.certificate.is_cert_revoked", bool false),
    ("tls.client.certificate.is_cert_unknown", bool false),
    ("tls.client.certificate.is_unknown_ca", bool false),
    ("tls.client.certificate.is_verified", bool true),
    ("tls.client.certificate.not_before", .reading .notBefore),
    ("tls.client.certificate.not_after", .reading .notAfter),
    ("transport.type", string "tcp"),
    ("transport.bw_estimate", integer 0)]

def quicFields : List String :=
  ["cc.cwnd", "cc.ssthresh", "num_bytes.received", "num_bytes.sent", "num_packets.ack_received",
    "num_packets.decryption_failed", "num_packets.late_acked", "num_packets.lost",
    "num_packets.received", "num_packets.sent", "rtt.latest", "rtt.minimum", "rtt.smoothed",
    "rtt.variance"]

def backendRequestTable : List (String × Variable) :=
  [("bereq.method", .method .backendRequest),
    ("bereq.request", .method .backendRequest),
    ("bereq.url", .url .backendRequest),
    ("bereq.url.path", .reading (.path .backendRequest)),
    ("bereq.url.qs", .reading (.query .backendRequest)),
    ("bereq.proto", .reading (.protocol .backendRequest)),
    ("bereq.body", .reading (.body .backendRequest)),
    ("bereq.connect_timeout", .slot .connectTimeout),
    ("bereq.first_byte_timeout", .slot .firstByteTimeout),
    ("bereq.between_bytes_timeout", .slot .betweenBytesTimeout),
    ("bereq.is_clustering", bool false)]

def backendResponseTable : List (String × Variable) :=
  [("beresp.status", .status .backendResponse),
    ("beresp.response", .slot .backendReason),
    ("beresp.proto", .reading (.protocol .backendResponse)),
    ("beresp.ttl", .slot .backendTtl),
    ("beresp.grace", .slot .backendGrace),
    ("beresp.stale_if_error", .slot .backendStaleIfError),
    ("beresp.stale_while_revalidate", .slot .backendStaleWhileRevalidate),
    ("beresp.cacheable", .slot .backendCacheable),
    ("beresp.do_esi", .slot .backendDoEsi),
    ("beresp.do_stream", .slot .backendDoStream),
    ("beresp.gzip", .slot .backendGzip),
    ("beresp.brotli", .slot .backendBrotli),
    ("beresp.saintmode", .slot .backendSaintmode),
    ("beresp.backend.name", .reading .selectedName),
    ("beresp.backend.ip", .reading .selectedAddress),
    ("beresp.backend.port", .reading .selectedPort)]

def minute : Variable := .reading (.constant (Slot.ofMillis 60000))

/-- Of a cached object. There is no cache, so its ages are always a minute. -/
def objectStatistics : List (String × Variable) :=
  [("obj.hits", .slot .objectHits), ("obj.age", minute), ("obj.entered", minute),
    ("obj.lastuse", minute), ("obj.is_pci", bool false)]

def objectTable : List (String × Variable) :=
  [("obj.status", .slot .objectStatus),
    ("obj.response", .slot .objectReason),
    ("obj.ttl", .slot .objectTtl),
    ("obj.grace", .slot .objectGrace),
    ("obj.cacheable", bool true),
    ("obj.proto", .reading (.protocol .object))] ++ objectStatistics

def responseTable : List (String × Variable) :=
  [("resp.status", .status .response),
    ("resp.response", .slot .responseReason),
    ("resp.proto", .reading (.protocol .response)),
    ("resp.is_locally_generated", .reading .locallyGenerated),
    ("resp.stale", bool false),
    ("resp.stale.is_error", bool false),
    ("resp.stale.is_revalidating", bool false)]

def special : Scope → List (String × Variable)
  | .unknown | .recv | .hash => []
  | .hit => objectTable
  | .miss | .pass => backendRequestTable
  | .fetch => backendResponseTable ++ backendRequestTable
  | .error =>
    [("req.backend.ip", .reading .selectedAddress),
      ("req.backend.port", .reading .selectedPort),
      ("req.backend.name", .reading .backendName),
      ("req.digest.ratio", float 0.4)] ++ objectTable
  | .deliver => responseTable ++ objectStatistics
  | .log =>
    [("resp.body_bytes_written", .reading .bodyBytes),
      ("resp.header_bytes_written", .reading .headerBytes),
      ("resp.bytes_written", .reading .allBytes),
      ("resp.completed", bool true)] ++ responseTable ++ objectStatistics

def readableMessages : Scope → List MessageName
  | .unknown | .recv | .hash => [.request]
  | .hit | .error => [.object, .request]
  | .miss | .pass => [.backendRequest, .request]
  | .fetch => [.backendRequest, .backendResponse, .request]
  | .deliver | .log => [.response, .request]

def writableMessages : Scope → List MessageName
  | .unknown | .recv | .hash | .hit | .log => [.request]
  | .miss | .pass => [.backendRequest, .request]
  | .fetch => [.backendResponse, .request]
  | .error => [.object, .request]
  | .deliver => [.response, .request]

def headerOf? (name : String) : Option (MessageName × String) := do
  let (front, field) ← Pieces.cutAtPart? ".http.".toList name.toList
  let m ← MessageName.ofText? (String.ofList front)
  if field.isEmpty then none else some (m, String.ofList field)

def after? (start name : String) : Option String :=
  if start.toList.isPrefixOf name.toList then some (String.ofList (name.toList.drop start.length))
  else none

def family? (name : String) : Option Variable :=
  match after? "re.group." name, after? "var." name, after? "client.socket.tcpi_" name,
    after? "quic." name with
  | some index, _, _, _ => some (.group index)
  | _, some _, _, _ => some (.local name)
  | _, _, some _, _ => some (integer 0)
  | _, _, _, some field => if quicFields.contains field then some (integer 0) else none
  | _, _, _, _ => none

def ofName? (s : Scope) (name : String) : Option Variable :=
  match (special s).lookup name, common.lookup name, family? name with
  | some v, _, _ => some v
  | none, some v, _ => some v
  | none, none, some v => some v
  | none, none, none =>
    match headerOf? name with
    | some (m, field) => if (readableMessages s).contains m then some (.header m field) else none
    | none =>
      match mathConstants.lookup name, firewall.lookup name with
      | some v, _ => some v
      | none, some v => some v
      | none, none => connection.lookup name

def writableSlot (s : Scope) : Slot → Bool
  | .socketAlgorithm | .socketWindow | .socketPace => true
  | .waf w => w != .failures
  | .esi | .alwaysMiss | .ignoreBusy | .maxStaleIfError | .maxStaleWhileRevalidate | .rangeOnPass
  | .segmentedCaching => s == .recv
  | .hash => s == .hash || s == .error
  | .connectTimeout | .firstByteTimeout | .betweenBytesTimeout => s == .miss || s == .pass
  | .backendReason | .backendTtl | .backendGrace | .backendStaleIfError
    | .backendStaleWhileRevalidate
  | .backendCacheable | .backendDoEsi | .backendDoStream | .backendGzip | .backendBrotli
  | .backendSaintmode => s == .fetch
  | .objectStatus | .objectReason => s == .error
  | .objectTtl | .objectGrace => s == .hit || s == .error
  | .responseReason => s == .deliver
  | .lastError | .objectHits | .socketLoss | .socketNextHop => false

def isWritable (s : Scope) : Variable → Bool
  | .slot x => writableSlot s x
  | .header m _ => (writableMessages s).contains m
  | .method m | .url m => m == .request || (m == .backendRequest && (s == .miss || s == .pass))
  | .status m => (m == .backendResponse && s == .fetch) || (m == .response && s == .deliver)
  | .local _ | .clientIdentity | .backend => true
  | .group _ | .reading _ => false

end Variable

end EdgeCache
