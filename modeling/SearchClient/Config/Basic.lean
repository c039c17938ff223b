import SearchClient.Duration
import SearchClient.Endpoint
import SearchClient.Json.Record

/-!
# Configuration

Where the engine is, how long to wait for it, what to log, and whether answers
are returned raw.  Every field has a default.
-/

namespace SearchClient

structure EndpointConfig where
  scheme : String := "http"
  host : String := "127.0.0.1"
  port : UInt16 := 9200
  deriving DecidableEq

structure TransportConfig where
  connectTimeoutSecs : UInt64 := 30
  readTimeoutSecs : UInt64 := 30
  deriving DecidableEq

structure LogConfig where
  format : String := "pretty"
  level : String := "info,quarry=debug"
  deriving DecidableEq

structure Config where
  endpoint : EndpointConfig := {}
  transport : TransportConfig := {}
  logging : LogConfig := {}
  debug : Bool := false
  deriving DecidableEq

namespace TransportConfig

def connectTimeout (t : TransportConfig) : Duration := .ofSeconds t.connectTimeoutSecs.toNat

/-- The timeout of each request. -/
def timeout (t : TransportConfig) : Duration := .ofSeconds t.readTimeoutSecs.toNat

end TransportConfig

def Config.host (c : Config) : Except SpecError Endpoint :=
  Endpoint.ofParts c.endpoint.scheme c.endpoint.host c.endpoint.port

/-! ## Decoding -/

def EndpointConfig.shape : Shape EndpointConfig where
  name := "EndpointConfig"
  start := {}
  fields := [
    .defaulted "scheme" Decode.string fun c x => { c with scheme := x },
    .defaulted "host" Decode.string fun c x => { c with host := x },
    .defaulted "port" Decode.word16 fun c x => { c with port := x }]

def TransportConfig.shape : Shape TransportConfig where
  name := "TransportConfig"
  start := {}
  fields := [
    .defaulted "connect_timeout_secs" Decode.word64 fun c x => { c with connectTimeoutSecs := x },
    .defaulted "read_timeout_secs" Decode.word64 fun c x => { c with readTimeoutSecs := x }]

def LogConfig.shape : Shape LogConfig where
  name := "ObservabilityConfig"
  start := {}
  fields := [
    .defaulted "log_format" Decode.string fun c x => { c with format := x },
    .defaulted "log_level" Decode.string fun c x => { c with level := x }]

namespace Config

def shape (surplus : Option ExpectedLength) : Shape Config where
  name := "Config"
  start := {}
  fields := [
    .defaulted "endpoint" (EndpointConfig.shape.decodeWith surplus) fun c x =>
      { c with endpoint := x },
    .defaulted "transport" (TransportConfig.shape.decodeWith surplus) fun c x =>
      { c with transport := x },
    .defaulted "observability" (LogConfig.shape.decodeWith surplus) fun c x =>
      { c with logging := x },
    .defaulted "debug" Decode.bool fun c x => { c with debug := x }]

def decodeWith (surplus : Option ExpectedLength) : Decoder Config :=
  (shape surplus).decodeWith surplus

def decode : Decoder Config := decodeWith (some .fewer)

def encode (c : Config) : Json :=
  .object [
    ("endpoint", .object [
      ("scheme", .string c.endpoint.scheme),
      ("host", .string c.endpoint.host),
      ("port", .ofUInt64 c.endpoint.port.toUInt64)]),
    ("transport", .object [
      ("connect_timeout_secs", .ofUInt64 c.transport.connectTimeoutSecs),
      ("read_timeout_secs", .ofUInt64 c.transport.readTimeoutSecs)]),
    ("observability", .object [
      ("log_format", .string c.logging.format),
      ("log_level", .string c.logging.level)]),
    ("debug", .bool c.debug)]

end Config

end SearchClient
