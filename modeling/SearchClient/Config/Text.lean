import SearchClient.Config.Basic
import SearchClient.Toml.Printer
import SearchClient.Toml.Reader

/-!
# Configuration files

A configuration is a TOML document with a table for each part of it.  Unknown
keys do not count, and neither do items after the last field where a table is
given as an array.  A timeout that does not fit a signed integer cannot be
written.
-/

namespace SearchClient.Config

def ofText? (text : List Char) : Option Config :=
  (Toml.parse? text).bind fun table =>
    (decodeWith none (Toml.Node.table .header table).toJson).toOption

def plainEntries (c : Config) : List (String × Toml.Plain) := [("debug", .bool c.debug)]

def tableEntries (c : Config) : List (String × List (String × Toml.Plain)) := [
  ("endpoint", [
    ("scheme", .string c.endpoint.scheme),
    ("host", .string c.endpoint.host),
    ("port", .int c.endpoint.port.toNat)]),
  ("transport", [
    ("connect_timeout_secs", .int c.transport.connectTimeoutSecs.toNat),
    ("read_timeout_secs", .int c.transport.readTimeoutSecs.toNat)]),
  ("observability", [
    ("log_format", .string c.logging.format),
    ("log_level", .string c.logging.level)])]

def isWritable (c : Config) : Bool :=
  c.transport.connectTimeoutSecs.toNat < 0x8000000000000000 &&
    c.transport.readTimeoutSecs.toNat < 0x8000000000000000

def render (c : Config) : List Char := Toml.renderDocument c.plainEntries c.tableEntries

end SearchClient.Config
