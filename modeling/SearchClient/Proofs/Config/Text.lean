import SearchClient.Config.Text
import SearchClient.Proofs.Json.Decode
import SearchClient.Proofs.Toml.Document

/-!
# Configuration files read back

A configuration whose timeouts fit a signed integer is read back from the text
that is printed for it.
-/

namespace SearchClient

open Toml

theorem Toml.Scalar.toJson_int {value : Int} {n : UInt64} (h : value = n.toNat) :
    (Scalar.int value).toJson = .ofUInt64 n := by
  subst h
  have hlt := n.toNat_lt
  rw [Scalar.toJson, dif_pos ⟨by omega, by omega⟩]
  rfl

/-! ## Sections -/

namespace EndpointConfig

def written (e : EndpointConfig) : Json := .object [
  ("scheme", .string e.scheme),
  ("host", .string e.host),
  ("port", .ofUInt64 e.port.toUInt64)]

theorem decode_written (e : EndpointConfig) (surplus : Option ExpectedLength) :
    shape.decodeWith surplus e.written = .ok e := by
  have hplain : shape.IsPlain := ⟨by decide, by simp [shape]⟩
  have hslots := Shape.decodeWith_slots hplain (by simp [shape])
    (shape.fields.zip [
      some (.string e.scheme), some (.string e.host), some (.ofUInt64 e.port.toUInt64)])
    (by simp [shape]) (by simp [shape]) surplus
  apply hslots.trans
  refine (Field.bind_defaulted _ rfl).2 ⟨_, rfl, ?_⟩
  refine (Field.bind_defaulted _ rfl).2 ⟨_, rfl, ?_⟩
  exact (Field.bind_defaulted _ rfl).2 ⟨_, Decode.word16_ofUInt64 e.port, rfl⟩

end EndpointConfig

namespace TransportConfig

def written (t : TransportConfig) : Json := .object [
  ("connect_timeout_secs", .ofUInt64 t.connectTimeoutSecs),
  ("read_timeout_secs", .ofUInt64 t.readTimeoutSecs)]

theorem decode_written (t : TransportConfig) (surplus : Option ExpectedLength) :
    shape.decodeWith surplus t.written = .ok t := by
  have hplain : shape.IsPlain := ⟨by decide, by simp [shape]⟩
  have hslots := Shape.decodeWith_slots hplain (by simp [shape])
    (shape.fields.zip [
      some (.ofUInt64 t.connectTimeoutSecs), some (.ofUInt64 t.readTimeoutSecs)])
    (by simp [shape]) (by simp [shape]) surplus
  apply hslots.trans
  refine (Field.bind_defaulted _ rfl).2 ⟨_, Decode.word64_ofUInt64 _, ?_⟩
  exact (Field.bind_defaulted _ rfl).2 ⟨_, Decode.word64_ofUInt64 _, rfl⟩

end TransportConfig

namespace LogConfig

def written (l : LogConfig) : Json := .object [
  ("log_format", .string l.format),
  ("log_level", .string l.level)]

theorem decode_written (l : LogConfig) (surplus : Option ExpectedLength) :
    shape.decodeWith surplus l.written = .ok l := by
  have hplain : shape.IsPlain := ⟨by decide, by simp [shape]⟩
  have hslots := Shape.decodeWith_slots hplain (by simp [shape])
    (shape.fields.zip [some (.string l.format), some (.string l.level)])
    (by simp [shape]) (by simp [shape]) surplus
  apply hslots.trans
  refine (Field.bind_defaulted _ rfl).2 ⟨_, rfl, ?_⟩
  exact (Field.bind_defaulted _ rfl).2 ⟨_, rfl, rfl⟩

end LogConfig

/-! ## Whole files -/

namespace Config

/-- The table of a printed configuration, in which the plain entry comes first. -/
def table (c : Config) : Node := .table .header (nodes c.plainEntries ++ headed c.tableEntries)

theorem toJson_table (c : Config) :
    c.table.toJson = .object [
      ("debug", .bool c.debug),
      ("endpoint", c.endpoint.written),
      ("transport", c.transport.written),
      ("observability", c.logging.written)] := by
  have hport := Scalar.toJson_int
    (show (c.endpoint.port.toNat : Int) = c.endpoint.port.toUInt64.toNat by simp)
  have hconnect := Scalar.toJson_int
    (show (c.transport.connectTimeoutSecs.toNat : Int) = _ from rfl)
  have hread := Scalar.toJson_int
    (show (c.transport.readTimeoutSecs.toNat : Int) = _ from rfl)
  simp only [table, plainEntries, tableEntries, nodes, headed, List.map_cons, List.map_nil,
    List.cons_append, List.nil_append, Node.toJson, Node.entriesToJson, Plain.scalar, hport,
    hconnect, hread]
  rfl

theorem decode_table (c : Config) : decodeWith none c.table.toJson = .ok c := by
  have hplain : (shape none).IsPlain := ⟨by decide, by simp [shape]⟩
  have hslots := Shape.decodeWith_slots hplain (by simp [shape])
    ((shape none).fields.rotateRight.zip [
      some (.bool c.debug),
      some c.endpoint.written,
      some c.transport.written,
      some c.logging.written])
    (by simp [shape, List.rotateRight]) (by simp [shape, List.rotateRight]) none
  rw [toJson_table]
  apply hslots.trans
  refine (Field.bind_defaulted _ rfl).2 ⟨_, rfl, ?_⟩
  refine (Field.bind_defaulted _ rfl).2 ⟨_, c.endpoint.decode_written none, ?_⟩
  refine (Field.bind_defaulted _ rfl).2 ⟨_, c.transport.decode_written none, ?_⟩
  exact (Field.bind_defaulted _ rfl).2 ⟨_, c.logging.decode_written none, rfl⟩

theorem arePrintable_plainEntries (c : Config) : ArePrintable c.plainEntries where
  bare := List.forall_mem_singleton.2 (show IsBare "debug" by decide)
  inRange := List.forall_mem_singleton.2 rfl
  nodup := by simp [plainEntries]

theorem arePrintable_tableEntries {c : Config} (h : c.isWritable = true) :
    ∀ table ∈ c.tableEntries, ArePrintable table.2 := by
  simp only [isWritable, Bool.and_eq_true, decide_eq_true_eq] at h
  have hport := c.endpoint.port.toNat_lt
  simp only [tableEntries, List.forall_mem_cons]
  refine ⟨⟨?_, ?_, by simp⟩, ⟨?_, ?_, by simp⟩, ⟨?_, ?_, by simp⟩, by simp⟩
  · simp only [List.forall_mem_cons]
    exact ⟨by decide, by decide, by decide, by simp⟩
  · simp [Plain.inRange, Toml.inRange]
    omega
  · simp only [List.forall_mem_cons]
    exact ⟨by decide, by decide, by simp⟩
  · simp [Plain.inRange, Toml.inRange]
    omega
  · simp only [List.forall_mem_cons]
    exact ⟨by decide, by decide, by simp⟩
  · simp [Plain.inRange]

/-- A configuration that can be printed is read back from its text. -/
theorem ofText?_render {c : Config} (h : c.isWritable = true) :
    ofText? c.render = some c := by
  have hparse : parse? c.render = some (nodes c.plainEntries ++ headed c.tableEntries) := by
    refine parse?_renderDocument (arePrintable_plainEntries c) ?_
      (arePrintable_tableEntries h) ?_
    · simp only [tableEntries, List.forall_mem_cons]
      exact ⟨by decide, by decide, by decide, by simp⟩
    · simp [plainEntries, tableEntries]
  have hdecode := c.decode_table
  rw [table] at hdecode
  rw [ofText?, hparse, Option.bind_some, hdecode]
  rfl

end Config

end SearchClient
