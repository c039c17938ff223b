import SearchClient.Proofs.Json.Extension
import SearchClient.Request

/-!
# Targets

The strict and the lenient reading of a mapping agree on what addresses a
document and on the document, and that is all that a document operation uses.
-/

namespace SearchClient.Specification

/-- The part of a specification that addresses a document. -/
def names (s : Specification) : Option String × Option String × Option String :=
  (s.index, s.docType, s.id)

def searchFields : List (Field Specification) := shape.fields.drop 3

theorem shape_extends : shape.Extends names targetShape searchFields where
  fields := rfl
  start := rfl
  shared := by
    intro field hfield j record next other hnames hput
    simp only [names, Prod.mk.injEq] at hnames
    simp only [targetShape, List.mem_cons, List.not_mem_nil, or_false] at hfield
    rcases hfield with rfl | rfl | rfl <;>
      obtain ⟨x, hx, rfl⟩ := Field.put_defaulted hput <;>
      exact ⟨_, Except.map_eq_ok.2 ⟨x, hx, rfl⟩, by simp [names, hnames]⟩
  more := by
    intro field hfield j record next hput
    simp only [searchFields, shape, List.drop_succ_cons, List.drop_zero,
      List.mem_cons, List.not_mem_nil, or_false] at hfield
    rcases hfield with rfl | rfl | rfl | rfl | rfl | rfl | rfl | rfl | rfl | rfl |
      rfl | rfl | rfl | rfl | rfl | rfl | rfl | rfl | rfl <;>
      obtain ⟨x, -, rfl⟩ := Except.map_eq_ok.1 hput <;> rfl
  optional := by
    intro field hfield
    simp only [targetShape, List.mem_cons, List.not_mem_nil, or_false] at hfield
    rcases hfield with rfl | rfl | rfl <;> rfl

/-- Alike for a document operation. -/
structure SameDocument (s t : Specification) : Prop where
  names : s.names = t.names
  document : s.document = t.document

theorem ofDocumentMapping_of_ofMapping {entries : Entries Json}
    {s : Specification} (h : ofMapping (.object entries) = .ok s) :
    ∃ t, ofDocumentMapping (.object entries) = .ok t ∧ t.SameDocument s := by
  obtain ⟨record, hrecord, rfl⟩ := Except.map_eq_ok.1 h
  obtain ⟨other, hother, hnames⟩ := shape_extends.decode_object hrecord
  exact ⟨_, Except.map_eq_ok.2 ⟨other, hother, rfl⟩, hnames.symm, rfl⟩

namespace SameDocument

variable {s t : Specification}

theorem target? (h : s.SameDocument t) : s.target? = t.target? := by
  have hnames := h.names
  simp only [Specification.names, Prod.mk.injEq] at hnames
  rw [Specification.target?, Specification.target?, hnames.1, hnames.2.1]

theorem prepare (h : s.SameDocument t) (host : Endpoint) {op : Operation}
    (hop : op.isSearch = false) : s.prepare host op = t.prepare host op := by
  have hid : s.id = t.id := congrArg (fun names => names.2.2) h.names
  have hwith : s.targetWithId? = t.targetWithId? := by
    rw [targetWithId?, targetWithId?, h.target?, hid]
  cases op with
  | save =>
      simp only [Specification.prepare, prepareSave, h.target?, h.document, hid]
  | update =>
      simp only [Specification.prepare, prepareUpdate, hwith, h.document]
  | delete => simp only [Specification.prepare, prepareBare, hwith]
  | get => simp only [Specification.prepare, prepareBare, hwith]
  | search mode => contradiction

end SameDocument

end SearchClient.Specification
