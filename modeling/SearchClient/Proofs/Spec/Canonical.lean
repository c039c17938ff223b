import SearchClient.Proofs.Json.Canonical
import SearchClient.Proofs.Spec.Operators
import SearchClient.Spec.Filter
import SearchClient.Spec.Geo
import SearchClient.Spec.GroupColumn
import SearchClient.Spec.Keyword
import SearchClient.Spec.ScoreRule
import SearchClient.Spec.Sort

/-!
# Canonical forms of what callers give

Filters, geo constraints, sort directives, score rules, group columns and keywords
may each be given in several ways: an operator in any spelling, a number with or
without a fraction, a distance as number or text, a record as object or array.
However it was given, a value is written in one form, which is read as it again.
All values can be given but those with an infinite number, with an operator's name
kept as an unsupported token, or with `null` where that means no value.
-/

namespace SearchClient

open Decode (Settles HasCanonicalForms firstOf_cons_eq_ok)
open Shape (Member)

/-- The numbers that are there are finite. -/
def AllFinite (numbers : List (Option Binary64)) : Prop :=
  ∀ number ∈ numbers, ∀ x, number = some x → x.isFinite = true

/-! ## Operators and alternatives -/

namespace FilterOp

/-- No token that is kept as unsupported spells an operator. -/
def IsReadable (op : FilterOp) : Prop :=
  ∀ token, op = .unsupported token → ∀ other : FilterOp, ¬other.IsSpelled token

theorem parse_token_iff (op : FilterOp) : parse op.token = op ↔ op.IsReadable := by
  cases hsupported : op.isSupported with
  | true =>
      refine iff_of_true ?_ ?_
      · exact (parse_eq_iff_of_isSupported hsupported).2 (isSpelled_token hsupported)
      · rintro token rfl
        exact absurd hsupported Bool.false_ne_true
  | false =>
      obtain ⟨token, rfl⟩ := exists_token_of_not_supported hsupported
      simp [parse_eq_unsupported_iff, IsReadable, FilterOp.token]

def codec : Codec FilterOp where
  decode := decode
  encode := encode
  settles j op hread := by
    obtain ⟨text, -, rfl⟩ := Except.map_eq_ok.1 hread
    exact congrArg Except.ok (parse_token_parse text)

@[simp] theorem codec_readsBack_iff {op : FilterOp} :
    codec.ReadsBack op ↔ op.IsReadable := by
  rw [← parse_token_iff]
  exact Except.ok.injEq _ _ ▸ Iff.rfl

def optionalCodec : Codec (Option FilterOp) :=
  codec.optional fun _ _ _ _ => Json.noConfusion

@[simp] theorem optionalCodec_readsBack_iff {op : Option FilterOp} :
    optionalCodec.ReadsBack op ↔ ∀ o, op = some o → o.IsReadable := by
  refine (codec.optional_readsBack_iff _).trans (forall₂_congr fun o _ => ?_)
  rw [codec_readsBack_iff, and_iff_right]
  exact Json.noConfusion

end FilterOp

namespace Distance

def IsReadable (distance : Distance) : Prop :=
  ∀ x, distance = .number x → x.isFinite = true

theorem decode_eq_ok {j : Json} {distance : Distance} (h : decode j = .ok distance) :
    (∃ x, Codec.double.decode j = .ok x ∧ .number x = distance) ∨
      ∃ text, .text text = distance := by
  rcases firstOf_cons_eq_ok.1 h with hnumber | ⟨-, h⟩
  · exact .inl (Except.map_eq_ok.1 hnumber)
  · rcases firstOf_cons_eq_ok.1 h with htext | ⟨-, h⟩
    · obtain ⟨text, -, htext⟩ := Except.map_eq_ok.1 htext
      exact .inr ⟨text, htext⟩
    · contradiction

theorem decode_encode (distance : Distance) (h : distance.IsReadable) :
    decode distance.encode = .ok distance := by
  cases distance with
  | number x =>
      refine firstOf_cons_eq_ok.2 (.inl (Except.map_eq_ok.2 ⟨x, ?_, rfl⟩))
      exact Codec.double_readsBack_iff.2 (h x rfl)
  | text text => rfl

theorem isReadable_of_decode {j : Json} {distance : Distance}
    (h : decode j = .ok distance) : distance.IsReadable := by
  rcases decode_eq_ok h with ⟨x, hx, rfl⟩ | ⟨text, rfl⟩
  · rintro y ⟨⟩
    exact Decode.isFinite_of_double hx
  · exact nofun

theorem encode_ne_null {distance : Distance} (h : distance.IsReadable) :
    distance.encode ≠ .null := by
  cases distance with
  | number x => exact Codec.double_encode_ne_null (Codec.double_readsBack_iff.2 (h x rfl))
  | text text => exact Json.noConfusion

def codec : Codec Distance :=
  ⟨decode, encode, fun _ distance h => decode_encode distance (isReadable_of_decode h)⟩

def optionalCodec : Codec (Option Distance) :=
  codec.optional fun _ _ _ h => encode_ne_null (isReadable_of_decode h)

@[simp] theorem optionalCodec_readsBack_iff {distance : Option Distance} :
    optionalCodec.ReadsBack distance ↔ ∀ d, distance = some d → d.IsReadable := by
  refine (codec.optional_readsBack_iff _).trans (forall₂_congr fun d _ => ?_)
  constructor
  · exact fun h => isReadable_of_decode h.2
  · exact fun h => ⟨encode_ne_null h, decode_encode d h⟩

end Distance

namespace Keyword

theorem decode_encode (keyword : Keyword) : decode keyword.encode = .ok keyword := by
  cases keyword with
  | one term => rfl
  | many terms =>
      refine firstOf_cons_eq_ok.2 (.inr ⟨nofun, firstOf_cons_eq_ok.2 (.inl ?_)⟩)
      exact Except.map_eq_ok.2 ⟨terms, Decode.list_strings terms, rfl⟩

end Keyword

/-! ## Records -/

namespace FilterPredicate

def IsReadable (p : FilterPredicate) : Prop := p.operator.IsReadable

def members : List (Member FilterPredicate) := [
  ⟨_, "field", .string, field, fun p x => { p with field := x }⟩,
  ⟨_, "operator", FilterOp.codec, operator, fun p x => { p with operator := x }⟩,
  ⟨_, "value", .value, value, fun p x => { p with value := x }⟩,
  ⟨_, "termQuery", .bool, termQuery, fun p x => { p with termQuery := x }⟩,
  ⟨_, "match_type", .optionalString, matchType, fun p x => { p with matchType := x }⟩]

theorem hasMembers : shape.HasMembers members where
  names := by decide
  fields := rfl
  stored := by simp [members]
  spared := by simp [members, Member.Spares]
  whole _ := rfl
  start := by simp [members, Member.IsReadBack, shape, FilterOp.IsReadable]

theorem settles : Settles decode encode := Shape.settles hasMembers

theorem decode_encode_iff {p : FilterPredicate} :
    decode p.encode = .ok p ↔ p.IsReadable :=
  (Shape.decode_write_iff hasMembers).trans
    (by simp [members, Member.IsReadBack, IsReadable])

end FilterPredicate

namespace GeoParameter

def IsReadable (g : GeoParameter) : Prop :=
  AllFinite [g.lat, g.lon] ∧ (∀ d, g.distance = some d → d.IsReadable) ∧
    AllFinite [g.leftTopLat, g.leftTopLon, g.rightBottomLat, g.rightBottomLon]

def members : List (Member GeoParameter) := [
  ⟨_, "attr", .optionalString, attr, fun g x => { g with attr := x }⟩,
  ⟨_, "lat", .optionalDouble, lat, fun g x => { g with lat := x }⟩,
  ⟨_, "lon", .optionalDouble, lon, fun g x => { g with lon := x }⟩,
  ⟨_, "distance", Distance.optionalCodec, distance,
    fun g x => { g with distance := x }⟩,
  ⟨_, "unit", .optionalString, unit, fun g x => { g with unit := x }⟩,
  ⟨_, "needBox", .bool, needBox, fun g x => { g with needBox := x }⟩,
  ⟨_, "leftTopLat", .optionalDouble, leftTopLat,
    fun g x => { g with leftTopLat := x }⟩,
  ⟨_, "leftTopLon", .optionalDouble, leftTopLon,
    fun g x => { g with leftTopLon := x }⟩,
  ⟨_, "rightBottomLat", .optionalDouble, rightBottomLat,
    fun g x => { g with rightBottomLat := x }⟩,
  ⟨_, "rightBottomLon", .optionalDouble, rightBottomLon,
    fun g x => { g with rightBottomLon := x }⟩]

theorem hasMembers : shape.HasMembers members where
  names := by decide
  fields := rfl
  stored := by simp [members]
  spared := by simp [members, Member.Spares]
  whole _ := rfl
  start := by simp [members, Member.IsReadBack, shape]

theorem settles : Settles decode encode := Shape.settles hasMembers

theorem decode_encode_iff {g : GeoParameter} :
    decode g.encode = .ok g ↔ g.IsReadable :=
  (Shape.decode_write_iff hasMembers).trans
    (by simp [members, Member.IsReadBack, IsReadable, AllFinite, and_assoc])

end GeoParameter

namespace ScoreRule

def IsReadable (r : ScoreRule) : Prop :=
  (∀ op, r.operator = some op → op.IsReadable) ∧ r.value ≠ some .null ∧
    AllFinite [r.weight]

def members : List (Member ScoreRule) := [
  ⟨_, "field", .optionalString, field, fun r x => { r with field := x }⟩,
  ⟨_, "operator", FilterOp.optionalCodec, operator,
    fun r x => { r with operator := x }⟩,
  ⟨_, "value", .optionalValue, value, fun r x => { r with value := x }⟩,
  ⟨_, "weight", .optionalDouble, weight, fun r x => { r with weight := x }⟩]

theorem hasMembers : shape.HasMembers members where
  names := by decide
  fields := rfl
  stored := by simp [members]
  spared := by simp [members, Member.Spares]
  whole _ := rfl
  start := by simp [members, Member.IsReadBack, shape]

theorem settles : Settles decode encode := Shape.settles hasMembers

theorem decode_encode_iff {r : ScoreRule} :
    decode r.encode = .ok r ↔ r.IsReadable :=
  (Shape.decode_write_iff hasMembers).trans
    (by simp [members, Member.IsReadBack, IsReadable, AllFinite])

end ScoreRule

namespace GroupColumn

def members : List (Member GroupColumn) := [
  ⟨_, "aggColumns", .string, column, fun c x => { c with column := x }⟩,
  ⟨_, "groupOrderField", .optionalString, orderField,
    fun c x => { c with orderField := x }⟩,
  ⟨_, "direction", .optionalString, direction, fun c x => { c with direction := x }⟩]

theorem hasMembers : shape.HasMembers members where
  names := by decide
  fields := rfl
  stored := by simp [members]
  spared := by simp [members, Member.Spares]
  whole _ := rfl
  start := by simp [members, Member.IsReadBack, shape]

theorem decode_encode (c : GroupColumn) : decode c.encode = .ok c :=
  (Shape.decode_write_iff hasMembers).2 (by simp [members, Member.IsReadBack])

end GroupColumn

namespace FieldDirective

def members : List (Member FieldDirective) := [
  ⟨_, "sortField", .string, field, fun s x => { s with field := x }⟩,
  ⟨_, "order", .string, order, fun s x => { s with order := x }⟩]

theorem hasMembers : shape.HasMembers members where
  names := by decide
  fields := rfl
  stored := by simp [members]
  spared := by simp [members, Member.Spares]
  whole _ := rfl
  start := by simp [members, Member.IsReadBack, shape]

theorem decode_encode (s : FieldDirective) : shape.decode s.encode = .ok s :=
  (Shape.decode_write_iff hasMembers).2 (by simp [members, Member.IsReadBack])

end FieldDirective

namespace ScriptDirective

def members : List (Member ScriptDirective) := [
  ⟨_, "script", .optionalString, script, fun s x => { s with script := x }⟩,
  ⟨_, "order", .optionalString, order, fun s x => { s with order := x }⟩,
  ⟨_, "params", .optionalObject, params, fun s x => { s with params := x }⟩]

theorem hasMembers : shape.HasMembers members where
  names := by decide
  fields := rfl
  stored := by simp [members]
  spared := by simp [members, Member.Spares]
  whole _ := rfl
  start := by simp [members, Member.IsReadBack, shape]

theorem decode_encode (s : ScriptDirective) : shape.decode s.encode = .ok s :=
  (Shape.decode_write_iff hasMembers).2 (by simp [members, Member.IsReadBack])

end ScriptDirective

namespace DistanceDirective

def IsReadable (s : DistanceDirective) : Prop := AllFinite [s.lat, s.lon]

def members : List (Member DistanceDirective) := [
  ⟨_, "attr", .optionalString, attr, fun s x => { s with attr := x }⟩,
  ⟨_, "lat", .optionalDouble, lat, fun s x => { s with lat := x }⟩,
  ⟨_, "lon", .optionalDouble, lon, fun s x => { s with lon := x }⟩,
  ⟨_, "unit", .optionalString, unit, fun s x => { s with unit := x }⟩,
  ⟨_, "sort", .optionalString, order, fun s x => { s with order := x }⟩]

theorem hasMembers : shape.HasMembers members where
  names := by decide
  fields := rfl
  stored := by simp [members]
  spared := by simp [members, Member.Spares]
  whole _ := rfl
  start := by simp [members, Member.IsReadBack, shape]

theorem settles : Settles shape.decode encode := Shape.settles hasMembers

theorem decode_encode_iff {s : DistanceDirective} :
    shape.decode s.encode = .ok s ↔ s.IsReadable :=
  (Shape.decode_write_iff hasMembers).trans
    (by simp [members, Member.IsReadBack, IsReadable, AllFinite])

end DistanceDirective

namespace SortDirective

def IsReadable : SortDirective → Prop
  | .distance s => s.IsReadable
  | _ => True

theorem decode_encode_iff {directive : SortDirective} :
    decode directive.encode = .ok directive ↔ directive.IsReadable := by
  cases directive with
  | field s =>
      refine (Decode.variant_carrying_iff rfl fun _ _ => SortDirective.field.inj).trans ?_
      exact iff_true_intro s.decode_encode
  | script s =>
      refine (Decode.variant_carrying_iff rfl fun _ _ => SortDirective.script.inj).trans ?_
      exact iff_true_intro s.decode_encode
  | distance s =>
      refine (Decode.variant_carrying_iff rfl fun _ _ => SortDirective.distance.inj).trans ?_
      exact DistanceDirective.decode_encode_iff

theorem settles : Settles decode encode := by
  intro j directive hread
  obtain ⟨choice, hchoice, payload, hchosen⟩ := Decode.variant_eq_ok hread
  simp only [variants, List.mem_cons, List.not_mem_nil, or_false] at hchoice
  rcases hchoice with rfl | rfl | rfl
  · obtain ⟨source, s, -, rfl⟩ := Decode.carrying_eq_ok hchosen
    exact decode_encode_iff.2 trivial
  · obtain ⟨source, s, -, rfl⟩ := Decode.carrying_eq_ok hchosen
    exact decode_encode_iff.2 trivial
  · obtain ⟨source, s, hs, rfl⟩ := Decode.carrying_eq_ok hchosen
    have hback := DistanceDirective.settles source s hs
    exact decode_encode_iff.2 (DistanceDirective.decode_encode_iff.1 hback)

end SortDirective

/-! ## All of them -/

/-- In whichever way a value was given, it is written in a form that is read as the
same value and written as it stands.  Of group columns and keywords every value can
be given; of the others those can whose operators and numbers are as they are read. -/
theorem canonical_forms :
    HasCanonicalForms FilterPredicate.decode FilterPredicate.encode
      FilterPredicate.IsReadable ∧
    HasCanonicalForms GeoParameter.decode GeoParameter.encode
      GeoParameter.IsReadable ∧
    HasCanonicalForms SortDirective.decode SortDirective.encode
      SortDirective.IsReadable ∧
    HasCanonicalForms ScoreRule.decode ScoreRule.encode ScoreRule.IsReadable ∧
    HasCanonicalForms GroupColumn.decode GroupColumn.encode (fun _ => True) ∧
    HasCanonicalForms Keyword.decode Keyword.encode (fun _ => True) := by
  refine ⟨?_, ?_, ?_, ?_, ?_, ?_⟩
  · exact FilterPredicate.settles.hasCanonicalForms fun _ =>
      FilterPredicate.decode_encode_iff
  · exact GeoParameter.settles.hasCanonicalForms fun _ =>
      GeoParameter.decode_encode_iff
  · exact SortDirective.settles.hasCanonicalForms fun _ =>
      SortDirective.decode_encode_iff
  · exact ScoreRule.settles.hasCanonicalForms fun _ => ScoreRule.decode_encode_iff
  · exact Decode.hasCanonicalForms_of_decode_encode GroupColumn.decode_encode
  · exact Decode.hasCanonicalForms_of_decode_encode Keyword.decode_encode

example :
    let listed : Json := .array [.null, .string ">", .ofInt64 7]
    let keyed : Json := .object [("value", .ofInt64 7), ("type", .string " > ")]
    (ScoreRule.decode listed).map ScoreRule.encode =
      (ScoreRule.decode keyed).map ScoreRule.encode := rfl

end SearchClient
