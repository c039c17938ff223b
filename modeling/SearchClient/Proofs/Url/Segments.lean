import Mathlib.Data.List.Forall2
import SearchClient.Proofs.Text.Percent
import SearchClient.Proofs.Text.Spelling
import SearchClient.Url.Path

/-!
# Segments put after a root path

Parts put one after the other after the root path become the segments of the
path, and decoding them gives the parts back, exactly when no part is a dot
segment and none has a tab or a line end in it.  Escaping makes no dot segment
out of anything else, and no separator.
-/

namespace SearchClient.UrlPath

/-! ## Lower case of ASCII letters -/

theorem toLower_upper :
    ∀ n < 0x5B, 0x41 ≤ n → 0x61 ≤ (Char.ofNat n).toLower.toNat ∧
      ((Char.ofNat n).toLower = 'e' → n = 0x45) := by decide

theorem eq_of_toLower {c d : Char} (hd : d.toNat < 0x61) (h : c.toLower = d) :
    c = d := by
  by_cases hupper : 0x41 ≤ c.toNat ∧ c.toNat ≤ 0x5A
  · have hletter := (toLower_upper c.toNat (by omega) hupper.1).1
    rw [Char.ofNat_toNat, h] at hletter
    omega
  · rwa [Text.toLower_of_not_upper hupper] at h

theorem eq_or_eq_of_toLower_eq_e {c : Char} (h : c.toLower = 'e') :
    c = 'e' ∨ c = 'E' := by
  by_cases hupper : 0x41 ≤ c.toNat ∧ c.toNat ≤ 0x5A
  · have hletter := (toLower_upper c.toNat (by omega) hupper.1).2
    rw [Char.ofNat_toNat] at hletter
    right
    rw [← Char.ofNat_toNat c, hletter h]
  · rw [Text.toLower_of_not_upper hupper] at h
    exact .inl h

/-! ## Dot segments -/

/-- What the path of a URL says under a segment. -/
def decodeSegment (segment : List Char) : Option String :=
  (Utf8.decode? (Percent.decode (Utf8.encode segment))).map String.ofList

/-- A dot as it stands in a dot segment: plain, or escaped in either case. -/
def IsDot (text : List Char) : Prop :=
  lower text = ['.'] ∨ lower text = ['%', '2', 'e']

theorem decode_dot {text : List Char} (h : IsDot text) (rest : List UInt8) :
    Percent.decode (Utf8.encode text ++ rest) =
      0x2E :: Percent.decode rest := by
  cases h with
  | inl h =>
      simp only [lower, List.map_eq_cons_iff, List.map_eq_nil_iff] at h
      obtain ⟨c, _, rfl, hc, rfl⟩ := h
      rw [eq_of_toLower (by decide) hc]
      exact Percent.decode_cons_of_ne (by decide) rest
  | inr h =>
      simp only [lower, List.map_eq_cons_iff, List.map_eq_nil_iff] at h
      obtain
        ⟨sign, _, rfl, hsign, high, _, rfl, hhigh, low, _, rfl, hlow, rfl⟩ := h
      rw [eq_of_toLower (by decide) hsign, eq_of_toLower (by decide) hhigh]
      rcases eq_or_eq_of_toLower_eq_e hlow with rfl | rfl <;> rfl

theorem isDot_of_isSingleDot {segment : List Char}
    (h : isSingleDot segment = true) : IsDot segment := by
  simpa [isSingleDot, IsDot, ← String.toList_inj] using h

theorem dots_of_isDoubleDot {segment : List Char}
    (h : isDoubleDot segment = true) :
    ∃ first second, segment = first ++ second ∧ IsDot first ∧ IsDot second := by
  have hlower : ∃ first second : List Char, lower segment = first ++ second ∧
      (first = ['.'] ∨ first = ['%', '2', 'e']) ∧
        (second = ['.'] ∨ second = ['%', '2', 'e']) := by
    simp only [isDoubleDot, List.contains_eq_mem, List.mem_cons,
      List.not_mem_nil, or_false, decide_eq_true_eq, ← String.toList_inj,
      String.toList_ofList] at h
    rcases h with h | h | h | h
    · exact ⟨['.'], ['.'], h, .inl rfl, .inl rfl⟩
    · exact ⟨['.'], ['%', '2', 'e'], h, .inl rfl, .inr rfl⟩
    · exact ⟨['%', '2', 'e'], ['.'], h, .inr rfl, .inl rfl⟩
    · exact ⟨['%', '2', 'e'], ['%', '2', 'e'], h, .inr rfl, .inr rfl⟩
  obtain ⟨first, second, happend, hfirst, hsecond⟩ := hlower
  obtain ⟨left, right, rfl, rfl, rfl⟩ := List.map_eq_append_iff.1 happend
  exact ⟨left, right, rfl, hfirst, hsecond⟩

theorem not_isDot_of_colon {text : List Char} (h : ':' ∈ text) :
    ¬IsDot text := by
  have hlower : ':' ∈ lower text := List.mem_map.2 ⟨':', h, by decide⟩
  rintro (hdot | hdot) <;> rw [hdot] at hlower <;> simp at hlower

theorem isSingleDot_of_colon {segment : List Char} (h : ':' ∈ segment) :
    isSingleDot segment = false := by
  rw [Bool.eq_false_iff]
  exact fun hdot => not_isDot_of_colon h (isDot_of_isSingleDot hdot)

theorem isDoubleDot_of_colon {segment : List Char} (h : ':' ∈ segment) :
    isDoubleDot segment = false := by
  rw [Bool.eq_false_iff]
  intro hdots
  obtain ⟨first, second, rfl, hfirst, hsecond⟩ := dots_of_isDoubleDot hdots
  cases List.mem_append.1 h with
  | inl h => exact not_isDot_of_colon h hfirst
  | inr h => exact not_isDot_of_colon h hsecond

/-! ## One part -/

/-- The characters of a part that are put into its segment. -/
def kept (part : String) : List Char := part.toList.filter (!isStripped ·)

def escaped (part : String) : List Char :=
  Percent.encode (isReservedInSegment true) (kept part)

/-- A part that its segment can stand for. -/
def IsAddressable (part : String) : Prop :=
  part ≠ "." ∧ part ≠ ".." ∧ ∀ c ∈ part.toList, c ≠ '\t' ∧ c ≠ '\n' ∧ c ≠ '\r'

instance (part : String) : Decidable (IsAddressable part) :=
  decidable_of_iff
    (part ≠ "." ∧ part ≠ ".." ∧
      part.toList.all (fun c => c ≠ '\t' ∧ c ≠ '\n' ∧ c ≠ '\r') = true)
    (by simp [IsAddressable])

theorem decode_escaped (part : String) :
    Percent.decode (Utf8.encode (escaped part)) = Utf8.encode (kept part) :=
  Percent.decode_encode (by decide) _

theorem decodeSegment_escaped (part : String) :
    decodeSegment (escaped part) = some (String.ofList (kept part)) := by
  rw [decodeSegment, decode_escaped, Utf8.decode?_encode]
  rfl

theorem kept_eq_iff {part : String} :
    String.ofList (kept part) = part ↔
      ∀ c ∈ part.toList, c ≠ '\t' ∧ c ≠ '\n' ∧ c ≠ '\r' := by
  rw [← String.toList_inj, String.toList_ofList, kept, List.filter_eq_self]
  simp [isStripped, and_assoc]

theorem not_singleDot_escaped {part : String} (h : IsAddressable part) :
    isSingleDot (escaped part) = false := by
  rw [Bool.eq_false_iff]
  intro hdot
  have hread := decode_dot (isDot_of_isSingleDot hdot) []
  rw [List.append_nil, decode_escaped] at hread
  have hkept : kept part = ['.'] := Utf8.encode_injective hread
  exact h.1 (by rw [← kept_eq_iff.2 h.2.2, hkept])

theorem not_doubleDot_escaped {part : String} (h : IsAddressable part) :
    isDoubleDot (escaped part) = false := by
  rw [Bool.eq_false_iff]
  intro hdots
  obtain ⟨first, second, happend, hfirst, hsecond⟩ := dots_of_isDoubleDot hdots
  have hread := decode_dot hfirst (Utf8.encode second)
  rw [← Utf8.encode_append, ← happend, decode_escaped,
    ← List.append_nil (Utf8.encode second), decode_dot hsecond] at hread
  have hkept : kept part = ['.', '.'] := Utf8.encode_injective hread
  exact h.2.1 (by rw [← kept_eq_iff.2 h.2.2, hkept])

/-! ## Parts put after a path -/

/-- A path without the empty segment of the root. -/
def bare (path : Segments) : Segments := if path = [[]] then [] else path

@[simp] theorem bare_root : bare [[]] = [] := rfl

theorem bare_eq_self {path : Segments} (h : path ≠ [[]]) : bare path = path :=
  if_neg h

theorem length_bare_le (path : Segments) :
    (bare path).length ≤ path.length := by
  unfold bare
  split <;> simp

theorem extend_eq {part : String} (hsingle : part ≠ ".") (hdouble : part ≠ "..")
    (path : Segments) :
    extend true false path part =
      push false (bare path) (escaped part) true := by
  simp [extend, hsingle, hdouble, bare, escaped, kept]

theorem resource_dot {part : String} (h : part = "." ∨ part = "..")
    (special file : Bool) (path : Segments) (front rest : List String) :
    resource special file path (front ++ part :: rest) =
      resource special file path (front ++ rest) := by
  simp [resource, List.foldl_append, extend, h]

theorem push_plain {segment : List Char} (hsingle : isSingleDot segment = false)
    (hdouble : isDoubleDot segment = false) (path : Segments) (last : Bool) :
    push false path segment last = path ++ [segment] := by
  simp [push, hsingle, hdouble]

theorem extend_addressable {part : String} (h : IsAddressable part)
    (path : Segments) :
    extend true false path part = bare path ++ [escaped part] := by
  rw [extend_eq h.1 h.2.1]
  exact push_plain (not_singleDot_escaped h) (not_doubleDot_escaped h) _ true

theorem escaped_ne_nil {part : String} (h : IsAddressable part)
    (hne : part ≠ "") : escaped part ≠ [] := by
  intro hnil
  have hread := decodeSegment_escaped part
  rw [kept_eq_iff.2 h.2.2, hnil] at hread
  exact hne (Option.some.inj hread).symm

theorem foldl_extend_addressable {parts : List String}
    (hparts : ∀ part ∈ parts, IsAddressable part)
    (hne : ∀ part ∈ parts, part ≠ "") {path : Segments} (hpath : path ≠ [[]]) :
    parts.foldl (extend true false) path = path ++ parts.map escaped := by
  induction parts generalizing path with
  | nil => simp
  | cons part parts ih =>
      simp only [List.forall_mem_cons] at hparts hne
      have hescaped := escaped_ne_nil hparts.1 hne.1
      rw [List.foldl_cons, extend_addressable hparts.1, bare_eq_self hpath,
        ih hparts.2 hne.2 (by simp [List.append_eq_cons_iff, hescaped])]
      simp

theorem resource_addressable {parts : List String}
    (hparts : ∀ part ∈ parts, IsAddressable part)
    (hne : ∀ part ∈ parts, part ≠ "") (hsome : parts ≠ []) :
    resource true false [[]] parts = parts.map escaped := by
  cases parts with
  | nil => contradiction
  | cons part parts =>
      simp only [List.forall_mem_cons] at hparts hne
      have hescaped := escaped_ne_nil hparts.1 hne.1
      change parts.foldl (extend true false) (extend true false [[]] part) = _
      rw [extend_addressable hparts.1, bare_root,
        foldl_extend_addressable hparts.2 hne.2 (by simp [hescaped])]
      rfl

theorem parent_eq_dropLast (path : Segments) :
    parent false path = path.dropLast := by
  unfold parent
  split <;> simp

theorem push_eq (path : Segments) (segment : List Char) :
    push false path segment true =
      if isDoubleDot segment then path.dropLast ++ [[]]
      else if isSingleDot segment then path ++ [[]]
      else path ++ [segment] := by
  simp [push, parent_eq_dropLast]

theorem bare_concat_cases (path : Segments) (segment : List Char) :
    (bare (path ++ [segment])).length ≤ path.length ∨
      bare (path ++ [segment]) = path ++ [segment] := by
  by_cases h : path ++ [segment] = [[]]
  · exact .inl (by simp [bare, h])
  · exact .inr (bare_eq_self h)

/--
A part is put after a path as a segment of its own, which is empty or the
escaped part, or it does not make the path longer.
-/
theorem bare_extend_cases (path : Segments) (part : String) :
    (bare (extend true false path part)).length ≤ (bare path).length ∨
      part ≠ "." ∧ part ≠ ".." ∧
        ∃ segment, (segment = [] ∨ segment = escaped part) ∧
          bare (extend true false path part) = bare path ++ [segment] := by
  by_cases hskipped : part = "." ∨ part = ".."
  · exact .inl (by simp [extend, hskipped])
  · rw [not_or] at hskipped
    rw [extend_eq hskipped.1 hskipped.2, push_eq]
    split
    · left
      cases hpath : bare path with
      | nil => simp
      | cons first rest =>
          calc (bare ((first :: rest).dropLast ++ [[]])).length
              ≤ ((first :: rest).dropLast ++ [[]]).length := length_bare_le _
            _ = (first :: rest).length := by simp
    · split
      · exact (bare_concat_cases _ _).imp_right fun h =>
          ⟨hskipped.1, hskipped.2, [], .inl rfl, h⟩
      · exact (bare_concat_cases _ _).imp_right fun h =>
          ⟨hskipped.1, hskipped.2, escaped part, .inr rfl, h⟩

theorem length_bare_foldl_le (parts : List String) (path : Segments) :
    (bare (parts.foldl (extend true false) path)).length ≤
      (bare path).length + parts.length := by
  induction parts generalizing path with
  | nil => simp
  | cons part parts ih =>
      have hrest := ih (extend true false path part)
      have hpart :
          (bare (extend true false path part)).length ≤
            (bare path).length + 1 := by
        rcases bare_extend_cases path part with h | ⟨-, -, segment, -, h⟩
        · omega
        · simp [h]
      rw [List.foldl_cons, List.length_cons]
      omega

/--
Where every part made the path longer, none was skipped or taken for a dot
segment that leads upwards.
-/
theorem forall_of_length_bare (parts : List String) (path : Segments)
    (h : (bare (parts.foldl (extend true false) path)).length =
      (bare path).length + parts.length) :
    ∃ segments,
      bare (parts.foldl (extend true false) path) = bare path ++ segments ∧
      List.Forall₂ (fun part segment => part ≠ "." ∧ part ≠ ".." ∧
        (segment = [] ∨ segment = escaped part)) parts segments := by
  induction parts generalizing path with
  | nil => exact ⟨[], by simp, .nil⟩
  | cons part parts ih =>
      rw [List.foldl_cons, List.length_cons] at h
      have hrest := length_bare_foldl_le parts (extend true false path part)
      rcases bare_extend_cases path part with
        hshort | ⟨hsingle, hdouble, segment, hsegment, hpart⟩
      · omega
      · have hlonger :
            (bare (extend true false path part)).length =
              (bare path).length + 1 := by
          simp [hpart]
        obtain ⟨segments, hsegments, hall⟩ :=
          ih (extend true false path part) (by omega)
        refine ⟨segment :: segments, ?_,
          .cons ⟨hsingle, hdouble, hsegment⟩ hall⟩
        rw [List.foldl_cons, hsegments, hpart, List.append_assoc,
          List.singleton_append]

theorem isAddressable_of_decodeSegment {part : String} {segment : List Char}
    (hne : part ≠ "") (hsingle : part ≠ ".") (hdouble : part ≠ "..")
    (hsegment : segment = [] ∨ segment = escaped part)
    (hread : decodeSegment segment = some part) : IsAddressable part := by
  rcases hsegment with rfl | rfl
  · exact absurd (Option.some.inj hread).symm hne
  · rw [decodeSegment_escaped, Option.some.injEq] at hread
    exact ⟨hsingle, hdouble, kept_eq_iff.1 hread⟩

theorem forall_addressable {parts : List String} {segments : Segments}
    (hne : ∀ part ∈ parts, part ≠ "")
    (hall : List.Forall₂ (fun part segment => part ≠ "." ∧ part ≠ ".." ∧
      (segment = [] ∨ segment = escaped part)) parts segments)
    (hread : segments.map decodeSegment = parts.map some) :
    ∀ part ∈ parts, IsAddressable part := by
  induction hall with
  | nil => simp
  | cons hpart _ ih =>
      obtain ⟨hsingle, hdouble, hsegment⟩ := hpart
      simp only [List.map_cons, List.cons.injEq, List.forall_mem_cons]
        at hread hne ⊢
      have hfirst := isAddressable_of_decodeSegment hne.1 hsingle hdouble
        hsegment hread.1
      exact ⟨hfirst, ih hne.2 hread.2⟩

/-- The root alone reads as the empty part, which is not among the parts. -/
theorem ne_root_of_decode {parts : List String}
    (hne : ∀ part ∈ parts, part ≠ "") {path : Segments}
    (hread : path.map decodeSegment = parts.map some) : path ≠ [[]] := by
  rintro rfl
  cases parts with
  | nil => simp at hread
  | cons part parts =>
      simp only [List.map_cons, List.cons.injEq] at hread
      exact hne part List.mem_cons_self (Option.some.inj hread.1).symm

/--
Parts come back from the segments of the path they were put in exactly when
each of them is addressable.
-/
theorem decode_resource_iff {parts : List String}
    (hne : ∀ part ∈ parts, part ≠ "") (hsome : parts ≠ []) :
    (resource true false [[]] parts).map decodeSegment = parts.map some ↔
      ∀ part ∈ parts, IsAddressable part := by
  constructor
  · intro hread
    change (parts.foldl (extend true false) [[]]).map decodeSegment = _ at hread
    have hroot := ne_root_of_decode hne hread
    have hlength := congrArg List.length hread
    rw [List.length_map, List.length_map] at hlength
    obtain ⟨segments, hsegments, hall⟩ := forall_of_length_bare parts [[]]
      (by rw [bare_eq_self hroot, hlength]; simp)
    rw [bare_eq_self hroot, bare_root, List.nil_append] at hsegments
    exact forall_addressable hne hall (hsegments ▸ hread)
  · intro hparts
    rw [resource_addressable hparts hne hsome, List.map_map]
    apply List.map_congr_left
    intro part hpart
    rw [Function.comp_apply, decodeSegment_escaped,
      kept_eq_iff.2 (hparts part hpart).2.2]

end SearchClient.UrlPath
