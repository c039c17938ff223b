import SearchClient.Json.Printer
import SearchClient.Json.Reader
import SearchClient.Proofs.Number.Shortest

/-!
# Numerals

A numeral is read from the text that spells it, up to a character that no numeral
goes on with.  Every number has a numeral as its text, and the double nearest to
what that denotes is the number again.
-/

namespace SearchClient.Json

/-- What may come after a value inside of a document. -/
def Closes (rest : Glyphs) : Prop :=
  ∀ g ∈ rest.head?, g = some ',' ∨ g = some ']' ∨ g = some '\x7d'

/-- No further digit. -/
def EndsDigits (rest : Glyphs) : Prop := ∀ c, some (some c) = rest.head? → c.isDigit = false

theorem EndsDigits.cons {c : Char} (h : c.isDigit = false) (rest : Glyphs) :
    EndsDigits (some c :: rest) := by
  rintro _ ⟨⟩
  exact h

theorem Closes.endsDigits {rest : Glyphs} (h : Closes rest) : EndsDigits rest := by
  intro c hc
  rcases h (some c) hc.symm with h | h | h <;> cases h <;> rfl

theorem readDigits_append {digits : List Char} (hdigits : ∀ c ∈ digits, c.isDigit = true)
    {rest : Glyphs} (hrest : EndsDigits rest) :
    readDigits (digits.map some ++ rest) = (digits, rest) := by
  induction digits with
  | nil =>
      cases rest with
      | nil => rfl
      | cons g rest =>
          cases g with
          | none => rfl
          | some c => simp [readDigits, hrest c rfl]
  | cons d digits ih =>
      rw [List.forall_mem_cons] at hdigits
      simp [readDigits, hdigits.1, ih hdigits.2]

namespace Numeral

variable {n : Numeral} {rest : Glyphs}

/-! ## Text -/

def fractionText (n : Numeral) : List Char :=
  if n.fraction.isEmpty then [] else '.' :: n.fraction

def exponentText (n : Numeral) : List Char :=
  match n.exponent with
  | none => []
  | some e => 'e' :: (if e < 0 then '-' else '+') :: Nat.toDigits 10 e.natAbs

/-- The text of a numeral after its sign. -/
def magnitudeText (n : Numeral) : List Char := n.whole ++ n.fractionText ++ n.exponentText

def text (n : Numeral) : List Char := (if n.negative then ['-'] else []) ++ n.magnitudeText

/-- Digits, at least one before the point, and no zero in front of others. -/
structure WellFormed (n : Numeral) : Prop where
  whole : ∃ d ds, n.whole = d :: ds ∧ (d = '0' → ds = [])
  wholeDigits : ∀ c ∈ n.whole, c.isDigit = true
  fractionDigits : ∀ c ∈ n.fraction, c.isDigit = true

theorem readDigits_toDigits (n : Nat) (hrest : EndsDigits rest) :
    ∃ d ds, readDigits ((Nat.toDigits 10 n).map some ++ rest) = (d :: ds, rest) ∧
      Nat.ofDigitChars 10 (d :: ds) 0 = n := by
  obtain ⟨d, ds, hds, hdigits, -⟩ := Text.exists_toDigits n
  rw [hds]
  exact ⟨d, ds, readDigits_append hdigits hrest,
    hds ▸ Nat.ofDigitChars_ten_toDigits⟩

theorem readExponent_text (n : Numeral) (hrest : Closes rest) :
    readExponent (n.exponentText.map some ++ rest) = some (n.exponent, rest) := by
  unfold exponentText
  cases n.exponent with
  | none =>
      cases rest with
      | nil => rfl
      | cons g rest => rcases hrest g rfl with rfl | rfl | rfl <;> rfl
  | some e =>
      obtain ⟨d, ds, hread, hvalue⟩ := readDigits_toDigits e.natAbs hrest.endsDigits
      by_cases he : e < 0
      · have hsigned : -(e.natAbs : ℤ) = e := by omega
        simp only [if_pos he, List.map_cons, List.cons_append, readExponent, readSign,
          hread, hvalue, if_true, hsigned]
      · have hsigned : (e.natAbs : ℤ) = e := by omega
        simp only [if_neg he, List.map_cons, List.cons_append, readExponent, readSign,
          hread, hvalue, Bool.false_eq_true, if_false, hsigned]

/-- What comes after the digits of a fraction is no digit. -/
theorem endsDigits_exponentText (n : Numeral) (hrest : Closes rest) :
    EndsDigits (n.exponentText.map some ++ rest) := by
  unfold exponentText
  cases n.exponent with
  | none => exact hrest.endsDigits
  | some e => exact .cons rfl _

theorem readFraction_text (h : n.WellFormed) (hrest : Closes rest) :
    readFraction (n.fractionText.map some ++ (n.exponentText.map some ++ rest)) =
      some (n.fraction, n.exponentText.map some ++ rest) := by
  have hread := readDigits_append h.fractionDigits (endsDigits_exponentText n hrest)
  unfold fractionText
  cases hfraction : n.fraction with
  | nil =>
      unfold exponentText
      cases n.exponent with
      | none =>
          cases rest with
          | nil => rfl
          | cons g rest => rcases hrest g rfl with rfl | rfl | rfl <;> rfl
      | some e => rfl
  | cons d ds =>
      rw [hfraction] at hread
      simp only [List.isEmpty_cons, Bool.false_eq_true, if_false, List.map_cons,
        List.cons_append, readFraction] at hread ⊢
      rw [hread]

/-- What comes after the digits before the point is no digit. -/
theorem endsDigits_fractionText (n : Numeral) (hrest : Closes rest) :
    EndsDigits (n.fractionText.map some ++ (n.exponentText.map some ++ rest)) := by
  unfold fractionText
  split
  · exact endsDigits_exponentText n hrest
  · exact .cons rfl _

theorem readWhole_append {digits : List Char} {rest : Glyphs}
    (hwhole : ∃ d ds, digits = d :: ds ∧ (d = '0' → ds = []))
    (hdigits : ∀ c ∈ digits, c.isDigit = true) (hrest : EndsDigits rest) :
    readWhole (digits.map some ++ rest) = some (digits, rest) := by
  obtain ⟨d, ds, rfl, hzero⟩ := hwhole
  rw [readWhole, readDigits_append hdigits hrest]
  split
  · next heq => cases heq
  · next heq =>
    cases heq
    cases hzero rfl
  · next heq => rw [heq]

/-- A numeral is read from its own text. -/
theorem readNumeral_text (h : n.WellFormed) (hrest : Closes rest) :
    readNumeral n.negative (n.magnitudeText.map some ++ rest) = some (n, rest) := by
  rw [readNumeral, magnitudeText, List.map_append, List.map_append, List.append_assoc,
    List.append_assoc, readWhole_append h.whole h.wholeDigits
      (endsDigits_fractionText n hrest)]
  simp only [Option.bind_eq_bind, Option.bind_some, readFraction_text h hrest,
    readExponent_text n hrest, Option.pure_def]

/-! ## Numbers -/

/-- The double nearest to what a numeral denotes. -/
def nearest (n : Numeral) : Binary64 :=
  .ofDecimal n.negative (Nat.ofDigitChars 10 (n.whole ++ n.fraction) 0)
    (n.exponent.getD 0 - n.fraction.length)

def ofInt (value : ℤ) : Numeral := ⟨value < 0, Nat.toDigits 10 value.natAbs, [], none⟩

theorem wellFormed_ofInt (value : ℤ) : (ofInt value).WellFormed := by
  obtain ⟨d, ds, hds, hdigits, hzero⟩ := Text.exists_toDigits value.natAbs
  rw [← hds] at hdigits
  exact ⟨⟨d, ds, hds, fun h => (hzero h).2⟩, hdigits, fun c hc => nomatch hc⟩

theorem text_ofInt (value : ℤ) : (toString value).toList = (ofInt value).text := by
  rw [Text.toList_toString, text, magnitudeText, fractionText, exponentText]
  by_cases h : value < 0 <;> simp [ofInt, h]

theorem numberBy?_ofInt (double : Numeral → Binary64) {value : ℤ}
    (h : -0x8000000000000000 ≤ value ∧ value < 0x10000000000000000) :
    (ofInt value).numberBy? double = some (.int value h) := by
  have hdigits : Nat.ofDigitChars 10 (ofInt value).whole 0 = value.natAbs :=
    Nat.ofDigitChars_ten_toDigits
  have hvalue : (if (ofInt value).negative = true then -(value.natAbs : ℤ)
      else value.natAbs) = value := by
    simp only [ofInt, decide_eq_true_eq]
    split <;> omega
  have hsign : ¬((ofInt value).negative = true ∧ value.natAbs = 0) := by
    simp only [ofInt, decide_eq_true_eq]
    omega
  simp only [numberBy?, hdigits, hvalue]
  exact dif_pos ⟨h, rfl, hsign⟩

/-! ## Doubles -/

variable {x : Binary64}

/-- The numeral that a double is written as. -/
def ofDouble (x : Binary64) : Numeral :=
  let p := x.placed
  if -5 < p.point ∧ p.point ≤ 16 then
    ⟨x.isNegative, (Binary64.positional p).1, Binary64.shownFraction p, none⟩
  else ⟨x.isNegative, p.digits.take 1, p.digits.drop 1, some (p.point - 1)⟩

theorem shownFraction_ne_nil (p : Binary64.Placed) : Binary64.shownFraction p ≠ [] := by
  unfold Binary64.shownFraction
  split
  · exact List.cons_ne_nil _ _
  · next h => simpa using h

theorem text_ofDouble (x : Binary64) : x.numeral.toList = (ofDouble x).text := by
  unfold Binary64.numeral ofDouble text magnitudeText fractionText exponentText
    Binary64.sign
  simp only
  split
  · have hshown : (Binary64.shownFraction x.placed).isEmpty = false := by
      simpa using shownFraction_ne_nil x.placed
    simp only [hshown, Bool.false_eq_true, if_false, String.toList_ofList,
      List.append_assoc, List.append_nil]
    rfl
  · simp only [String.toList_ofList, List.append_assoc]

theorem isWhole_ofDouble (x : Binary64) : (ofDouble x).isWhole = false := by
  unfold ofDouble isWhole
  simp only
  split
  · simp [shownFraction_ne_nil]
  · simp

theorem wellFormed_ofDouble (x : Binary64) : (ofDouble x).WellFormed := by
  obtain ⟨d, ds, hplaced, hdigits, hzero⟩ := x.exists_digits_placed
  unfold ofDouble
  simp only
  split
  · have hall := Binary64.isDigit_positional (p := x.placed) (hplaced ▸ hdigits)
    refine ⟨Binary64.exists_positional hplaced hzero, hall.1, ?_⟩
    simp only [Binary64.shownFraction]
    split
    · exact Binary64.isDigit_of_mem_zeros (k := 1)
    · exact hall.2
  · rw [hplaced]
    exact ⟨⟨d, [], rfl, fun _ => rfl⟩, fun c hc => hdigits c (List.mem_of_mem_take hc),
      fun c hc => hdigits c (List.mem_of_mem_drop hc)⟩

/-- The text of a double denotes a number to which the double is nearest. -/
theorem nearest_ofDouble (hfinite : x.isFinite = true) : (ofDouble x).nearest = x := by
  obtain ⟨d, ds, hplaced, -⟩ := x.exists_digits_placed
  unfold ofDouble nearest
  simp only
  split
  · apply Binary64.ofDecimal_placed hfinite
    simpa using Binary64.value_positional (p := x.placed) (by simp [hplaced])
  · apply Binary64.ofDecimal_placed hfinite
    simp only [List.take_append_drop, Option.getD_some, List.length_drop, hplaced,
      List.length_cons]
    congr 2
    omega

theorem numberBy?_ofDouble (hfinite : x.isFinite = true) :
    (ofDouble x).numberBy? nearest = some (.float x hfinite) := by
  simp only [numberBy?, isWhole_ofDouble, nearest_ofDouble hfinite]
  rw [dif_neg (by simp), dif_pos hfinite]

end Numeral

end SearchClient.Json
