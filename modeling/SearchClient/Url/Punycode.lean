/-!
# Punycode

Non-ASCII labels written in ASCII.  The ASCII characters come first; the others
follow in increasing order, each as the number of (character, place) pairs that
lie between it and the one before, in digits of a variable length whose
thresholds adapt to the numbers written so far.
-/

namespace SearchClient.Punycode

def digitChar (d : Nat) : Char := if d < 26 then .ofNat (0x61 + d) else .ofNat (0x30 + (d - 26))

def digitValue? (c : Char) : Option Nat :=
  if 'a' ≤ c ∧ c ≤ 'z' then some (c.toNat - 0x61)
  else if 'A' ≤ c ∧ c ≤ 'Z' then some (c.toNat - 0x41)
  else if '0' ≤ c ∧ c ≤ '9' then some (c.toNat - 0x30 + 26)
  else none

def threshold (bias k : Nat) : Nat := if k ≤ bias + 1 then 1 else min (k - bias) 26

theorem threshold_pos (bias k : Nat) : 1 ≤ threshold bias k := by
  unfold threshold
  split <;> omega

def reduceDelta (k delta : Nat) : Nat :=
  if h : 455 < delta then reduceDelta (k + 36) (delta / 35) else k + 36 * delta / (delta + 38)
termination_by delta
decreasing_by omega

/-- The bias after a number, with the count of characters so far. -/
def adapt (delta count : Nat) (first : Bool) : Nat :=
  let halved := if first then delta / 700 else delta / 2
  reduceDelta 0 (halved + halved / count)

def initialBias : Nat := 72

def initialCode : Nat := 0x80

/-! ## Encoding -/

def encodeNumber (bias k q : Nat) : List Char :=
  let t := threshold bias k
  if q < t then [digitChar q]
  else digitChar (t + (q - t) % (36 - t)) :: encodeNumber bias (k + 36) ((q - t) / (36 - t))
termination_by q
decreasing_by
  have := threshold_pos bias k
  exact Nat.lt_of_le_of_lt (Nat.div_le_self _ _) (by omega)

structure Encoder where
  output : List Char
  delta : Nat
  bias : Nat
  count : Nat

/-- Counts a pair, or writes the number when the pair is one of the label. -/
def Encoder.visit (basic code : Nat) (e : Encoder) (c : Char) : Encoder :=
  if c.toNat < code then { e with delta := e.delta + 1 }
  else if c.toNat = code then {
    output := e.output ++ encodeNumber e.bias 36 e.delta
    delta := 0
    bias := adapt e.delta (e.count + 1) (e.count = basic)
    count := e.count + 1 }
  else e

def isBasic (c : Char) : Bool := c.toNat < 0x80

/-- The characters of one code, then those of the codes after it.  `next` is the
least code not yet passed. -/
def encodeCodes (label : List Char) (basic : Nat) : List Nat → Nat → Encoder → Encoder
  | [], _, e => e
  | code :: codes, next, e =>
    let reached := { e with delta := e.delta + (code - next) * (e.count + 1) }
    let done := label.foldl (Encoder.visit basic code) reached
    encodeCodes label basic codes (code + 1) { done with delta := done.delta + 1 }

def insertCode (code : Nat) : List Nat → List Nat
  | [] => [code]
  | other :: codes =>
    if code < other then code :: other :: codes
    else if code = other then other :: codes
    else other :: insertCode code codes

def encode (label : List Char) : List Char :=
  let basic := label.filter isBasic
  let codes := (label.filter fun c => !isBasic c).foldl (fun codes c => insertCode c.toNat codes) []
  let start : Encoder := ⟨[], 0, initialBias, basic.length⟩
  basic ++ (if basic.isEmpty then [] else ['-']) ++
    (encodeCodes label basic.length codes initialCode start).output

/-! ## Decoding -/

/-- Adds a number to `i`, and the text after it. -/
def decodeNumber (bias k weight i : Nat) : List Char → Option (Nat × List Char)
  | [] => none
  | c :: rest =>
    match digitValue? c with
    | none => none
    | some d =>
      let t := threshold bias k
      if d < t then some (i + d * weight, rest)
      else decodeNumber bias (k + 36) (weight * (36 - t)) (i + d * weight) rest

def decodeNumbers (label : List Char) (code i bias : Nat) : Nat → List Char → Option (List Char)
  | _, [] => some label
  | 0, _ :: _ => none
  | fuel + 1, text =>
    match decodeNumber bias 36 1 i text with
    | none => none
    | some (reached, rest) =>
      let count := label.length + 1
      let code := code + reached / count
      let place := reached % count
      if code.isValidChar then
        decodeNumbers (label.take place ++ .ofNat code :: label.drop place) code (place + 1)
          (adapt (reached - i) count (i = 0 && label.all isBasic)) fuel rest
      else none

def decode? (text : List Char) : Option (List Char) :=
  let numbers := (text.reverse.takeWhile (· ≠ '-')).reverse
  let basic := text.take (text.length - numbers.length - 1)
  if basic.all isBasic then
    decodeNumbers basic initialCode 0 initialBias numbers.length numbers
  else none

end SearchClient.Punycode
