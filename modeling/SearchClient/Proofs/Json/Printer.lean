import SearchClient.Proofs.Json.Numeral
import SearchClient.Proofs.Text.Utf8

/-!
# Printed text reads back

What is printed for a value follows the grammar, has no white space but inside
of strings, and reads back to the value when each numeral is read as the double
nearest to it.  Strings, numerals and values are read with the rest of the text
open.
-/

namespace SearchClient.Json

/-! ## Strings -/

variable {rest rest' : Glyphs} {pieces : List Piece}

theorem hexValue?_hexDigit : ∀ n < 16, hexValue? (hexDigit n) = some n := by decide

/-- A control character has four hexadecimal digits for its code. -/
theorem readString_control {n : Nat} (hn : n < 0x20)
    (h : readString rest = some (pieces, rest')) :
    readString (some '\\' :: some 'u' :: some '0' :: some '0' ::
        some (hexDigit (n / 16)) :: some (hexDigit (n % 16)) :: rest) =
      some (.unit n :: pieces, rest') := by
  have hzero : hexValue? '0' = some 0 := rfl
  have hunit : readUnit '0' '0' (hexDigit (n / 16)) (hexDigit (n % 16)) = some n := by
    rw [readUnit, hzero, hexValue?_hexDigit _ (by omega), hexValue?_hexDigit _ (by omega)]
    exact congrArg some (by omega)
  simp [readString, hunit, h]

theorem readString_plain {c : Char} (hquote : c ≠ '"') (hbackslash : c ≠ '\\')
    (hplain : ¬c.toNat < 0x20) (h : readString rest = some (pieces, rest')) :
    readString (some c :: rest) = some (.glyph (some c) :: pieces, rest') := by
  rw [readString]
  · simp [hplain, h]
  all_goals simp [hquote, hbackslash]

/-- Every character is read from its escape as a piece that spells it. -/
theorem exists_readString_escapeChar (c : Char) :
    ∃ piece : Piece,
      (∀ {rest pieces rest'}, readString rest = some (pieces, rest') →
        readString ((escapeChar c).map some ++ rest) =
          some (piece :: pieces, rest')) ∧
      ∀ pieces, Piece.spell? (piece :: pieces) = (Piece.spell? pieces).map (c :: ·) := by
  unfold escapeChar
  split
  case h_8 =>
    split
    · next hcontrol =>
      have hhigh : isHighSurrogate c.toNat = false := by
        simp only [isHighSurrogate, Bool.and_eq_false_iff, decide_eq_false_iff_not]
        omega
      have hlow : isLowSurrogate c.toNat = false := by
        simp only [isLowSurrogate, Bool.and_eq_false_iff, decide_eq_false_iff_not]
        omega
      refine ⟨.unit c.toNat, fun h => readString_control hcontrol h, fun pieces => ?_⟩
      rw [Piece.spell?.eq_def]
      simp [hhigh, hlow]
    · next hquote hbackslash _ _ _ _ _ hplain =>
      exact ⟨.glyph (some c), fun h => readString_plain hquote hbackslash hplain h,
        fun _ => rfl⟩
  all_goals
    exact ⟨.glyph (some _), fun h => by simp [readString, escaped?, h], fun _ => rfl⟩

theorem exists_readString_flatMap (chars : List Char) (rest : Glyphs) :
    ∃ pieces, readString ((chars.flatMap escapeChar).map some ++ some '"' :: rest) =
        some (pieces, rest) ∧ Piece.spell? pieces = some chars := by
  induction chars with
  | nil => exact ⟨[], rfl, rfl⟩
  | cons c chars ih =>
      obtain ⟨pieces, hread, hspell⟩ := ih
      obtain ⟨piece, hpiece, hchar⟩ := exists_readString_escapeChar c
      refine ⟨piece :: pieces, ?_, by rw [hchar, hspell, Option.map_some]⟩
      rw [List.flatMap_cons, List.map_append, List.append_assoc, hpiece hread]

/-- A string is read up to its closing quote. -/
theorem exists_readString_escaped (text : String) (rest : Glyphs) :
    ∃ pieces,
      readString ((text.toList.flatMap escapeChar).map some ++ some '"' :: rest) =
        some (pieces, rest) ∧ Piece.text? pieces = some text := by
  obtain ⟨pieces, hread, hspell⟩ := exists_readString_flatMap text.toList rest
  refine ⟨pieces, hread, ?_⟩
  rw [Piece.text?, hspell, Option.map_some, String.ofList_toList]

/-! ## First characters -/

/-- What the text of a value begins with. -/
def Opens (c : Char) : Prop :=
  c.isDigit = true ∨ c ∈ ['n', 't', 'f', '"', '-', '[', '\x7b']

theorem isSpace_of_isDigit {c : Char} (h : c.isDigit = true) :
    isSpace (some c) = false := by
  have hne := fun d => ne_of_test (d := d) h
  simp [isSpace, hne ' ' rfl, hne '\t' rfl, hne '\n' rfl, hne '\r' rfl]

theorem Opens.not_isSpace {c : Char} (h : Opens c) : isSpace (some c) = false := by
  rcases h with h | h
  · exact isSpace_of_isDigit h
  · simp only [List.mem_cons, List.not_mem_nil, or_false] at h
    rcases h with rfl | rfl | rfl | rfl | rfl | rfl | rfl <;> rfl

theorem Opens.ne_bracket {c : Char} (h : Opens c) : c ≠ ']' := by
  rcases h with h | h
  · exact ne_of_test h rfl
  · rintro rfl
    exact absurd h (by decide)

theorem skipSpace_of_opens {c : Char} (h : Opens c) (text : Glyphs) :
    skipSpace (some c :: text) = some c :: text :=
  List.dropWhile_cons_of_neg (by simp [h.not_isSpace])

theorem Numeral.exists_text {n : Numeral} (h : n.WellFormed) :
    ∃ c text, n.text = c :: text ∧ Opens c := by
  obtain ⟨d, ds, hwhole, -⟩ := h.whole
  have hd := h.wholeDigits d (hwhole ▸ List.mem_cons_self)
  unfold text magnitudeText
  split
  · exact ⟨_, _, rfl, .inr (by decide)⟩
  · rw [hwhole]
    exact ⟨d, _, rfl, .inl hd⟩

/-! ## Numbers -/

/-- Every number is written as a numeral and read from it. -/
theorem exists_numeral (number : Number) :
    ∃ n : Numeral, n.WellFormed ∧ (renderNumber number).toList = n.text ∧
      n.numberBy? Numeral.nearest = some number := by
  cases number with
  | int value h =>
      exact ⟨.ofInt value, Numeral.wellFormed_ofInt value, Numeral.text_ofInt value,
        Numeral.numberBy?_ofInt _ h⟩
  | float x h =>
      exact ⟨.ofDouble x, Numeral.wellFormed_ofDouble x, Numeral.text_ofDouble x,
        Numeral.numberBy?_ofDouble h⟩

theorem readTree_digit {d : Char} (hd : d.isDigit = true) (fuel : Nat) (text : Glyphs) :
    readTree (fuel + 1) (some d :: text) =
      (readNumeral false (some d :: text)).map fun (n, rest) => (.number n, rest) := by
  rw [readTree, skipSpace_of_opens (.inl hd)]
  split
  case h_8 => rfl
  all_goals
    next heq =>
      exact absurd (Option.some.inj (List.cons.inj heq).1) (ne_of_test hd rfl)

theorem readTree_numeral {n : Numeral} (h : n.WellFormed) (hrest : Closes rest)
    (fuel : Nat) :
    readTree (fuel + 1) (n.text.map some ++ rest) = some (.number n, rest) := by
  have hread := Numeral.readNumeral_text h hrest
  obtain ⟨d, ds, hwhole, -⟩ := h.whole
  have hd := h.wholeDigits d (hwhole ▸ List.mem_cons_self)
  unfold Numeral.text
  cases hsign : n.negative with
  | true =>
      rw [hsign] at hread
      simp only [if_true, List.cons_append, List.nil_append, List.map_cons]
      rw [readTree, skipSpace_of_opens (.inr (by decide))]
      simp only [hread, Option.map_some]
  | false =>
      rw [hsign] at hread
      simp only [Bool.false_eq_true, if_false, List.nil_append]
      unfold Numeral.magnitudeText at hread ⊢
      rw [hwhole] at hread ⊢
      simp only [List.cons_append, List.map_cons] at hread ⊢
      rw [readTree_digit hd, hread, Option.map_some]

/-! ## Texts of values -/

/-- The texts with commas between them. -/
def joined (texts : List String) : List Char := (",".intercalate texts).toList

theorem joined_singleton (text : String) : joined [text] = text.toList := by
  simp [joined]

theorem joined_cons (text : String) {texts : List String} (h : texts ≠ []) :
    joined (text :: texts) = text.toList ++ ',' :: joined texts := by
  obtain ⟨next, texts, rfl⟩ := List.exists_cons_of_ne_nil h
  simp [joined, String.intercalate_cons_cons]

theorem toList_renderString (text : String) :
    (renderString text).toList = '"' :: (text.toList.flatMap escapeChar ++ ['"']) := by
  simp [renderString]

theorem toList_render_array (items : List Json) :
    (render (.array items)).toList = '[' :: (joined (renderItems items) ++ [']']) := by
  simp [render, joined]

theorem toList_render_object (fields : List (String × Json)) :
    (render (.object fields)).toList =
      '\x7b' :: (joined (renderFields fields) ++ ['\x7d']) := by
  simp [render, joined]

/-- The text of a value is never empty. -/
theorem exists_opens (value : Json) :
    ∃ c text, value.render.toList = c :: text ∧ Opens c := by
  cases value with
  | null => exact ⟨'n', _, by rw [render]; rfl, .inr (by decide)⟩
  | bool b => cases b <;> exact ⟨_, _, by rw [render]; rfl, .inr (by decide)⟩
  | number number =>
      obtain ⟨n, hn, htext, -⟩ := exists_numeral number
      obtain ⟨c, text, hc, hopens⟩ := Numeral.exists_text hn
      exact ⟨c, text, by rw [render, htext, hc], hopens⟩
  | string text =>
      exact ⟨_, _, by rw [render, toList_renderString], .inr (by decide)⟩
  | array items => exact ⟨_, _, toList_render_array items, .inr (by decide)⟩
  | object fields => exact ⟨_, _, toList_render_object fields, .inr (by decide)⟩

/-! ## Readers -/

variable {fuel : Nat} {text : Glyphs}

theorem readTree_array {c : Char} (h : Opens c) :
    readTree (fuel + 1) (some '[' :: some c :: text) =
      readItems fuel [] (some c :: text) := by
  rw [readTree, skipSpace_of_opens (.inr (by decide))]
  simp only [skipSpace_of_opens h]
  split
  · next heq => exact absurd (Option.some.inj (List.cons.inj heq).1) h.ne_bracket
  · rfl

theorem readTree_object :
    readTree (fuel + 1) (some '\x7b' :: some '"' :: text) =
      readFields fuel [] (some '"' :: text) := by
  rw [readTree]
  rfl

theorem readItems_last {tree : Tree} {items : List Tree}
    (h : readTree fuel text = some (tree, some ']' :: rest)) :
    readItems (fuel + 1) items text = some (.array (tree :: items).reverse, rest) := by
  rw [readItems, h]
  rfl

theorem readItems_next {tree : Tree} {items : List Tree}
    (h : readTree fuel text = some (tree, some ',' :: rest)) :
    readItems (fuel + 1) items text = readItems fuel (tree :: items) rest := by
  rw [readItems, h]
  rfl

theorem readFields_last {key : List Piece} {after : Glyphs} {tree : Tree}
    {fields : List (List Piece × Tree)}
    (hkey : readString text = some (key, some ':' :: after))
    (h : readTree fuel after = some (tree, some '\x7d' :: rest)) :
    readFields (fuel + 1) fields (some '"' :: text) =
      some (.object ((key, tree) :: fields).reverse, rest) := by
  rw [readFields]
  simp [skipSpace, isSpace, hkey, h]

theorem readFields_next {key : List Piece} {after : Glyphs} {tree : Tree}
    {fields : List (List Piece × Tree)}
    (hkey : readString text = some (key, some ':' :: after))
    (h : readTree fuel after = some (tree, some ',' :: rest)) :
    readFields (fuel + 1) fields (some '"' :: text) =
      readFields fuel ((key, tree) :: fields) rest := by
  rw [readFields]
  simp [skipSpace, isSpace, hkey, h]

/-! ## Trees of values -/

/-- A tree from which the value is made by a reader that goes as deep. -/
def Spells (tree : Tree) (value : Json) : Prop :=
  ∀ room, value.depth ≤ room →
    tree.valueBy? Numeral.nearest room = some value.collapse

def SpellsItems (trees : List Tree) (items : List Json) : Prop :=
  ∀ room, depthItems items ≤ room →
    Tree.itemsBy? Numeral.nearest room trees = some (collapseItems items)

def SpellsFields (trees : List (List Piece × Tree)) (fields : List (String × Json)) :
    Prop :=
  ∀ room, depthFields fields ≤ room →
    Tree.fieldsBy? Numeral.nearest room trees = some (collapseFields fields)

theorem SpellsItems.array {trees : List Tree} {items : List Json}
    (h : SpellsItems trees items) : Spells (.array trees) (.array items) := by
  intro room hroom
  rw [depth] at hroom
  rw [Tree.valueBy?, if_neg (by omega), h _ (by omega)]
  rfl

theorem SpellsFields.object {trees : List (List Piece × Tree)}
    {fields : List (String × Json)} (h : SpellsFields trees fields) :
    Spells (.object trees) (.object fields) := by
  intro room hroom
  rw [depth] at hroom
  rw [Tree.valueBy?, if_neg (by omega), h _ (by omega)]
  rfl

theorem SpellsItems.cons {tree : Tree} {value : Json} {trees : List Tree}
    {items : List Json} (h : Spells tree value) (hs : SpellsItems trees items) :
    SpellsItems (tree :: trees) (value :: items) := by
  intro room hroom
  rw [depthItems] at hroom
  rw [Tree.itemsBy?, h _ (by omega), hs _ (by omega)]
  rfl

theorem SpellsFields.cons {key : List Piece} {name : String} {tree : Tree}
    {value : Json} {trees : List (List Piece × Tree)} {fields : List (String × Json)}
    (hkey : Piece.text? key = some name) (h : Spells tree value)
    (hs : SpellsFields trees fields) :
    SpellsFields ((key, tree) :: trees) ((name, value) :: fields) := by
  intro room hroom
  rw [depthFields] at hroom
  have hvalue := h room (by omega)
  have hvalues := hs room (by omega)
  rw [Tree.fieldsBy?, hkey]
  simp only [Option.bind_eq_bind, Option.bind_some, hvalue, hvalues]
  rfl

/-! ## Reading back -/

theorem closes_comma (text : Glyphs) : Closes (some ',' :: text) := by
  rintro _ ⟨⟩
  exact .inl rfl

theorem closes_bracket (text : Glyphs) : Closes (some ']' :: text) := by
  rintro _ ⟨⟩
  exact .inr (.inl rfl)

theorem closes_brace (text : Glyphs) : Closes (some '\x7d' :: text) := by
  rintro _ ⟨⟩
  exact .inr (.inr rfl)

/-- The value is read from its text, whatever comes after it.  A call takes one from
the fuel and at least one character from the text, so that there is enough. -/
def ReadsBack (value : Json) : Prop :=
  ∀ (rest : Glyphs) (fuel : Nat), Closes rest →
    value.render.toList.length ≤ fuel + 1 →
      ∃ tree, readTree (fuel + 1) (value.render.toList.map some ++ rest) =
        some (tree, rest) ∧ Spells tree value

def ItemsReadBack (items : List Json) : Prop :=
  ∀ (rest : Glyphs) (fuel : Nat) (before : List Tree), items ≠ [] →
    (joined (renderItems items)).length ≤ fuel + 1 →
      ∃ trees, readItems (fuel + 2) before
          ((joined (renderItems items)).map some ++ some ']' :: rest) =
        some (.array (before.reverse ++ trees), rest) ∧ SpellsItems trees items

def FieldsReadBack (fields : List (String × Json)) : Prop :=
  ∀ (rest : Glyphs) (fuel : Nat) (before : List (List Piece × Tree)), fields ≠ [] →
    (joined (renderFields fields)).length ≤ fuel + 1 →
      ∃ trees, readFields (fuel + 2) before
          ((joined (renderFields fields)).map some ++ some '\x7d' :: rest) =
        some (.object (before.reverse ++ trees), rest) ∧ SpellsFields trees fields

theorem readsBack_number (x : Number) : ReadsBack (.number x) := by
  intro rest fuel hrest _
  obtain ⟨n, hn, htext, hnumber⟩ := exists_numeral x
  refine ⟨.number n, ?_, fun _ _ => by rw [Tree.valueBy?, hnumber]; rfl⟩
  rw [render, htext, readTree_numeral hn hrest]

theorem readsBack_string (text : String) : ReadsBack (.string text) := by
  intro rest fuel _ _
  obtain ⟨pieces, hread, htext⟩ := exists_readString_escaped text rest
  refine ⟨.string pieces, ?_, fun _ _ => by rw [Tree.valueBy?, htext]; rfl⟩
  rw [render, toList_renderString, readTree]
  simp [skipSpace, isSpace, hread]

theorem length_render_pos (value : Json) : 0 < value.render.toList.length := by
  obtain ⟨c, text, htext, -⟩ := exists_opens value
  simp [htext]

theorem exists_joined (text : String) (texts : List String) :
    ∃ more, joined (text :: texts) = text.toList ++ more := by
  rcases eq_or_ne texts [] with rfl | hne
  · exact ⟨[], by rw [joined_singleton, List.append_nil]⟩
  · exact ⟨_, joined_cons text hne⟩

theorem renderItems_ne_nil {items : List Json} (h : items ≠ []) :
    renderItems items ≠ [] := by
  obtain ⟨item, items, rfl⟩ := List.exists_cons_of_ne_nil h
  exact List.cons_ne_nil _ _

theorem renderFields_ne_nil {fields : List (String × Json)} (h : fields ≠ []) :
    renderFields fields ≠ [] := by
  obtain ⟨field, fields, rfl⟩ := List.exists_cons_of_ne_nil h
  exact List.cons_ne_nil _ _

theorem ItemsReadBack.cons {item : Json} {items : List Json} (hitem : ReadsBack item)
    (hitems : ItemsReadBack items) : ItemsReadBack (item :: items) := by
  intro rest fuel before _ hfuel
  have hpos := length_render_pos item
  rw [renderItems] at hfuel ⊢
  rcases eq_or_ne items [] with rfl | hne
  · rw [renderItems, joined_singleton] at hfuel ⊢
    obtain ⟨tree, hread, hspells⟩ := hitem _ fuel (closes_bracket rest) hfuel
    exact ⟨[tree], by rw [readItems_last hread, List.reverse_cons],
      .cons hspells fun _ _ => rfl⟩
  · rw [joined_cons _ (renderItems_ne_nil hne)] at hfuel ⊢
    simp only [List.length_append, List.length_cons] at hfuel
    obtain ⟨fuel, rfl⟩ : ∃ n, fuel = n + 1 := ⟨fuel - 1, by omega⟩
    simp only [List.map_append, List.map_cons, List.append_assoc, List.cons_append]
    obtain ⟨tree, hread, hspells⟩ := hitem _ (fuel + 1) (closes_comma _) (by omega)
    obtain ⟨trees, hreads, hspellsItems⟩ :=
      hitems rest fuel (tree :: before) hne (by omega)
    refine ⟨tree :: trees, ?_, .cons hspells hspellsItems⟩
    rw [readItems_next hread, hreads, List.reverse_cons, List.append_assoc,
      List.singleton_append]

theorem FieldsReadBack.cons {value : Json} {fields : List (String × Json)} (key : String)
    (hvalue : ReadsBack value) (hfields : FieldsReadBack fields) :
    FieldsReadBack ((key, value) :: fields) := by
  intro rest fuel before _ hfuel
  have hpos := length_render_pos value
  have htext : (renderString key ++ ":" ++ value.render).toList =
      '"' :: (key.toList.flatMap escapeChar ++ '"' :: ':' :: value.render.toList) := by
    simp [toList_renderString]
  rw [renderFields] at hfuel ⊢
  rcases eq_or_ne fields [] with rfl | hne
  · rw [renderFields, joined_singleton, htext] at hfuel ⊢
    simp only [List.length_append, List.length_cons] at hfuel
    simp only [List.map_append, List.map_cons, List.append_assoc, List.cons_append]
    obtain ⟨tree, hread, hspells⟩ := hvalue _ fuel (closes_brace rest) (by omega)
    obtain ⟨pieces, hkey, hname⟩ := exists_readString_escaped key _
    exact ⟨[(pieces, tree)], by rw [readFields_last hkey hread, List.reverse_cons],
      .cons hname hspells fun _ _ => rfl⟩
  · rw [joined_cons _ (renderFields_ne_nil hne), htext] at hfuel ⊢
    simp only [List.length_append, List.length_cons] at hfuel
    obtain ⟨fuel, rfl⟩ : ∃ n, fuel = n + 1 := ⟨fuel - 1, by omega⟩
    simp only [List.map_append, List.map_cons, List.append_assoc, List.cons_append]
    obtain ⟨tree, hread, hspells⟩ := hvalue _ (fuel + 1) (closes_comma _) (by omega)
    obtain ⟨pieces, hkey, hname⟩ := exists_readString_escaped key _
    obtain ⟨trees, hreads, hspellsFields⟩ :=
      hfields rest fuel ((pieces, tree) :: before) hne (by omega)
    refine ⟨(pieces, tree) :: trees, ?_, .cons hname hspells hspellsFields⟩
    rw [readFields_next hkey hread, hreads, List.reverse_cons, List.append_assoc,
      List.singleton_append]

theorem ItemsReadBack.array {items : List Json} (h : ItemsReadBack items) :
    ReadsBack (.array items) := by
  intro rest fuel _ hfuel
  cases items with
  | nil =>
      have hspells : Spells (.array []) (.array []) := SpellsItems.array fun _ _ => rfl
      exact ⟨.array [], by rw [render, readTree]; rfl, hspells⟩
  | cons item items =>
      obtain ⟨c, text, htext, hopens⟩ := exists_opens item
      obtain ⟨more, hmore⟩ := exists_joined item.render (renderItems items)
      rw [← renderItems, htext, List.cons_append] at hmore
      rw [toList_render_array] at hfuel
      simp only [List.length_append, List.length_cons, List.length_nil] at hfuel
      have hpos : 0 < (joined (renderItems (item :: items))).length := by simp [hmore]
      obtain ⟨fuel, rfl⟩ : ∃ n, fuel = n + 2 := ⟨fuel - 2, by omega⟩
      obtain ⟨trees, hread, hspells⟩ :=
        h rest fuel [] (List.cons_ne_nil _ _) (by omega)
      refine ⟨.array trees, ?_, hspells.array⟩
      rw [toList_render_array]
      simp only [hmore, List.map_append, List.map_cons, List.map_nil, List.append_assoc,
        List.cons_append, List.nil_append] at hread ⊢
      rw [readTree_array hopens, hread]
      rfl

theorem FieldsReadBack.object {fields : List (String × Json)} (h : FieldsReadBack fields) :
    ReadsBack (.object fields) := by
  intro rest fuel _ hfuel
  cases fields with
  | nil =>
      have hspells : Spells (.object []) (.object []) :=
        SpellsFields.object fun _ _ => rfl
      exact ⟨.object [], by rw [render, readTree]; rfl, hspells⟩
  | cons field fields =>
      obtain ⟨key, value⟩ := field
      obtain ⟨more, hmore⟩ := exists_joined (renderString key ++ ":" ++ value.render)
        (renderFields fields)
      rw [← renderFields, String.toList_append, String.toList_append, toList_renderString,
        List.cons_append, List.cons_append, List.cons_append] at hmore
      rw [toList_render_object] at hfuel
      simp only [List.length_append, List.length_cons, List.length_nil] at hfuel
      have hpos : 0 < (joined (renderFields ((key, value) :: fields))).length := by
        simp [hmore]
      obtain ⟨fuel, rfl⟩ : ∃ n, fuel = n + 2 := ⟨fuel - 2, by omega⟩
      obtain ⟨trees, hread, hspells⟩ :=
        h rest fuel [] (List.cons_ne_nil _ _) (by omega)
      refine ⟨.object trees, ?_, hspells.object⟩
      rw [toList_render_object]
      simp only [hmore, List.map_append, List.map_cons, List.map_nil, List.append_assoc,
        List.cons_append, List.nil_append] at hread ⊢
      rw [readTree_object, hread]
      rfl

mutual

theorem readsBack : (value : Json) → ReadsBack value
  | .null => fun _ _ _ _ => ⟨.null, by rw [render, readTree]; rfl, fun _ _ => rfl⟩
  | .bool true => fun _ _ _ _ =>
      ⟨.bool true, by rw [render, readTree]; rfl, fun _ _ => rfl⟩
  | .bool false => fun _ _ _ _ =>
      ⟨.bool false, by rw [render, readTree]; rfl, fun _ _ => rfl⟩
  | .number x => readsBack_number x
  | .string text => readsBack_string text
  | .array items => (itemsReadBack items).array
  | .object fields => (fieldsReadBack fields).object

theorem itemsReadBack : (items : List Json) → ItemsReadBack items
  | [] => fun _ _ _ h => absurd rfl h
  | item :: items => .cons (readsBack item) (itemsReadBack items)

theorem fieldsReadBack : (fields : List (String × Json)) → FieldsReadBack fields
  | [] => fun _ _ _ h => absurd rfl h
  | (key, value) :: fields => .cons key (readsBack value) (fieldsReadBack fields)

end

end SearchClient.Json
