import SearchClient.Proofs.Entries
import SearchClient.Proofs.Toml.Number
import SearchClient.Proofs.Toml.Text
import SearchClient.Toml.Printer
import SearchClient.Toml.Reader

/-!
# Documents read back

A printed document is read back as the tables it was printed from, as long as
its keys are bare and none comes twice in a table.  Each printed line takes the
reader from one state to the next, whatever text follows it.
-/

namespace SearchClient.Toml

open SearchClient.Toml.Text

/-! ## Keys and values -/

/-- A key that is printed without quotes. -/
structure IsBare (key : String) : Prop where
  ne_nil : key.toList ≠ []
  bare : ∀ c ∈ key.toList, isBareChar c = true

instance (key : String) : Decidable (IsBare key) :=
  decidable_of_iff ((!key.toList.isEmpty && key.toList.all isBareChar) = true) <| by
    simp only [Bool.and_eq_true, Bool.not_eq_true', List.isEmpty_eq_false_iff, List.all_eq_true]
    exact ⟨fun ⟨hne, hbare⟩ => ⟨hne, hbare⟩, fun ⟨hne, hbare⟩ => ⟨hne, hbare⟩⟩

theorem IsBare.exists_cons {key : String} (h : IsBare key) :
    ∃ c rest, key.toList = c :: rest ∧ isBareChar c = true := by
  cases hkey : key.toList with
  | nil => exact absurd hkey h.ne_nil
  | cons c rest => exact ⟨c, rest, rfl, h.bare c (hkey ▸ List.mem_cons_self)⟩

theorem skipBlanks_of_not_isBlank {c : Char} (h : isBlank c = false) (text : List Char) :
    skipBlanks (c :: text) = c :: text := by
  simp [skipBlanks, h]

theorem isBlank_of_isBareChar {c : Char} (h : isBareChar c = true) : isBlank c = false := by
  have hspace := ne_of_test h (show isBareChar ' ' = false from rfl)
  have htab := ne_of_test h (show isBareChar '\t' = false from rfl)
  simp [isBlank, hspace, htab]

theorem readSimpleKey_bare {key : String} (h : IsBare key) {stop : Char}
    (hstop : isBareChar stop = false) (rest : List Char) :
    readSimpleKey (key.toList ++ stop :: rest) = some (key, stop :: rest) := by
  obtain ⟨c, more, hkey, hc⟩ := h.exists_cons
  have htake : (key.toList ++ stop :: rest).takeWhile isBareChar = key.toList := by
    rw [List.takeWhile_append_of_pos h.bare, List.takeWhile_cons, hstop]
    simp
  have hdrop : (key.toList ++ stop :: rest).dropWhile isBareChar = stop :: rest := by
    rw [List.dropWhile_append_of_pos h.bare, List.dropWhile_cons, hstop]
    simp
  unfold readSimpleKey
  split
  · next htext =>
    rw [hkey] at htext
    exact absurd (List.cons.inj htext).1 (ne_of_test hc rfl)
  · next htext =>
    rw [hkey] at htext
    exact absurd (List.cons.inj htext).1 (ne_of_test hc rfl)
  · have hempty : key.toList.isEmpty = false := by simp [hkey]
    simp only [htake, hdrop, hempty, String.ofList_toList, Bool.false_eq_true, if_false]

/-- A bare key ends where no further part of a dotted key follows. -/
theorem readKey_bare {key : String} (h : IsBare key) {stop c : Char}
    {rest left : List Char} (hstop : isBareChar stop = false)
    (hleft : skipBlanks (stop :: rest) = c :: left) (hdot : c ≠ '.') (parts : Nat) :
    readKey (parts + 1) (key.toList ++ stop :: rest) = some ([key], c :: left) := by
  obtain ⟨first, more, hkey, hfirst⟩ := h.exists_cons
  have hskip : skipBlanks (key.toList ++ stop :: rest) = key.toList ++ stop :: rest := by
    rw [hkey]
    exact skipBlanks_of_not_isBlank (isBlank_of_isBareChar hfirst) _
  rw [readKey, hskip, readSimpleKey_bare h hstop]
  simp only [Option.bind_eq_bind, Option.bind_some, hleft]
  split
  · next hmore => exact absurd (List.cons.inj hmore).1 hdot
  · rfl

def Plain.scalar : Plain → Scalar
  | .string text => .string text
  | .int value => .int value
  | .bool value => .bool value

def Plain.inRange : Plain → Bool
  | .int value => Toml.inRange value
  | _ => true

theorem encode_head (text : List Char) :
    ∃ rest, encode text = '"' :: rest ∨ encode text = '\'' :: rest := by
  unfold encode
  split
  · exact ⟨_, .inl rfl⟩
  · exact ⟨_, .inr rfl⟩
  · exact ⟨_, .inl rfl⟩
  · exact ⟨_, .inr rfl⟩

theorem toString_head (value : Int) :
    ∃ c rest, (toString value).toList = c :: rest ∧ (c = '-' ∨ c.isDigit = true) := by
  rw [SearchClient.Text.toList_toString]
  split
  · exact ⟨_, _, rfl, .inl rfl⟩
  · obtain ⟨d, ds, hds, hdigits, -⟩ := SearchClient.Text.exists_toDigits value.natAbs
    exact ⟨d, ds, hds, .inr (hdigits d List.mem_cons_self)⟩

theorem readScalar_render {value : Plain} (h : value.inRange = true) (rest : List Char) :
    readScalar (value.render ++ '\n' :: rest) = some (value.scalar, '\n' :: rest) := by
  cases value with
  | string text =>
      have hread : (read? (encode text.toList ++ '\n' :: rest)).map
          (fun found => (Scalar.string (String.ofList found.1), found.2)) =
            some (.string text, '\n' :: rest) := by
        rw [read?_encode, Option.map_some, String.ofList_toList]
      rw [Plain.render]
      obtain ⟨more, hmore | hmore⟩ := encode_head text.toList
      · rw [hmore] at hread ⊢
        exact hread
      · rw [hmore] at hread ⊢
        exact hread
  | int value =>
      have hhead : ∀ d more, (toString value).toList ++ '\n' :: rest = d :: more →
          d ≠ '-' → d.isDigit = true := by
        intro d more hd hminus
        obtain ⟨c, others, hc, hsign | hdigit⟩ := toString_head value
        · rw [hc] at hd
          exact absurd ((List.cons.inj hd).1.symm.trans hsign) hminus
        · rw [hc] at hd
          exact (List.cons.inj hd).1 ▸ hdigit
      rw [Plain.render]
      unfold readScalar
      split
      · next htext => exact nomatch hhead _ _ htext (by decide)
      · next htext => exact nomatch hhead _ _ htext (by decide)
      · next htext => exact nomatch hhead _ _ htext (by decide)
      · next htext => exact nomatch hhead _ _ htext (by decide)
      · rw [readDateTime_toString, readNumeral_toString h]
        rfl
  | bool value => cases value <;> rfl

theorem Plain.render_head (value : Plain) :
    ∃ c rest, value.render = c :: rest ∧ isBlank c = false ∧ c ≠ '[' ∧ c ≠ '{' := by
  cases value with
  | string text =>
      obtain ⟨rest, hrest | hrest⟩ := encode_head text.toList
      · exact ⟨_, rest, hrest, by decide, by decide, by decide⟩
      · exact ⟨_, rest, hrest, by decide, by decide, by decide⟩
  | int value =>
      obtain ⟨c, rest, hc, rfl | hdigit⟩ := toString_head value
      · exact ⟨_, rest, hc, by decide, by decide, by decide⟩
      · refine ⟨c, rest, hc, ?_, ne_of_test hdigit rfl, ne_of_test hdigit rfl⟩
        have hspace := ne_of_test hdigit (show ' '.isDigit = false from rfl)
        have htab := ne_of_test hdigit (show '\t'.isDigit = false from rfl)
        simp [isBlank, hspace, htab]
  | bool value =>
      cases value
      · exact ⟨_, _, rfl, by decide, by decide, by decide⟩
      · exact ⟨_, _, rfl, by decide, by decide, by decide⟩

theorem readValue_render {value : Plain} (h : value.inRange = true) (fuel levels : Nat)
    (rest : List Char) :
    readValue (fuel + 1) levels (value.render ++ '\n' :: rest) =
      some (.scalar value.scalar, '\n' :: rest) := by
  have hread := readScalar_render h rest
  obtain ⟨c, more, hmore, -, hbracket, hbrace⟩ := value.render_head
  rw [hmore] at hread ⊢
  rw [List.cons_append] at hread ⊢
  unfold readValue
  split
  · next htext => exact absurd (List.cons.inj htext).1 hbracket
  · next htext => exact absurd (List.cons.inj htext).1 hbrace
  · next htext => exact absurd (List.cons.inj htext).1 hbracket
  · next htext => exact absurd (List.cons.inj htext).1 hbrace
  · rw [hread]
    rfl

/-! ## Lines -/

def nodes (pairs : List (String × Plain)) : Table :=
  pairs.map fun (key, value) => (key, .scalar value.scalar)

variable {state next : State} {key name : String} {value : Plain}

theorem endLine_nil (rest : List Char) : endLine ('\n' :: rest) = some rest := by
  simp [endLine, skipBlanks, isBlank]

theorem endLine_of_isBareChar {c : Char} (h : isBareChar c = true) (text : List Char) :
    endLine (c :: text) = none := by
  have hcomment := ne_of_test h (show isBareChar '#' = false from rfl)
  have hline := ne_of_test h (show isBareChar '\n' = false from rfl)
  have hreturn := ne_of_test h (show isBareChar '\r' = false from rfl)
  rw [endLine, skipBlanks_of_not_isBlank (isBlank_of_isBareChar h)]
  simp [hcomment, hline, hreturn]

theorem expectWord_append (word text : List Char) :
    expectWord word (word ++ text) = some text := by
  simp [expectWord]

theorem skipBlanks_render (value : Plain) (rest : List Char) :
    skipBlanks (' ' :: (value.render ++ rest)) = value.render ++ rest := by
  obtain ⟨c, more, hmore, hblank, -, -⟩ := value.render_head
  rw [hmore]
  exact skipBlanks_of_not_isBlank hblank _

theorem readLine_pair (hkey : IsBare key) (hvalue : value.inRange = true)
    (hnext : state.insert? [key] (.scalar value.scalar) = some next) (rest : List Char) :
    readLine state (renderPair (key, value) ++ rest) = some (next, rest) := by
  obtain ⟨c, more, hcons, hc⟩ := hkey.exists_cons
  have hline : renderPair (key, value) ++ rest =
      key.toList ++ ' ' :: '=' :: ' ' :: (value.render ++ '\n' :: rest) := by
    simp [renderPair]
  have hskip : skipBlanks (renderPair (key, value) ++ rest) =
      renderPair (key, value) ++ rest := by
    rw [hline, hcons]
    exact skipBlanks_of_not_isBlank (isBlank_of_isBareChar hc) _
  have hend : endLine (renderPair (key, value) ++ rest) = none := by
    rw [hline, hcons]
    exact endLine_of_isBareChar hc _
  have hread : readKey maxLevels (renderPair (key, value) ++ rest) =
      some ([key], ['='] ++ ' ' :: (value.render ++ '\n' :: rest)) := by
    rw [hline]
    exact readKey_bare hkey rfl rfl (by decide) 78
  have hbracket : ∀ text, renderPair (key, value) ++ rest ≠ '[' :: text := by
    intro text htext
    rw [hline, hcons] at htext
    exact ne_of_test hc rfl (List.cons.inj htext).1
  rw [readLine, hskip]
  split
  · next htext => exact absurd htext (hbracket _)
  · next htext => exact absurd htext (hbracket _)
  · rw [hend, hread]
    simp only [Option.bind_eq_bind, Option.bind_some, expectWord_append, skipBlanks_render,
      readValue_render hvalue, hnext, endLine_nil]
    rfl

theorem readLine_blank (state : State) (rest : List Char) :
    readLine state (['\n'] ++ rest) = some (state, rest) := by
  have hskip : skipBlanks ('\n' :: rest) = '\n' :: rest := rfl
  rw [List.singleton_append, readLine, hskip]
  simp [endLine_nil]

theorem readLine_header (hname : IsBare name) (hnext : state.openTable? [name] = some next)
    (rest : List Char) :
    readLine state (('[' :: name.toList ++ [']', '\n']) ++ rest) = some (next, rest) := by
  obtain ⟨c, more, hcons, hc⟩ := hname.exists_cons
  have hline : ('[' :: name.toList ++ [']', '\n']) ++ rest =
      '[' :: (name.toList ++ ']' :: '\n' :: rest) := by simp
  have hskip : skipBlanks ('[' :: (name.toList ++ ']' :: '\n' :: rest)) =
      '[' :: (name.toList ++ ']' :: '\n' :: rest) := rfl
  have hread : readKey maxLevels (name.toList ++ ']' :: '\n' :: rest) =
      some ([name], [']'] ++ '\n' :: rest) :=
    readKey_bare hname rfl rfl (by decide) 78
  rw [hline, readLine, hskip]
  split
  · next htext =>
    rw [hcons] at htext
    exact absurd (List.cons.inj (List.cons.inj htext).2).1 (ne_of_test hc rfl)
  · next htext =>
    rw [← (List.cons.inj htext).2, hread]
    simp only [Option.bind_eq_bind, Option.bind_some, expectWord_append, hnext, endLine_nil]
    rfl
  · next hbracket => exact absurd rfl (hbracket _)

/-! ## Documents -/

/-- From one state and text to another, whatever number of lines is allowed. -/
def Reaches (state : State) (text : List Char) (next : State) (rest : List Char) : Prop :=
  ∀ fuel, text.length ≤ fuel → ∃ left, rest.length ≤ left ∧
    readLines fuel state text = readLines left next rest

theorem Reaches.refl (state : State) (text : List Char) : Reaches state text state text :=
  fun fuel hfuel => ⟨fuel, hfuel, rfl⟩

theorem Reaches.trans {last : State} {text rest left : List Char}
    (h : Reaches state text next rest) (hlast : Reaches next rest last left) :
    Reaches state text last left := by
  intro fuel hfuel
  obtain ⟨fuel, hfuel, hread⟩ := h fuel hfuel
  obtain ⟨fuel, hfuel, hrest⟩ := hlast fuel hfuel
  exact ⟨fuel, hfuel, hread.trans hrest⟩

theorem Reaches.ofLine {line rest : List Char}
    (hread : readLine state (line ++ rest) = some (next, rest)) (hline : line ≠ []) :
    Reaches state (line ++ rest) next rest := by
  intro fuel hfuel
  obtain ⟨c, more, rfl⟩ := List.exists_cons_of_ne_nil hline
  cases fuel with
  | zero => simp at hfuel
  | succ fuel =>
      refine ⟨fuel, ?_, ?_⟩
      · simp only [List.length_append, List.length_cons] at hfuel
        omega
      · rw [readLines, hread]
        exact List.cons_ne_nil c _

/-- A state whose pairs go to the end of one table. -/
def Grows (put : Table → State) : Prop :=
  ∀ (entries : Table) (key : String) (node : Node), key ∉ entries.keys →
    (put entries).insert? [key] node = some (put (entries ++ [(key, node)]))

theorem insertDotted?_new {table : Table} (h : key ∉ table.keys) (node : Node) :
    Table.insertDotted? key node true [] table = some (table ++ [(key, node)]) := by
  rw [Table.insertDotted?, Entries.get?_eq_none_iff.2 h, Entries.insert_of_not_mem _ _ _ h]
  rfl

theorem grows_root : Grows fun entries => ⟨entries, []⟩ := by
  intro entries key node h
  simp [State.insert?, Table.modify?, insertDotted?_new h]

theorem grows_table {before : Table} (h : name ∉ before.keys) :
    Grows fun entries => ⟨before ++ [(name, .table .header entries)], [name]⟩ := by
  intro entries key node hkey
  simp [State.insert?, Table.modify?, insertDotted?_new hkey, Entries.get?_concat h,
    Entries.insert_concat h]

/-- Pairs that are printed with bare keys, each once. -/
structure ArePrintable (pairs : List (String × Plain)) : Prop where
  bare : ∀ pair ∈ pairs, IsBare pair.1
  inRange : ∀ pair ∈ pairs, pair.2.inRange = true
  nodup : (pairs.map Prod.fst).Nodup

theorem keys_nodes (pairs : List (String × Plain)) :
    (nodes pairs).keys = pairs.map Prod.fst := by
  simp [nodes, Entries.keys]

theorem reaches_renderPairs {put : Table → State} (hput : Grows put)
    {pairs : List (String × Plain)} (h : ArePrintable pairs) {entries : Table}
    (hnew : ∀ pair ∈ pairs, pair.1 ∉ entries.keys) (rest : List Char) :
    Reaches (put entries) (renderPairs pairs ++ rest) (put (entries ++ nodes pairs)) rest := by
  obtain ⟨hbare, hrange, hnodup⟩ := h
  -- the entries read so far never have the key of a pair that is still to come
  induction pairs generalizing entries with
  | nil =>
      rw [nodes, List.map_nil, List.append_nil]
      exact .refl _ _
  | cons pair pairs ih =>
      obtain ⟨key, value⟩ := pair
      rw [List.forall_mem_cons] at hbare hrange hnew
      rw [List.map_cons, List.nodup_cons] at hnodup
      have hafter : ∀ pair ∈ pairs,
          pair.1 ∉ Entries.keys (entries ++ [(key, Node.scalar value.scalar)]) := by
        intro pair hpair hmem
        rw [Entries.keys, List.map_append, List.mem_append] at hmem
        rcases hmem with hmem | hmem
        · exact hnew.2 pair hpair hmem
        · rw [List.map_singleton, List.mem_singleton] at hmem
          exact hnodup.1 (hmem ▸ List.mem_map_of_mem hpair)
      have hline := readLine_pair hbare.1 hrange.1 (hput entries key _ hnew.1)
        (renderPairs pairs ++ rest)
      have hrest := ih hafter hbare.2 hrange.2 hnodup.2
      rw [List.append_assoc] at hrest
      rw [renderPairs, List.flatMap_cons, List.append_assoc]
      exact .trans (.ofLine hline (by simp [renderPair])) hrest

theorem reaches_first {put : Table → State} (hput : Grows put)
    {pairs : List (String × Plain)} (h : ArePrintable pairs) (rest : List Char) :
    Reaches (put []) (renderPairs pairs ++ rest) (put (nodes pairs)) rest :=
  reaches_renderPairs hput h (fun _ _ => List.not_mem_nil) rest

def headed (tables : List (String × List (String × Plain))) : Table :=
  tables.map fun (name, pairs) => (name, .table .header (nodes pairs))

theorem openTable?_new {state : State} (h : name ∉ state.root.keys) :
    state.openTable? [name] =
      some ⟨state.root ++ [(name, .table .header [])], [name]⟩ := by
  simp [State.openTable?, Table.modify?, Table.addHeader?, Entries.get?_eq_none_iff.2 h,
    Entries.insert_of_not_mem _ _ _ h]

theorem reaches_renderTable (hname : IsBare name) {pairs : List (String × Plain)}
    (h : ArePrintable pairs) {state : State} (hnew : name ∉ state.root.keys)
    (rest : List Char) :
    Reaches state (renderTable (name, pairs) ++ rest)
      ⟨state.root ++ [(name, .table .header (nodes pairs))], [name]⟩ rest := by
  have hblank := readLine_blank state
    (('[' :: name.toList ++ [']', '\n']) ++ (renderPairs pairs ++ rest))
  have hheader := readLine_header hname (openTable?_new hnew) (renderPairs pairs ++ rest)
  have hpairs := reaches_first (grows_table hnew) h rest
  have htext : renderTable (name, pairs) ++ rest =
      ['\n'] ++ (('[' :: name.toList ++ [']', '\n']) ++ (renderPairs pairs ++ rest)) := by
    simp [renderTable]
  rw [htext]
  exact .trans (.ofLine hblank (by simp)) (.trans (.ofLine hheader (by simp)) hpairs)

theorem reaches_renderTables {tables : List (String × List (String × Plain))}
    (hnames : ∀ table ∈ tables, IsBare table.1)
    (hpairs : ∀ table ∈ tables, ArePrintable table.2)
    (state : State) (hnodup : (state.root.keys ++ tables.map Prod.fst).Nodup) :
    ∃ header, Reaches state (tables.flatMap renderTable)
      ⟨state.root ++ headed tables, header⟩ [] := by
  induction tables generalizing state with
  | nil =>
      rw [headed, List.map_nil, List.append_nil]
      exact ⟨state.header, .refl _ _⟩
  | cons table tables ih =>
      obtain ⟨name, pairs⟩ := table
      rw [List.forall_mem_cons] at hnames hpairs
      have hnew : name ∉ state.root.keys := fun hmem =>
        (List.nodup_append.1 hnodup).2.2 name hmem name List.mem_cons_self rfl
      have htable := reaches_renderTable hnames.1 hpairs.1 hnew (tables.flatMap renderTable)
      obtain ⟨header, hrest⟩ := ih hnames.2 hpairs.2
        ⟨state.root ++ [(name, .table .header (nodes pairs))], [name]⟩
        (by simpa [Entries.keys] using hnodup)
      rw [List.append_assoc] at hrest
      exact ⟨header, htable.trans hrest⟩

theorem dropMark_renderDocument {pairs : List (String × Plain)} (h : ArePrintable pairs)
    (tables : List (String × List (String × Plain))) :
    dropMark (renderDocument pairs tables) = renderDocument pairs tables := by
  cases pairs with
  | nil => cases tables <;> rfl
  | cons pair pairs =>
      obtain ⟨c, rest, hkey, hc⟩ := (h.bare pair List.mem_cons_self).exists_cons
      have hmark := ne_of_test hc (show isBareChar '\uFEFF' = false from rfl)
      have hhead : ∃ more, renderDocument (pair :: pairs) tables = c :: more := by
        simp [renderDocument, renderPairs, renderPair, hkey]
      obtain ⟨more, hmore⟩ := hhead
      rw [hmore]
      simp [dropMark, hmark]

/-- A document that is printed with bare keys, each once in its table, is read
back. -/
theorem parse?_renderDocument {pairs : List (String × Plain)}
    {tables : List (String × List (String × Plain))} (hroot : ArePrintable pairs)
    (hnames : ∀ table ∈ tables, IsBare table.1)
    (hpairs : ∀ table ∈ tables, ArePrintable table.2)
    (hnodup : (pairs.map Prod.fst ++ tables.map Prod.fst).Nodup) :
    parse? (renderDocument pairs tables) = some (nodes pairs ++ headed tables) := by
  have hstart := reaches_first grows_root hroot (tables.flatMap renderTable)
  rw [← keys_nodes] at hnodup
  obtain ⟨header, htables⟩ := reaches_renderTables hnames hpairs ⟨nodes pairs, []⟩ hnodup
  obtain ⟨left, -, hread⟩ := hstart.trans htables
    ((renderDocument pairs tables).length + 1) (Nat.le_succ _)
  rw [parse?, dropMark_renderDocument hroot]
  refine (congrArg (Option.map State.root) hread).trans ?_
  cases left <;> rfl

end SearchClient.Toml
