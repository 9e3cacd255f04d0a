import MediaRelay.Proofs.Toml.Quoted
import MediaRelay.Proofs.Toml.Scalar
import MediaRelay.Toml.Reader
/-! Documents that are written are read back: values, then bindings, then tables. What a table of
the document holds while it is read is what its lines have bound so far. -/

namespace MediaRelay.Toml

/-! ### Values -/

/-- What may follow a value on its line. -/
def IsStop (c : Char) : Prop := c = '\n' ∨ c = ',' ∨ c = ']'

structure IsWritten (value : ReaderOf Toml) (text : List Char) (t : Toml) : Prop where
  /-- nothing of it is skipped, and it closes no array -/
  head : ∃ d more, text = d :: more ∧ d ∉ [' ', '\t', '\n', '\r', '#', ']']
  reads : ∀ c rest, IsStop c → value (text ++ c :: rest) = some (t, c :: rest)

theorem valueWithin_quoted {room : ℕ} {s rest : List Char} {d : Char} (hd : d = '"' ∨ d = '\'')
    {t more : List Char} (h : s = d :: more) (hq : quoted? s = some (t, rest)) :
    valueWithin room s = some (.string (String.ofList t), rest) := by
  subst h
  rcases hd with rfl | rfl <;> cases room <;> simp [valueWithin, hq]

theorem valueWithin_scalar {room : ℕ} {d : Char} (hd : d ∉ ['"', '\'', '[', '\x7b'])
    (more : List Char) : valueWithin room (d :: more) = scalar? (d :: more) := by
  simp only [List.mem_cons, List.not_mem_nil, or_false, not_or] at hd
  cases room <;> unfold valueWithin <;> split <;> simp_all

theorem isWritten_string (room : ℕ) (s : String) :
    IsWritten (valueWithin room) (writeString s.toList) (.string s) where
  head := by
    obtain ⟨text, h | h⟩ := writeString_eq_cons s.toList
    · exact ⟨_, text, h, by decide⟩
    · exact ⟨_, text, h, by decide⟩
  reads c rest hc := by
    have hq : quoted? (writeString s.toList ++ c :: rest) = some (s.toList, c :: rest) :=
      quoted?_writeString s.toList (by rcases hc with rfl | rfl | rfl <;> simp)
        (by rcases hc with rfl | rfl | rfl <;> simp)
    obtain ⟨text, h | h⟩ := writeString_eq_cons s.toList
    · rw [valueWithin_quoted (.inl rfl) (by rw [h, List.cons_append]) hq, String.ofList_toList]
    · rw [valueWithin_quoted (.inr rfl) (by rw [h, List.cons_append]) hq, String.ofList_toList]

/-- A written integer begins with a digit or a minus sign. -/
theorem writeInteger_eq_cons (n : Int) :
    ∃ d more, writeInteger n = d :: more ∧ (d.isDigit = true ∨ d = '-') := by
  rw [writeInteger_eq]
  split
  · obtain ⟨d, more, h⟩ := List.exists_cons_of_ne_nil (Nat.toDigits_ne_nil (n := n.toNat) (b := 10))
    refine ⟨d, more, h, .inl ?_⟩
    exact Nat.isDigit_of_mem_toDigits (by decide) (by decide) (h ▸ List.mem_cons_self)
  · exact ⟨'-', _, rfl, .inr rfl⟩

theorem isWritten_integer (room : ℕ) (n : Word.Signed) :
    IsWritten (valueWithin room) (writeInteger n.val) (.integer n) := by
  obtain ⟨d, more, hd, hdigit⟩ := writeInteger_eq_cons n.val
  have hne : ∀ c, c.isDigit = false → c ≠ '-' → d ≠ c := by
    rintro c hc hminus rfl
    rcases hdigit with h | h
    · simp [h] at hc
    · exact hminus h
  refine ⟨⟨d, more, hd, ?_⟩, fun c rest hc => ?_⟩
  · simp only [List.mem_cons, List.not_mem_nil, or_false, not_or]
    refine ⟨?_, ?_, ?_, ?_, ?_, ?_⟩ <;> exact hne _ (by decide) (by decide)
  · rw [← scalar?_writeInteger n hc rest, hd, List.cons_append]
    refine valueWithin_scalar ?_ _
    simp only [List.mem_cons, List.not_mem_nil, or_false, not_or]
    refine ⟨?_, ?_, ?_, ?_⟩ <;> exact hne _ (by decide) (by decide)

theorem isWritten_boolean (room : ℕ) (b : Bool) :
    IsWritten (valueWithin room) (writeBoolean b) (.boolean b) := by
  cases b with
  | true =>
    refine ⟨⟨'t', ['r', 'u', 'e'], by simp [writeBoolean], by decide⟩, ?_⟩
    rintro c rest (rfl | rfl | rfl) <;> cases room <;> rfl
  | false =>
    refine ⟨⟨'f', ['a', 'l', 's', 'e'], by simp [writeBoolean], by decide⟩, ?_⟩
    rintro c rest (rfl | rfl | rfl) <;> cases room <;> rfl

theorem skipFiller_of_not_mem {d : Char} (hd : d ∉ [' ', '\t', '\n', '\r', '#', ']'])
    (more : List Char) : skipFiller (d :: more) = d :: more := by
  simp only [List.mem_cons, List.not_mem_nil, or_false, not_or] at hd
  unfold skipFiller
  split <;> simp_all

theorem itemsFrom_close (value : ReaderOf Toml) (done : List Toml) {s rest : List Char}
    (h : skipFiller s = ']' :: rest) :
    itemsFrom value done s = some (.array done.reverse, rest) := by
  rw [itemsFrom, h]
  rfl

/-- An item is read, and what comes next decides. -/
theorem itemsFrom_item {value : ReaderOf Toml} {text : List Char} {t : Toml}
    (h : IsWritten value text t) (done : List Toml) {s rest : List Char} {c : Char}
    (hc : c = ',' ∨ c = ']') (hs : skipFiller s = text ++ c :: rest)
    (hlen : rest.length < s.length) :
    itemsFrom value done s =
      if c = ',' then itemsFrom value (t :: done) rest
      else some (.array (t :: done).reverse, rest) := by
  obtain ⟨d, more, hd, hmem⟩ := h.head
  have hread : value (skipFiller s) = some (t, c :: rest) := hs ▸ h.reads c rest (.inr hc)
  have hskip : skipFiller (c :: rest) = c :: rest := by
    rcases hc with rfl | rfl <;> simp [skipFiller]
  rw [itemsFrom]
  split
  case h_1 heq =>
    rw [hs, hd, List.cons_append] at heq
    simp [(List.cons.inj heq).1] at hmem
  case h_2 =>
    rw [hread]
    dsimp only
    rw [hskip]
    rcases hc with rfl | rfl <;> simp [hlen]

theorem skipFiller_isWritten {value : ReaderOf Toml} {text : List Char} {t : Toml}
    (h : IsWritten value text t) (rest : List Char) : skipFiller (text ++ rest) = text ++ rest := by
  obtain ⟨d, more, rfl, hmem⟩ := h.head
  exact skipFiller_of_not_mem hmem (more ++ rest)

def itemLines (items : List (List Char)) : List Char :=
  items.flatMap fun i => "    ".toList ++ i ++ [',', '\n']

theorem itemLines_cons (item : List Char) (items : List (List Char)) :
    itemLines (item :: items) = "    ".toList ++ item ++ [',', '\n'] ++ itemLines items := rfl

theorem itemsFrom_itemLines {value : ReaderOf Toml} {items : List (List Char × Toml)}
    (h : ∀ i ∈ items, IsWritten value i.1 i.2) (done : List Toml) (rest : List Char) :
    itemsFrom value done ('\n' :: (itemLines (items.map (·.1)) ++ ']' :: rest)) =
      some (.array (done.reverse ++ items.map (·.2)), rest) := by
  induction items generalizing done with
  | nil =>
    have hskip : skipFiller ('\n' :: ']' :: rest) = ']' :: rest := by simp [skipFiller]
    simpa [itemLines] using itemsFrom_close value done hskip
  | cons i items ih =>
    have hi := h i (by simp)
    have hskip : skipFiller ('\n' :: (itemLines ((i :: items).map (·.1)) ++ ']' :: rest)) =
        i.1 ++ ',' :: '\n' :: (itemLines (items.map (·.1)) ++ ']' :: rest) := by
      simp [itemLines_cons, skipFiller, skipFiller_isWritten hi]
    rw [itemsFrom_item hi done (.inl rfl) hskip, if_pos rfl, ih fun j hj => h j (.tail i hj)]
    · simp
    · simp [itemLines_cons]
      omega

theorem isWritten_array {room : ℕ} {items : List (List Char × Toml)}
    (h : ∀ i ∈ items, IsWritten (valueWithin room) i.1 i.2) :
    IsWritten (valueWithin (room + 1)) (writeArray (items.map (·.1)))
      (.array (items.map (·.2))) where
  head := by
    rcases items with _ | ⟨i, _ | ⟨j, items⟩⟩
    · exact ⟨'[', _, rfl, by decide⟩
    · exact ⟨'[', _, rfl, by decide⟩
    · exact ⟨'[', _, rfl, by decide⟩
  reads c rest _ := by
    have hread : ∀ text,
        valueWithin (room + 1) ('[' :: text) = itemsFrom (valueWithin room) [] text :=
      fun text => by simp [valueWithin]
    rcases items with _ | ⟨i, _ | ⟨j, items⟩⟩
    · exact (hread _).trans (itemsFrom_close _ [] (by simp [skipFiller]))
    · have hi := h i (by simp)
      have htext : writeArray ([i].map (·.1)) ++ c :: rest = '[' :: (i.1 ++ ']' :: c :: rest) := by
        simp [writeArray]
      rw [htext, hread, itemsFrom_item hi [] (.inr rfl) (skipFiller_isWritten hi _)]
      · rfl
      · simp
        omega
    · have htext : writeArray ((i :: j :: items).map (·.1)) ++ c :: rest =
          '[' :: '\n' :: (itemLines ((i :: j :: items).map (·.1)) ++ ']' :: c :: rest) := by
        simp [writeArray, itemLines]
      rw [htext, hread, itemsFrom_itemLines h]
      rfl

/-! ### Lines -/

def IsBare (key : String) : Prop := key.toList ≠ [] ∧ ∀ c ∈ key.toList, isBareKeyChar c = true

instance (key : String) : Decidable (IsBare key) :=
  decidable_of_iff (key.toList ≠ [] ∧ key.toList.all isBareKeyChar = true)
    (and_congr_right fun _ => List.all_eq_true)

theorem IsBare.eq_cons {key : String} (h : IsBare key) :
    ∃ c more, key.toList = c :: more ∧ isBareKeyChar c = true := by
  obtain ⟨c, more, hkey⟩ := List.exists_cons_of_ne_nil h.1
  exact ⟨c, more, hkey, h.2 c (hkey ▸ List.mem_cons_self)⟩

theorem ne_of_isBareKeyChar {c d : Char} (hc : isBareKeyChar c = true)
    (hd : isBareKeyChar d = false) : c ≠ d := by
  rintro rfl
  simp [hc] at hd

theorem dropWhile_isBlank_cons {c : Char} (hc : isBareKeyChar c = true) (rest : List Char) :
    (c :: rest).dropWhile isBlank = c :: rest := by
  refine List.dropWhile_cons_of_neg ?_
  simp [isBlank, ne_of_isBareKeyChar hc (d := ' ') rfl, ne_of_isBareKeyChar hc (d := '\t') rfl]

/-- A bare name is a key of one part, up to a bracket or an equals sign. -/
theorem keyPath?_append {key : String} (hkey : IsBare key) {s rest : List Char} {c : Char}
    (hs : s.dropWhile isBlank = c :: rest) (hc : c = ']' ∨ c = '=')
    (hhead : ∀ d ∈ s.head?, isBareKeyChar d = false) :
    keyPath? (key.toList ++ s) = some ([key], c :: rest) := by
  obtain ⟨k, more, hk, hbare⟩ := hkey.eq_cons
  have hpart : keyPart? (key.toList ++ s) = some (key, s) := by
    have hspan := Text.span_eq_iff.2 ⟨hkey.2, hhead, rfl⟩
    rw [hk, List.cons_append] at hspan ⊢
    unfold keyPart?
    split
    case h_1 heq => exact absurd (List.cons.inj heq).1 (ne_of_isBareKeyChar hbare rfl)
    case h_2 heq => exact absurd (List.cons.inj heq).1 (ne_of_isBareKeyChar hbare rfl)
    case h_3 =>
      rw [hspan]
      dsimp only
      rw [← hk, String.ofList_toList]
  have hdrop : (key.toList ++ s).dropWhile isBlank = key.toList ++ s := by
    rw [hk, List.cons_append, dropWhile_isBlank_cons hbare]
  rw [keyPath?, nestingLimit, key?, hdrop, hpart]
  dsimp only
  rw [hs]
  rcases hc with rfl | rfl <;> rfl

structure Binding where
  key : String
  text : List Char
  value : Toml
  bare : IsBare key
  written : IsWritten value? text value

namespace Binding

def write (b : Binding) : List Char := writeBinding b.key b.text

def entry (b : Binding) : String × Entry := (b.key, .value b.value)

theorem binding?_write (b : Binding) (rest : List Char) :
    binding? value? (b.write ++ rest) = some ([b.key], b.value, '\n' :: rest) := by
  have htext : b.write ++ rest =
      b.key.toList ++ (' ' :: '=' :: ' ' :: (b.text ++ '\n' :: rest)) := by
    simp [write, writeBinding]
  have hkey : keyPath? (b.write ++ rest) =
      some ([b.key], '=' :: ' ' :: (b.text ++ '\n' :: rest)) := by
    rw [htext]
    refine keyPath?_append b.bare (by simp [isBlank]) (.inr rfl) ?_
    rintro d ⟨⟩
    rfl
  have hdrop : (' ' :: (b.text ++ '\n' :: rest)).dropWhile isBlank = b.text ++ '\n' :: rest := by
    obtain ⟨d, more, hd, hmem⟩ := b.written.head
    simp only [List.mem_cons, List.not_mem_nil, or_false, not_or] at hmem
    simp [hd, isBlank, hmem]
  simp [binding?, hkey, hdrop, b.written.reads '\n' rest (.inl rfl)]

end Binding

namespace Draft

theorem lines?_break (d : Draft) (rest : List Char) : lines? d ('\n' :: rest) = lines? d rest := by
  have hend : lineEnd? ('\n' :: rest) = some rest := rfl
  rw [lines?]
  simp [isBlank, hend]

/-- A line that begins with no blank, no mark of a comment and no break. -/
theorem lines?_line {d : Draft} {c : Char} {cs rest : List Char}
    (hc : c ∉ [' ', '\t', '#', '\n', '\r']) (hlen : rest.length < (c :: cs).length)
    (h : ∀ d' s, d.line? (c :: cs) = some (d', s) → s = '\n' :: rest) :
    lines? d (c :: cs) = (d.line? (c :: cs)).bind fun r => lines? r.1 rest := by
  simp only [List.mem_cons, List.not_mem_nil, or_false, not_or] at hc
  obtain ⟨hblank, htab, hhash, hbreak, hreturn⟩ := hc
  have hdrop : (c :: cs).dropWhile isBlank = c :: cs :=
    List.dropWhile_cons_of_neg (by simp [isBlank, hblank, htab])
  have hend : lineEnd? ('\n' :: rest) = some rest := rfl
  rw [lines?, hdrop]
  simp only [hhash, hbreak, hreturn, decide_false, Bool.or_self, Bool.false_eq_true, if_false]
  cases hline : d.line? (c :: cs) with
  | none => rfl
  | some r =>
    obtain ⟨d', s⟩ := r
    obtain rfl := h d' s hline
    simp only [hend, Option.bind_some]
    exact dif_pos hlen

theorem lines?_binding (d : Draft) (b : Binding) (rest : List Char) :
    lines? d (b.write ++ rest) =
      (d.bind? [b.key] b.value).bind fun d' => lines? d' rest := by
  obtain ⟨c, more, hkey, hbare⟩ := b.bare.eq_cons
  have hcons : b.write ++ rest = c :: (more ++ ' ' :: '=' :: ' ' :: (b.text ++ '\n' :: rest)) := by
    simp [Binding.write, writeBinding, hkey]
  have hline : d.line? (b.write ++ rest) =
      (d.bind? [b.key] b.value).map fun d' => (d', '\n' :: rest) := by
    have hbracket : c ≠ '[' := ne_of_isBareKeyChar hbare rfl
    rw [line?, b.binding?_write]
    · simp only [Option.bind_eq_bind, Option.bind_some, Option.pure_def, Option.map_eq_bind,
        Function.comp_def]
    · simp [hcons, hbracket]
    · simp [hcons, hbracket]
  have hmem : c ∉ [' ', '\t', '#', '\n', '\r'] := by
    simp only [List.mem_cons, List.not_mem_nil, or_false, not_or]
    refine ⟨?_, ?_, ?_, ?_, ?_⟩ <;> exact ne_of_isBareKeyChar hbare rfl
  have hlen : rest.length < (b.write ++ rest).length := by
    simp [hcons]
    omega
  rw [hcons] at hline hlen ⊢
  rw [lines?_line hmem hlen, hline]
  · cases d.bind? [b.key] b.value <;> rfl
  · intro d' s hs
    rw [hline] at hs
    cases hb : d.bind? [b.key] b.value <;> simp_all

theorem lines?_header (d : Draft) {name : String} (hname : IsBare name) (rest : List Char) :
    lines? d ('[' :: (name.toList ++ ']' :: '\n' :: rest)) =
      (Entries.openAt false [name] d.root).bind fun root =>
        lines? { root, current := [name] } rest := by
  obtain ⟨c, more, hkey, hbare⟩ := hname.eq_cons
  have hbracket : c ≠ '[' := ne_of_isBareKeyChar hbare rfl
  have hpath : keyPath? (name.toList ++ ']' :: '\n' :: rest) =
      some ([name], ']' :: '\n' :: rest) := by
    refine keyPath?_append hname (by simp [isBlank]) (.inl rfl) ?_
    rintro d ⟨⟩
    rfl
  have hline : d.line? ('[' :: (name.toList ++ ']' :: '\n' :: rest)) =
      (Entries.openAt false [name] d.root).map fun root =>
        ({ root, current := [name] }, '\n' :: rest) := by
    rw [line?, header?, hpath]
    · cases hopen : Entries.openAt false [name] d.root <;> simp [Text.stripPrefix?, hopen]
    · simp [hkey, hbracket]
  have hlen : rest.length < ('[' :: (name.toList ++ ']' :: '\n' :: rest)).length := by
    simp
    omega
  rw [lines?_line (by decide) hlen, hline]
  · cases Entries.openAt false [name] d.root <;> rfl
  · intro d' s hs
    rw [hline] at hs
    cases hb : Entries.openAt false [name] d.root <;> simp_all

end Draft

/-! ### Tables -/

structure Table where
  name : String
  bindings : List Binding
  bare : IsBare name
  nodup : (bindings.map (·.key)).Nodup

namespace Table

def write (t : Table) : List Char := writeTable t.name (t.bindings.map Binding.write)

def entry (t : Table) : String × Entry :=
  (t.name, .section false false (t.bindings.map Binding.entry))

def value (t : Table) : String × Toml :=
  (t.name, .table (t.bindings.map fun b => (b.key, b.value)))

theorem tableOf_bindings (bs : List Binding) :
    Entry.tableOf (bs.map Binding.entry) = bs.map fun b => (b.key, b.value) := by
  induction bs with
  | nil => simp [Entry.tableOf]
  | cons b bs ih => simp [Entry.tableOf, Binding.entry, Entry.toToml, ih]

theorem tableOf_entries (ts : List Table) : Entry.tableOf (ts.map entry) = ts.map value := by
  induction ts with
  | nil => simp [Entry.tableOf]
  | cons t ts ih => simp [Entry.tableOf, entry, value, Entry.toToml, tableOf_bindings, ih]

end Table

theorem lookup_append_self {es : Entries} {key : String} (h : es.lookup key = none) (e : Entry) :
    (es ++ [(key, e)]).lookup key = some e := by
  simp [List.lookup_append, h]

theorem put_append_self {es : Entries} {key : String} (h : es.lookup key = none) (old e : Entry) :
    Entries.put key e (es ++ [(key, old)]) = es ++ [(key, e)] := by
  induction es with
  | nil => simp [Entries.put]
  | cons p es ih =>
    obtain ⟨k, v⟩ := p
    rw [List.lookup_cons] at h
    have hk : k ≠ key := by
      rintro rfl
      simp at h
    rw [beq_false_of_ne hk.symm] at h
    simp [Entries.put, hk, ih h]

theorem openAt_of_lookup {root : Entries} {name : String} (h : root.lookup name = none) :
    Entries.openAt false [name] root = some (root ++ [(name, .section false false [])]) := by
  simp [Entries.openAt, Entries.descend, Entries.openTable, h]

namespace Draft

/-- The lines of a table go into the section that its header has opened. -/
theorem bind?_section {root es : Entries} {name key : String} (hroot : root.lookup name = none)
    (hkey : es.lookup key = none) (v : Toml) :
    bind? { root := root ++ [(name, .section false false es)], current := [name] } [key] v =
      some { root := root ++ [(name, .section false false (es ++ [(key, .value v)]))]
             current := [name] } := by
  simp [bind?, Entries.descend, lookup_append_self hroot, Entries.insert, Entries.add, hkey,
    put_append_self hroot]

theorem lines?_bindings {root es : Entries} {name : String} (hroot : root.lookup name = none)
    {bs : List Binding} (hnodup : (bs.map (·.key)).Nodup) (hes : ∀ b ∈ bs, es.lookup b.key = none)
    (rest : List Char) :
    lines? { root := root ++ [(name, .section false false es)], current := [name] }
        ((bs.map Binding.write).flatten ++ rest) =
      lines? { root := root ++ [(name, .section false false (es ++ bs.map Binding.entry))]
               current := [name] } rest := by
  induction bs generalizing es with
  | nil => simp
  | cons b bs ih =>
    obtain ⟨hb, hbs⟩ := List.nodup_cons.1 hnodup
    have hfresh : ∀ b' ∈ bs, (es ++ [b.entry]).lookup b'.key = none := by
      intro b' hb'
      have hne : b'.key ≠ b.key := fun h => hb (List.mem_map.2 ⟨b', hb', h⟩)
      simp [List.lookup_append, hes b' (.tail b hb'), Binding.entry, List.lookup_cons,
        beq_false_of_ne hne]
    rw [List.map_cons, List.flatten_cons, List.append_assoc, lines?_binding,
      bind?_section hroot (hes b (by simp))]
    refine (ih hbs hfresh).trans ?_
    simp [Binding.entry]

theorem lines?_table {root : Entries} {t : Table} (hroot : root.lookup t.name = none)
    (current : List String) (rest : List Char) :
    lines? { root, current } (t.write ++ rest) =
      lines? { root := root ++ [t.entry], current := [t.name] } rest := by
  have htext : t.write ++ rest = '[' :: (t.name.toList ++ ']' :: '\n' ::
      ((t.bindings.map Binding.write).flatten ++ rest)) := by
    simp [Table.write, writeTable]
  rw [htext, lines?_header _ t.bare, openAt_of_lookup hroot]
  exact lines?_bindings hroot t.nodup (by simp) rest

theorem lines?_tables {root : Entries} {ts : List Table} (hnodup : (ts.map (·.name)).Nodup)
    (hroot : ∀ t ∈ ts, root.lookup t.name = none) (current : List String) :
    (lines? { root, current } (ts.flatMap fun t => '\n' :: t.write)).map (·.root) =
      some (root ++ ts.map Table.entry) := by
  induction ts generalizing root current with
  | nil => simp [lines?]
  | cons t ts ih =>
    obtain ⟨ht, hts⟩ := List.nodup_cons.1 hnodup
    have hfresh : ∀ t' ∈ ts, (root ++ [t.entry]).lookup t'.name = none := by
      intro t' ht'
      have hne : t'.name ≠ t.name := fun h => ht (List.mem_map.2 ⟨t', ht', h⟩)
      simp [List.lookup_append, hroot t' (.tail t ht'), Table.entry, List.lookup_cons,
        beq_false_of_ne hne]
    rw [List.flatMap_cons, List.cons_append, lines?_break, lines?_table (hroot t (by simp)),
      ih hts hfresh]
    simp

end Draft

theorem writeTables_cons (t : List Char) (ts : List (List Char)) :
    writeTables (t :: ts) = t ++ ts.flatMap fun t => '\n' :: t := by
  induction ts generalizing t with
  | nil => simp [writeTables]
  | cons t' ts ih => simpa [writeTables, List.intercalate] using ih t'

/-- A document that was written is read back, table by table and key by key. -/
theorem parse?_writeTables {t : Table} {ts : List Table}
    (hnodup : ((t :: ts).map (·.name)).Nodup) :
    parse? (String.ofList (writeTables ((t :: ts).map Table.write))) =
      some (.table ((t :: ts).map Table.value)) := by
  obtain ⟨ht, hts⟩ := List.nodup_cons.1 hnodup
  have hfresh : ∀ t' ∈ ts, ([t.entry] : Entries).lookup t'.name = none := by
    intro t' ht'
    have hne : t'.name ≠ t.name := fun h => ht (List.mem_map.2 ⟨t', ht', h⟩)
    simp [Table.entry, List.lookup_cons, beq_false_of_ne hne]
  have htext : writeTables ((t :: ts).map Table.write) =
      t.write ++ ts.flatMap fun t => '\n' :: t.write := by
    rw [List.map_cons, writeTables_cons, List.flatMap_map]
  have hlines : (Draft.lines? {} (writeTables ((t :: ts).map Table.write))).map (·.root) =
      some ((t :: ts).map Table.entry) := by
    rw [htext]
    have hfirst : Draft.lines? {} (t.write ++ ts.flatMap fun t => '\n' :: t.write) = _ :=
      Draft.lines?_table rfl [] _
    rw [hfirst]
    exact Draft.lines?_tables hts hfresh [t.name]
  have hmark : ∀ rest, (String.ofList (writeTables ((t :: ts).map Table.write))).toList ≠
      '\uFEFF' :: rest := by
    intro rest
    rw [String.toList_ofList, htext]
    simp [Table.write, writeTable]
  obtain ⟨d, hd, hroot⟩ := Option.map_eq_some_iff.1 hlines
  unfold parse?
  split
  case h_1 heq => exact absurd heq (hmark _)
  case h_2 =>
    dsimp only
    rw [String.toList_ofList, hd, Option.map_some, hroot, Table.tableOf_entries]

end MediaRelay.Toml
