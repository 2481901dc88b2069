import Mathlib.Data.List.Forall2
import Stencil.Proofs.Json.Parts
import Stencil.Proofs.Value.JsonData

/-!
# Documents are read back

Null, truth values, whole numbers that are not too long, texts, and lists and
mappings of these are exact: their JSON text stands for them and for nothing
else. That holds of every layout that sets parts apart by a comma or a colon
and blanks.

What carries the induction is that a text is `Legible` as a value: the reader
takes it off the front of whatever follows, as long as that does not continue
a number. Two steps of fuel for each character are enough, for a bracket and
a comma each cost the reader one.
-/

namespace Stencil

/-! ## Exact values -/

/-- A value whose JSON text stands for it: no floating number, no whole number
past the limit, and no key twice in a mapping. -/
inductive Value.IsExact : Value → Prop
  | null : IsExact .null
  | bool (b : Bool) : IsExact (.bool b)
  | int {n : Int} : (Nat.toDigits 10 n.natAbs).length ≤ Numeral.maxDigits → IsExact (.int n)
  | str (s : String) : IsExact (.str s)
  | list {items : List Value} : (∀ v ∈ items, IsExact v) → IsExact (.list items)
  | mapping {entries : List (String × Value)} : (entries.map (·.1)).Nodup →
      (∀ e ∈ entries, IsExact e.2) →
      IsExact (.mapping (entries.map fun e => (.str e.1, e.2)))

theorem Value.IsExact.isJson {v : Value} (h : v.IsExact) : v.IsJson := by
  induction h with
  | null => exact .null
  | bool b => exact .bool b
  | int => exact .int _
  | str s => exact .str s
  | list _ ih => exact .list ih
  | mapping _ _ ih =>
      refine isJson_mapping.2 (List.forall_mem_map.2 fun e he => ?_)
      exact ⟨⟨e.1, rfl⟩, ih e he⟩

namespace Value

/-- A key that is not there comes behind the others. -/
theorem insert_fresh {key : String} {v : Value} : ∀ {entries : List (String × Value)},
    key ∉ entries.map (·.1) → insert (.str key) v (entries.map fun e => (.str e.1, e.2)) =
      (entries ++ [(key, v)]).map fun e => (.str e.1, e.2) := by
  intro entries
  induction entries with
  | nil => exact fun _ => rfl
  | cons e entries ih =>
      intro h
      rw [List.map_cons, List.mem_cons, not_or] at h
      rw [List.map_cons, insert, same_str, if_neg (by simpa using Ne.symm h.1), ih h.2]
      rfl

/-- Entries without repetitions are a mapping as they stand. -/
theorem ofEntries_nodup {entries : List (String × Value)} (h : (entries.map (·.1)).Nodup) :
    ofEntries (entries.map fun e => (.str e.1, e.2)) = entries.map fun e => (.str e.1, e.2) := by
  have hfold : ∀ (more front : List (String × Value)), ((front ++ more).map (·.1)).Nodup →
      (more.map fun e => (Value.str e.1, e.2)).foldl (fun acc e => insert e.1 e.2 acc)
        (front.map fun e => (.str e.1, e.2)) = (front ++ more).map fun e => (.str e.1, e.2) := by
    intro more
    induction more with
    | nil => intro front _; rw [List.append_nil]; rfl
    | cons e more ih =>
        intro front hkeys
        have hfresh : e.1 ∉ front.map (·.1) := by
          rw [List.map_append, List.nodup_append] at hkeys
          intro hmem
          exact hkeys.2.2 _ hmem _ List.mem_cons_self rfl
        rw [List.map_cons, List.foldl_cons, insert_fresh hfresh,
          ih (front ++ [e]) (by rwa [List.append_assoc]), List.append_assoc]
        rfl
  exact hfold entries [] h

end Value

namespace Json

open Stencil.Text Stencil.Value

/-! ## What stands between the parts -/

/-- Blanks between the parts of a document. -/
def Gap (cs : List Char) : Prop := ∀ c ∈ cs, isGap c = true

/-- A layout that sets parts apart by a comma or a colon and blanks. -/
structure Layout.Standard (style : Layout) : Prop where
  item : ∃ gap, style.itemGap = ',' :: gap ∧ Gap gap
  key : ∃ gap, style.keyGap = ':' :: gap ∧ Gap gap

theorem standard_compact : Layout.compact.Standard :=
  ⟨⟨[], rfl, by simp [Gap]⟩, ⟨[], rfl, by simp [Gap]⟩⟩

theorem standard_spaced : Layout.spaced.Standard :=
  ⟨⟨[' '], rfl, by simp [Gap, isGap]⟩, ⟨[' '], rfl, by simp [Gap, isGap]⟩⟩

theorem Layout.newline_gap (style : Layout) (depth : Nat) : Gap (style.newline depth) := by
  unfold Layout.newline
  split
  · simp [Gap]
  · intro c hc
    rcases List.mem_cons.1 hc with rfl | hc
    · rfl
    · rw [List.eq_of_mem_replicate hc]
      rfl

theorem Gap.append {g h : List Char} (hg : Gap g) (hh : Gap h) : Gap (g ++ h) :=
  List.forall_mem_append.2 ⟨hg, hh⟩

/-- What begins with no blank. -/
def Opens (cs : List Char) : Prop := ∀ c ∈ cs.head?, isGap c = false

/-- What begins with no blank and not with the bracket that would close the
part it begins. -/
def Begins (close : Char) (cs : List Char) : Prop :=
  ∃ c tail, cs = c :: tail ∧ isGap c = false ∧ c ≠ close

section

variable {close : Char} {cs : List Char}

theorem Begins.opens (h : Begins close cs) : Opens cs := by
  obtain ⟨c, tail, rfl, hc, -⟩ := h
  rintro _ ⟨⟩
  exact hc

theorem Begins.append (h : Begins close cs) (rest : List Char) : Begins close (cs ++ rest) := by
  obtain ⟨c, tail, rfl, hc⟩ := h
  exact ⟨c, tail ++ rest, rfl, hc⟩

theorem Begins.head?_ne (h : Begins close cs) : cs.head? ≠ some close := by
  obtain ⟨c, tail, rfl, -, hc⟩ := h
  exact fun h => hc (Option.some.inj h)

end

theorem skipGap_append {gap cs : List Char} (hgap : Gap gap) (hcs : Opens cs) :
    skipGap (gap ++ cs) = cs := by
  rw [skipGap, List.dropWhile_append_of_pos hgap]
  cases cs with
  | nil => rfl
  | cons c cs => rw [List.dropWhile_cons_of_neg (by simp [hcs c rfl])]

theorem ends_append {gap cs : List Char} (hgap : Gap gap) (hcs : Ends cs) : Ends (gap ++ cs) := by
  cases gap with
  | nil => exact hcs
  | cons c gap =>
      rintro _ ⟨⟩
      have hc := hgap c List.mem_cons_self
      simp only [isGap, Bool.or_eq_true, beq_iff_eq] at hc
      rcases hc with ((rfl | rfl) | rfl) | rfl <;> decide

/-! ## Legible texts -/

/-- The text is read as the value off the front of whatever follows it. -/
structure Legible (cs : List Char) (v : Value) : Prop where
  head : Begins ']' cs
  read : ∀ fuel rest, 2 * cs.length ≤ fuel → Ends rest → readValue fuel (cs ++ rest) = .ok (v, rest)

/-- A text is not empty, so the reader has fuel for it. -/
theorem legible_of_step {cs : List Char} {v : Value} (hhead : Begins ']' cs)
    (hread : ∀ fuel rest, 2 * cs.length ≤ fuel + 1 → Ends rest →
      readValue (fuel + 1) (cs ++ rest) = .ok (v, rest)) : Legible cs v := by
  refine ⟨hhead, fun fuel rest hfuel hrest => ?_⟩
  have hpos : 0 < cs.length := by
    obtain ⟨c, tail, rfl, -⟩ := hhead
    exact Nat.zero_lt_succ _
  obtain ⟨fuel, rfl⟩ : ∃ f, fuel = f + 1 := ⟨fuel - 1, by omega⟩
  exact hread fuel rest hfuel hrest

/-! ### Scalars -/

theorem legible_word {word : List Char} {v : Value} (hhead : Begins ']' word)
    (h : ∀ rest, readWord? (word ++ rest) = some (v, rest)) : Legible word v := by
  refine legible_of_step hhead fun fuel rest _ _ => ?_
  rw [readValue.eq_def]
  simp only [h]

theorem legible_null : Legible "null".toList .null :=
  legible_word ⟨'n', _, rfl, by decide, by decide⟩ fun _ => rfl

theorem legible_bool (b : Bool) : Legible (if b then "true" else "false").toList (.bool b) := by
  cases b with
  | true => exact legible_word ⟨'t', _, rfl, by decide, by decide⟩ fun _ => rfl
  | false => exact legible_word ⟨'f', _, rfl, by decide, by decide⟩ fun _ => rfl

theorem legible_str (s : String) : Legible (writeString s.toList) (.str s) := by
  refine legible_of_step ⟨'"', _, rfl, by decide, by decide⟩ fun fuel rest _ _ => ?_
  obtain ⟨body, hbody, hread⟩ := readString_writeString s.toList rest
  have hword : readWord? ('"' :: body) = none := rfl
  rw [hbody, readValue, hword]
  simp only [hread, ok_bind, ofChars, String.ofList_toList]

/-- What a whole number begins with. -/
def isNumberHead (c : Char) : Bool := c == '-' || c.isDigit

/-- No word begins as a whole number does. -/
theorem readWord?_number {c : Char} (hc : c.isDigit = true) (cs : List Char) :
    readWord? (c :: cs) = none ∧ readWord? ('-' :: c :: cs) = none := by
  have hne : ∀ d : Char, d.isDigit = false → d ≠ c := fun d hd => (ne_of_class hc d hd).symm
  constructor
  · simp [readWord?, words, afterPhrase?, hne 'n' rfl, hne 't' rfl, hne 'f' rfl, hne 'N' rfl,
      hne 'I' rfl, hne '-' rfl]
  · simp [readWord?, words, afterPhrase?, hne 'I' rfl]

/-- The text of a whole number begins as one, and no word does. -/
theorem head_writeInt? {n : Int} {cs : List Char} (h : Numeral.writeInt? n = some cs) :
    ∃ c tail, cs = c :: tail ∧ isNumberHead c = true ∧ ∀ rest, readWord? (cs ++ rest) = none := by
  obtain ⟨digits, hne, hplain, -, -, rfl⟩ := Numeral.writeInt?_some h
  obtain ⟨c, digits, rfl⟩ := List.exists_cons_of_ne_nil hne
  have hc := hplain c List.mem_cons_self
  split
  · exact ⟨'-', _, rfl, rfl, fun rest => (readWord?_number hc _).2⟩
  · refine ⟨c, _, rfl, ?_, fun rest => (readWord?_number hc _).1⟩
    rw [isNumberHead, hc, Bool.or_true]

theorem legible_int {n : Int} {cs : List Char} (h : Numeral.writeInt? n = some cs) :
    Legible cs (.int n) := by
  obtain ⟨c, tail, rfl, hc, hword⟩ := head_writeInt? h
  have hne := ne_of_class hc
  have hgap : isGap c = false := by
    simp [isGap, hne ' ' rfl, hne '\t' rfl, hne '\n' rfl, hne '\r' rfl]
  refine legible_of_step ⟨c, tail, rfl, hgap, hne ']' rfl⟩ fun fuel rest _ hrest => ?_
  rw [← readNumber_written h hrest, readValue.eq_def]
  simp only [hword rest]
  split
  · next heq => cases heq; exact absurd rfl (hne '"' rfl)
  · next heq => cases heq; exact absurd rfl (hne '[' rfl)
  · next heq => cases heq; exact absurd rfl (hne '\x7b' rfl)
  · rfl

/-! ### Parts between brackets -/

theorem joinWith_two (sep part next : List Char) (parts : List (List Char)) :
    joinWith sep (part :: next :: parts) = part ++ sep ++ joinWith sep (next :: parts) := rfl

theorem joinWith_cons_cons (gap part next : List Char) (parts : List (List Char))
    (back : List Char) :
    joinWith (',' :: gap) (part :: next :: parts) ++ back =
      part ++ ',' :: (gap ++ (joinWith (',' :: gap) (next :: parts) ++ back)) := by
  rw [joinWith_two, List.append_assoc, List.append_assoc, List.cons_append]

section

variable {α : Type} {many : Nat → List Char → Except Failure (List α × List Char)} {close : Char}

/-- The reader `many` of items up to a closing bracket takes the text `part` as
the item `a`, and stops or goes on with the items behind it. -/
structure Takes (many : Nat → List Char → Except Failure (List α × List Char)) (close : Char)
    (part : List Char) (a : α) : Prop where
  head : Begins close part
  last : ∀ fuel gap rest, 2 * part.length ≤ fuel → Gap gap →
    many (fuel + 1) (part ++ (gap ++ close :: rest)) = .ok ([a], rest)
  more : ∀ fuel rest, 2 * part.length ≤ fuel →
    many (fuel + 1) (part ++ ',' :: rest) =
      (many fuel (skipGap rest)).map fun r => (a :: r.1, r.2)

theorem begins_joinWith {gap part : List Char} {a : α} (h : Takes many close part a)
    (parts : List (List Char)) (back : List Char) :
    Begins close (joinWith (',' :: gap) (part :: parts) ++ back) := by
  cases parts with
  | nil => exact h.head.append back
  | cons next parts => rw [joinWith_cons_cons]; exact h.head.append _

/-- Parts that are taken one by one are taken together. -/
theorem takes_joinWith {gap closing : List Char} (hgap : Gap gap) (hclosing : Gap closing)
    {parts : List (List Char)} {items : List α} (h : List.Forall₂ (Takes many close) parts items) :
    parts ≠ [] → ∀ fuel rest, 2 * (joinWith (',' :: gap) parts).length + 1 ≤ fuel →
      many fuel (joinWith (',' :: gap) parts ++ (closing ++ close :: rest)) =
        .ok (items, rest) := by
  induction h with
  | nil => exact fun h => absurd rfl h
  | @cons part a parts items hpart hparts ih =>
      intro _ fuel rest hfuel
      obtain ⟨fuel, rfl⟩ : ∃ f, fuel = f + 1 := ⟨fuel - 1, by omega⟩
      cases hparts with
      | nil =>
          rw [joinWith] at hfuel ⊢
          exact hpart.last fuel closing rest (by omega) hclosing
      | @cons next b parts items hnext hparts =>
          have hlength : 2 * part.length + 2 * (joinWith (',' :: gap) (next :: parts)).length + 2 ≤
              fuel := by
            rw [joinWith_two] at hfuel
            simp only [List.length_append, List.length_cons] at hfuel
            omega
          rw [joinWith_cons_cons, hpart.more fuel _ (by omega),
            skipGap_append hgap (begins_joinWith hnext parts _).opens,
            ih (List.cons_ne_nil _ _) fuel rest (by omega)]
          rfl

end

/-! ### Items and entries -/

theorem ends_comma (rest : List Char) : Ends (',' :: rest) := by
  rintro _ ⟨⟩
  decide

/-- A closing bracket behind blanks. -/
theorem closing_bracket {gap : List Char} {close : Char} (hgap : Gap gap)
    (hclose : close = ']' ∨ close = '\x7d') (rest : List Char) :
    Ends (gap ++ close :: rest) ∧ skipGap (gap ++ close :: rest) = close :: rest := by
  refine ⟨ends_append hgap ?_, skipGap_append hgap ?_⟩ <;>
    · rintro _ ⟨⟩
      rcases hclose with rfl | rfl <;> decide

theorem Legible.takes {part : List Char} {v : Value} (h : Legible part v) :
    Takes readItems ']' part v where
  head := h.head
  last fuel gap rest hfuel hgap := by
    obtain ⟨hends, hskip⟩ := closing_bracket hgap (.inl rfl) rest
    rw [readItems, h.read fuel _ hfuel hends, ok_bind]
    simp only [hskip]
  more fuel rest hfuel := by
    rw [readItems, h.read fuel _ hfuel (ends_comma rest), ok_bind]
    show (readItems fuel (skipGap rest) >>= fun r => _) = _
    cases readItems fuel (skipGap rest) <;> rfl

/-- The text is an entry: its key, a colon and its value. -/
def LegibleEntry (part : List Char) (e : Value × Value) : Prop :=
  ∃ s gap text, e.1 = .str s ∧ part = writeString s.toList ++ ':' :: (gap ++ text) ∧ Gap gap ∧
    Legible text e.2

/-- What is read behind an entry. -/
def readBehind (fuel : Nat) (e : Value × Value) (rest : List Char) :
    Except Failure (List (Value × Value) × List Char) :=
  match skipGap rest with
  | '\x7d' :: rest => .ok ([e], rest)
  | ',' :: rest => (readEntries fuel (skipGap rest)).map fun r => (e :: r.1, r.2)
  | _ => .error .notJson

theorem readEntries_entry {part : List Char} {e : Value × Value} (h : LegibleEntry part e)
    {fuel : Nat} (hfuel : 2 * part.length ≤ fuel) {rest : List Char} (hrest : Ends rest) :
    readEntries (fuel + 1) (part ++ rest) = readBehind fuel e rest := by
  obtain ⟨s, gap, text, hkey, rfl, hgap, htext⟩ := h
  obtain ⟨key, v⟩ := e
  obtain rfl := hkey
  obtain ⟨body, hbody, hread⟩ := readString_writeString s.toList (':' :: (gap ++ (text ++ rest)))
  have hlength : 2 * text.length ≤ fuel := by
    simp only [List.length_append, List.length_cons] at hfuel
    omega
  have hcolon : skipGap (':' :: (gap ++ (text ++ rest))) = ':' :: (gap ++ (text ++ rest)) := rfl
  rw [List.append_assoc, List.cons_append, List.append_assoc, hbody, readEntries, hread, ok_bind]
  simp only [hcolon, skipGap_append hgap (htext.head.append rest).opens,
    htext.read fuel rest hlength hrest, ok_bind, ofChars, String.ofList_toList]
  rw [readBehind]
  cases readEntries fuel (skipGap rest) <;> rfl

theorem LegibleEntry.takes {part : List Char} {e : Value × Value} (h : LegibleEntry part e) :
    Takes readEntries '\x7d' part e where
  head := by
    obtain ⟨s, gap, text, -, rfl, -⟩ := h
    exact ⟨'"', _, rfl, by decide, by decide⟩
  last fuel gap rest hfuel hgap := by
    obtain ⟨hends, hskip⟩ := closing_bracket hgap (.inr rfl) rest
    rw [readEntries_entry h hfuel hends, readBehind, hskip]
    rfl
  more fuel rest hfuel := by
    exact readEntries_entry h hfuel (ends_comma rest)

/-! ### Lists and mappings -/

/-- Between its brackets a text of parts is blanks and the parts, which are
taken together. -/
theorem read_bracketed {α : Type} {many : Nat → List Char → Except Failure (List α × List Char)}
    (before : Char) {close : Char} {style : Layout} (hstyle : style.Standard) (depth : Nat)
    {parts : List (List Char)} {items : List α} (hne : parts ≠ [])
    (h : List.Forall₂ (Takes many close) parts items) (rest : List Char) :
    ∃ inside, bracketed style depth before close parts ++ rest = before :: inside ∧
      (skipGap inside).head? ≠ some close ∧ ∀ fuel,
        2 * (bracketed style depth before close parts).length ≤ fuel + 1 →
          many fuel (skipGap inside) = .ok (items, rest) := by
  obtain ⟨gap, hitem, hgap⟩ := hstyle.item
  have hlead := style.newline_gap (depth + 1)
  have hgap' : Gap (gap ++ style.newline (depth + 1)) := hgap.append hlead
  have hshape : bracketed style depth before close parts =
      before :: (style.newline (depth + 1) ++
        (joinWith (',' :: (gap ++ style.newline (depth + 1))) parts ++
          (style.newline depth ++ [close]))) := by
    rw [bracketed, if_neg (by simpa using hne), hitem]
    simp only [List.cons_append, List.append_assoc]
  have hhead : Begins close (joinWith (',' :: (gap ++ style.newline (depth + 1))) parts ++
      (style.newline depth ++ close :: rest)) := by
    cases h with
    | nil => exact absurd rfl hne
    | cons hpart _ => exact begins_joinWith hpart _ _
  have hskip := skipGap_append hlead hhead.opens
  refine ⟨style.newline (depth + 1) ++
    (joinWith (',' :: (gap ++ style.newline (depth + 1))) parts ++
      (style.newline depth ++ close :: rest)), ?_, ?_, fun fuel hfuel => ?_⟩
  · rw [hshape]
    simp only [List.cons_append, List.append_assoc, List.nil_append]
  · rw [hskip]
    exact hhead.head?_ne
  · rw [hskip]
    refine takes_joinWith hgap' (style.newline_gap depth) h hne fuel rest ?_
    rw [hshape] at hfuel
    simp only [List.length_append, List.length_cons] at hfuel ⊢
    omega

section

variable {style : Layout} {parts : List (List Char)}

theorem bracketed_head (style : Layout) (depth : Nat) (before close : Char)
    (parts : List (List Char)) :
    ∃ tail, bracketed style depth before close parts = before :: tail := by
  rw [bracketed]
  split
  · exact ⟨_, rfl⟩
  · exact ⟨_, by simp only [List.cons_append]; rfl⟩

/-- Parts that are taken together make a legible text in brackets, if the
reader does not go on where the closing bracket stands. -/
theorem legible_bracketed {α : Type} {many : Nat → List Char → Except Failure (List α × List Char)}
    {before close : Char} {items : List α} (value : List α → Value) (hstyle : style.Standard)
    (depth : Nat) (hbefore : isGap before = false ∧ before ≠ ']')
    (hnone : ∀ fuel rest, readValue (fuel + 1) (before :: close :: rest) = .ok (value [], rest))
    (hsome : ∀ fuel inside, (skipGap inside).head? ≠ some close →
      readValue (fuel + 1) (before :: inside) =
        (many fuel (skipGap inside)).map fun r => (value r.1, r.2))
    (h : List.Forall₂ (Takes many close) parts items) :
    Legible (bracketed style depth before close parts) (value items) := by
  obtain ⟨tail, htail⟩ := bracketed_head style depth before close parts
  refine legible_of_step ⟨before, tail, htail, hbefore⟩ fun fuel rest hfuel _ => ?_
  cases h with
  | nil => exact hnone fuel rest
  | cons hpart hparts =>
      obtain ⟨inside, heq, hhead, hread⟩ :=
        read_bracketed before hstyle depth (List.cons_ne_nil _ _) (.cons hpart hparts) rest
      rw [heq, hsome fuel inside hhead, hread fuel hfuel]
      rfl

theorem legible_list (hstyle : style.Standard) (depth : Nat) {items : List Value}
    (h : List.Forall₂ Legible parts items) :
    Legible (bracketed style depth '[' ']' parts) (.list items) := by
  refine legible_bracketed .list hstyle depth (by decide) (fun _ _ => rfl)
    (fun fuel inside hhead => ?_) (h.imp fun _ _ h => Legible.takes h)
  have hword : readWord? ('[' :: inside) = none := rfl
  rw [readValue, hword]
  simp only []
  split
  · next hclose => rw [hclose] at hhead; exact absurd rfl hhead
  · cases readItems fuel (skipGap inside) <;> rfl

theorem legible_mapping (hstyle : style.Standard) (depth : Nat) {entries : List (Value × Value)}
    (h : List.Forall₂ LegibleEntry parts entries) :
    Legible (bracketed style depth '\x7b' '\x7d' parts) (.mapping (ofEntries entries)) := by
  refine legible_bracketed (fun entries => .mapping (ofEntries entries)) hstyle depth (by decide)
    (fun _ _ => rfl) (fun fuel inside hhead => ?_) (h.imp fun _ _ h => LegibleEntry.takes h)
  have hword : readWord? ('\x7b' :: inside) = none := rfl
  rw [readValue, hword]
  simp only []
  split
  · next hclose => rw [hclose] at hhead; exact absurd rfl hhead
  · cases readEntries fuel (skipGap inside) <;> rfl

/-! ## What is written is legible -/

theorem writeItems_legible {depth : Nat} : ∀ {items : List Value},
    (∀ v ∈ items, ∃ cs, write style depth v = .ok cs ∧ Legible cs v) →
    ∃ parts, writeItems style depth items = .ok parts ∧ List.Forall₂ Legible parts items := by
  intro items
  induction items with
  | nil => exact fun _ => ⟨[], rfl, .nil⟩
  | cons v items ih =>
      intro h
      obtain ⟨⟨cs, hcs, hlegible⟩, hrest⟩ := List.forall_mem_cons.1 h
      obtain ⟨parts, hparts, hall⟩ := ih hrest
      exact ⟨cs :: parts, by rw [writeItems, hcs, hparts]; rfl, .cons hlegible hall⟩

theorem writeEntries_legible (hstyle : style.Standard) {depth : Nat} :
    ∀ {entries : List (String × Value)},
    (∀ e ∈ entries, ∃ cs, write style depth e.2 = .ok cs ∧ Legible cs e.2) →
    ∃ parts, writeEntries style depth (entries.map fun e => (.str e.1, e.2)) = .ok parts ∧
      List.Forall₂ LegibleEntry parts (entries.map fun e => (.str e.1, e.2)) := by
  intro entries
  induction entries with
  | nil => exact fun _ => ⟨[], rfl, .nil⟩
  | cons e entries ih =>
      intro h
      obtain ⟨⟨cs, hcs, hlegible⟩, hrest⟩ := List.forall_mem_cons.1 h
      obtain ⟨parts, hparts, hall⟩ := ih hrest
      obtain ⟨gap, hkey, hgap⟩ := hstyle.key
      refine ⟨(writeString e.1.toList ++ style.keyGap ++ cs) :: parts, ?_, .cons ?_ hall⟩
      · rw [List.map_cons, writeEntries, writeKey, hcs, hparts]
        rfl
      · refine ⟨e.1, gap, cs, rfl, ?_, hgap, hlegible⟩
        rw [hkey, List.append_assoc]
        rfl

/-- Every exact value is written, and its text is read as the value. -/
theorem write_legible (hstyle : style.Standard) {v : Value} (h : v.IsExact) :
    ∀ depth, ∃ cs, write style depth v = .ok cs ∧ Legible cs v := by
  induction h with
  | null => exact fun depth => ⟨_, rfl, legible_null⟩
  | bool b => exact fun depth => ⟨_, rfl, legible_bool b⟩
  | int hlength =>
      intro depth
      have hwritten := Numeral.writeInt?_eq_some.2 ⟨hlength, rfl⟩
      exact ⟨_, by rw [write, writeInt, hwritten], legible_int hwritten⟩
  | str s => exact fun depth => ⟨_, rfl, legible_str s⟩
  | list _ ih =>
      intro depth
      obtain ⟨parts, hparts, hlegible⟩ := writeItems_legible fun v hv => ih v hv (depth + 1)
      exact ⟨_, by rw [write, hparts]; rfl, legible_list hstyle depth hlegible⟩
  | @mapping entries hkeys _ ih =>
      intro depth
      obtain ⟨parts, hparts, hlegible⟩ :=
        writeEntries_legible hstyle fun e he => ih e he (depth + 1)
      have hmapping := legible_mapping hstyle depth hlegible
      rw [ofEntries_nodup hkeys] at hmapping
      exact ⟨_, by rw [write, hparts]; rfl, hmapping⟩

theorem read_legible {cs : List Char} {v : Value} (h : Legible cs v) : read cs = .ok v := by
  refine read_of_readValue rfl ?_
  have hskip : skipGap cs = cs := @skipGap_append [] cs (by simp [Gap]) h.head.opens
  have hread := h.read (2 * cs.length + 2) [] (by omega) (by rintro _ ⟨⟩)
  rw [hskip]
  rwa [List.append_nil] at hread

/-- An exact value is read back from its text in any layout. -/
theorem text_read (hstyle : style.Standard) {v : Value} (h : v.IsExact) :
    ∃ s, text style v = .ok s ∧ read s.toList = .ok v := by
  obtain ⟨cs, hcs, hlegible⟩ := write_legible hstyle h 0
  refine ⟨String.ofList cs, by rw [text, hcs]; rfl, ?_⟩
  rw [String.toList_ofList]
  exact read_legible hlegible

end

end Json

end Stencil
