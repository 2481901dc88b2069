import Stencil.Proofs.Chaining
import Stencil.Yaml.Meaning

/-!
# How reading a document fails

A text that is no YAML is told by its form: by the tokens it is cut into, by
the parts these make up, or by what a tag does not allow. A code point past
the last character is refused as a value already while tokens are read, and so
are later on numbers, dates and bytes that stand for nothing. That is what the
reader itself says; but the texts of some tags are looked into before they are
known to be of the right form, so a truth value that is none is asked for as a
missing key, an empty number as a missing item, and a date that is none for a
missing part.
-/

namespace Stencil.Yaml

/-- The failures of tokens and parts. -/
def FormFault (f : Failure) : Prop := f = .notYaml ∨ f = .badValue

theorem failsOnly_notYaml {α : Type} : FailsOnly FormFault (.error .notYaml : Except Failure α) :=
  .error (.inl rfl)

theorem Cursor.finishLine_fails (c : Cursor) : FailsOnly FormFault c.finishLine := by
  unfold finishLine
  dsimp only
  split
  · exact .ok _
  · split
    · exact .ok _
    · exact failsOnly_notYaml

/-! ## Texts -/

namespace Quoted

theorem codePoint_fails (count : Nat) (c : Cursor) : FailsOnly FormFault (codePoint count c) := by
  have hchar : ∀ n, FailsOnly FormFault (charOf n) := by
    intro n
    unfold charOf
    split
    · exact .error (.inr rfl)
    · split <;> exact .ok _
  unfold codePoint
  dsimp only
  split
  · exact (hchar _).bind fun d _ => .ok _
  · exact failsOnly_notYaml

theorem breaks_fails : ∀ (fuel : Nat) (c : Cursor), FailsOnly FormFault (breaks fuel c) := by
  intro fuel
  induction fuel with
  | zero => exact fun c => .ok _
  | succ fuel ih =>
      intro c
      rw [breaks]
      split
      · exact failsOnly_notYaml
      · dsimp only
        split
        · exact (ih _).bind fun _ _ => .ok _
        · exact .ok _

theorem word_fails (double : Bool) : ∀ (fuel : Nat) (c : Cursor),
    FailsOnly FormFault (word double fuel c) := by
  intro fuel
  induction fuel with
  | zero => exact fun c => .ok _
  | succ fuel ih =>
      intro c
      rw [word]
      dsimp only
      repeat' split
      all_goals first
        | exact (ih _).bind fun _ _ => .ok _
        | exact failsOnly_notYaml
        | exact .ok _
        | exact (codePoint_fails _ _).bind fun _ _ => (ih _).bind fun _ _ => .ok _
        | exact (breaks_fails _ _).bind fun _ _ => (ih _).bind fun _ _ => .ok _

theorem gap_fails (c : Cursor) : FailsOnly FormFault (gap c) := by
  unfold gap
  dsimp only
  split
  · exact failsOnly_notYaml
  · split
    · exact (breaks_fails _ _).bind fun _ _ => .ok _
    · exact .ok _

theorem inside_fails (double : Bool) : ∀ (fuel : Nat) (c : Cursor),
    FailsOnly FormFault (inside double fuel c) := by
  intro fuel
  induction fuel with
  | zero => exact fun c => failsOnly_notYaml
  | succ fuel ih =>
      intro c
      rw [inside]
      refine (word_fails double _ c).bind fun _ _ => .ite (.ok _) ?_
      exact (gap_fails _).bind fun _ _ => (ih _).bind fun _ _ => .ok _

theorem read_fails (c : Cursor) : FailsOnly FormFault (read c) := inside_fails _ _ _

end Quoted

namespace Block

theorem digit?_fails (c : Char) : FailsOnly FormFault (digit? c) := by
  rw [digit?]
  split
  · split
    · exact failsOnly_notYaml
    · exact .ok _
  · exact .ok _

theorem header_fails (c : Cursor) : FailsOnly FormFault (header c) := by
  have hend : ∀ (chomping : Chomping) (width : Option Nat) (c : Cursor), FailsOnly FormFault
      (if isSpaceOrEnd c.head then do .ok (chomping, width, ← c.finishLine)
        else .error .notYaml : Except Failure (Chomping × Option Nat × Cursor)) :=
    fun _ _ c => .ite ((Cursor.finishLine_fails c).bind fun _ _ => .ok _) failsOnly_notYaml
  unfold header
  simp only [ok_bind]
  split
  · refine (digit?_fails _).bind fun width _ => ?_
    cases width <;> exact hend _ _ _
  · refine (digit?_fails _).bind fun width _ => ?_
    cases width with
    | none => exact hend _ _ _
    | some n =>
        dsimp only
        split <;> exact hend _ _ _

theorem read_fails (outer : Int) (c : Cursor) : FailsOnly FormFault (read outer c) :=
  (header_fails c.next).bind fun _ _ => .ok _

end Block

/-! ## Directives, tags and anchors -/

namespace Property

theorem escapes_fails : ∀ (fuel : Nat) (c : Cursor), FailsOnly FormFault (escapes fuel c) := by
  intro fuel
  induction fuel with
  | zero => exact fun c => .ok _
  | succ fuel ih =>
      intro c
      rw [escapes]
      refine .ite ?_ (.ok _)
      split
      · exact (ih _).bind fun _ _ => .ok _
      · exact failsOnly_notYaml

theorem tagChars_fails : ∀ (fuel : Nat) (c : Cursor), FailsOnly FormFault (tagChars fuel c) := by
  intro fuel
  induction fuel with
  | zero => exact fun c => .ok _
  | succ fuel ih =>
      intro c
      rw [tagChars]
      refine .ite ((escapes_fails _ _).bind fun _ _ => ?_) (.ok _)
      dsimp only
      split
      · exact failsOnly_notYaml
      · exact (ih _).bind fun _ _ => .ok _

theorem tagText_fails (c : Cursor) : FailsOnly FormFault (tagText c) :=
  (tagChars_fails _ _).bind fun _ _ => .ite failsOnly_notYaml (.ok _)

theorem handle_fails (c : Cursor) : FailsOnly FormFault (handle c) :=
  .ite failsOnly_notYaml (.ite (.ok _) (.ite (.ok _) failsOnly_notYaml))

theorem tag_fails (c : Cursor) : FailsOnly FormFault (tag c) := by
  have hend : ∀ (t : Token) (c : Cursor), FailsOnly FormFault
      (if isSpaceOrEnd c.head then .ok (t, c) else .error .notYaml :
        Except Failure (Token × Cursor)) := fun _ _ => .ite (.ok _) failsOnly_notYaml
  unfold tag
  simp only [ok_bind, error_bind]
  refine .ite ?_ (.ite (hend _ _) (.ite ?_ ?_))
  · exact (tagText_fails _).bind fun _ _ => .ite (hend _ _) failsOnly_notYaml
  · exact (handle_fails c).bind fun _ _ => (tagText_fails _).bind fun _ _ => hend _ _
  · exact (tagText_fails _).bind fun _ _ => hend _ _

theorem anchorName_fails (c : Cursor) : FailsOnly FormFault (anchorName c) :=
  .ite failsOnly_notYaml (.ok _)

theorem number_fails (c : Cursor) : FailsOnly FormFault (number c) :=
  .ite failsOnly_notYaml (.ok _)

theorem version_fails (c : Cursor) : FailsOnly FormFault (version c) :=
  (number_fails _).bind fun _ _ => .ite failsOnly_notYaml
    ((number_fails _).bind fun _ _ => .ite (.ok _) failsOnly_notYaml)

theorem tagPrefix_fails (c : Cursor) : FailsOnly FormFault (tagPrefix c) :=
  (handle_fails _).bind fun _ _ => .ite failsOnly_notYaml
    ((tagText_fails _).bind fun _ _ => .ite (.ok _) failsOnly_notYaml)

theorem directive_fails (c : Cursor) : FailsOnly FormFault (directive c) := by
  have hend : ∀ (t : Token) (c : Cursor), FailsOnly FormFault (do .ok (t, ← c.finishLine)) :=
    fun _ c => (Cursor.finishLine_fails c).bind fun _ _ => .ok _
  unfold directive
  simp only [ok_bind]
  refine .ite failsOnly_notYaml (.ite ?_ (.ite ?_ (hend _ _)))
  · exact (version_fails _).bind fun _ _ => hend _ _
  · exact (tagPrefix_fails _).bind fun _ _ => hend _ _

end Property

/-! ## Tokens -/

namespace Scan

theorem dropStale_fails (s : Scan) : FailsOnly FormFault s.dropStale :=
  .ite failsOnly_notYaml (.ok _)

theorem dropKey_fails (s : Scan) : FailsOnly FormFault s.dropKey := by
  rw [dropKey]
  split
  · exact .ite failsOnly_notYaml (.ok _)
  · exact .ok _

/-- A token in front of which the possible key on its level is dropped. -/
theorem dropKeyThen_fails (s : Scan) (f : Scan → Scan) :
    FailsOnly FormFault (do let s ← s.dropKey; .ok (f s)) :=
  (dropKey_fails s).bind fun _ _ => .ok _

theorem saveKey_fails (s : Scan) : FailsOnly FormFault s.saveKey :=
  .ite (dropKeyThen_fails s _) (.ok _)

theorem openFlow_fails (t : Token) (s : Scan) : FailsOnly FormFault (s.openFlow t) :=
  (saveKey_fails s).bind fun _ _ => .ok _

theorem closeFlow_fails (t : Token) (s : Scan) : FailsOnly FormFault (s.closeFlow t) :=
  (dropKey_fails s).bind fun _ _ => .ite failsOnly_notYaml (.ok _)

theorem directive_fails (s : Scan) : FailsOnly FormFault s.directive :=
  (dropKey_fails _).bind fun s _ => (Property.directive_fails s.cursor).bind fun _ _ => .ok _

theorem blockEntry_fails (s : Scan) : FailsOnly FormFault s.blockEntry := by
  unfold blockEntry
  simp only [ok_bind, error_bind]
  exact .ite (.ite (dropKeyThen_fails _ _) failsOnly_notYaml) (dropKeyThen_fails _ _)

theorem key_fails (s : Scan) : FailsOnly FormFault s.key := by
  unfold key
  simp only [ok_bind, error_bind]
  exact .ite (.ite (dropKeyThen_fails _ _) failsOnly_notYaml) (dropKeyThen_fails _ _)

theorem value_fails (s : Scan) : FailsOnly FormFault s.value := by
  unfold value
  split
  · exact .ok _
  · simp only [ok_bind, error_bind]
    exact .ite (.ite (dropKeyThen_fails _ _) failsOnly_notYaml) (dropKeyThen_fails _ _)

theorem possibleKey_fails {read : Cursor → Except Failure (Token × Cursor)}
    (hread : ∀ c, FailsOnly FormFault (read c)) (s : Scan) :
    FailsOnly FormFault (s.possibleKey read) :=
  (saveKey_fails s).bind fun s _ => (hread s.cursor).bind fun _ _ => .ok _

theorem named_fails (t : String → Token) (c : Cursor) : FailsOnly FormFault (named t c) :=
  (Property.anchorName_fails c).bind fun _ _ => .ok _

theorem quoted_fails (c : Cursor) : FailsOnly FormFault (quoted c) :=
  (Quoted.read_fails c).bind fun _ _ => .ok _

theorem blockText_fails (s : Scan) : FailsOnly FormFault s.blockText :=
  (dropKey_fails _).bind fun s _ => (Block.read_fails s.indent s.cursor).bind fun _ _ => .ok _

theorem plainText_fails (s : Scan) : FailsOnly FormFault s.plainText :=
  (saveKey_fails s).bind fun _ _ => .ok _

theorem token_fails (s : Scan) : FailsOnly FormFault s.token := by
  unfold token
  dsimp only
  refine .ite (dropKeyThen_fails _ _) ?_
  refine .ite (directive_fails s) ?_
  refine .ite (dropKeyThen_fails _ _) (.ite (dropKeyThen_fails _ _) ?_)
  refine .ite (openFlow_fails _ s) (.ite (openFlow_fails _ s) ?_)
  refine .ite (closeFlow_fails _ s) (.ite (closeFlow_fails _ s) ?_)
  refine .ite (dropKeyThen_fails _ _) ?_
  refine .ite (blockEntry_fails s) (.ite (key_fails s) (.ite (value_fails s) ?_))
  refine .ite (possibleKey_fails (named_fails _) s) ?_
  refine .ite (possibleKey_fails (named_fails _) s) ?_
  refine .ite (possibleKey_fails Property.tag_fails s) ?_
  refine .ite (blockText_fails s) (.ite (possibleKey_fails quoted_fails s) ?_)
  exact .ite (plainText_fails s) failsOnly_notYaml

theorem step_fails (s : Scan) : FailsOnly FormFault s.step :=
  (dropStale_fails _).bind fun _ _ => token_fails _

theorem run_fails : ∀ (fuel : Nat) (s : Scan), FailsOnly FormFault (run fuel s) := by
  intro fuel
  induction fuel with
  | zero => exact fun s => failsOnly_notYaml
  | succ fuel ih =>
      intro s
      rw [run]
      exact .ite (.ok _) ((step_fails s).bind fun s _ => ih s)

end Scan

theorem tokens_fails (cs : List Char) : FailsOnly FormFault (tokens cs) :=
  .ite ((Scan.run_fails _ _).map _) failsOnly_notYaml

/-! ## Parts -/

namespace Node

theorem expect_fails (t : Token) (r : Reading) : FailsOnly FormFault (r.expect t) :=
  .ite (.ok _) failsOnly_notYaml

theorem announce_fails (name : Option String) (r : Reading) :
    FailsOnly FormFault (r.announce name) := by
  unfold Reading.announce
  split
  · exact .ok _
  · exact .ite failsOnly_notYaml (.ok _)

theorem fullTag_fails (handles : List (String × String)) (tag : Option (Option String × String)) :
    FailsOnly FormFault (fullTag handles tag) := by
  unfold fullTag
  split
  · exact .ok _
  · exact .ok _
  · split
    · exact .ok _
    · exact failsOnly_notYaml

theorem missing_fails (tag : Option String) (mayBeMissing : Bool) (r : Reading) :
    FailsOnly FormFault (missing tag mayBeMissing r) := .ite (.ok _) failsOnly_notYaml

/-- How the readers of parts fail, all with the same fuel. -/
structure ReadersFail (fuel : Nat) : Prop where
  read : ∀ block indentless r, FailsOnly FormFault (Node.read block indentless fuel r)
  content : ∀ block indentless tag mayBeMissing r,
    FailsOnly FormFault (Node.content block indentless tag mayBeMissing fuel r)
  readUnless : ∀ ends block indentless r,
    FailsOnly FormFault (Node.readUnless ends block indentless fuel r)
  blockItems : ∀ r, FailsOnly FormFault (Node.blockItems fuel r)
  indentlessItems : ∀ r, FailsOnly FormFault (Node.indentlessItems fuel r)
  blockValue : ∀ r, FailsOnly FormFault (Node.blockValue fuel r)
  blockEntries : ∀ r, FailsOnly FormFault (Node.blockEntries fuel r)
  flowValue : ∀ close r, FailsOnly FormFault (Node.flowValue close fuel r)
  flowItems : ∀ isFirst r, FailsOnly FormFault (Node.flowItems isFirst fuel r)
  flowEntries : ∀ isFirst r, FailsOnly FormFault (Node.flowEntries isFirst fuel r)

theorem ReadersFail.zero : ReadersFail 0 := by
  constructor <;> intros <;> exact failsOnly_notYaml

theorem ReadersFail.succ {fuel : Nat} (h : ReadersFail fuel) : ReadersFail (fuel + 1) where
  read block indentless r := by
    unfold Node.read
    dsimp only
    split
    · split
      · exact .ok _
      · exact failsOnly_notYaml
    · refine (fullTag_fails _ _).bind fun tag _ => (announce_fails _ _).bind fun r _ => ?_
      exact (h.content _ _ _ _ r).bind fun _ _ => .ok _
  content block indentless tag mayBeMissing r := by
    unfold Node.content
    dsimp only
    refine .ite ((h.indentlessItems _).map _) ?_
    split
    · exact .ok _
    · exact (h.flowItems _ _).map _
    · exact (h.flowEntries _ _).map _
    · exact .ite ((h.blockItems _).map _) (missing_fails _ _ _)
    · exact .ite ((h.blockEntries _).map _) (missing_fails _ _ _)
    · exact missing_fails _ _ _
  readUnless ends block indentless r := by
    rw [Node.readUnless]
    exact .ite (.ok _) (h.read _ _ _)
  blockItems r := by
    rw [Node.blockItems]
    refine .ite ?_ ((expect_fails _ _).bind fun _ _ => .ok _)
    exact (h.readUnless _ _ _ _).bind fun _ _ => (h.blockItems _).bind fun _ _ => .ok _
  indentlessItems r := by
    rw [Node.indentlessItems]
    refine .ite ?_ (.ok _)
    exact (h.readUnless _ _ _ _).bind fun _ _ =>
      (h.indentlessItems _).bind fun _ _ => .ok _
  blockValue r := by
    rw [Node.blockValue]
    exact .ite (h.readUnless _ _ _ _) (.ok _)
  blockEntries r := by
    rw [Node.blockEntries]
    refine .ite ?_ ((expect_fails _ _).bind fun _ _ => .ok _)
    exact (h.readUnless _ _ _ _).bind fun _ _ => (h.blockValue _).bind fun _ _ =>
      (h.blockEntries _).bind fun _ _ => .ok _
  flowValue close r := by
    rw [Node.flowValue]
    exact .ite (h.readUnless _ _ _ _) (.ok _)
  flowItems isFirst r := by
    rw [Node.flowItems]
    simp only [ok_bind]
    refine .ite (.ok _) (.ite ?_ ((expect_fails _ _).bind fun _ _ => ?_))
    all_goals
      refine .ite (.ok _) (.ite ?_ ?_)
      · exact (h.readUnless _ _ _ _).bind fun _ _ => (h.flowValue _ _).bind fun _ _ =>
          (h.flowItems _ _).bind fun _ _ => .ok _
      · exact (h.read _ _ _).bind fun _ _ => (h.flowItems _ _).bind fun _ _ => .ok _
  flowEntries isFirst r := by
    rw [Node.flowEntries]
    simp only [ok_bind]
    refine .ite (.ok _) (.ite ?_ ((expect_fails _ _).bind fun _ _ => ?_))
    all_goals
      refine .ite (.ok _) (.ite ?_ ?_)
      · exact (h.readUnless _ _ _ _).bind fun _ _ =>
          .ite ((h.flowValue _ _).bind fun _ _ => (h.flowEntries _ _).bind fun _ _ => .ok _)
            ((h.flowEntries _ _).bind fun _ _ => .ok _)
      · exact (h.read _ _ _).bind fun _ _ =>
          .ite ((h.flowValue _ _).bind fun _ _ => (h.flowEntries _ _).bind fun _ _ => .ok _)
            ((h.flowEntries _ _).bind fun _ _ => .ok _)

theorem readersFail : ∀ fuel, ReadersFail fuel
  | 0 => .zero
  | fuel + 1 => (readersFail fuel).succ

theorem directives_fails : ∀ (ts : List Token) (hasVersion : Bool) (handles : List (String × String)),
    FailsOnly FormFault (directives ts hasVersion handles) := by
  intro ts
  induction ts with
  | nil => exact fun _ _ => .ok _
  | cons t ts ih =>
      intro hasVersion handles
      unfold directives
      split
      · next heq =>
          cases heq
          exact .ite failsOnly_notYaml (ih _ _)
      · next heq =>
          cases heq
          exact .ite failsOnly_notYaml (ih _ _)
      · next heq =>
          cases heq
          exact ih _ _
      · exact .ok _

theorem ofTokens?_fails (ts : List Token) : FailsOnly FormFault (ofTokens? ts) := by
  unfold ofTokens?
  simp only [ok_bind]
  refine .ite ?_ (.ite (.ite (.ok _) failsOnly_notYaml) ?_)
  · exact ((readersFail _).read _ _ _).bind fun _ _ => .ite (.ok _) failsOnly_notYaml
  · refine (directives_fails _ _ _).bind fun _ _ => (expect_fails _ _).bind fun r _ => ?_
    refine .ite (.ite (.ok _) failsOnly_notYaml) ?_
    exact ((readersFail _).read _ _ r).bind fun _ _ => .ite (.ok _) failsOnly_notYaml

end Node

/-! ## Values -/

/-- The failures of reading a document: those of its form, and what is missing
in the text of a tag. -/
def ReadFault (f : Failure) : Prop :=
  FormFault f ∨ f = .noAttribute ∨ f = .noKey ∨ f = .noIndex

namespace Meaning

theorem failsOnly_badValue {α : Type} : FailsOnly ReadFault (.error .badValue : Except Failure α) :=
  .error (.inl (.inr rfl))

theorem failsOnly_noIndex {α : Type} : FailsOnly ReadFault (.error .noIndex : Except Failure α) :=
  .error (.inr (.inr (.inr rfl)))

theorem failsOnly_form {α : Type} {x : Except Failure α} (h : FailsOnly FormFault x) :
    FailsOnly ReadFault x := h.imp fun _ => .inl

theorem signed_fails (cs : List Char) : FailsOnly ReadFault (signed cs) := by
  cases cs with
  | nil => exact failsOnly_noIndex
  | cons c cs => exact .ok _

theorem inBase_fails (base : Nat) (cs : List Char) : FailsOnly ReadFault (inBase base cs) := by
  unfold inBase
  exact .ite (.ok _) failsOnly_badValue

theorem decimal_fails (cs : List Char) : FailsOnly ReadFault (decimal cs) := by
  rw [decimal]
  split
  · exact .ok _
  · exact failsOnly_badValue

theorem int_fails (cs : List Char) : FailsOnly ReadFault (int cs) := by
  unfold int
  refine (signed_fails _).bind fun _ _ => ?_
  dsimp only
  split
  · exact .ok _
  · exact (inBase_fails _ _).bind fun _ _ => .ok _
  · exact (inBase_fails _ _).bind fun _ _ => .ok _
  · exact (inBase_fails _ _).bind fun _ _ => .ok _
  · exact failsOnly_noIndex
  · refine .ite ?_ ((decimal_fails _).bind fun _ _ => .ok _)
    exact (FailsOnly.mapM fun _ _ => decimal_fails _).bind fun _ _ => .ok _

theorem float_fails (cs : List Char) : FailsOnly ReadFault (float cs) := by
  unfold float
  refine (signed_fails _).bind fun _ _ => .ite (.ok _) (.ite (.ok _) (.ite ?_ ?_))
  · refine FailsOnly.bind (.mapM fun _ _ => ?_) fun _ _ => .ok _
    split
    · exact .ok _
    · exact failsOnly_badValue
  · refine FailsOnly.bind ?_ fun _ _ => .ok _
    dsimp only
    split
    · exact .ok _
    · exact failsOnly_badValue

theorem bool_fails (s : String) : FailsOnly ReadFault (bool s) := by
  rw [bool]
  split
  · exact .ok _
  · exact .error (.inr (.inr (.inl rfl)))

theorem binary_fails (cs : List Char) : FailsOnly ReadFault (binary cs) := by
  refine .ite ?_ (failsOnly_form failsOnly_notYaml)
  split
  · exact .ok _
  · exact failsOnly_form failsOnly_notYaml

theorem timestamp_fails (cs : List Char) : FailsOnly ReadFault (timestamp cs) := by
  have hzone : ∀ zone, FailsOnly ReadFault (Timestamp.zoneOf zone) := by
    intro zone
    unfold Timestamp.zoneOf
    split
    · exact .ok _
    · exact .ok _
    · exact .ite failsOnly_badValue (.ite (.ok _) (.ok _))
  have hvalue : ∀ p, FailsOnly ReadFault (Timestamp.valueOf p) := by
    intro p
    unfold Timestamp.valueOf
    dsimp only
    split
    · split
      · exact .ok _
      · exact failsOnly_badValue
    · refine (hzone _).bind fun zone _ => ?_
      split
      · exact .ok _
      · exact failsOnly_badValue
  rw [timestamp]
  split
  · exact .error (.inr (.inl rfl))
  · refine (hvalue _).bind fun v _ => ?_
    split <;> exact .ok _

theorem scalar_fails (tag : Tag) (s : String) : FailsOnly ReadFault (scalar tag s) := by
  unfold scalar
  split
  · exact .ok _
  · exact (bool_fails s).map _
  · exact (int_fails _).map _
  · exact (float_fails _).map _
  · exact .ok _
  · exact (binary_fails _).map _
  · exact timestamp_fails _
  · exact failsOnly_form failsOnly_notYaml

/-! ## Mappings that take over others -/

mutual

theorem flatten_fails (n : Node) : FailsOnly ReadFault (flatten n) := by
  match n with
  | .scalar _ _ | .sequence _ _ => exact failsOnly_form failsOnly_notYaml
  | .mapping _ entries =>
      rw [flatten]
      exact (taken_fails entries).bind fun _ _ => .ok _

theorem taken_fails (entries : List (Node × Node)) : FailsOnly ReadFault (taken entries) := by
  match entries with
  | [] => rw [taken]; exact .ok _
  | (k, v) :: rest =>
      unfold taken
      simp only [ok_bind]
      refine .ite ?_ ((taken_fails rest).bind fun _ _ => .ok _)
      match v with
      | .sequence _ items =>
          exact (flattenAll_fails items).bind fun _ _ => (taken_fails rest).bind fun _ _ => .ok _
      | .scalar _ _ | .mapping _ _ =>
          exact (flatten_fails _).bind fun _ _ => (taken_fails rest).bind fun _ _ => .ok _

theorem flattenAll_fails (ns : List Node) : FailsOnly ReadFault (flattenAll ns) := by
  match ns with
  | [] => rw [flattenAll]; exact .ok _
  | n :: ns =>
      rw [flattenAll]
      exact (flatten_fails n).bind fun _ _ => (flattenAll_fails ns).bind fun _ _ => .ok _

end

theorem ownText_fails : ∀ (fuel : Nat) (n : Node), FailsOnly ReadFault (ownText fuel n) := by
  intro fuel
  induction fuel with
  | zero => exact fun n => failsOnly_form failsOnly_notYaml
  | succ fuel ih =>
      intro n
      cases n with
      | scalar _ s => exact .ok _
      | sequence _ _ => exact failsOnly_form failsOnly_notYaml
      | mapping _ entries =>
          rw [ownText]
          split
          · exact ih _
          · exact failsOnly_form failsOnly_notYaml

/-! ## Values on their levels -/

/-- A mistake on some level is one of reading. -/
def LevelFault (e : Nat × Failure) : Prop := ReadFault e.2

theorem onLevel_fails {α : Type} {x : Except Failure α} (level : Nat) (h : FailsOnly ReadFault x) :
    FailsOnly LevelFault (onLevel level x) := by
  cases x with
  | error f => exact .error (h f rfl)
  | ok a => exact .ok a

theorem both_fails {α β : Type} {a : Outcome α} {b : Outcome β} (ha : FailsOnly LevelFault a)
    (hb : FailsOnly LevelFault b) : FailsOnly LevelFault (both a b) := by
  cases a with
  | ok x =>
      cases b with
      | ok y => exact .ok _
      | error e => exact .error (hb e rfl)
  | error e =>
      cases b with
      | ok y => exact .error (ha e rfl)
      | error e' =>
          refine .error ?_
          split
          · exact hb e' rfl
          · exact ha e rfl

/-- The outcomes of some parts together, in their order. -/
theorem foldr_fails {α β : Type} {f : α → Outcome β} (hf : ∀ a, FailsOnly LevelFault (f a))
    (as : List α) : FailsOnly LevelFault
      (as.foldr (fun a more => (both (f a) more).map fun r => r.1 :: r.2) (.ok [])) := by
  induction as with
  | nil => exact .ok _
  | cons a as ih => exact (both_fails (hf a) ih).map _

theorem value_fails : ∀ (fuel level : Nat) (n : Node), FailsOnly LevelFault (value fuel level n) := by
  intro fuel
  induction fuel with
  | zero => exact fun level n => .error (.inl (.inl rfl))
  | succ fuel ih =>
      intro level n
      have hnot : ∀ {α : Type}, FailsOnly LevelFault (.error (level + 1, .notYaml) : Outcome α) :=
        .error (.inl (.inl rfl))
      have hentry : ∀ e : Node × Node, FailsOnly LevelFault
          (both (if isCollection (tagOf e.1) then .error (level + 1, .notYaml)
            else value fuel (level + 1) e.1) (value fuel (level + 1) e.2)) :=
        fun e => both_fails (.ite hnot (ih _ e.1)) (ih _ e.2)
      have hflatten : FailsOnly LevelFault (onLevel (level + 1) (flatten n)) :=
        onLevel_fails _ (flatten_fails n)
      unfold value
      dsimp only
      split
      · exact (foldr_fails (ih _) _).map _
      · exact hflatten.bind fun es _ => (foldr_fails hentry es).map _
      · exact hflatten.bind fun es _ => (foldr_fails hentry es).map _
      case h_6 =>
        refine .ite hnot (onLevel_fails _ ?_)
        exact (ownText_fails _ _).bind fun s _ => scalar_fails _ s
      all_goals
        refine (foldr_fails (fun m => ?_) _).map _
        split
        · exact (both_fails (ih _ _) (ih _ _)).map _
        · exact hnot

end Meaning

theorem read_fails (cs : List Char) : FailsOnly ReadFault (read cs) := by
  refine (Meaning.failsOnly_form (tokens_fails cs)).bind fun ts _ => ?_
  refine (Meaning.failsOnly_form (Node.ofTokens?_fails ts)).bind fun n _ => ?_
  cases n with
  | none => exact .ok _
  | some n => exact (Meaning.value_fails _ _ n).mapError fun _ h => h

end Stencil.Yaml
