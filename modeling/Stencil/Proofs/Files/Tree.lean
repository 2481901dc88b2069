import Stencil.Files.Tree
import Stencil.Proofs.Chaining
import Stencil.Proofs.Entries
import Stencil.Proofs.Files.Path
import Stencil.Proofs.Text.Utf8

/-!
# What a file tree holds

In a tree without links every place is listed once, under the names that lead to
it. Then looking a place up, listing what is below a directory and following a
written path all speak of the same places: a written path is followed exactly if
every directory that it leads through is there, also one that it leads out of
again, and then it ends where its names alone lead.
-/

namespace Stencil

namespace Path

/-- Where the paths of a tree are read from: the top of all directories if the
path of the working directory is known, else the working directory. -/
def origin (here : Path) : Path := here.take 1

/-- The path of a working directory, empty where it is not known. -/
def IsHere (here : Path) : Prop := here = [] ∨ ∃ names, here = top :: names ∧ ∀ name ∈ names, IsName name

theorem origin_prefix {here : Path} (h : IsHere here) (path : String) :
    ∃ rest, resolve here path = origin here ++ rest := by
  rcases h with rfl | ⟨names, rfl, _⟩
  · exact ⟨_, rfl⟩
  · exact resolve_top names path

end Path

namespace FileTree

open Stencil.Text

variable {t : FileTree} {here base p : Path} {path : String}

/-- A tree without links: no place is listed twice, and every place is listed
under the names that lead to it. -/
structure Sound (t : FileTree) (here : Path) : Prop where
  places : (t.entries.map (·.1)).Nodup
  named : ∀ e ∈ t.entries, ∃ names, e.1 = Path.origin here ++ names ∧
    ∀ name ∈ names, Path.IsName name

/-! ## Places -/

theorem file?_eq_some (ht : t.Sound here) {bs : Bytes} :
    t.file? p = some bs ↔ (p, some bs) ∈ t.entries := by
  rw [file?, Option.bind_eq_some_iff]
  constructor
  · rintro ⟨content, hlookup, rfl⟩
    exact lookup_mem hlookup
  · exact fun h => ⟨some bs, (lookup_eq_some ht.places).2 h, rfl⟩

/-- The names behind a base that lead to a place of the tree. -/
theorem Sound.names (ht : t.Sound here) (hbase : ∃ rest, base = Path.origin here ++ rest)
    {content : Option Bytes} (h : (base ++ p, content) ∈ t.entries) :
    ∀ name ∈ p, Path.IsName name := by
  obtain ⟨rest, rfl⟩ := hbase
  obtain ⟨names, hnames, hall⟩ := ht.named _ h
  rw [List.append_assoc] at hnames
  intro name hname
  refine hall name ?_
  rw [← List.append_cancel_left hnames]
  exact List.mem_append_right _ hname

/-- An entry is told below a base if it is a file strictly below it. -/
theorem filesBelow_entry {e : Path × Option Bytes} :
    (if e.2.isSome && e.1.isBelow base then some (e.1.drop base.length) else none) = some p ↔
      p ≠ [] ∧ ∃ bs, e = (base ++ p, some bs) := by
  obtain ⟨place, content⟩ := e
  rw [Option.ite_none_right_eq_some, Bool.and_eq_true, Path.isBelow_iff, Option.isSome_iff_exists]
  constructor
  · rintro ⟨⟨⟨bs, rfl⟩, rest, hrest, rfl⟩, hdrop⟩
    rw [List.drop_left] at hdrop
    cases hdrop
    exact ⟨hrest, bs, rfl⟩
  · rintro ⟨hp, bs, h⟩
    cases h
    exact ⟨⟨⟨bs, rfl⟩, p, hp, rfl⟩, by rw [List.drop_left]⟩

theorem mem_filesBelow : p ∈ t.filesBelow base ↔
    p ≠ [] ∧ ∃ bs, (base ++ p, some bs) ∈ t.entries := by
  rw [filesBelow, List.mem_filterMap]
  constructor
  · rintro ⟨e, hmem, hsome⟩
    obtain ⟨hp, bs, rfl⟩ := filesBelow_entry.1 hsome
    exact ⟨hp, bs, hmem⟩
  · rintro ⟨hp, bs, hmem⟩
    exact ⟨_, hmem, filesBelow_entry.2 ⟨hp, bs, rfl⟩⟩

theorem filesBelow_nodup (ht : t.Sound here) (base : Path) : (t.filesBelow base).Nodup := by
  have hplaces : t.entries.Pairwise fun e e' => e.1 ≠ e'.1 := List.pairwise_map.1 ht.places
  refine List.Pairwise.filterMap _ (fun e e' hne p hp p' hp' => ?_) hplaces
  rintro rfl
  obtain ⟨_, bs, rfl⟩ := filesBelow_entry.1 hp
  obtain ⟨_, bs', rfl⟩ := filesBelow_entry.1 hp'
  exact hne rfl

/-! ## Texts of files -/

theorem withLineFeeds_plain {cs : List Char} (h : '\r' ∉ cs) : withLineFeeds cs = cs := by
  induction cs with
  | nil => rfl
  | cons c cs ih =>
      rw [List.mem_cons, not_or] at h
      have hc : c ≠ '\r' := Ne.symm h.1
      rw [withLineFeeds, ih h.2]
      · exact fun _ hreturn => absurd hreturn hc
      · exact hc

/-- A file that a text without carriage returns was written to has that text. -/
theorem textOf_utf8 {cs : List Char} (h : '\r' ∉ cs) : textOf (utf8 cs) = .ok cs := by
  rw [textOf, decode?_utf8]
  exact congrArg _ (withLineFeeds_plain h)

/-! ## Following a path -/

/-- Every directory that some names lead through from a place is there. -/
def Passable (t : FileTree) (here : Path) (names : List String) : Prop :=
  ∀ front name back, names = front ++ name :: back →
    t.isDirectory (front.foldl Path.step here) = true

/-- Every directory that a path written in `here` leads through is there. -/
def Leads (t : FileTree) (here : Path) (path : String) : Prop :=
  t.Passable (Path.start here path) (Path.names path)

/-- The first place on the way of some names that is no directory. -/
def StopsAt (t : FileTree) (here : Path) (names : List String) (p : Path) : Prop :=
  ∃ front name back, names = front ++ name :: back ∧ t.Passable here front ∧
    p = front.foldl Path.step here ∧ t.isDirectory p = false

/-- The first place that a path written in `here` leads through that is no
directory. -/
def BlockedAt (t : FileTree) (here : Path) (path : String) (p : Path) : Prop :=
  t.StopsAt (Path.start here path) (Path.names path) p

theorem passable_nil : t.Passable here [] := by
  intro front name back h
  cases front <;> cases h

theorem passable_cons {name : String} {names : List String} :
    t.Passable here (name :: names) ↔
      t.isDirectory here = true ∧ t.Passable (here.step name) names := by
  constructor
  · exact fun h => ⟨h [] name names rfl,
      fun front n back hsplit => h (name :: front) n back (by rw [hsplit]; rfl)⟩
  · rintro ⟨hhere, hrest⟩ front n back hsplit
    cases front with
    | nil => exact hhere
    | cons m front =>
        cases hsplit
        exact hrest front n back rfl

theorem stopsAt_cons {name : String} {names : List String} (hhere : t.isDirectory here = true) :
    t.StopsAt here (name :: names) p ↔ t.StopsAt (here.step name) names p := by
  constructor
  · rintro ⟨front, n, back, hsplit, hfront, rfl, hstop⟩
    cases front with
    | nil =>
        rw [List.foldl_nil, hhere] at hstop
        cases hstop
    | cons m front =>
        cases hsplit
        exact ⟨front, n, back, rfl, (passable_cons.1 hfront).2, rfl, hstop⟩
  · rintro ⟨front, n, back, rfl, hfront, hp, hstop⟩
    exact ⟨name :: front, n, back, rfl, passable_cons.2 ⟨hhere, hfront⟩, hp, hstop⟩

theorem walkFrom_eq_ok {names : List String} : ∀ {here : Path}, t.walkFrom here names = .ok p ↔
    t.Passable here names ∧ p = names.foldl Path.step here := by
  induction names with
  | nil =>
      intro here
      rw [walkFrom, List.foldl_nil, Except.ok.injEq]
      exact ⟨fun h => ⟨passable_nil, h.symm⟩, fun h => h.2.symm⟩
  | cons name names ih =>
      intro here
      rw [walkFrom, passable_cons]
      by_cases hhere : t.isDirectory here = true
      · rw [if_pos hhere, ih, List.foldl_cons]
        simp only [hhere, true_and]
      · rw [if_neg hhere]
        simp [hhere]

theorem walkFrom_eq_error {names : List String} {f : Failure} : ∀ {here : Path},
    t.walkFrom here names = .error f ↔ ∃ p, t.StopsAt here names p ∧ f = t.blocked p := by
  induction names with
  | nil =>
      intro here
      refine ⟨fun h => (by cases h), ?_⟩
      rintro ⟨p, ⟨front, name, back, hsplit, _⟩, _⟩
      cases front <;> cases hsplit
  | cons name names ih =>
      intro here
      rw [walkFrom]
      by_cases hhere : t.isDirectory here = true
      · rw [if_pos hhere, ih]
        simp only [stopsAt_cons hhere]
      · have hstop : t.isDirectory here = false := Bool.eq_false_iff.2 hhere
        rw [if_neg hhere]
        constructor
        · rintro h
          cases h
          exact ⟨here, ⟨[], name, names, rfl, passable_nil, rfl, hstop⟩, rfl⟩
        · rintro ⟨p, ⟨front, n, back, hsplit, hfront, rfl, _⟩, rfl⟩
          cases front with
          | nil => rfl
          | cons m front =>
              rw [(passable_cons.1 hfront).1] at hstop
              cases hstop

theorem walkIn_eq_ok : t.walkIn here path = .ok p ↔ t.Leads here path ∧ p = Path.resolve here path :=
  walkFrom_eq_ok

theorem walkIn_eq_error {f : Failure} : t.walkIn here path = .error f ↔
    ∃ p, t.BlockedAt here path p ∧ f = t.blocked p := walkFrom_eq_error

/-! ## Writing -/

/-- A file is written unless its path leads nowhere or to a directory. -/
theorem write_eq_error {cs : List Char} {f : Failure} : t.write path cs = .error f ↔
    Path.isImpossible path = true ∧ f = .badValue ∨
    Path.isImpossible path = false ∧
      ((∃ p, t.BlockedAt [] path p ∧ f = t.blocked p) ∨
        t.Leads [] path ∧ t.isDirectory (Path.resolve [] path) = true ∧ f = .isDirectory) := by
  rw [write]
  cases hpath : Path.isImpossible path with
  | true =>
      simp only [if_true, Except.error.injEq, true_and, Bool.true_eq_false, false_and, or_false]
      exact eq_comm
  | false =>
      simp only [Bool.false_eq_true, if_false, false_and, false_or, true_and]
      rw [bind_eq_error, walk, walkIn_eq_error]
      refine or_congr Iff.rfl ⟨?_, ?_⟩
      · rintro ⟨p, hwalk, h⟩
        obtain ⟨hleads, rfl⟩ := walkIn_eq_ok.1 hwalk
        split at h
        · next hdirectory =>
            cases h
            exact ⟨hleads, hdirectory, rfl⟩
        · cases h
      · rintro ⟨hleads, hdirectory, rfl⟩
        exact ⟨_, walkIn_eq_ok.2 ⟨hleads, rfl⟩, if_pos hdirectory⟩

end FileTree

end Stencil
