import Stencil.Files.Templates
import Stencil.Proofs.Files.Tree
import Stencil.Proofs.Text.Rising

/-!
# Loading and listing see the same files

A template is asked for by a written path, and what that means is settled by the
names in it alone: they are put behind those of the directory, and two points
take the last one away. `load_list` says that this is safe, since only a file
strictly below the directory is ever read, whatever the spelling; and that it
agrees with the listing, which goes through the file system: every listed path
loads, and whatever loads stands at a listed path.

Listing asks more of the directory's own spelling than loading does. The
directories that it leads through have to be there, also those that it leads
out of again, and otherwise nothing is listed (`list_unreached`).
-/

namespace Stencil.Templates

open Stencil.Text

variable {t : FileTree} {here p : Path} {directory name : String} {bs : Bytes}

/-- The place that the name of a template stands for: where the directory's
path with the name behind it leads, by the names in it alone. -/
def place (here : Path) (directory name : String) : Path :=
  Path.resolve here (Path.behind directory name)

/-- There is a regular file with these bytes at a place, strictly below the
template directory. -/
def Stored (t : FileTree) (here : Path) (directory : String) (p : Path) (bs : Bytes) : Prop :=
  t.file? p = some bs ∧ ∃ rest, rest ≠ [] ∧ p = Path.resolve here directory ++ rest

/-! ## Loading -/

theorem load_stored (hdirectory : Path.isImpossible directory = false)
    (hname : Path.isImpossible name = false)
    (h : Stored t here directory (place here directory name) bs) :
    loadIn t here directory name = (FileTree.textOf bs).map String.ofList := by
  obtain ⟨hfile, hbelow⟩ := h
  rw [place, Path.resolve_behind] at hfile hbelow
  rw [loadIn, hdirectory, hname, Bool.or_self, if_neg Bool.false_ne_true]
  simp only [hfile]
  rw [if_pos (Path.isBelow_iff.2 hbelow)]

theorem load_missing (hdirectory : Path.isImpossible directory = false)
    (hname : Path.isImpossible name = false)
    (h : ∀ bs, ¬ Stored t here directory (place here directory name) bs) :
    loadIn t here directory name = .error (.noTemplate name) := by
  rw [loadIn, hdirectory, hname, Bool.or_self, if_neg Bool.false_ne_true]
  dsimp only
  split
  · next bs hfile =>
      split
      · next hbelow =>
          rw [Path.isBelow_iff] at hbelow
          rw [← Path.resolve_behind] at hfile hbelow
          exact absurd ⟨hfile, hbelow⟩ (h bs)
      · rfl
  · rfl

theorem stored_of_load {text : String} (h : loadIn t here directory name = .ok text) :
    ∃ bs, Stored t here directory (place here directory name) bs := by
  by_contra hnone
  rw [not_exists] at hnone
  by_cases himpossible : (Path.isImpossible directory || Path.isImpossible name) = true
  · rw [loadIn, if_pos himpossible] at h
    cases h
  · obtain ⟨hdirectory, hname⟩ := Bool.or_eq_false_iff.1 (Bool.eq_false_iff.2 himpossible)
    rw [load_missing hdirectory hname hnone] at h
    cases h

/-! ## Listing -/

theorem list_reached (h : t.Leads here directory) :
    listIn t here directory = ((t.filesBelow (Path.resolve here directory)).map Path.toText).mergeSort
      fun a b => !(b < a) := by
  rw [listIn, FileTree.walkIn_eq_ok.2 ⟨h, rfl⟩]

theorem list_unreached (h : ¬ t.Leads here directory) : listIn t here directory = [] := by
  rw [listIn]
  split
  · rfl
  · next base hwalk => exact absurd (FileTree.walkIn_eq_ok.1 hwalk).1 h

theorem names_stored (ht : t.Sound here) (hhere : Path.IsHere here)
    (h : t.file? (Path.resolve here directory ++ p) = some bs) : ∀ name ∈ p, Path.IsName name :=
  ht.names (Path.origin_prefix hhere directory) ((FileTree.file?_eq_some ht).1 h)

theorem mem_list (ht : t.Sound here) (hreached : t.Leads here directory) {path : String} :
    path ∈ listIn t here directory ↔
      ∃ rest bs, Stored t here directory (Path.resolve here directory ++ rest) bs ∧
        path = Path.toText rest := by
  rw [list_reached hreached, List.mem_mergeSort, List.mem_map]
  constructor
  · rintro ⟨rest, hmem, rfl⟩
    obtain ⟨hrest, bs, hentry⟩ := FileTree.mem_filesBelow.1 hmem
    exact ⟨rest, bs, ⟨(FileTree.file?_eq_some ht).2 hentry, rest, hrest, rfl⟩, rfl⟩
  · rintro ⟨rest, bs, ⟨hfile, rest', hrest, happend⟩, rfl⟩
    rw [List.append_cancel_left happend]
    rw [List.append_cancel_left happend] at hfile
    exact ⟨rest', FileTree.mem_filesBelow.2 ⟨hrest, bs, (FileTree.file?_eq_some ht).1 hfile⟩, rfl⟩

theorem list_rising (ht : t.Sound here) (hhere : Path.IsHere here) (directory : String) :
    (listIn t here directory).Pairwise (· < ·) := by
  by_cases hreached : t.Leads here directory
  · rw [list_reached hreached]
    refine mergeSort_rising ((FileTree.filesBelow_nodup ht _).map_on fun p hp q hq heq => ?_)
    have hnames : ∀ r ∈ t.filesBelow (Path.resolve here directory), ∀ name ∈ r,
        Path.IsName name := fun r hr =>
      let ⟨_, _, hentry⟩ := FileTree.mem_filesBelow.1 hr
      ht.names (Path.origin_prefix hhere directory) hentry
    exact Path.toText_inj (hnames p hp) (hnames q hq) heq
  · rw [list_unreached hreached]
    exact List.Pairwise.nil

/-- What is listed leads to its file again, as the name of a template. -/
theorem place_listed (ht : t.Sound here) (hhere : Path.IsHere here) {path : String}
    (h : path ∈ listIn t here directory) :
    Path.isImpossible path = false ∧
      ∃ bs, Stored t here directory (place here directory path) bs := by
  by_cases hreached : t.Leads here directory
  · obtain ⟨rest, bs, hstored, rfl⟩ := (mem_list ht hreached).1 h
    have hnames := names_stored ht hhere hstored.1
    refine ⟨Path.isImpossible_toText hnames, bs, ?_⟩
    rw [place, Path.resolve_behind, Path.resolve_toText _ hnames]
    exact hstored
  · rw [list_unreached hreached] at h
    cases h

/-! ## Both -/

/-- For every tree without links, every working directory and every template
directory: a name that can be asked for gives the text of the file where the
directory's path with the name behind it leads, if that is a regular file
strictly below the directory, and else there is no such template. The listing
is in rising order without repetitions, and what is listed can be asked for and
stands for such a file. If the directories that the template directory's own
path leads through are there, the listing consists of the paths of all such
files, so the place of every name that loads is listed; otherwise it is empty. -/
theorem load_list (ht : t.Sound here) (hhere : Path.IsHere here)
    (hdirectory : Path.isImpossible directory = false) :
    (∀ name, Path.isImpossible name = false →
      (∀ bs, Stored t here directory (place here directory name) bs →
        loadIn t here directory name = (FileTree.textOf bs).map String.ofList) ∧
      ((∀ bs, ¬ Stored t here directory (place here directory name) bs) →
        loadIn t here directory name = .error (.noTemplate name))) ∧
    (listIn t here directory).Pairwise (· < ·) ∧
    (∀ path ∈ listIn t here directory, Path.isImpossible path = false ∧
      ∃ bs, Stored t here directory (place here directory path) bs) ∧
    (t.Leads here directory →
      (∀ path, path ∈ listIn t here directory ↔
        ∃ rest bs, Stored t here directory (Path.resolve here directory ++ rest) bs ∧
          path = Path.toText rest) ∧
      ∀ name text, loadIn t here directory name = .ok text →
        ∃ rest, place here directory name = Path.resolve here directory ++ rest ∧
          Path.toText rest ∈ listIn t here directory) ∧
    (¬ t.Leads here directory → listIn t here directory = []) := by
  refine ⟨fun name hname => ?_, list_rising ht hhere directory, fun path => place_listed ht hhere,
    fun hreached => ⟨fun path => mem_list ht hreached, fun name text hload => ?_⟩, list_unreached⟩
  · exact ⟨fun bs => load_stored hdirectory hname, load_missing hdirectory hname⟩
  · obtain ⟨bs, hstored⟩ := stored_of_load hload
    obtain ⟨rest, _, hplace⟩ := hstored.2
    refine ⟨rest, hplace, (mem_list ht hreached).2 ⟨rest, bs, ?_, rfl⟩⟩
    rw [← hplace]
    exact hstored

/-- A tree with a template, a template that is no text, and a file beside the
template directory. -/
def sampleTree : FileTree :=
  ⟨[(["/", "srv", "templates", "a.txt"], some (utf8 "x".toList)),
    (["/", "srv", "templates", "b", "c"], some [0xFF]),
    (["/", "srv", "secret"], some (utf8 "s".toList))]⟩

theorem sampleTree_sound : sampleTree.Sound ["/", "srv"] where
  places := by decide
  named := by
    intro e he
    simp only [sampleTree, List.mem_cons, List.not_mem_nil, or_false] at he
    rcases he with rfl | rfl | rfl
    · exact ⟨["srv", "templates", "a.txt"], rfl, by decide⟩
    · exact ⟨["srv", "templates", "b", "c"], rfl, by decide⟩
    · exact ⟨["srv", "secret"], rfl, by decide⟩

theorem sampleTree_leads : sampleTree.Leads ["/", "srv"] "templates" :=
  (FileTree.walkIn_eq_ok.1 (rfl : sampleTree.walkIn ["/", "srv"] "templates" =
    .ok ["/", "srv", "templates"])).1

/-- One name leads from the top of all directories to a template, another one to
the file beside the template directory, and a third one is listed. -/
theorem load_list_sample :
    sampleTree.Sound ["/", "srv"] ∧ Path.IsHere ["/", "srv"] ∧
      Path.isImpossible "templates" = false ∧
      loadIn sampleTree ["/", "srv"] "templates" "/srv/.//templates/b/../a.txt" = .ok "x" ∧
      loadIn sampleTree ["/", "srv"] "templates" "../secret" = .error (.noTemplate "../secret") ∧
      "b/c" ∈ listIn sampleTree ["/", "srv"] "templates" := by
  have hhere : Path.IsHere ["/", "srv"] := .inr ⟨["srv"], rfl, by decide⟩
  have hdirectory : Path.isImpossible "templates" = false := by decide
  obtain ⟨hload, _, _, hlisted, _⟩ := load_list sampleTree_sound hhere hdirectory
  refine ⟨sampleTree_sound, hhere, hdirectory, ?_, ?_, ?_⟩
  · have hstored : Stored sampleTree ["/", "srv"] "templates"
        (place ["/", "srv"] "templates" "/srv/.//templates/b/../a.txt") (utf8 "x".toList) :=
      ⟨rfl, ["a.txt"], by decide, rfl⟩
    rw [(hload "/srv/.//templates/b/../a.txt" (by decide)).1 _ hstored,
      FileTree.textOf_utf8 (by decide)]
    rfl
  · refine (hload "../secret" (by decide)).2 ?_
    rintro bs ⟨_, hbelow⟩
    exact absurd (Path.isBelow_iff.2 hbelow) (by decide)
  · exact ((hlisted sampleTree_leads).1 "b/c").2
      ⟨["b", "c"], [0xFF], ⟨rfl, ["b", "c"], by decide, rfl⟩, rfl⟩

/-- A tree with one template, told from the working directory. -/
def smallTree : FileTree := ⟨[(["templates", "a.txt"], some (utf8 "x".toList))]⟩

/-- Where the template directory is spelled through a directory that is not
there, its template loads, but nothing is listed. -/
theorem list_misses_loaded :
    load smallTree "missing/../templates" "a.txt" = .ok "x" ∧
      list smallTree "missing/../templates" = [] := by
  have hstored : Stored smallTree [] "missing/../templates"
      (place [] "missing/../templates" "a.txt") (utf8 "x".toList) :=
    ⟨rfl, ["a.txt"], by decide, rfl⟩
  constructor
  · rw [load, load_stored (by decide) (by decide) hstored, FileTree.textOf_utf8 (by decide)]
    rfl
  · rfl

end Stencil.Templates
