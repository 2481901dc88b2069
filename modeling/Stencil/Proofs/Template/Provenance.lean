import Stencil.Proofs.Template.Walk
import Stencil.Template.Engine

/-!
# Where the text of an output comes from

What is left of a text once its blocks are resolved consists of characters of
the text, in their order. Which of them they are is a walk over the tags as
before, that keeps places instead of characters. Reading the characters at
these places gives the text that is left (`walk_eq_places`), so for anything
in that text one can ask where it stood before, and whether it stood there in
one piece.
-/

namespace Stencil

/-- The characters of a text at the given places. -/
def charsAt (cs : List Char) (places : List Nat) : List Char := places.filterMap (cs[·]?)

theorem charsAt_append (cs : List Char) (front back : List Nat) :
    charsAt cs (front ++ back) = charsAt cs front ++ charsAt cs back :=
  List.filterMap_append

/-- The characters at places inside the text, one by one. -/
theorem getElem?_charsAt {cs : List Char} (i : Nat) : ∀ {places : List Nat},
    (∀ place ∈ places, place < cs.length) →
      (charsAt cs places)[i]? = (places[i]?).bind (cs[·]?) := by
  intro places h
  induction places generalizing i with
  | nil => rfl
  | cons place places ih =>
      have hplace := List.getElem?_eq_getElem (h place List.mem_cons_self)
      rw [charsAt, List.filterMap_cons_some hplace]
      cases i with
      | zero => rw [List.getElem?_cons_zero, List.getElem?_cons_zero, Option.bind_some, hplace]
      | succ i =>
          rw [List.getElem?_cons_succ, List.getElem?_cons_succ]
          exact ih i fun place hmem => h place (List.mem_cons_of_mem _ hmem)

theorem charsAt_range (cs : List Char) (n : Nat) : ∀ (start : Nat),
    charsAt cs (List.range' start n) = (cs.drop start).take n := by
  induction n with
  | zero => intro start; rw [List.take_zero]; rfl
  | succ n ih =>
      intro start
      rw [List.range'_succ, charsAt]
      cases hdrop : cs.drop start with
      | nil =>
          have hle := List.drop_eq_nil_iff.1 hdrop
          have hnone : cs[start]? = none := List.getElem?_eq_none hle
          have hrest := ih (start + 1)
          rw [List.filterMap_cons_none hnone, List.take_nil]
          rw [charsAt, List.drop_eq_nil_iff.2 (by omega), List.take_nil] at hrest
          exact hrest
      | cons c rest =>
          have hhere : cs[start]? = some c := by
            rw [← List.head?_drop, hdrop]
            rfl
          have hbehind : cs.drop (start + 1) = rest := by
            rw [← List.drop_drop, hdrop]
            rfl
          have hrest := ih (start + 1)
          rw [charsAt, hbehind] at hrest
          rw [List.filterMap_cons_some hhere, List.take_succ_cons, hrest]

namespace Node

open Stencil.BlockTag (slice Spans)

variable {args : Arguments} {cs : List Char} {tags : List BlockTag}

/-- The places that are kept of those from `pos` on, with the given tags among
them, in a text of the given length. -/
def walkPlaces (args : Arguments) (length : Nat) : (pos : Nat) → List BlockTag → List Bool →
    Run (List Nat)
  | pos, [], branches => pure (if selected branches then List.range' pos (length - pos) else [])
  | pos, tag :: tags, branches => do
      let next ← turn args tag branches
      let rest ← walkPlaces args length tag.stop tags next
      pure ((if selected branches then List.range' pos (tag.start - pos) else []) ++ rest)

theorem charsAt_kept (branches : List Bool) (start n : Nat) :
    charsAt cs (if selected branches then List.range' start n else []) =
      kept branches ((cs.drop start).take n) := by
  rw [kept]
  split
  · exact charsAt_range cs n start
  · rfl

/-- The walk keeps the characters at the places that are kept. -/
theorem walk_eq_places : ∀ {tags : List BlockTag} {pos : Nat} {branches : List Bool},
    walk args cs pos tags branches =
      charsAt cs <$> walkPlaces args cs.length pos tags branches := by
  intro tags
  induction tags with
  | nil =>
      intro pos branches
      have hall : (cs.drop pos).take (cs.length - pos) = cs.drop pos := by
        rw [← List.length_drop, List.take_length]
      rw [walk, walkPlaces, map_pure, charsAt_kept, hall]
  | cons tag tags ih =>
      intro pos branches
      simp only [walk, walkPlaces, ih, map_bind, bind_map_left, map_pure, charsAt_append,
        charsAt_kept]
      rfl

/-- The places that are kept lie inside the text. -/
theorem walkPlaces_inside {length : Nat} : ∀ {tags : List BlockTag} {pos : Nat}
    {branches : List Bool} {places : List Nat}, Spans length pos tags →
    (walkPlaces args length pos tags branches).result = .ok places →
    ∀ place ∈ places, place < length := by
  have hinside : ∀ {branches start n place}, start + n ≤ length →
      place ∈ (if selected branches then List.range' start n else []) → place < length := by
    intro branches start n place hle hmem
    split at hmem
    · have := (List.mem_range'_1.1 hmem).2
      omega
    · cases hmem
  intro tags
  induction tags with
  | nil =>
      intro pos branches places hspans h place hmem
      cases h
      have hpos : pos ≤ length := hspans
      exact hinside (by omega) hmem
  | cons tag tags ih =>
      intro pos branches places hspans h place hmem
      obtain ⟨hstart, hstop, hspans⟩ := hspans
      simp only [walkPlaces, Run.bind_result] at h
      obtain ⟨next, _, h⟩ := bind_eq_ok.1 h
      obtain ⟨rest, hrest, h⟩ := bind_eq_ok.1 h
      cases h
      rcases List.mem_append.1 hmem with hmem | hmem
      · have hle := hspans.le
        exact hinside (by omega) hmem
      · exact ih hspans hrest place hmem

end Node

namespace Options

variable {o : Options} {args : Arguments} {cs out : List Char}

/-- The places of what is left of a text once its blocks are resolved. -/
def keptPlaces (o : Options) (cs : List Char) (args : Arguments) : Run (List Nat) := do
  let tags ← Run.ofExcept (BlockTag.scan o.patterns o.trimming cs)
  Node.walkPlaces args cs.length 0 tags []

/-- What is left of a text are the characters at the places that are kept. -/
theorem resolveBlocks_places (h : (o.resolveBlocks cs args).result = .ok out) :
    ∃ places, (o.keptPlaces cs args).result = .ok places ∧ (∀ place ∈ places, place < cs.length) ∧
      out = charsAt cs places := by
  simp only [resolveBlocks, Node.process, Run.bind_result, Run.ofExcept_result] at h
  obtain ⟨nodes, hparse, hresolve⟩ := bind_eq_ok.1 h
  obtain ⟨tags, htags, hbuild⟩ := bind_eq_ok.1 hparse
  have hwalk := Node.process_of_build args htags hbuild
  rw [Node.walk_eq_places, Node.process, hparse, Run.ofExcept_ok, pure_bind,
    map_eq_pure_bind] at hwalk
  rw [hwalk, Run.bind_result] at hresolve
  obtain ⟨places, hplaces, hout⟩ := bind_eq_ok.1 hresolve
  cases hout
  refine ⟨places, ?_, Node.walkPlaces_inside (BlockTag.scan_spans htags) hplaces, rfl⟩
  have hscan : BlockTag.scan o.patterns o.trimming cs = .ok tags := htags
  rw [keptPlaces, hscan, Run.ofExcept_ok, pure_bind, hplaces]

end Options

end Stencil
