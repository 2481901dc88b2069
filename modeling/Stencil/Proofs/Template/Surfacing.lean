import Stencil.Proofs.Template.Provenance
import Stencil.Proofs.Template.VariableShape
import Stencil.Template.Variable

/-!
# Tags that surface

Variable tags are found in what is left of a text once its blocks are
resolved. A tag there need not be one of the text itself. It may be put
together from characters with a block tag between them, or it may have stood
inside another variable tag, the beginning of which is gone. These are the
only two ways: a tag whose characters stand in the text in one piece, and not
inside another tag, is found in the text too, under the same name.
-/

namespace Stencil.Variable

open Stencil.Regex Stencil.TagPattern

/-- The characters of the tag stood one behind the other from `place` on. -/
def StandsAt (v : Variable) (places : List Nat) (place : Nat) : Prop :=
  ∀ i, v.start + i < v.stop → places[v.start + i]? = some (place + i)

/-- The tag is there only because of what is gone: if its characters stood in
one piece, then inside another tag. -/
def Surfaces (v : Variable) (places : List Nat) (found : List Variable) : Prop :=
  ∀ place, v.StandsAt places place → ∃ w ∈ found, w.start < place ∧ place < w.stop

/-! ## The tags of a text -/

/-- The tag that a match of the standard syntax stands for. -/
def tagOf (m : Match) : Variable :=
  let part := fun name => (m.group? name).map String.ofList
  ⟨String.ofList m.text, m.start, m.stop, (part "name").getD "None", part "default",
    part "filter", part "filter_name", part "filter_args"⟩

theorem scan_matches (cs : List Char) :
    scan .standard cs = .ok ((standardVariable.regex.allMatches cs).map tagOf) := by
  have hname : standardVariable.regex.hasGroup "name" = true := by decide
  refine mapM_eq_ok_map fun m _ => ?_
  show ofMatch standardVariable.regex m = _
  rw [ofMatch, hname]
  rfl

theorem scan_standard (cs : List Char) : scan .standard cs =
    .ok ((sweep Match.stop standardVariable.regex.matchHere? 0 (Place.ofText cs)).map tagOf) := by
  have hconsumes : standardVariable.regex.Consumes := consumes_one _ _
  rw [scan_matches, allMatches_eq_sweep hconsumes]

/-- Every tag of a text is matched at the place where it begins. -/
theorem mem_scan {cs : List Char} {vs : List Variable} {v : Variable}
    (h : scan .standard cs = .ok vs) (hv : v ∈ vs) : ∃ m,
      standardVariable.regex.matchHere? ((Place.ofText cs).skip v.start) = some m ∧ v = tagOf m := by
  rw [scan_standard] at h
  cases h
  obtain ⟨m, hm, rfl⟩ := List.mem_map.1 hv
  obtain ⟨n, hn⟩ := mem_sweep rfl hm
  obtain ⟨q, _, hq⟩ := Option.map_eq_some_iff.1 hn
  have hstart : (tagOf m).start = n := by
    rw [← hq]
    exact Nat.zero_add n
  exact ⟨m, by rwa [hstart], rfl⟩

/-- What is matched at a place of a text is a tag of the text, or the place is
inside one. -/
theorem scan_covers {cs : List Char} {found : List Variable} {m : Match} {place : Nat}
    (h : scan .standard cs = .ok found) (hplace : place < cs.length)
    (hm : standardVariable.regex.matchHere? ((Place.ofText cs).skip place) = some m) :
    tagOf m ∈ found ∨ ∃ w ∈ found, w.start < place ∧ place < w.stop := by
  rw [scan_standard] at h
  cases h
  rcases sweep_covers 0 rfl hplace hm with hmem | hlt | ⟨b, hb, i, hi, hfind, hlt⟩
  · exact .inl (List.mem_map_of_mem hmem)
  · exact absurd hlt (Nat.not_lt_zero _)
  · refine .inr ⟨tagOf b, List.mem_map_of_mem hb, ?_, ?_⟩
    · obtain ⟨q, _, rfl⟩ := Option.map_eq_some_iff.1 hfind
      show 0 + i < place
      omega
    · have hlt : 0 + place < b.stop := hlt
      show place < b.stop
      omega

/-! ## Old tags and new ones -/

/-- A tag that stood in one piece has the same characters behind the place
where it stood. -/
theorem StandsAt.take {v : Variable} {cs : List Char} {places : List Nat} {place : Nat}
    (h : v.StandsAt places place) (hinside : ∀ p ∈ places, p < cs.length) :
    (cs.drop place).take (v.stop - v.start) =
      ((charsAt cs places).drop v.start).take (v.stop - v.start) := by
  refine List.ext_getElem? fun i => ?_
  rw [List.getElem?_take, List.getElem?_take]
  split
  · rw [List.getElem?_drop, List.getElem?_drop, getElem?_charsAt _ hinside, h i (by omega)]
    rfl
  · rfl

/-- A tag of what is left is a tag of the text by name, or it surfaces. -/
theorem found_or_surfaces {cs : List Char} {places : List Nat} {vs found : List Variable}
    {v : Variable} (hinside : ∀ p ∈ places, p < cs.length)
    (hvs : scan .standard (charsAt cs places) = .ok vs) (hv : v ∈ vs)
    (hfound : scan .standard cs = .ok found) :
    (∃ w ∈ found, w.name = v.name) ∨ v.Surfaces places found := by
  by_cases hold : ∃ place, v.StandsAt places place ∧ ¬ ∃ w ∈ found, w.start < place ∧ place < w.stop
  · obtain ⟨place, hstands, houtside⟩ := hold
    left
    obtain ⟨m, hm, rfl⟩ := mem_scan hvs hv
    have hlt : m.start < m.stop := by
      obtain ⟨q, hq, hbetween⟩ := Option.map_eq_some_iff.1 hm
      rw [← hbetween]
      exact consumes_one _ _ _ _ hq
    have hplace : place < cs.length := hinside place (List.mem_of_getElem? (hstands 0 hlt))
    have hmoved : ∃ m', standardVariable.regex.matchHere? ((Place.ofText cs).skip place) = some m' ∧
        m'.group? "name" = m.group? "name" := matchHere?_moved hm rfl (hstands.take hinside)
    obtain ⟨m', hm', hname⟩ := hmoved
    refine ⟨tagOf m', (scan_covers hfound hplace hm').resolve_right houtside, ?_⟩
    simp only [tagOf, hname]
  · right
    intro place hstands
    by_contra houtside
    exact hold ⟨place, hstands, houtside⟩

end Stencil.Variable
