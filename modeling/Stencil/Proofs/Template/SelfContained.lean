import Stencil.Proofs.Regex.CutOff
import Stencil.Proofs.Template.Surfacing

/-!
# Variable tags are self-contained

Which tags a text has is found out by looking far ahead: whether a default is
quoted or bare may depend on a quote at the end of the line, and where the
arguments of a filter end depends on what could follow them. Still a tag means
the same wherever it stands. Its opening is told by its own characters
(`run_standardVariable`), and behind the name the expression is local, so
cutting the text off at the end of the tag takes away nothing but attempts
that failed (`run_cutOff`).
-/

namespace Stencil.TagPattern

open Stencil.Regex Stencil.Text Stencil.Printed

variable {lost : Nat} {p p' q : Place} {m : Match}

theorem run_standardVariable_cutOff (hcut : p.Cut lost q.pos p')
    (hrun : standardVariable.regex.run p some = some q) :
    ∃ q', standardVariable.regex.run p' some = some q' ∧ q.Cut lost q.pos q' := by
  obtain ⟨lead, name, more, hopens, hback⟩ := takes_standardVariable.1 (takes_of_run hrun)
  -- The cut text goes beyond the name, so it opens with the same name.
  have hinside : 2 + lead.length + name.length < p'.rest.length := by
    have hlt := (leavesWord_backPart hback).2
    have hstop := hcut.stop
    rw [Place.marked_pos] at hlt
    omega
  have htake : p'.rest.take p'.rest.length = p.rest.take p'.rest.length := by
    rw [List.take_length]
    exact List.prefix_iff_eq_take.1 hcut.rest
  obtain ⟨more', hopens'⟩ := hopens.moved hinside htake
  have hlocal : (all backPart).isLocal = true := by decide
  rw [run_standardVariable hopens] at hrun
  rw [run_standardVariable hopens', hcut.groups]
  exact run_cutOff hlocal (hcut.marked (Nat.le_of_lt hinside) _) hrun

/-- A match of a variable tag is found again, with the same parts, in its own
text, and it is all of that text. -/
theorem matchHere?_cutOff (hgroups : p.groups = [])
    (h : standardVariable.regex.matchHere? p = some m) :
    standardVariable.regex.matchHere? (Place.ofText m.text) =
      some { m with start := 0, stop := m.text.length } := by
  obtain ⟨n, groups, hn, hrun, rfl⟩ := exists_of_matchHere? h
  have hlength : (p.rest.take n).length = n := List.length_take_of_le hn
  have hcut : p.Cut p.pos (p.pos + n) (Place.ofText (p.rest.take n)) := by
    refine ⟨hgroups.symm, rfl, List.take_prefix n p.rest, ?_⟩
    show p.pos + (p.rest.take n).length = p.pos + n
    rw [hlength]
  obtain ⟨q', hq', hend⟩ := run_standardVariable_cutOff hcut hrun
  have hpos : q'.pos = n := by
    have hlost := hend.pos
    rw [Place.marked_pos] at hlost
    omega
  rw [matchHere?, matchAt?_true, hq', Option.map_some, Match.between, hpos, hend.groups]
  show some (⟨0, n, (p.rest.take n).take (n - 0), groups⟩ : Match) = _
  rw [Nat.sub_zero, List.take_take, Nat.min_self, hlength]

end Stencil.TagPattern

namespace Stencil.Variable

open Stencil.Regex Stencil.TagPattern Stencil.Printed

/-- A variable tag as it stands in a text: it is the text between its two
ends, its name is a word that is not reserved, and on its own it is the same
tag and nothing else. -/
structure StandsIn (cs : List Char) (v : Variable) : Prop where
  nonempty : v.start < v.stop
  inside : v.stop ≤ cs.length
  text : v.text.toList = (cs.drop v.start).take (v.stop - v.start)
  name_nonempty : v.name ≠ ""
  name_plain : ∀ c ∈ v.name.toList, c.isAlphanum = true ∨ c = '_'
  name_free : v.name ∉ ["if", "else", "endif"]
  alone : scan .standard v.text.toList = .ok [{ v with start := 0, stop := v.text.length }]

theorem name_tagOf {m : Match} (h : standardVariable.regex.matchHere? p = some m) :
    ∃ w : Word, w.chars ∉ reservedWords ∧ (tagOf m).name = String.ofList w.chars := by
  obtain ⟨n, groups, _, hrun, rfl⟩ := exists_of_matchHere? h
  obtain ⟨lead, name, more, hopens, hfree, hname⟩ := takes_name (takes_of_run hrun)
  rw [Place.marked_groups] at hname
  refine ⟨⟨name, hopens.nonempty, hopens.plain⟩, hfree, ?_⟩
  show ((groups.lookup "name").map String.ofList).getD "None" = _
  rw [hname, Option.map_some, Option.getD_some]

theorem scan_tagOf {m : Match} (hgroups : p.groups = [])
    (h : standardVariable.regex.matchHere? p = some m) : scan .standard (tagOf m).text.toList =
      .ok [{ tagOf m with start := 0, stop := (tagOf m).text.length }] := by
  have hconsumes : standardVariable.regex.Consumes := consumes_one _ _
  have htext : (tagOf m).text = String.ofList m.text := rfl
  rw [htext, String.toList_ofList, String.length_ofList, scan_matches,
    allMatches_whole hconsumes (matchHere?_cutOff hgroups h) rfl]
  rfl

theorem standsIn_tagOf {cs : List Char} {m : Match} (hgroups : p.groups = [])
    (hrest : p.rest = cs.drop p.pos) (h : standardVariable.regex.matchHere? p = some m) :
    (tagOf m).StandsIn cs := by
  have hconsumes : standardVariable.regex.Consumes := consumes_one _ _
  obtain ⟨w, hfree, hname⟩ := name_tagOf h
  have halone := scan_tagOf hgroups h
  obtain ⟨n, groups, hn, hrun, rfl⟩ := exists_of_matchHere? h
  have hlt : p.pos < p.pos + n := hconsumes p _ ((matchAt?_true _).trans hrun)
  refine ⟨hlt, ?_, ?_, ?_, ?_, ?_, halone⟩
  · show p.pos + n ≤ cs.length
    rw [hrest, List.length_drop] at hn
    omega
  · show (String.ofList (p.rest.take n)).toList = (cs.drop p.pos).take (p.pos + n - p.pos)
    rw [String.toList_ofList, hrest, Nat.add_sub_cancel_left]
  · rw [hname]
    exact fun hempty => w.nonempty (by simpa using hempty)
  · rw [hname, String.toList_ofList]
    exact fun c hc => isNameChar_alphanum (w.plain c hc)
  · have hreserved : ["if", "else", "endif"] = reservedWords.map String.ofList := rfl
    rw [hname, hreserved, List.mem_map]
    rintro ⟨word, hword, heq⟩
    rw [String.ofList_injective heq] at hword
    exact hfree hword

/-- The variable tags of a text stand in it one behind the other, whatever the
other sorts of tags look like. -/
theorem scan_standsIn (ps : Patterns) (cs : List Char) :
    ∃ vs, scan { ps with variableTag := .standardVariable } cs = .ok vs ∧
      vs.Pairwise (fun v w => v.stop ≤ w.start) ∧ ∀ v ∈ vs, v.StandsIn cs := by
  have hscan := scan_standard cs
  refine ⟨_, hscan, ?_, fun v hv => ?_⟩
  · refine List.pairwise_map.2 (sweep_apart (fun p m hm => ?_) 0 rfl).2
    obtain ⟨n, groups, _, _, rfl⟩ := exists_of_matchHere? hm
    exact ⟨rfl, Nat.le_add_right p.pos n⟩
  · obtain ⟨m, hm, rfl⟩ := mem_scan hscan hv
    refine standsIn_tagOf rfl ?_ hm
    show cs.drop _ = cs.drop (0 + _)
    rw [Nat.zero_add]

/-- A quote that is closed only behind the tag belongs to a default without
quotes. -/
example : scan .standard "<% a=\"b %> \"".toList =
    .ok [⟨"<% a=\"b %>", 0, 10, "a", some "=\"b", none, none, none⟩] := by
  rfl

end Stencil.Variable
