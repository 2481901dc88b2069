import Stencil.Filters.Standard
import Stencil.Proofs.Chaining
import Stencil.Proofs.Encoding.Base64
import Stencil.Proofs.Encoding.Hex
import Stencil.Proofs.Encoding.Percent
import Stencil.Proofs.Html.Reference
import Stencil.Proofs.Json.ReadBack

/-!
# Filters that undo each other

A template reaches the encodings, JSON and the references of markup through
filters, by name and with arguments. Here the writers and readers of those forms
meet. A text in one of the encodings of text, a JSON document and an escaped
text all give back what they were made of, and none of the filters on the way
refuses.
-/

namespace Stencil.Standard

open Stencil.Text

/-! ## Applying a filter that does not refuse -/

/-- What the filter of a name gives is what applying the name gives. -/
theorem apply_of_get {r : Registry} {name : String} {f : Filter} {v w : Value} {args : List Value}
    (hname : r.get name = .ok f) (h : f.run v args = .ok w) : r.apply name v args = .ok w := by
  rw [Registry.apply, hname, ok_bind, h]
  rfl

/-- A filter on texts takes every text. -/
theorem apply_onText {name : String} {f : List Char → List Char}
    (hname : Registry.standard.get name = .ok ⟨some name, onText f⟩) (s : String) :
    Registry.standard.apply name (.str s) [] = .ok (.str (String.ofList (f s.toList))) :=
  apply_of_get hname rfl

/-! ## Decoding -/

/-- The filter that decodes makes a value of a text in an encoding. -/
def Decodes (encoding t : String) (v : Value) : Prop :=
  Registry.standard.apply "decode" (.str t) [.str encoding] = .ok v

theorem ofValue?_name (e : Coding.Encoding) : Coding.Encoding.ofValue? (.str e.name) = some e := by
  cases e <;> rfl

theorem decodes_of_decodeText {e : Coding.Encoding} {t : String} {v : Value}
    (h : Coding.decodeText e t.toList = .ok v) : Decodes e.name t v := by
  refine apply_of_get (f := ⟨some "decode", withOptional (.str "base64") Coding.decode⟩) rfl ?_
  show Coding.decode (.str t) (.str e.name) = .ok v
  rw [Coding.decode, ofValue?_name]
  exact h

theorem apply_encode (v encoding : Value) {w : Value} (h : Coding.encode v encoding = .ok w) :
    Registry.standard.apply "encode" v [encoding] = .ok w :=
  apply_of_get (f := ⟨some "encode", withOptional (.str "base64") Coding.encode⟩) rfl h

/-! ## Encodings of text -/

theorem textOf_utf8 (e : Coding.Encoding) (s : String) :
    Coding.textOf e (some (utf8 s.toList)) = .ok (.str s) := by
  rw [Coding.textOf, Option.bind_some, decode?_utf8]
  exact congrArg (fun s => Except.ok (Value.str s)) String.ofList_toList

theorem decodeText_base64 (s : String) :
    Coding.decodeText .base64 (Coding.encodeText .base64 s.toList) = .ok (.str s) := by
  have hascii : ((Base64.encode (utf8 s.toList)).all fun c => decide (c.toNat < 0x80)) = true :=
    List.all_eq_true.2 fun c hc => decide_eq_true (Base64.encode_ascii _ c hc)
  rw [Coding.encodeText, Coding.decodeText, if_pos hascii, Base64.decode?_encode, textOf_utf8]

theorem decodeText_hex (s : String) :
    Coding.decodeText .hex (Coding.encodeText .hex s.toList) = .ok (.str s) := by
  rw [Coding.encodeText, Coding.decodeText, Hex.decode?_encode]
  exact textOf_utf8 _ s

theorem decodeText_url (s : String) :
    Coding.decodeText .url (Percent.encode s.toList) = .ok (.str s) := by
  rw [Coding.decodeText, Percent.decode_encode, Value.ofChars, String.ofList_toList]

/-- A text in an encoding of text decodes to itself, and so does one that was
made fit for an address; each has the form that its encoding promises. -/
theorem encodings_undone (s : String) :
    (∃ t, Registry.standard.apply "encode" (.str s) [.str "base64"] = .ok (.str t) ∧
      Base64.Grouped t.toList ∧ Decodes "base64" t (.str s)) ∧
    (∃ t, Registry.standard.apply "encode" (.str s) [.str "hex"] = .ok (.str t) ∧
      Hex.Paired t.toList ∧ Decodes "hex" t (.str s)) ∧
    (∃ t, Registry.standard.apply "encode" (.str s) [.str "url"] = .ok (.str t) ∧
      Percent.Escaped t.toList ∧ Decodes "url" t (.str s)) ∧
    (∃ t, Registry.standard.apply "url" (.str s) [] = .ok (.str t) ∧
      Percent.Escaped t.toList ∧ Decodes "url" t (.str s)) := by
  have hdecodes : ∀ e : Coding.Encoding, ∀ cs : List Char,
      Coding.decodeText e cs = .ok (.str s) → Decodes e.name (String.ofList cs) (.str s) :=
    fun e cs h => decodes_of_decodeText (by rw [String.toList_ofList]; exact h)
  refine ⟨⟨_, apply_encode _ _ rfl, ?_, hdecodes .base64 _ (decodeText_base64 s)⟩,
    ⟨_, apply_encode _ _ rfl, ?_, hdecodes .hex _ (decodeText_hex s)⟩,
    ⟨_, apply_encode _ _ rfl, ?_, hdecodes .url _ (decodeText_url s)⟩,
    ⟨_, apply_onText rfl s, ?_, hdecodes .url _ (decodeText_url s)⟩⟩ <;>
    rw [String.toList_ofList]
  · exact Base64.encode_grouped _
  · exact Hex.encode_paired _
  · exact Percent.encode_escaped _
  · exact Percent.encode_escaped _

/-! ## Documents -/

/-- Every text that is written for a value as JSON decodes to the value: by
the filter that encodes, by the one that writes JSON, and in the output of a
template, where lists and mappings are written so. -/
structure DocumentsUndone (v : Value) : Prop where
  encoded : ∃ t, Registry.standard.apply "encode" v [.str "json"] = .ok (.str t) ∧
    Decodes "json" t v
  written : ∃ t, Registry.standard.apply "json" v [] = .ok (.str t) ∧ Decodes "json" t v
  rendered : ((∃ items, v = .list items) ∨ ∃ entries, v = .mapping entries) →
    ∃ t, v.render = .ok t ∧ Decodes "json" t v

theorem documents_undone {v : Value} (h : v.IsExact) : DocumentsUndone v := by
  obtain ⟨s, hspaced, hread⟩ := Json.text_read Json.standard_spaced h
  obtain ⟨s', hcompact, hread'⟩ := Json.text_read Json.standard_compact h
  have hdecodes : ∀ {t : String}, Json.read t.toList = .ok v → Decodes "json" t v :=
    fun h => decodes_of_decodeText (e := .json) h
  refine ⟨⟨s, ?_, hdecodes hread⟩, ⟨s, ?_, hdecodes hread⟩, fun hshape => ⟨s', ?_, hdecodes hread'⟩⟩
  · refine apply_encode v _ ?_
    show (Json.text .spaced v).map Value.str = .ok (.str s)
    rw [hspaced]
    rfl
  · refine apply_of_get (f := ⟨some "json", alone fun v => (Json.text .spaced v).map .str⟩) rfl ?_
    show (Json.text .spaced v).map Value.str = .ok (.str s)
    rw [hspaced]
    rfl
  · have hdescribe : Json.describe v = .ok s' := by
      rw [Json.describe, Json.relaxed_json h.isJson]
      exact hcompact
    rcases hshape with ⟨items, rfl⟩ | ⟨entries, rfl⟩ <;> exact hdescribe

theorem documents_undone_nested :
    DocumentsUndone (.mapping [(.str "\"é\\", .list [.int (-12), .null, .str "\t"]),
      (.str "", .mapping [])]) := by
  have hlist : (Value.list [.int (-12), .null, .str "\t"]).IsExact := by
    refine .list ?_
    simp only [List.forall_mem_cons]
    exact ⟨.int (by decide), .null, .str _, by simp⟩
  have hempty : (Value.mapping []).IsExact := @Value.IsExact.mapping [] (by decide) (by simp)
  refine documents_undone (@Value.IsExact.mapping [("\"é\\", _), ("", _)] (by decide) ?_)
  simp only [List.forall_mem_cons]
  exact ⟨hlist, hempty, by simp⟩

/-! ## References -/

/-- An escaped text has nothing left that markup gives a meaning, apart from
the references that escaping wrote, and it is read back. -/
theorem escaping_undone (s : String) :
    ∃ t : String, Registry.standard.apply "escape" (.str s) [] = .ok (.str t) ∧
      Registry.standard.apply "unescape" (.str t) [] = .ok (.str s) ∧
      (∀ c ∈ t.toList, c ∉ ['<', '>', '"', '\'']) ∧
      ∀ front back, t.toList = front ++ '&' :: back →
        ∃ e ∈ Html.entities, e <+: '&' :: back := by
  refine ⟨_, apply_onText rfl s,
    apply_of_get (f := ⟨some "unescape", alone unescape⟩) rfl ?_, ?_, ?_⟩
  · show unescape (.str (String.ofList (Html.escape s.toList))) = .ok (.str s)
    have hchars : (Value.str (String.ofList (Html.escape s.toList))).renderChars =
        .ok (Html.escape s.toList) := by
      rw [Value.renderChars, Value.render]
      exact congrArg Except.ok String.toList_ofList
    rw [unescape, hchars, ok_bind, Html.unescape_escape, ok_bind, Value.ofChars,
      String.ofList_toList]
  · rw [String.toList_ofList]
    exact Html.escape_inert _
  · rw [String.toList_ofList]
    exact fun front back h => Html.escape_ampersand _ front back h

end Stencil.Standard
