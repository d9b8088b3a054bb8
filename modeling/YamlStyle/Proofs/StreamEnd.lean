/-
# The line before the end of the stream

A last document without an end marker is reported on the line before the one where the stream
ends.  If the text ends with a line break, the stream ends on a line without text, and the line
before it is the last one that holds any.  A text without line breaks has one line, which is
reported.  In every other text the stream ends on the last line that holds text, and the line
before it is reported (`Line.lastNumber_eq`, `Markers.streamEnd_reported`).
-/

import YamlStyle.Proofs.StreamDocuments
import YamlStyle.Proofs.TerminatorBytes

namespace YamlStyle

open Terminated Text

/-! ### The last line that holds text -/

namespace Line

/-- The number of the last line that holds text: the last line of all, or the one before it
if that is empty, and the first line if there is no other. -/
def lastNumber (s : List Char) : Nat :=
  let lines := ofText s
  max (if lines.getLast?.any (·.isEmpty) = true then lines.length - 1 else lines.length) 1

section Joined

variable {pairs : List Terminated} {last : List Char} (hpairs : ∀ e ∈ pairs, e.Proper)
  (hlast : '\n' ∉ last)
include hpairs hlast

/-- A text has one line more than it has terminators. -/
theorem length_ofText_joined : (ofText (joined pairs last)).length = pairs.length + 1 := by
  rw [ofText_joined hpairs hlast, length_laid]

/-- The last line that holds text, by the layout. -/
theorem lastNumber_joined :
    lastNumber (joined pairs last) =
      max (if last = [] then pairs.length else pairs.length + 1) 1 := by
  have hcontent : (ofText (joined pairs last)).getLast?.map (·.content) = some last := by
    rw [← List.getLast?_map, ofText_joined hpairs hlast, map_content_laid, List.getLast?_concat]
  obtain ⟨l, hl, rfl⟩ := Option.map_eq_some_iff.1 hcontent
  rw [lastNumber, length_ofText_joined hpairs hlast, hl, Option.any_some, isEmpty,
    if_congr List.isEmpty_iff rfl rfl]
  rfl

/-- A text has a line feed if it has a terminator. -/
theorem feed_mem_joined_iff : '\n' ∈ joined pairs last ↔ 0 < pairs.length := by
  rw [← count_joined hpairs hlast, List.count_pos_iff]

end Joined

/-- **The line before the last is the last one that holds text, unless a line break stands in
the text and not at its end.** -/
theorem lastNumber_eq (s : List Char) :
    lastNumber s =
      if '\n' ∈ s ∧ s.getLast? ≠ some '\n' then max ((ofText s).length - 1) 1 + 1
      else max ((ofText s).length - 1) 1 := by
  obtain ⟨pairs, last, hpairs, hlast, rfl⟩ := exists_joined s
  have hends : '\n' ∈ joined pairs last ∧ (joined pairs last).getLast? ≠ some '\n' ↔
      0 < pairs.length ∧ last ≠ [] := by
    rw [last_ne_nil_iff pairs hlast, ← feed_mem_joined_iff hpairs hlast]
    exact ⟨fun ⟨hmem, hfeed⟩ => ⟨hmem, List.ne_nil_of_mem hmem, hfeed⟩,
      fun ⟨hmem, _, hfeed⟩ => ⟨hmem, hfeed⟩⟩
  rw [lastNumber_joined hpairs hlast, length_ofText_joined hpairs hlast, if_congr hends rfl rfl]
  by_cases hempty : last = []
  · rw [if_pos hempty, if_neg fun h => h.2 hempty]
    rfl
  · rw [if_neg hempty, if_congr (and_iff_left hempty) rfl rfl]
    split <;> omega

end Line

/-- The mark of the end of a text is on its last line. -/
theorem Mark.line_atOffset_end (s : List Char) :
    (atOffset s (byteLength s)).line = (Line.ofText s).length - 1 := by
  obtain ⟨pairs, last, hpairs, hlast, rfl⟩ := exists_joined s
  rw [atOffset_joined_end hpairs hlast, Line.length_ofText_joined hpairs hlast, Nat.add_sub_cancel]

/-! ### The last step -/

/-- The last window has the last token and the one before it. -/
theorem Document.getLast?_windows (text : List Char) (ts : List Token) (t : Token) :
    (windows ⟨text, ts ++ [t]⟩).getLast? = some ⟨text, ts.getLast?, t, none, none⟩ := by
  rw [List.getLast?_eq_getElem?, length_windows, getElem?_windows]
  cases ts using List.reverseRec <;> simp

namespace Markers

/-- At the end of the stream an end marker is missing, unless one or nothing stands
before. -/
theorem checkEnd_streamEnd {w : Window} (h : w.kind = .streamEnd) :
    checkEnd ⟨true⟩ w =
      if w.previousKind = some .documentEnd ∨ w.previousKind = some .streamStart then []
      else [⟨max w.token.start.line 1, 1, .missingMarker .stop⟩] := by
  cases hprevious : w.previousKind with
  | none => simp [checkEnd, h, hprevious]
  | some before =>
    rw [checkEnd_eq hprevious, endAt, show w.token.kind = _ from h]
    simp only [Option.some_inj]

/-- **At the end of a stream a missing end marker is reported on the line before the last, or on
the only line.**  That is the last line that holds text, unless a line break stands in the text
and not at its end; in that case the last line that holds text is the next one. -/
theorem streamEnd_reported (s : List Char) (ranges : List (TokenKind × Nat × Nat)) :
    let d := Document.ofRanges s (ranges ++ [(.streamEnd, byteLength s, byteLength s)])
    let before := ranges.getLast?.map (·.1)
    let reported := max ((Line.ofText s).length - 1) 1
    ((Rule.token .documentEnd).steps ⟨true⟩ d).getLast? =
        some (.ok (if before = some .documentEnd ∨ before = some .streamStart then []
          else [⟨reported, 1, .missingMarker .stop⟩])) ∧
      Line.lastNumber s =
        if '\n' ∈ s ∧ s.getLast? ≠ some '\n' then reported + 1 else reported := by
  intro d before reported
  refine ⟨?_, Line.lastNumber_eq s⟩
  have hsteps : (Rule.token .documentEnd).steps ⟨true⟩ d =
      d.windows.map fun w => .ok (checkEnd ⟨true⟩ w) := TokenRule.walk_eq_map (fun _ _ => rfl) ..
  have hd : d = ⟨s, (Document.ofRanges s ranges).tokens ++ [Token.streamEnd s]⟩ := by
    simp [d, Document.ofRanges, Token.streamEnd]
  have hbefore : (Document.ofRanges s ranges).tokens.getLast?.map (·.kind) = before := by
    rw [Document.ofRanges, List.getLast?_map, Option.map_map]
    rfl
  have hline : (Token.streamEnd s).start.line = (Line.ofText s).length - 1 :=
    Mark.line_atOffset_end s
  rw [hsteps, List.getLast?_map, hd, Document.getLast?_windows, Option.map_some,
    checkEnd_streamEnd rfl, Window.previousKind, hbefore, hline]

/-- Two lines, of which the second has no terminator: the first is reported, and the second
is the last one that holds text. -/
theorem streamEnd_unterminated :
    let s := "---\nfoo".toList
    let d := Document.ofRanges s [(.streamStart, 0, 0), (.documentStart, 0, 3),
      (.scalar "foo" .plain, 4, 7), (.streamEnd, 7, 7)]
    (Rule.token .documentEnd).run ⟨true⟩ d =
        [⟨1, 1, .error, "document-end", "missing document end \"...\""⟩] ∧
      Line.lastNumber s = 2 := by
  decide +kernel

end Markers
end YamlStyle
