/-
# Long lines and white space at their end

Two rules look at the content of one line at a time, and each finds one thing in it at most
(`Rule.run_line_eq_map`).

The rule on the length of lines excuses a content that cannot be broken.  It skips the
indentation, then a sign and one character more, whatever that is, and looks for a space in
what is left.  Said without skipping: after the indentation there is a text, and only a sign
can stand before a space in it (`LineLength.Unbreakable`).  The two agree because the sign is
taken as long as it can be (`LineLength.afterSign_cases`).

The rule on white space at the end of a line takes it as long as it can be, too, and what is
left is the body of the content (`TrailingSpaces.Trimmed`).  Looking for it byte by byte, from
the end of the line back to its start, leads to the same place, which lies between two
characters (`TrailingSpaces.stepBack_eq`).
-/

import Mathlib.Data.List.DropRight
import YamlStyle.Proofs.LineFaults
import YamlStyle.Proofs.Pointing

namespace YamlStyle

/-- A rule that finds one thing at most in a line reports the lines in which it does. -/
theorem Rule.run_line_eq_map {r : LineRule} {options : r.Options} {d : Document}
    {p : Line → Prop} [DecidablePred p] {finding : Line → Finding}
    (h : ∀ l ∈ Line.ofText d.text, r.check options l = if p l then [finding l] else []) :
    (line r).run options d =
      ((Line.ofText d.text).filter p).map fun l => (finding l).report r.name .error := by
  rw [run_line, List.flatMap_congr h]
  generalize Line.ofText d.text = lines
  induction lines with
  | nil => rfl
  | cons l lines ih =>
    rw [List.flatMap_cons, List.map_append, ih, List.filter_cons]
    by_cases hl : p l <;> simp [hl]

/-- The characters at the beginning of a text that are a given one, written as copies of it. -/
theorem Text.takeWhile_eq_replicate (c : Char) (s : List Char) :
    s.takeWhile (· = c) = List.replicate (s.takeWhile (· = c)).length c :=
  List.eq_replicate_of_mem fun x hx => by simpa using List.mem_takeWhile_imp hx

namespace LineLength

/-! ### Contents that cannot be broken -/

/-- The sign of a comment, which is one number sign or more, or of an entry, which is one
dash. -/
inductive IsSign : List Char → Prop where
  | comment (n : Nat) : IsSign (List.replicate (n + 1) '#')
  | entry : IsSign ['-']

/-- After the indentation there is a text, and only a sign can stand before a space in it. -/
def Unbreakable (content : List Char) : Prop :=
  ∃ indent text, content = List.replicate indent ' ' ++ text ∧ text ≠ [] ∧
    text.head? ≠ some ' ' ∧ ∀ front back, text = front ++ ' ' :: back → IsSign front

/-- A sign has no space in it. -/
theorem IsSign.space_not_mem {sign : List Char} (h : IsSign sign) : ' ' ∉ sign := by
  cases h with
  | comment n => simp [List.mem_replicate]
  | entry => decide

/-- A sign begins with a number sign, and then it holds nothing else, or it is a dash. -/
theorem IsSign.of_cons {c : Char} {rest : List Char} (h : IsSign (c :: rest)) :
    (c = '#' ∧ ∀ x ∈ rest, x = '#') ∨ (c = '-' ∧ rest = []) := by
  generalize hsign : c :: rest = sign at h
  cases h with
  | comment n =>
    rw [List.replicate_succ] at hsign
    obtain ⟨rfl, rfl⟩ := List.cons.inj hsign
    exact Or.inl ⟨rfl, fun x hx => List.eq_of_mem_replicate hx⟩
  | entry => exact Or.inr (List.cons.inj hsign)

/-- What is left after a sign follows one that is as long as it can be; and without a sign
everything is left. -/
theorem afterSign_cases (text : List Char) :
    (∃ sign rest, IsSign sign ∧ text = sign ++ rest ∧ afterSign text = rest.drop 1 ∧
      ∀ c more, c :: more <+: rest → ¬ IsSign (sign ++ c :: more)) ∨
    afterSign text = text ∧ ∀ sign, IsSign sign → ¬ sign <+: text := by
  fun_cases afterSign text with
  | case1 s =>
    refine Or.inl ⟨'#' :: s.takeWhile (· = '#'), s.dropWhile (· = '#'), ?_, ?_, rfl, ?_⟩
    · rw [Text.takeWhile_eq_replicate, ← List.replicate_succ]
      exact IsSign.comment _
    · rw [List.cons_append, List.takeWhile_append_dropWhile]
    · rintro c more ⟨back, hrest⟩ hsign
      have hnot := List.head?_dropWhile_not (· = '#') s
      rw [← hrest] at hnot
      rcases hsign.of_cons with ⟨-, hall⟩ | ⟨habsurd, -⟩
      · exact absurd (hall c (by simp)) (by simpa using hnot)
      · exact absurd habsurd (by decide)
  | case2 s =>
    refine Or.inl ⟨['-'], s, IsSign.entry, rfl, rfl, fun c more _ hsign => ?_⟩
    rcases hsign.of_cons with ⟨habsurd, -⟩ | ⟨-, hnil⟩
    · exact absurd habsurd (by decide)
    · cases hnil
  | case3 _ hcomment hentry =>
    refine Or.inr ⟨rfl, ?_⟩
    rintro sign hsign ⟨back, rfl⟩
    cases hsign with
    | comment n => exact hcomment _ (by rw [List.replicate_succ]; rfl)
    | entry => exact hentry _ rfl

/-- A space is left after the sign if something that is no sign stands before it. -/
theorem space_mem_afterSign_iff {text : List Char} :
    ' ' ∈ afterSign text ↔ ∃ front back, text = front ++ ' ' :: back ∧ ¬ IsSign front := by
  rcases afterSign_cases text with ⟨sign, rest, hsign, rfl, hafter, hlongest⟩ | ⟨hafter, hnone⟩
  · rw [hafter]
    constructor
    · intro hspace
      cases rest with
      | nil => cases hspace
      | cons c rest =>
        obtain ⟨front, back, rfl⟩ := List.append_of_mem (show ' ' ∈ rest from hspace)
        refine ⟨sign ++ c :: front, back, by simp, hlongest c front ⟨' ' :: back, rfl⟩⟩
    · rintro ⟨front, back, htext, hfront⟩
      -- the space stands behind the sign, since a sign holds none
      rcases List.append_eq_append_iff.1 htext with ⟨more, rfl, rfl⟩ | ⟨more, rfl, hback⟩
      · cases more with
        | nil => exact absurd hsign (by simpa using hfront)
        | cons c more => simp
      · cases more with
        | nil => exact absurd hsign (by simpa using hfront)
        | cons c more =>
          obtain ⟨rfl, -⟩ := List.cons.inj hback
          exact absurd (by simp) hsign.space_not_mem
  · rw [hafter]
    constructor
    · intro hspace
      obtain ⟨front, back, rfl⟩ := List.append_of_mem hspace
      exact ⟨front, back, rfl, fun hsign => hnone front hsign ⟨_, rfl⟩⟩
    · rintro ⟨front, back, rfl, -⟩
      simp

/-- **A content is excused if it cannot be broken.** -/
theorem isSingleWord_iff {content : List Char} :
    isSingleWord content = true ↔ Unbreakable content := by
  have hword {text : List Char} :
      (afterSign text).contains ' ' = false ↔
        ∀ front back, text = front ++ ' ' :: back → IsSign front := by
    rw [Bool.eq_false_iff, ne_eq, List.contains_iff_mem, space_mem_afterSign_iff]
    simp only [not_exists, not_and, not_not]
  have hsingle : isSingleWord content = true ↔
      content.dropWhile (· = ' ') ≠ [] ∧ ∀ front back,
        content.dropWhile (· = ' ') = front ++ ' ' :: back → IsSign front := by
    rw [← hword, isSingleWord]
    simp
  rw [hsingle, Unbreakable]
  constructor
  · rintro ⟨hne, hsigns⟩
    refine ⟨(content.takeWhile (· = ' ')).length, content.dropWhile (· = ' '), ?_, hne, ?_, hsigns⟩
    · rw [← Text.takeWhile_eq_replicate, List.takeWhile_append_dropWhile]
    · intro hspace
      have hnot := List.head?_dropWhile_not (· = ' ') content
      rw [hspace] at hnot
      simp at hnot
  · rintro ⟨indent, text, rfl, hne, hhead, hsigns⟩
    have htext : (List.replicate indent ' ' ++ text).dropWhile (· = ' ') = text := by
      rw [List.dropWhile_append_of_pos fun c hc => by simpa using List.eq_of_mem_replicate hc]
      cases text with
      | nil => rfl
      | cons c text => exact List.dropWhile_cons_of_neg (by simpa using hhead)
    rw [htext]
    exact ⟨hne, hsigns⟩

instance (content : List Char) : Decidable (Unbreakable content) :=
  decidable_of_iff _ isSingleWord_iff

/-- The first space after a sign is no place for a break, and the second one is. -/
example : Unbreakable "  ## a".toList ∧ ¬ Unbreakable "##  a".toList := by decide +kernel

/-- A line is reported if it is too long and not excused. -/
theorem check_eq (o : Options) (l : Line) :
    check o l =
      if o.max.toNat < l.content.length ∧ ¬ (o.allowLongWords = true ∧ Unbreakable l.content) then
        [⟨l.number, o.max.toNat + 1, .lineTooLong l.content.length o.max.toNat⟩]
      else [] := by
  have hskip : (l.charLength ≤ o.max.toNat || o.allowLongWords && isSingleWord l.content) = true ↔
      ¬ (o.max.toNat < l.content.length ∧
        ¬ (o.allowLongWords = true ∧ Unbreakable l.content)) := by
    rw [Bool.or_eq_true, Bool.and_eq_true, decide_eq_true_eq, isSingleWord_iff, not_and_or, not_not,
      Nat.not_lt, Line.charLength]
  rw [check, if_congr hskip rfl rfl, ite_not]
  rfl

/-- **The lines that are too long and can be broken are reported.**  There is one diagnostic
for each line with more characters than the limit, in the order of the lines and where the
limit is passed, unless contents that cannot be broken are excused and the line has one. -/
theorem run_eq_breakable (o : Options) (d : Document) :
    (Rule.line .lineLength).run o d =
      ((Line.ofText d.text).filter fun l =>
        o.max.toNat < l.content.length ∧ ¬ (o.allowLongWords = true ∧ Unbreakable l.content)).map
      fun l => ⟨l.number, o.max.toNat + 1, .error, "line-length",
        s!"line too long ({l.content.length} > {o.max.toNat} characters)"⟩ := by
  rw [Rule.run_line_eq_map (r := .lineLength) fun l _ => check_eq o l]
  rfl

end LineLength

namespace TrailingSpaces

/-! ### White space at the end -/

/-- The characters that white space at the end of a line is made of. -/
def blanks : List Char := [' ', '\t', '\r', '\x0b', '\x0c']

/-- Blank are the characters that can trail a content, and the line feed, which no content has. -/
theorem isBlank_iff {c : Char} : isBlank c = true ↔ c ∈ blanks ∨ c = '\n' := by
  simp only [isBlank, blanks, Bool.or_eq_true, decide_eq_true_eq, List.mem_cons, List.not_mem_nil,
    or_false]
  tauto

/-- A content taken apart before the white space at its end, which is as long as it can be. -/
structure Trimmed (content : List Char) where
  body : List Char
  run : List Char
  append_eq : body ++ run = content
  blank : ∀ c ∈ run, c ∈ blanks
  longest : ∀ tail, tail <:+ content → (∀ c ∈ tail, c ∈ blanks) → tail.length ≤ run.length

/-- An end that is accepted throughout is part of the longest one. -/
theorem suffix_rtakeWhile {p : Char → Bool} {content tail : List Char} (h : tail <:+ content)
    (htail : ∀ c ∈ tail, p c = true) : tail <:+ content.rtakeWhile p := by
  obtain ⟨front, rfl⟩ := h
  rw [List.rtakeWhile, List.reverse_append,
    List.takeWhile_append_of_pos fun c hc => htail c (List.mem_reverse.1 hc), List.reverse_append,
    List.reverse_reverse]
  exact List.suffix_append _ _

/-- The one way to take a content apart like this. -/
def trim (content : List Char) : Trimmed content where
  body := content.rdropWhile (· ∈ blanks)
  run := content.rtakeWhile (· ∈ blanks)
  append_eq := List.rdropWhile_append_rtakeWhile
  blank c hc := by simpa using List.mem_rtakeWhile_imp hc
  longest tail htail hblank :=
    (suffix_rtakeWhile htail fun c hc => decide_eq_true (hblank c hc)).length_le

namespace Trimmed

variable {content : List Char}

/-- Whether the white space at the end shows: it begins with a space or a tab. -/
def Shows (t : Trimmed content) : Prop := t.run.head? = some ' ' ∨ t.run.head? = some '\t'

instance (t : Trimmed content) : Decidable t.Shows :=
  inferInstanceAs (Decidable (_ ∨ _))

/-- Where there is no line feed, this is the white space that the rule finds. -/
theorem trailing_eq (t : Trimmed content) (h : '\n' ∉ content) : trailing content = t.run := by
  have hrun : t.run <:+ trailing content :=
    suffix_rtakeWhile ⟨t.body, t.append_eq⟩ fun c hc => isBlank_iff.2 (Or.inl (t.blank c hc))
  have htrailing : trailing content <:+ content := List.rtakeWhile_suffix _ _
  refine (hrun.eq_of_length_le (t.longest _ htrailing fun c hc => ?_)).symm
  have hfeed : c ≠ '\n' := fun hfeed => h (hfeed ▸ htrailing.subset hc)
  exact (isBlank_iff.1 (Checked.isBlank_of_mem_trailing hc)).resolve_right hfeed

/-- What is kept of a content is its body. -/
theorem kept_eq (t : Trimmed content) (h : '\n' ∉ content) : Checked.kept content = t.body := by
  have happend := (Checked.kept_append_trailing content).trans t.append_eq.symm
  rw [t.trailing_eq h] at happend
  exact List.append_cancel_right happend

end Trimmed

/-- A line is reported if it has something to trim, right after its body. -/
theorem check_eq {l : Line} (h : '\n' ∉ l.content) :
    check l =
      if (trim l.content).Shows then [⟨l.number, (trim l.content).body.length + 1, .trailingSpaces⟩]
      else [] := by
  have hcolumn : l.content.length - (trim l.content).run.length = (trim l.content).body.length := by
    have hlength := congrArg List.length (trim l.content).append_eq
    rw [List.length_append] at hlength
    omega
  rw [check, (trim l.content).trailing_eq h, hcolumn]
  split
  · rename_i hrun
    exact (if_pos (Or.inl (congrArg List.head? hrun))).symm
  · rename_i hrun
    exact (if_pos (Or.inr (congrArg List.head? hrun))).symm
  · rename_i hspace htab
    refine (if_neg ?_).symm
    rintro (hhead | hhead)
    · obtain ⟨rest, hrun⟩ := List.head?_eq_some_iff.1 hhead
      exact hspace rest hrun
    · obtain ⟨rest, hrun⟩ := List.head?_eq_some_iff.1 hhead
      exact htab rest hrun

/-! ### White space by bytes -/

open Text

/-- Steps back over bytes of white space, from an offset down to a floor at most. -/
def stepBack (bs : List UInt8) (floor : Nat) : Nat → Nat
  | 0 => 0
  | pos + 1 =>
    if floor ≤ pos ∧ bs[pos]?.any Checked.isBlankByte = true then stepBack bs floor pos else pos + 1

/-- Steps over bytes are steps over characters, each of which is one byte. -/
theorem stepBack_bytes (base near back : List Char) :
    stepBack (bytes (base ++ near.reverse ++ back)) (byteLength base)
        (byteLength base + byteLength near) =
      byteLength base + byteLength (near.dropWhile isBlank) := by
  induction near generalizing back with
  | nil =>
    rw [List.dropWhile_nil, byteLength_nil, Nat.add_zero]
    cases byteLength base with
    | zero => rfl
    | succ floor => exact if_neg fun h => Nat.not_succ_le_self floor h.1
  | cons c near ih =>
    have hsize : 0 < c.utf8Size := c.utf8Size_pos
    have htext : base ++ (c :: near).reverse ++ back = base ++ near.reverse ++ [c] ++ back := by
      simp
    obtain ⟨pos, hpos⟩ : ∃ pos, byteLength base + byteLength (c :: near) = pos + 1 :=
      ⟨byteLength base + byteLength (c :: near) - 1, by rw [byteLength_cons]; omega⟩
    have hbyte : (bytes (base ++ (c :: near).reverse ++ back))[pos]? = some (lastByte c) := by
      have hend : byteLength (base ++ near.reverse ++ [c]) = pos + 1 := by
        rw [← hpos]
        simp
        omega
      have hlast := getElem?_lastByte (base ++ near.reverse) c back
      rwa [hend, Nat.add_sub_cancel, ← htext] at hlast
    rw [hpos, stepBack, hbyte, Option.any_some, Checked.isBlankByte_lastByte, List.dropWhile_cons]
    cases hc : isBlank c with
    | false => simp [← hpos]
    | true =>
      have hbefore : pos = byteLength base + byteLength near := by
        rw [byteLength_cons, Checked.utf8Size_of_isBlank hc] at hpos
        omega
      rw [if_pos ⟨by omega, rfl⟩, hbefore, htext, List.append_assoc, ih]
      rfl

/-- **Stepping back from the end of a line leads to the end of its body.** -/
theorem stepBack_eq {l : Line} {s : List Char} (h : l.Cuts s) (hfeed : '\n' ∉ l.content) :
    stepBack (bytes s) l.start l.stop = l.start + byteLength (trim l.content).body := by
  have hsteps := stepBack_bytes l.behind.reverse l.content.reverse l.ahead
  rw [List.reverse_reverse, h, byteLength_reverse, byteLength_reverse] at hsteps
  rw [← (trim l.content).kept_eq hfeed, Checked.kept, byteLength_reverse]
  exact hsteps

/-- **The lines with white space at their end are reported if it begins with a space or a
tab.**  There is one diagnostic for each, in the order of the lines and right after the body
of the line.  Bytes that are looked at from the end of a line back to its start lead to the
same place: not before the line, and between two characters. -/
theorem run_eq_shows (o : NoOptions) (d : Document) :
    (Rule.line .trailingSpaces).run o d =
        ((Line.ofText d.text).filter fun l => (trim l.content).Shows).map
          (fun l => ⟨l.number, (trim l.content).body.length + 1, .error, "trailing-spaces",
            "trailing spaces"⟩) ∧
      ∀ l ∈ Line.ofText d.text,
        let pos := stepBack (bytes d.text) l.start l.stop
        l.start ≤ pos ∧ pos ≤ l.stop ∧ IsBoundary d.text pos ∧
          slice? d.text l.start pos = some (trim l.content).body := by
  have hfeed (l : Line) (hl : l ∈ Line.ofText d.text) : '\n' ∉ l.content :=
    ((Line.decomposition_ofText d.text).contents l hl).2
  refine ⟨?_, fun l hl => ?_⟩
  · rw [Rule.run_line_eq_map (r := .trailingSpaces) fun l hl => check_eq (hfeed l hl)]
    rfl
  · have hcuts := Checked.cuts_of_mem_ofText hl
    have hcontent := congrArg byteLength (trim l.content).append_eq
    have htext : l.behind.reverse ++ (trim l.content).body ++ ((trim l.content).run ++ l.ahead) =
        d.text := by
      rw [← hcuts, List.append_assoc, ← List.append_assoc _ _ l.ahead, (trim l.content).append_eq,
        List.append_assoc]
    have hslice := slice?_append l.behind.reverse (trim l.content).body
      ((trim l.content).run ++ l.ahead)
    rw [htext, byteLength_reverse] at hslice
    rw [byteLength_append] at hcontent
    dsimp only
    rw [stepBack_eq hcuts (hfeed l hl)]
    refine ⟨Nat.le_add_right _ _, ?_, ⟨_, _, htext.symm, ?_⟩, hslice⟩
    · rw [Line.stop]
      omega
    · rw [byteLength_append, byteLength_reverse]
      rfl

/-- White space behind a longer character and before a carriage return of the content, one that
begins with a vertical tab, one that is the whole line, and a line without any. -/
theorem run_eq_shows_returns :
    let d : Document := ⟨"é\t \r\r\na\x0b \n \t\n\ra".toList, []⟩
    (Rule.line .trailingSpaces).run {} d =
        [⟨1, 2, .error, "trailing-spaces", "trailing spaces"⟩,
          ⟨3, 1, .error, "trailing-spaces", "trailing spaces"⟩] ∧
      ∃ l ∈ Line.ofText d.text, l.start = 7 ∧ l.stop = 10 ∧
        stepBack (bytes d.text) l.start l.stop = 8 ∧ IsBoundary d.text 8 ∧
        slice? d.text 7 8 = some ['a'] := by
  intro d
  obtain ⟨hrun, hsteps⟩ := run_eq_shows {} d
  refine ⟨hrun.trans (by decide +kernel), ?_⟩
  have hl : (⟨2, ['\n', '\r', '\r', ' ', '\t', 'é'], ['a', '\x0b', ' '],
      "\n \t\n\ra".toList⟩ : Line) ∈ Line.ofText d.text := by decide +kernel
  obtain ⟨-, -, hboundary, hslice⟩ := hsteps _ hl
  exact ⟨_, hl, by decide, by decide, by decide +kernel, hboundary, hslice⟩

end TrailingSpaces

end YamlStyle
