/-
# Rules on tokens in checked form

The nine rules on tokens, with the operations that can fault.  Marks are data and
need not lie inside the text or be in order: gaps between them are never negative,
a byte past the end of the text is none, and the byte before a mark is looked at only
if there is one.  What is left to ask of marks is that one more than a line or a
column of theirs fits in a word (`Mark.Fits`), since findings count from one.  Then no
rule faults, and each finds what it finds (`Checked.tokenCheck_eq_ok`).
-/

import YamlStyle.Proofs.Checked
import YamlStyle.Proofs.KeyPasses

namespace YamlStyle

/-! ### Marks that fit -/

/-- Line and column fit in a word also when they are counted from one. -/
structure Mark.Fits (m : Mark) : Prop where
  line : m.line + 1 < Checked.wordSize
  column : m.column + 1 < Checked.wordSize

/-- Both marks of a token fit. -/
structure Token.Fits (t : Token) : Prop where
  start : t.start.Fits
  stop : t.stop.Fits

instance (m : Mark) : Decidable m.Fits :=
  decidable_of_iff (m.line + 1 < Checked.wordSize ∧ m.column + 1 < Checked.wordSize)
    ⟨fun h => ⟨h.1, h.2⟩, fun h => ⟨h.line, h.column⟩⟩

instance (t : Token) : Decidable t.Fits :=
  decidable_of_iff (t.start.Fits ∧ t.stop.Fits) ⟨fun h => ⟨h.1, h.2⟩, fun h => ⟨h.start, h.stop⟩⟩

/-- The token of a window and its neighbours fit. -/
structure Window.Fits (w : Window) : Prop where
  token : w.token.Fits
  previous : ∀ t, w.previous = some t → t.Fits
  next : ∀ t, w.next = some t → t.Fits

namespace Checked

/-! ### The rules -/

/-- A finding at a place that is counted from zero. -/
def findingAt (line column : Nat) (problem : Problem) : Checked Finding := do
  let line ← add line 1
  let column ← add column 1
  return ⟨line, column, problem⟩

/-- The gap after the token, at the place of the token. -/
def spacesAfter (w : Window) (limits : SpaceLimits) (delimiter : Delimiter) :
    Checked (Option Finding) :=
  match w.next with
  | none => return none
  | some next =>
    if w.token.stop.line = next.start.line then
      match limits.excess? (next.start.pointer - w.token.stop.pointer) with
      | none => return none
      | some excess =>
        some <$> findingAt w.token.start.line w.token.start.column (.spacing excess .after delimiter)
    else return none

/-- Whether the last byte of a token is a line feed. -/
def endsWithLineFeed (w : Window) (t : Token) : Checked Bool :=
  if 0 < t.stop.pointer then do
    let last ← sub t.stop.pointer 1
    return w.byteAt? last == some 0x0A
  else return false

/-- The gap before the token, at the place where the gap begins. -/
def spacesBefore (w : Window) (limits : SpaceLimits) (delimiter : Delimiter) :
    Checked (Option Finding) :=
  match w.previous with
  | none => return none
  | some previous =>
    if previous.stop.line = w.token.start.line then do
      let ends ← endsWithLineFeed w previous
      if ends then return none
      match limits.excess? (w.token.start.pointer - previous.stop.pointer) with
      | none => return none
      | some excess =>
        some <$> findingAt w.token.start.line previous.stop.column (.spacing excess .before delimiter)
    else return none

/-- The rule on colons. -/
def colons (o : Colons.Options) (w : Window) : Checked (List Finding) :=
  match w.kind with
  | .value =>
    if w.followsAlias then return []
    else do
      let before ← spacesBefore w (.atMost o.maxBefore) .colon
      let after ← spacesAfter w (.atMost o.maxAfter) .colon
      return before.toList ++ after.toList
  | .key =>
    if w.isWrittenKey then Option.toList <$> spacesAfter w (.atMost o.maxAfter) .questionMark
    else return []
  | _ => return []

/-- The gap before a comma. -/
def commaBefore (o : Commas.Options) (w : Window) : Checked (Option Finding) :=
  if w.startsLine then
    if 0 ≤ o.maxBefore.toInt then do
      let line ← add w.token.start.line 1
      return some ⟨line, max w.token.start.column 1, .spacing .tooMany .before .comma⟩
    else return none
  else spacesBefore w (.atMost o.maxBefore) .comma

/-- The rule on commas. -/
def commas (o : Commas.Options) (w : Window) : Checked (List Finding) :=
  if w.kind = .flowEntry then do
    let before ← commaBefore o w
    let after ← spacesAfter w ⟨o.minAfter.toInt, o.maxAfter.toInt⟩ .comma
    return before.toList ++ after.toList
  else return []

/-- The rule on hyphens. -/
def hyphens (o : Hyphens.Options) (w : Window) : Checked (List Finding) :=
  if w.kind = .blockEntry then Option.toList <$> spacesAfter w (.atMost o.maxAfter) .hyphen
  else return []

/-- The rule on markers that open a document. -/
def documentStart (o : Markers.Options) (w : Window) : Checked (List Finding) :=
  if o.present then
    match w.kind with
    | .documentStart | .directive | .streamEnd => return []
    | _ =>
      if Markers.atDocumentStart w then do
        let line ← add w.token.start.line 1
        return [⟨line, 1, .missingMarker .start⟩]
      else return []
  else if w.kind = .documentStart then
    List.singleton <$> findingAt w.token.start.line w.token.start.column (.forbiddenMarker .start)
  else return []

/-- The rule on markers that close a document. -/
def documentEnd (o : Markers.Options) (w : Window) : Checked (List Finding) :=
  if o.present then
    match w.kind, w.previousKind with
    | .streamEnd, some .documentEnd | .streamEnd, some .streamStart => return []
    | .streamEnd, _ => return [⟨max w.token.start.line 1, 1, .missingMarker .stop⟩]
    | .documentStart, some .documentEnd | .documentStart, some .streamStart
    | .documentStart, some .directive => return []
    | .documentStart, _ => do
      let line ← add w.token.start.line 1
      return [⟨line, 1, .missingMarker .stop⟩]
    | _, _ => return []
  else if w.kind = .documentEnd then
    List.singleton <$> findingAt w.token.start.line w.token.start.column (.forbiddenMarker .stop)
  else return []

/-- The rule on values that are left out. -/
def emptyValues (o : EmptyValues.Options) (w : Window) : Checked (List Finding) :=
  match w.next.bind fun next => EmptyValues.place? w.kind next.kind with
  | some place =>
    if o.forbids place then
      List.singleton <$> findingAt w.token.start.line w.token.stop.column (.emptyValue place)
    else return []
  | none => return []

/-- The rule on octal numbers. -/
def octalValues (o : OctalValues.Options) (w : Window) : Checked (List Finding) :=
  match w.previousKind, w.kind with
  | some .tag, _ => return []
  | _, .scalar text .plain =>
    match OctalValues.form? o text.toList with
    | some form =>
      List.singleton <$> findingAt w.token.start.line w.token.stop.column (.octalValue form text)
    | none => return []
  | _, _ => return []

/-- A key with a problem, at the place of its scalar. -/
def keyFinding (v : KeyVisit) (problem : Problem) : Checked Finding :=
  findingAt v.scalar.start.line v.scalar.start.column problem

/-- What the rule on repeated keys does at a key. -/
def visitDuplicates (n : Nesting) (v : KeyVisit) : Checked (Nesting × List Finding) :=
  if v.earlier.contains v.key then do
    let finding ← keyFinding v (.duplicateKey v.key)
    return (n, [finding])
  else return (n.record v.key, [])

/-- What the rule on the order of keys does at a key. -/
def visitOrdering (o : KeyOrdering.Options) (n : Nesting) (v : KeyVisit) :
    Checked (Nesting × List Finding) :=
  if o.ignores v.key then return (n, [])
  else if v.earlier.any fun seen => Text.precedes v.key.toList seen.toList then do
    let finding ← keyFinding v (.misorderedKey v.key)
    return (n, [finding])
  else return (n.record v.key, [])

/-- One token of a walk that visits keys. -/
def keyStep (visit : Nesting → KeyVisit → Checked (Nesting × List Finding)) (n : Nesting)
    (w : Window) : Checked StepResult :=
  match n.advance w.token with
  | .error cause => return .error cause
  | .ok n =>
    match n.visit? w with
    | some v => .ok <$> visit n v
    | none => return .ok (n, [])

/-- One token of a rule's walk. -/
def tokenCheck : (r : TokenRule) → r.Options → Nesting → Window → Checked StepResult
  | .colons, o, n, w => (fun found => .ok (n, found)) <$> colons o w
  | .commas, o, n, w => (fun found => .ok (n, found)) <$> commas o w
  | .documentEnd, o, n, w => (fun found => .ok (n, found)) <$> documentEnd o w
  | .documentStart, o, n, w => (fun found => .ok (n, found)) <$> documentStart o w
  | .emptyValues, o, n, w => (fun found => .ok (n, found)) <$> emptyValues o w
  | .hyphens, o, n, w => (fun found => .ok (n, found)) <$> hyphens o w
  | .keyDuplicates, _, n, w => keyStep visitDuplicates n w
  | .keyOrdering, o, n, w => keyStep (visitOrdering o) n w
  | .octalValues, o, n, w => (fun found => .ok (n, found)) <$> octalValues o w

/-! ### Each rule on a window -/

/-- A place that can be counted is reported. -/
theorem findingAt_eq_ok {line column : Nat} (hline : line + 1 < wordSize)
    (hcolumn : column + 1 < wordSize) (problem : Problem) :
    findingAt line column problem = .ok ⟨line + 1, column + 1, problem⟩ := by
  rw [findingAt, add_eq_ok hline, ok_bind, add_eq_ok hcolumn]
  rfl

/-- A line at the end of the range of a word cannot be counted from one. -/
example (problem : Problem) : findingAt 18446744073709551615 0 problem = .error .overflow := rfl

/-- The byte before a mark is looked at only if there is one. -/
theorem endsWithLineFeed_eq_ok (w : Window) (t : Token) :
    endsWithLineFeed w t = .ok (w.endsWithLineFeed t) := by
  unfold endsWithLineFeed Window.endsWithLineFeed
  by_cases hpos : 0 < t.stop.pointer
  · simp [hpos, sub_eq_ok (show 1 ≤ t.stop.pointer from hpos)]
  · simp [hpos]

/-- A key that is visited is the next token. -/
theorem next_of_visit? {w : Window} {n : Nesting} {v : KeyVisit} (h : n.visit? w = some v) :
    w.next = some v.scalar := by
  unfold Nesting.visit? at h
  split at h
  next keys outer key scalar hframes hkey =>
    cases h
    unfold Window.key? at hkey
    split at hkey
    next text style start stop hkind hnext =>
      split_ifs at hkey
      cases hkey
      exact hnext
    next => cases hkey
  next => cases h

/-- A walk that visits keys faults at a key only. -/
theorem keyStep_eq_ok {w : Window} {visit : Nesting → KeyVisit → Checked (Nesting × List Finding)}
    {plain : Nesting → KeyVisit → Nesting × List Finding}
    (h : ∀ n v, n.visit? w = some v → visit n v = .ok (plain n v)) (n : Nesting) :
    keyStep visit n w = .ok (n.checkWith plain w) := by
  unfold keyStep Nesting.checkWith
  cases n.advance w.token with
  | error cause => rfl
  | ok next =>
    simp only [bind, Except.bind]
    cases hv : next.visit? w with
    | none => rfl
    | some v =>
      dsimp only
      rw [h next v hv]
      rfl

section Fits

variable {w : Window} (h : w.Fits)
include h

/-- The gap after a token is measured without a fault. -/
theorem spacesAfter_eq_ok (limits : SpaceLimits) (delimiter : Delimiter) :
    spacesAfter w limits delimiter = .ok (w.spacesAfter limits delimiter) := by
  unfold spacesAfter Window.spacesAfter
  cases w.next with
  | none => rfl
  | some next =>
    by_cases hline : w.token.stop.line = next.start.line
    · cases hexcess : limits.excess? (next.start.pointer - w.token.stop.pointer) with
      | none => simp [hline, hexcess]
      | some excess =>
        simp [hline, hexcess, findingAt_eq_ok h.token.start.line h.token.start.column]
    · simp [hline]

/-- The gap before a token is measured without a fault. -/
theorem spacesBefore_eq_ok (limits : SpaceLimits) (delimiter : Delimiter) :
    spacesBefore w limits delimiter = .ok (w.spacesBefore limits delimiter) := by
  unfold spacesBefore Window.spacesBefore
  cases hprevious : w.previous with
  | none => rfl
  | some previous =>
    have hcolumn := (h.previous previous hprevious).stop.column
    by_cases hline : previous.stop.line = w.token.start.line
    · cases hends : w.endsWithLineFeed previous with
      | true => simp [hline, hends, endsWithLineFeed_eq_ok]
      | false =>
        cases hexcess : limits.excess? (w.token.start.pointer - previous.stop.pointer) with
        | none => simp [hline, hends, endsWithLineFeed_eq_ok, hexcess]
        | some excess =>
          simp [hline, hends, endsWithLineFeed_eq_ok, hexcess,
            findingAt_eq_ok h.token.start.line hcolumn]
    · simp [hline]

/-- The rule on colons does not fault. -/
theorem colons_eq_ok (o : Colons.Options) : colons o w = .ok (Colons.check o w) := by
  fun_cases Colons.check o w <;>
    simp_all [colons, spacesBefore_eq_ok h, spacesAfter_eq_ok h]

/-- Before a comma nothing faults. -/
theorem commaBefore_eq_ok (o : Commas.Options) :
    commaBefore o w = .ok (Commas.checkBefore o w) := by
  unfold commaBefore Commas.checkBefore
  rw [spacesBefore_eq_ok h, add_eq_ok h.token.start.line]
  split_ifs <;> rfl

/-- The rule on commas does not fault. -/
theorem commas_eq_ok (o : Commas.Options) : commas o w = .ok (Commas.check o w) := by
  unfold commas Commas.check
  rw [commaBefore_eq_ok h, spacesAfter_eq_ok h]
  split_ifs <;> rfl

/-- The rule on hyphens does not fault. -/
theorem hyphens_eq_ok (o : Hyphens.Options) : hyphens o w = .ok (Hyphens.check o w) := by
  unfold hyphens Hyphens.check
  rw [spacesAfter_eq_ok h]
  split_ifs <;> rfl

/-- The rule on starts of documents does not fault. -/
theorem documentStart_eq_ok (o : Markers.Options) :
    documentStart o w = .ok (Markers.checkStart o w) := by
  have hplace := findingAt_eq_ok h.token.start.line h.token.start.column
  fun_cases Markers.checkStart o w <;>
    simp_all [documentStart, add_eq_ok h.token.start.line, List.singleton]

/-- The rule on ends of documents does not fault. -/
theorem documentEnd_eq_ok (o : Markers.Options) :
    documentEnd o w = .ok (Markers.checkEnd o w) := by
  have hplace := findingAt_eq_ok h.token.start.line h.token.start.column
  fun_cases Markers.checkEnd o w <;>
    simp_all [documentEnd, add_eq_ok h.token.start.line, List.singleton]

/-- The rule on empty values does not fault. -/
theorem emptyValues_eq_ok (o : EmptyValues.Options) :
    emptyValues o w = .ok (EmptyValues.check o w) := by
  have hplace := findingAt_eq_ok h.token.start.line h.token.stop.column
  unfold emptyValues EmptyValues.check
  cases w.next.bind fun next => EmptyValues.place? w.kind next.kind with
  | none => rfl
  | some place =>
    dsimp only
    rw [hplace]
    split_ifs <;> rfl

/-- The rule on octal values does not fault. -/
theorem octalValues_eq_ok (o : OctalValues.Options) :
    octalValues o w = .ok (OctalValues.check o w) := by
  have hplace := findingAt_eq_ok h.token.start.line h.token.stop.column
  fun_cases OctalValues.check o w <;> simp_all [octalValues, List.singleton]

/-- A key is reported without a fault. -/
theorem keyFinding_eq_ok {n : Nesting} {v : KeyVisit} (hv : n.visit? w = some v)
    (problem : Problem) : keyFinding v problem = .ok (v.finding problem) := by
  have hmark := (h.next v.scalar (next_of_visit? hv)).start
  exact findingAt_eq_ok hmark.line hmark.column problem

/-- A key is compared with its equals without a fault. -/
theorem visitDuplicates_eq_ok {n : Nesting} {v : KeyVisit} (hv : n.visit? w = some v) :
    visitDuplicates n v = .ok (KeyDuplicates.visit n v) := by
  unfold visitDuplicates KeyDuplicates.visit
  rw [keyFinding_eq_ok h hv]
  split_ifs <;> rfl

/-- A key is compared with those before it without a fault. -/
theorem visitOrdering_eq_ok (o : KeyOrdering.Options) {n : Nesting} {v : KeyVisit}
    (hv : n.visit? w = some v) : visitOrdering o n v = .ok (KeyOrdering.visit o n v) := by
  unfold visitOrdering KeyOrdering.visit
  rw [keyFinding_eq_ok h hv]
  split_ifs <;> rfl

/-- **No rule on tokens faults on a window that fits.** -/
theorem tokenCheck_eq_ok (r : TokenRule) (o : r.Options) (n : Nesting) :
    tokenCheck r o n w = .ok (r.check o n w) := by
  cases r with
  | colons => rw [tokenCheck, colons_eq_ok h]; rfl
  | commas => rw [tokenCheck, commas_eq_ok h]; rfl
  | documentEnd => rw [tokenCheck, documentEnd_eq_ok h]; rfl
  | documentStart => rw [tokenCheck, documentStart_eq_ok h]; rfl
  | emptyValues => rw [tokenCheck, emptyValues_eq_ok h]; rfl
  | hyphens => rw [tokenCheck, hyphens_eq_ok h]; rfl
  | keyDuplicates => exact keyStep_eq_ok (fun _ _ hv => visitDuplicates_eq_ok h hv) n
  | keyOrdering => exact keyStep_eq_ok (fun _ _ hv => visitOrdering_eq_ok h o hv) n
  | octalValues => rw [tokenCheck, octalValues_eq_ok h]; rfl

end Fits

end Checked
end YamlStyle
