/-
# Documents of a stream

A stream holds documents between its two ends.  A document has directives, a start marker, a
body and an end marker, of which each can be missing; but without a start marker its body is
not empty, and it can come after another document only if it begins with its start marker or
the other one has an end marker.  These conditions are part of the types here
(`StreamDocument`, `TokenStream`).

The rules on markers see a token and what comes before it, and no documents.  What they find
is a sweep over neighbours (`Markers.flatMap_ofTokens`), which can be cut anywhere if the
last kind before the cut is kept (`Markers.sweep_append`).  After a document that kind tells
whether the document has an end marker (`StreamDocument.opens_lastKind`).  So a document
without a start marker is reported at its first token (`StreamDocument.sweep_startAt`), and
one without an end marker at what follows it, which is the next start marker or the end of
the stream (`StreamDocument.sweep_endAt`).
-/

import Mathlib.Data.List.Chain
import YamlStyle.Proofs.Dispatch

namespace YamlStyle

/-! ### Streams of documents -/

/-- The tokens that stand in the body of a document. -/
def TokenKind.isContent : TokenKind → Bool
  | streamStart | streamEnd | directive | documentStart | documentEnd => false
  | _ => true

/-- One document of a stream. -/
structure StreamDocument where
  directives : List Token
  start : Option Token
  body : List Token
  stop : Option Token
  directives_kind : ∀ t ∈ directives, t.kind = .directive
  start_kind : ∀ t ∈ start, t.kind = .documentStart
  body_kind : ∀ t ∈ body, t.kind.isContent = true
  stop_kind : ∀ t ∈ stop, t.kind = .documentEnd
  /-- A document can be told from nothing. -/
  nonempty : start = none → body ≠ []

namespace StreamDocument

/-- The tokens of a document, in order. -/
def tokens (d : StreamDocument) : List Token :=
  d.directives ++ (d.start.toList ++ (d.body ++ d.stop.toList))

/-- The second document can come right after the first: it begins with its start marker, or
the first one has an end marker. -/
def Separated (d e : StreamDocument) : Prop :=
  d.stop ≠ none ∨ e.directives = [] ∧ e.start ≠ none

end StreamDocument

/-- A stream of documents. -/
structure TokenStream where
  first : Token
  documents : List StreamDocument
  last : Token
  first_kind : first.kind = .streamStart
  last_kind : last.kind = .streamEnd
  separated : documents.IsChain StreamDocument.Separated

namespace TokenStream

/-- The tokens of a stream, in order. -/
def tokens (s : TokenStream) : List Token :=
  s.first :: (s.documents.flatMap (·.tokens) ++ [s.last])

end TokenStream

/-! ### Neighbours -/

namespace Markers

/-- Whether a document can begin after a token. -/
def opens : TokenKind → Bool
  | .streamStart | .documentEnd | .directive => true
  | _ => false

/-- What is found at a token if a start marker is required, by the kind before it. -/
def startAt (before : TokenKind) (t : Token) : List Finding :=
  match t.kind with
  | .documentStart | .directive | .streamEnd => []
  | _ => if opens before then [⟨t.start.line + 1, 1, .missingMarker .start⟩] else []

/-- What is found at a token if an end marker is required, by the kind before it. -/
def endAt (before : TokenKind) (t : Token) : List Finding :=
  match t.kind with
  | .streamEnd =>
    if before = .documentEnd ∨ before = .streamStart then []
    else [⟨max t.start.line 1, 1, .missingMarker .stop⟩]
  | .documentStart =>
    if opens before then [] else [⟨t.start.line + 1, 1, .missingMarker .stop⟩]
  | _ => []

/-- The rule on start markers looks at a token and the kind before it. -/
theorem checkStart_eq {w : Window} {before : TokenKind} (h : w.previousKind = some before) :
    checkStart ⟨true⟩ w = startAt before w.token := by
  have hopens : atDocumentStart w = opens before := by
    rw [atDocumentStart, h]
    cases before <;> rfl
  rw [checkStart, startAt, hopens]
  rfl

/-- The rule on end markers looks at a token and the kind before it. -/
theorem checkEnd_eq {w : Window} {before : TokenKind} (h : w.previousKind = some before) :
    checkEnd ⟨true⟩ w = endAt before w.token := by
  unfold checkEnd endAt Window.kind
  rw [h]
  cases w.token.kind with
  | streamEnd => cases before <;> rfl
  | documentStart => cases before <;> rfl
  | _ => rfl

/-- What is found along tokens, by the kind before each. -/
def sweep (found : TokenKind → Token → List Finding) : TokenKind → List Token → List Finding
  | _, [] => []
  | before, t :: ts => found before t ++ sweep found t.kind ts

/-- The kind of the last token, or the given one if there is none. -/
def lastKind : TokenKind → List Token → TokenKind
  | before, [] => before
  | _, t :: ts => lastKind t.kind ts

section

variable {found : TokenKind → Token → List Finding}

/-- What depends on the token and the kind before it only is found by a sweep. -/
theorem flatMap_ofTokens {check : Window → List Finding}
    (h : ∀ {w : Window} {before : TokenKind}, w.previousKind = some before →
      check w = found before w.token) (text : List Char) (previous : Token) (ts : List Token) :
    (Window.ofTokens text (some previous) ts).flatMap check = sweep found previous.kind ts := by
  induction ts generalizing previous with
  | nil => rfl
  | cons t ts ih => rw [Window.ofTokens, List.flatMap_cons, ih, h rfl, sweep]

/-- A sweep goes on with the kind that the first part ends with. -/
theorem sweep_append (before : TokenKind) (xs ys : List Token) :
    sweep found before (xs ++ ys) = sweep found before xs ++ sweep found (lastKind before xs) ys := by
  induction xs generalizing before with
  | nil => rfl
  | cons t xs ih => rw [List.cons_append, sweep, sweep, lastKind, ih, List.append_assoc]

/-- Tokens at which nothing is found, whatever comes before them. -/
theorem sweep_eq_nil {xs : List Token} (h : ∀ t ∈ xs, ∀ before, found before t = [])
    (before : TokenKind) : sweep found before xs = [] := by
  induction xs generalizing before with
  | nil => rfl
  | cons t xs ih =>
    rw [List.forall_mem_cons] at h
    rw [sweep, h.1, ih h.2, List.nil_append]

end

/-- The last kind is that of the later part, if there is one. -/
theorem lastKind_append (before : TokenKind) (xs ys : List Token) :
    lastKind before (xs ++ ys) = lastKind (lastKind before xs) ys := by
  induction xs generalizing before with
  | nil => rfl
  | cons t xs ih => rw [List.cons_append, lastKind, lastKind, ih]

/-- What holds for all kinds holds for the last one. -/
theorem lastKind_of_forall {p : TokenKind → Prop} {before : TokenKind} (hbefore : p before)
    {xs : List Token} (hkinds : ∀ t ∈ xs, p t.kind) : p (lastKind before xs) := by
  induction xs generalizing before with
  | nil => exact hbefore
  | cons t xs ih =>
    rw [List.forall_mem_cons] at hkinds
    exact ih hkinds.1 hkinds.2

/-- Inside a body no document can begin. -/
theorem opens_of_isContent {kind : TokenKind} (h : kind.isContent = true) : opens kind = false := by
  cases kind with
  | streamStart | documentEnd | directive => cases h
  | _ => rfl

/-- Where no document can begin, no start marker is missing. -/
theorem startAt_of_not_opens {before : TokenKind} (h : opens before = false) (t : Token) :
    startAt before t = [] := by
  unfold startAt
  rw [h]
  split <;> rfl

/-- Where a document can begin, content has a start marker missing. -/
theorem startAt_of_opens {before : TokenKind} (h : opens before = true) {t : Token}
    (ht : t.kind.isContent = true) :
    startAt before t = [⟨t.start.line + 1, 1, .missingMarker .start⟩] := by
  unfold startAt
  rw [h]
  split
  case h_1 hkind | h_2 hkind | h_3 hkind =>
    rw [hkind] at ht
    cases ht
  case h_4 => rfl

/-- Inside a document no start marker is missing. -/
theorem sweep_startAt_inside {before : TokenKind} (h : opens before = false) {xs : List Token}
    (hxs : ∀ t ∈ xs, t.kind.isContent = true) (stop : Option Token) :
    sweep startAt before (xs ++ stop.toList) = [] := by
  induction xs generalizing before with
  | nil =>
    cases stop with
    | none => rfl
    | some marker => rw [List.nil_append, Option.toList_some, sweep, startAt_of_not_opens h]; rfl
  | cons t xs ih =>
    rw [List.forall_mem_cons] at hxs
    rw [List.cons_append, sweep, startAt_of_not_opens h, ih (opens_of_isContent hxs.1) hxs.2,
      List.nil_append]

/-- At content no end marker is missing. -/
theorem endAt_of_isContent {t : Token} (h : t.kind.isContent = true) (before : TokenKind) :
    endAt before t = [] := by
  unfold endAt
  split
  case h_1 hkind | h_2 hkind =>
    rw [hkind] at h
    cases h
  case h_3 => rfl

end Markers

/-! ### One document -/

namespace StreamDocument

open Markers

variable (d : StreamDocument)

/-- A document ends with its end marker, or else with its body or its start marker. -/
theorem lastKind_tokens (before : TokenKind) :
    d.stop ≠ none ∧ lastKind before d.tokens = .documentEnd ∨
      d.stop = none ∧ (lastKind before d.tokens = .documentStart ∨
        (lastKind before d.tokens).isContent = true) := by
  rw [tokens, lastKind_append, lastKind_append, lastKind_append]
  cases hstop : d.stop with
  | some marker =>
    have hkind : marker.kind = .documentEnd := d.stop_kind marker hstop
    exact Or.inl ⟨Option.some_ne_none marker, hkind⟩
  | none =>
    refine Or.inr ⟨rfl, ?_⟩
    change lastKind (lastKind _ d.start.toList) d.body = .documentStart ∨
      (lastKind (lastKind _ d.start.toList) d.body).isContent = true
    cases hstart : d.start with
    | some marker =>
      have hkind : marker.kind = .documentStart := d.start_kind marker hstart
      exact lastKind_of_forall (p := fun kind => kind = .documentStart ∨ kind.isContent = true)
        (Or.inl hkind) fun t ht => Or.inr (d.body_kind t ht)
    | none =>
      obtain ⟨t, ts, hbody⟩ := List.exists_cons_of_ne_nil (d.nonempty hstart)
      have hkinds := d.body_kind
      rw [hbody, List.forall_mem_cons] at hkinds
      rw [hbody]
      exact Or.inr (lastKind_of_forall (p := fun kind => kind.isContent = true) hkinds.1 hkinds.2)

/-- **After a document another one can begin in any way if it has an end marker.** -/
theorem opens_lastKind (before : TokenKind) :
    opens (lastKind before d.tokens) = d.stop.isSome := by
  rcases d.lastKind_tokens before with ⟨hstop, hlast⟩ | ⟨hstop, hlast | hlast⟩
  · rw [hlast, Option.isSome_iff_ne_none.2 hstop]
    rfl
  · rw [hlast, hstop]
    rfl
  · rw [opens_of_isContent hlast, hstop]
    rfl

/-- No document ends with a directive. -/
theorem lastKind_ne_directive (before : TokenKind) : lastKind before d.tokens ≠ .directive := by
  intro h
  rcases d.lastKind_tokens before with ⟨-, hlast⟩ | ⟨-, hlast | hlast⟩ <;> rw [h] at hlast <;>
    cases hlast

/-- A document can begin after a kind: in any way, or with its start marker. -/
def Follows (before : TokenKind) : Prop :=
  opens before = true ∨ d.directives = [] ∧ d.start ≠ none

/-- Documents that are separated follow each other. -/
theorem Separated.follows {d e : StreamDocument} (h : d.Separated e) (before : TokenKind) :
    e.Follows (lastKind before d.tokens) := by
  rcases h with hstop | hstart
  · exact Or.inl (by rw [opens_lastKind, Option.isSome_iff_ne_none.2 hstop])
  · exact Or.inr hstart

/-- After directives a document can still begin. -/
theorem opens_lastKind_directives {before : TokenKind} (h : opens before = true) :
    opens (lastKind before d.directives) = true :=
  lastKind_of_forall (p := fun kind => opens kind = true) h fun t ht => by
    rw [d.directives_kind t ht]
    rfl

/-- At a directive no start marker is missing. -/
theorem startAt_directive {t : Token} (h : t ∈ d.directives) (before : TokenKind) :
    startAt before t = [] := by
  rw [startAt, d.directives_kind t h]

/-- At a directive no end marker is missing. -/
theorem endAt_directive {t : Token} (h : t ∈ d.directives) (before : TokenKind) :
    endAt before t = [] := by
  rw [endAt, d.directives_kind t h]

/-- What is missing if the document has no start marker: it is reported at its first token
after the directives. -/
def missingStart : Option Finding :=
  match d.start with
  | some _ => none
  | none => d.body.head?.map fun t => ⟨t.start.line + 1, 1, .missingMarker .start⟩

/-- **A document without a start marker is reported once.** -/
theorem sweep_startAt {before : TokenKind} (h : d.Follows before) :
    sweep startAt before d.tokens = d.missingStart.toList := by
  rw [tokens, sweep_append, sweep_eq_nil fun t ht => d.startAt_directive ht, List.nil_append,
    missingStart]
  cases hstart : d.start with
  | some marker =>
    have hkind : marker.kind = .documentStart := d.start_kind marker hstart
    have hmarker : startAt (lastKind before d.directives) marker = [] := by rw [startAt, hkind]
    rw [Option.toList_some, List.singleton_append, sweep, hmarker, hkind]
    exact sweep_startAt_inside rfl d.body_kind d.stop
  | none =>
    have hopens : opens before = true := h.resolve_right fun hright => hright.2 hstart
    obtain ⟨t, ts, hbody⟩ := List.exists_cons_of_ne_nil (d.nonempty hstart)
    have hkinds := d.body_kind
    rw [hbody, List.forall_mem_cons] at hkinds
    rw [Option.toList_none, List.nil_append, hbody, List.cons_append, sweep,
      startAt_of_opens (d.opens_lastKind_directives hopens) hkinds.1,
      sweep_startAt_inside (opens_of_isContent hkinds.1) hkinds.2, List.append_nil]
    rfl

/-- The finding about a document without an end marker: at the start marker of the next
document, or on the line before the end of the stream. -/
def missingEnd (last : Token) (next : Option StreamDocument) : Finding :=
  match next.bind start with
  | some marker => ⟨marker.start.line + 1, 1, .missingMarker .stop⟩
  | none => ⟨max last.start.line 1, 1, .missingMarker .stop⟩

/-- **A document is reported at its beginning if the one before it has no end marker.** -/
theorem sweep_endAt {before : TokenKind} (h : d.Follows before) (last : Token) :
    sweep endAt before d.tokens = if opens before then [] else [missingEnd last (some d)] := by
  have hstop : ∀ t ∈ d.stop.toList, ∀ before, endAt before t = [] := by
    intro t ht before
    rw [endAt, d.stop_kind t (Option.mem_toList.1 ht)]
  rw [tokens, sweep_append, sweep_append, sweep_append,
    sweep_eq_nil fun t ht => d.endAt_directive ht,
    sweep_eq_nil fun t ht => endAt_of_isContent (d.body_kind t ht), sweep_eq_nil hstop,
    List.nil_append, List.append_nil, List.append_nil]
  cases hstart : d.start with
  | none =>
    rw [if_pos (h.resolve_right fun hright => hright.2 hstart)]
    rfl
  | some marker =>
    -- directives open a document as well as what came before them
    have hopens : opens (lastKind before d.directives) = opens before := by
      rcases h with hbefore | ⟨hdirectives, -⟩
      · rw [hbefore, d.opens_lastKind_directives hbefore]
      · rw [hdirectives]
        rfl
    rw [Option.toList_some, sweep, endAt, d.start_kind marker hstart, hopens, missingEnd,
      Option.bind_some, hstart]
    exact List.append_nil _

/-! ### All documents -/

/-- What is missing if documents have no end markers. -/
def missingEnds (last : Token) : List StreamDocument → List Finding
  | [] => []
  | d :: rest =>
    (if d.stop = none then [missingEnd last rest.head?] else []) ++ missingEnds last rest

/-- Along documents, those without a start marker are reported. -/
theorem sweep_startAt_documents {documents : List StreamDocument}
    (h : documents.IsChain Separated) {before : TokenKind}
    (hfirst : ∀ d ∈ documents.head?, d.Follows before) {last : Token}
    (hlast : last.kind = .streamEnd) :
    sweep startAt before (documents.flatMap tokens ++ [last]) =
      documents.filterMap missingStart := by
  induction documents generalizing before with
  | nil =>
    rw [List.flatMap_nil, List.nil_append, sweep, startAt, hlast]
    rfl
  | cons d rest ih =>
    rw [List.isChain_cons] at h
    have hnext : ∀ e ∈ rest.head?, e.Follows (lastKind before d.tokens) :=
      fun e he => (h.1 e he).follows before
    rw [List.flatMap_cons, List.append_assoc, sweep_append, d.sweep_startAt (hfirst d rfl),
      ih h.2 hnext, List.filterMap_cons]
    cases d.missingStart <;> rfl

/-- A document without an end marker is reported with the next one, so what is still owed by
the document before comes first. -/
theorem sweep_endAt_documents {documents : List StreamDocument}
    (h : documents.IsChain Separated) {before : TokenKind} (hbefore : before ≠ .directive)
    (hfirst : ∀ d ∈ documents.head?, d.Follows before) {last : Token}
    (hlast : last.kind = .streamEnd) :
    sweep endAt before (documents.flatMap tokens ++ [last]) =
      (if opens before then [] else [missingEnd last documents.head?]) ++
        missingEnds last documents := by
  induction documents generalizing before with
  | nil =>
    rw [List.flatMap_nil, List.nil_append, sweep, endAt, hlast]
    cases before with
    | directive => exact absurd rfl hbefore
    | _ => rfl
  | cons d rest ih =>
    rw [List.isChain_cons] at h
    have hnext : ∀ e ∈ rest.head?, e.Follows (lastKind before d.tokens) :=
      fun e he => (h.1 e he).follows before
    rw [List.flatMap_cons, List.append_assoc, sweep_append, d.sweep_endAt (hfirst d rfl) last,
      ih h.2 (d.lastKind_ne_directive before) hnext, opens_lastKind, missingEnds, List.head?_cons]
    cases d.stop <;> rfl

/-- The finding is there if the start marker is not. -/
theorem isSome_missingStart : d.missingStart.isSome = d.start.isNone := by
  rw [missingStart]
  cases hstart : d.start with
  | some marker => rfl
  | none =>
    obtain ⟨t, ts, hbody⟩ := List.exists_cons_of_ne_nil (d.nonempty hstart)
    rw [hbody]
    rfl

/-- There are as many findings as documents without an end marker. -/
theorem length_missingEnds (last : Token) (documents : List StreamDocument) :
    (missingEnds last documents).length = documents.countP (·.stop.isNone) := by
  induction documents with
  | nil => rfl
  | cons d rest ih =>
    rw [missingEnds, List.length_append, ih, List.countP_cons, Nat.add_comm]
    cases d.stop <;> rfl

end StreamDocument

/-! ### Runs -/

/-- A rule that does not look at open collections takes the same step at a window wherever
it stands. -/
theorem TokenRule.walk_eq_map {r : TokenRule} {o : r.Options} {find : Window → List Finding}
    (h : ∀ n w, r.check o n w = .ok (n, find w)) (n : Nesting) (ws : List Window) :
    r.walk o n ws = ws.map fun w => .ok (find w) := by
  induction ws with
  | nil => rfl
  | cons w ws ih =>
    rw [walk, h, List.map_cons, ← ih]

/-- A rule runs through a document without an error, and finds what is given. -/
structure TokenRule.Finds (r : TokenRule) (o : r.Options) (d : Document) (findings : List Finding) :
    Prop where
  completes : ∀ step ∈ (Rule.token r).steps o d, ∃ found, step = .ok found
  run_eq : (Rule.token r).run o d = findings.map (·.report r.name .error)

/-- A rule that looks at windows only finds what it finds in each. -/
theorem TokenRule.finds_of_check {r : TokenRule} {o : r.Options} {find : Window → List Finding}
    (h : ∀ n w, r.check o n w = .ok (n, find w)) (d : Document) :
    r.Finds o d (d.windows.flatMap find) := by
  have hsteps : (Rule.token r).steps o d = d.windows.map fun w => .ok (find w) := walk_eq_map h ..
  refine ⟨fun step hstep => ?_, ?_⟩
  · rw [hsteps] at hstep
    obtain ⟨w, -, rfl⟩ := List.mem_map.1 hstep
    exact ⟨find w, rfl⟩
  · rw [Rule.run, hsteps, List.flatMap_map]
    rfl

namespace TokenStream

open Markers StreamDocument

variable (text : List Char) (s : TokenStream)

/-- The first document follows the start of the stream. -/
theorem follows_first : ∀ d ∈ s.documents.head?, d.Follows s.first.kind :=
  fun _ _ => Or.inl (by rw [s.first_kind]; rfl)

/-- Nothing comes before the first token of a stream, so nothing is found there. -/
theorem flatMap_windows {check : Window → List Finding} {found : TokenKind → Token → List Finding}
    (h : ∀ {w : Window} {before : TokenKind}, w.previousKind = some before →
      check w = found before w.token)
    (hfirst : ∀ w : Window, w.previous = none → w.kind = .streamStart → check w = []) :
    (Document.windows ⟨text, s.tokens⟩).flatMap check =
      sweep found s.first.kind (s.documents.flatMap StreamDocument.tokens ++ [s.last]) := by
  have hhead (next afterNext : Option Token) :
      check ⟨text, none, s.first, next, afterNext⟩ = [] := hfirst _ rfl s.first_kind
  rw [Document.windows, tokens, Window.ofTokens, List.flatMap_cons, hhead, List.nil_append,
    flatMap_ofTokens h]

/-- The rule on start markers reports the documents without one. -/
theorem flatMap_checkStart :
    (Document.windows ⟨text, s.tokens⟩).flatMap (checkStart ⟨true⟩) =
      s.documents.filterMap missingStart := by
  rw [s.flatMap_windows text checkStart_eq fun w hprevious hkind => ?_,
    sweep_startAt_documents s.separated s.follows_first s.last_kind]
  simp [checkStart, hkind, atDocumentStart, Window.previousKind, hprevious]

/-- The rule on end markers reports the documents without one. -/
theorem flatMap_checkEnd :
    (Document.windows ⟨text, s.tokens⟩).flatMap (checkEnd ⟨true⟩) =
      missingEnds s.last s.documents := by
  have hfirst : s.first.kind ≠ .directive := by simp [s.first_kind]
  rw [s.flatMap_windows text checkEnd_eq fun w hprevious hkind => ?_,
    sweep_endAt_documents s.separated hfirst s.follows_first s.last_kind, s.first_kind]
  · rfl
  · simp [checkEnd, hkind]

/-- **The rules on markers count documents.**  Where start markers are required, every
document of a stream that has none is reported once, on the line of the first token of its
body, and nothing else is; where end markers are required, every document that has none is
reported once, on the line of the next document's start marker or, if it is the last one,
on the line before the end of the stream, and nothing else is.  Neither rule fails. -/
theorem markers_count_documents :
    TokenRule.documentStart.Finds ⟨true⟩ ⟨text, s.tokens⟩ (s.documents.filterMap missingStart) ∧
      (s.documents.filterMap missingStart).length = s.documents.countP (·.start.isNone) ∧
      TokenRule.documentEnd.Finds ⟨true⟩ ⟨text, s.tokens⟩ (missingEnds s.last s.documents) ∧
      (missingEnds s.last s.documents).length = s.documents.countP (·.stop.isNone) := by
  refine ⟨?_, ?_, ?_, length_missingEnds s.last s.documents⟩
  · rw [← s.flatMap_checkStart text]
    exact TokenRule.finds_of_check (fun _ _ => rfl) _
  · simp only [List.length_filterMap_eq_countP, isSome_missingStart]
  · rw [← s.flatMap_checkEnd text]
    exact TokenRule.finds_of_check (fun _ _ => rfl) _

/-- Four documents: a bare one with an end marker, an empty one with a directive, one with both
markers, and a bare one at the end of the stream. -/
theorem markers_count_documents_four :
    let token : TokenKind → Nat → Token := fun kind line => ⟨kind, ⟨line, 0, 0⟩, ⟨line, 0, 0⟩⟩
    let scalar : Nat → Token := token (.scalar "a" .plain)
    ∃ s : TokenStream, s.documents.length = 4 ∧
      s.tokens = [token .streamStart 0, scalar 0, token .documentEnd 1, token .directive 2,
        token .documentStart 3, token .documentStart 4, scalar 5, token .documentEnd 6, scalar 7,
        token .streamEnd 8] ∧
      (Rule.token .documentStart).run ⟨true⟩ ⟨[], s.tokens⟩ =
        [⟨1, 1, .error, "document-start", "missing document start \"---\""⟩,
          ⟨8, 1, .error, "document-start", "missing document start \"---\""⟩] ∧
      (Rule.token .documentEnd).run ⟨true⟩ ⟨[], s.tokens⟩ =
        [⟨5, 1, .error, "document-end", "missing document end \"...\""⟩,
          ⟨8, 1, .error, "document-end", "missing document end \"...\""⟩] := by
  intro token scalar
  let bare : StreamDocument := ⟨[], none, [scalar 0], some (token .documentEnd 1), by simp, by simp,
    by decide, by simp [token], by simp⟩
  let empty : StreamDocument := ⟨[token .directive 2], some (token .documentStart 3), [], none,
    by decide, by simp [token], by simp, by simp, by simp⟩
  let marked : StreamDocument := ⟨[], some (token .documentStart 4), [scalar 5],
    some (token .documentEnd 6), by simp, by simp [token], by decide, by simp [token], by simp⟩
  let final : StreamDocument := ⟨[], none, [scalar 7], none, by simp, by simp, by decide, by simp,
    by simp⟩
  let s : TokenStream := ⟨token .streamStart 0, [bare, empty, marked, final], token .streamEnd 8, rfl,
    rfl, by simp [StreamDocument.Separated, bare, empty, marked, final]⟩
  obtain ⟨hstart, -, hend, -⟩ := s.markers_count_documents []
  refine ⟨s, rfl, rfl, ?_, ?_⟩
  · rw [hstart.run_eq]
    decide +kernel
  · rw [hend.run_eq]
    decide +kernel

end TokenStream
end YamlStyle
