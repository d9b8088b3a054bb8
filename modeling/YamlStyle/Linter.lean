/-
# Linting

A linter is made from registered rules and a configuration.  Making it checks
the whole configuration, options of rules that are off included.  Linting runs
the rules on tokens side by side over the stream, then those on lines over the
text, and sorts what they found by place.  Diagnostics at one place stand in the
order in which their rules were registered.
-/

import YamlStyle.Registry

namespace YamlStyle

/-- Why linting fails. -/
inductive LintError where
  | config (cause : ConfigError)
  | malformedStream (rule : TokenRule) (cause : StreamError)

/-- The wording of a cause. -/
def LintError.message : LintError → String
  | config cause => cause.message
  | malformedStream rule cause =>
    s!"Malformed token stream (rule '{rule.name}'): {cause.message}"

/-- A rule that is on, with its options, its severity and its rank among the
registered rules. -/
structure Active (ρ : Type) (options : ρ → Type) where
  rank : Nat
  severity : Severity
  rule : ρ
  options : options rule

/-- A rule on tokens that is on. -/
abbrev ActiveTokenRule := Active TokenRule TokenRule.Options

/-- A rule on lines that is on. -/
abbrev ActiveLineRule := Active LineRule LineRule.Options

/-- A diagnostic with the rank of its rule. -/
structure Ranked where
  rank : Nat
  diagnostic : Diagnostic
  deriving DecidableEq, Repr

namespace Ranked

/-- The order of a report: by line, by column, by rank. -/
def le (a b : Ranked) : Bool :=
  a.diagnostic.line < b.diagnostic.line ||
    (a.diagnostic.line = b.diagnostic.line &&
      (a.diagnostic.column < b.diagnostic.column ||
        (a.diagnostic.column = b.diagnostic.column && a.rank ≤ b.rank)))

end Ranked

namespace ActiveTokenRule

/-- Findings as the rule reports them. -/
def report (a : ActiveTokenRule) (found : List Finding) : List Ranked :=
  found.map fun f => ⟨a.rank, f.report a.rule.name a.severity⟩

end ActiveTokenRule

namespace ActiveLineRule

/-- What the rule reports about a line. -/
def report (a : ActiveLineRule) (l : Line) : List Ranked :=
  (a.rule.check a.options l).map fun f => ⟨a.rank, f.report a.rule.name a.severity⟩

end ActiveLineRule

/-- The rules that are on, in the order of their registration. -/
structure Linter where
  tokenRules : List ActiveTokenRule
  lineRules : List ActiveLineRule

namespace Linter

/-- No rule is on. -/
def empty : Linter := ⟨[], []⟩

/-- Adds a rule that is on. -/
def add (l : Linter) (rank : Nat) (severity : Severity) : (r : Rule) → r.Options → Linter
  | .token r, options => { l with tokenRules := l.tokenRules ++ [⟨rank, severity, r, options⟩] }
  | .line r, options => { l with lineRules := l.lineRules ++ [⟨rank, severity, r, options⟩] }

/-- The options a configuration gives a rule. -/
def resolve [Pattern.Engine] (c : Config) (r : Rule) : Except ConfigError r.Options :=
  match r.schema.resolve (c.options r.name) with
  | .ok options => .ok options
  | .error cause => .error (.invalidOptions r.name cause)

/-- Adds the rules that a configuration switches on, from a rank on. -/
def addRules [Pattern.Engine] (c : Config) (rank : Nat) (l : Linter) :
    List Rule → Except ConfigError Linter
  | [] => .ok l
  | r :: rest => do
    let options ← resolve c r
    match c.severity r.name r.defaultSeverity r.recommended with
    | some severity => addRules c (rank + 1) (l.add rank severity r options) rest
    | none => addRules c (rank + 1) l rest

/-- The linter for a configuration. -/
def build [Pattern.Engine] (g : Registry) (c : Config) : Except ConfigError Linter := do
  c.validate g.names
  addRules c 0 empty g.rules

/-- The names of the rules on tokens that are on. -/
def tokenRuleNames (l : Linter) : List String := l.tokenRules.map (·.rule.name)

/-- The names of the rules on lines that are on. -/
def lineRuleNames (l : Linter) : List String := l.lineRules.map (·.rule.name)

/-- A list of names in brackets. -/
def listNames (names : List String) : String :=
  "[" ++ ", ".intercalate (names.map Text.quoted) ++ "]"

/-- The rules that are on, in one line. -/
def render (l : Linter) : String :=
  let tokens := listNames l.tokenRuleNames
  let lines := listNames l.lineRuleNames
  s!"Linter \x7b token_rules: {tokens}, line_rules: {lines} \x7d"

/-- A rule on tokens with the open collections it walks with. -/
abbrev Pass := ActiveTokenRule × Nesting

/-- Runs every pass over one window, in order, up to the first error. -/
def stepAll (w : Window) : List Pass → Except LintError (List Pass × List Ranked)
  | [] => .ok ([], [])
  | (a, n) :: rest =>
    match a.rule.check a.options n w with
    | .error cause => .error (.malformedStream a.rule cause)
    | .ok (next, found) => do
      let (passes, others) ← stepAll w rest
      return ((a, next) :: passes, a.report found ++ others)

/-- Runs passes over windows. -/
def runTokens (passes : List Pass) : List Window → Except LintError (List Ranked)
  | [] => .ok []
  | w :: ws => do
    let (passes, found) ← stepAll w passes
    return found ++ (← runTokens passes ws)

/-- Runs the rules on lines over lines. -/
def runLines (rules : List ActiveLineRule) (lines : List Line) : List Ranked :=
  lines.flatMap fun line => rules.flatMap fun a => a.report line

/-- The diagnostics of a document. -/
def lint (l : Linter) (d : Document) : Except LintError (List Diagnostic) := do
  let onTokens ← runTokens (l.tokenRules.map fun a => (a, Nesting.empty)) d.windows
  let onLines := runLines l.lineRules d.lines
  return ((onTokens ++ onLines).mergeSort Ranked.le).map (·.diagnostic)

end Linter

/-- Lints a text and its tokens with every rule there is. -/
def lint [Pattern.Engine] (d : Document) (c : Config) : Except LintError (List Diagnostic) :=
  match Linter.build .builtin c with
  | .ok linter => linter.lint d
  | .error cause => .error (.config cause)

end YamlStyle
