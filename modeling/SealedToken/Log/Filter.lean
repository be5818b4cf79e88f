import SealedToken.Log.Rule

/-! # Log filters

A filter is a list of rules separated by commas. Among the rules whose target
begins an event's target the longest decides, and later rules replace earlier
ones for the same target. Without a rule nothing is shown. -/

namespace SealedToken

abbrev LogFilter := List LogRule

namespace LogFilter

/-! ### Reading -/

/-- The rules of a filter as far as they are written; empty ones do not count. -/
def texts (s : String) : List String := (s.splitOn ",").filter (· ≠ "")

/-- All rules of a text, if every one of them is well formed. -/
def strict? (s : String) : Option LogFilter := (texts s).mapM fun t => (LogRule.read t).toOption

/-- The well-formed rules of a text. -/
def lenient (s : String) : LogFilter := (texts s).filterMap fun t => (LogRule.read t).toOption

/-- What is said about a rule that is left out. -/
def complaint? (t : String) : Option String :=
  match LogRule.read t with
  | .ok _ => none
  | .error f => some ("ignoring `" ++ t ++ "`: " ++ f.message)

/-- What is said about the malformed rules of a text. -/
def complaints (s : String) : List String := (texts s).filterMap complaint?

/-! ### Deciding -/

/-- The longer target, and of equal ones the later. -/
def better (best : Option LogRule) (r : LogRule) : Option LogRule :=
  match best with
  | none => some r
  | some b => if b.target.length ≤ r.target.length then some r else some b

/-- Whether an event is shown. -/
def shows (f : LogFilter) (e : Event) : Bool :=
  let rules := f.filter fun r => r.target.toList.isPrefixOf e.target.toList
  match rules.foldl better none with
  | some r => e.level.verbosity ≤ r.verbosity
  | none => false

end LogFilter

end SealedToken
