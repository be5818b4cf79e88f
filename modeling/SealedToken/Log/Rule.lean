import SealedToken.Log.Event
import SealedToken.Text.Alphanumeric
import SealedToken.Text.Blank
import SealedToken.Text.Unsigned

/-! # Log rules

A rule says how much of a target is shown. It is written as a level, which is
then for all targets, as a target, or as `target=level`. Whatever is no level
is a target, if it begins like one. Blanks belong to what they stand in: no
level has any, so a rule with a blank in front and a level is refused. -/

namespace SealedToken

structure LogRule where
  /-- Beginning of the targets the rule is about; empty for all. -/
  target : String
  /-- Largest verbosity shown; zero shows nothing. -/
  verbosity : Nat
  deriving DecidableEq, Repr

namespace LogRule

/-- Why a text is no rule. -/
inductive Fault where
  /-- It does not begin like a target or a level. -/
  | form
  /-- What stands behind the `=` is no level. -/
  | level
  deriving DecidableEq, Repr

def Fault.message : Fault → String
  | .form => "invalid filter directive"
  | .level =>
    "error parsing level filter: expected one of \"off\", \"error\", \"warn\", \"info\", " ++
    "\"debug\", \"trace\", or a number 0-5"

/-! ### Levels -/

/-- The verbosity that a name in lowercase stands for. -/
def named? (lower : String) : Option Nat :=
  if lower = "off" then some 0
  else if lower = "error" then some Level.error.verbosity
  else if lower = "warn" then some Level.warn.verbosity
  else if lower = "info" then some Level.info.verbosity
  else if lower = "debug" then some Level.debug.verbosity
  else if lower = "trace" then some Level.trace.verbosity
  else none

/-- The verbosity that a text stands for: a number up to five, or a name in any case. -/
def verbosity? (s : String) : Option Nat :=
  match Unsigned.parse? s with
  | some n => if n.toNat ≤ Level.trace.verbosity then some n.toNat else none
  | none => named? s.toLower

/-! ### Reading -/

/-- Whether a rule may begin with a character, blanks in front of it aside. -/
def mayBegin (c : Char) : Bool := c = '-' || c = ':' || c = '_' || Alphanumeric.holds c

/-- A rule without a level behind a target: a level for all targets, or a
target of which everything is shown. -/
def ofWord (s : String) : LogRule :=
  match verbosity? s with
  | some v => ⟨"", v⟩
  | none => ⟨s, Level.trace.verbosity⟩

/-- A target with the text of its level; an empty one shows everything. -/
def ofPair (target level : String) : Except Fault LogRule :=
  if level = "" then .ok ⟨target, Level.trace.verbosity⟩
  else
    match verbosity? level with
    | some v => .ok ⟨target, v⟩
    | none => .error .level

/-- The rule that a text spells. -/
def read (s : String) : Except Fault LogRule :=
  let cs := s.toList
  if ¬((cs.dropWhile Blank.isBlank).head?.any mayBegin) then .error .form
  else
    match cs.dropWhile (· ≠ '=') with
    | [] => .ok (ofWord s)
    | _ :: level =>
      if cs.head?.any Blank.isBlank then .error .level
      else ofPair (String.ofList (cs.takeWhile (· ≠ '='))) (String.ofList level)

end LogRule

end SealedToken
