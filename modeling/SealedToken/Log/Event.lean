import SealedToken.Error

/-! # Events

What an operation reports while it runs, as part of its result. An operation
that fails has still reported what came before the failure. -/

namespace SealedToken

/-! ### Levels -/

inductive Level where
  | error
  | warn
  | info
  | debug
  | trace
  deriving DecidableEq, Repr

namespace Level

/-- The more detail a level means, the larger. -/
def verbosity : Level → Nat
  | error => 1
  | warn => 2
  | info => 3
  | debug => 4
  | trace => 5

def name : Level → String
  | error => "ERROR"
  | warn => "WARN"
  | info => "INFO"
  | debug => "DEBUG"
  | trace => "TRACE"

end Level

/-! ### Events -/

inductive Datum where
  | text (s : String)
  | count (n : Nat)
  | flag (b : Bool)
  deriving DecidableEq, Repr

structure Event where
  level : Level
  /-- The part of the program that reports, a path of names. -/
  target : String
  message : String
  data : List (String × Datum)
  deriving DecidableEq, Repr

/-! ### Operations that report -/

/-- What was reported, and how it ended. -/
structure Traced (α : Type) where
  events : List Event
  result : Except Error α

namespace Traced

/-- Runs one operation after another; a failure ends the run. -/
def andThen {α β : Type} (x : Traced α) (f : α → Traced β) : Traced β :=
  match x.result with
  | .ok a =>
    let y := f a
    ⟨x.events ++ y.events, y.result⟩
  | .error e => ⟨x.events, .error e⟩

instance : Monad Traced where
  pure a := ⟨[], .ok a⟩
  bind := andThen

/-- Reports nothing. -/
def silent {α : Type} (r : Except Error α) : Traced α := ⟨[], r⟩

def report (e : Event) : Traced Unit := ⟨[e], .ok ()⟩

def fail {α : Type} (e : Error) : Traced α := ⟨[], .error e⟩

theorem events_andThen_ok {α β : Type} (x : Traced α) (f : α → Traced β) (a : α)
    (h : x.result = .ok a) : (x.andThen f).events = x.events ++ (f a).events := by
  simp [andThen, h]

theorem result_andThen_ok {α β : Type} (x : Traced α) (f : α → Traced β) (a : α)
    (h : x.result = .ok a) : (x.andThen f).result = (f a).result := by
  simp [andThen, h]

theorem andThen_error {α β : Type} (x : Traced α) (f : α → Traced β) (e : Error)
    (h : x.result = .error e) : x.andThen f = ⟨x.events, .error e⟩ := by
  simp [andThen, h]

end Traced

end SealedToken
