import QueryGate.Dialect
import QueryGate.Error
import QueryGate.Text.Numeral

/-! What a build and a rendering report about themselves. A computation that fails keeps what it
reported until then. -/
namespace QueryGate

inductive Level where
  | debug
  | warn
  deriving DecidableEq

def Level.name : Level → String
  | debug => "DEBUG"
  | warn => "WARN"

inductive Event where
  | columnsSelected (resource : String) (fields : Nat)
  | filtersApplied (resource : String) (count : Nat)
  | extensionsRun (resource : String) (count : Nat)
  | rejected (resource : String) (error : Error)
  | rendered (dialect : Dialect) (text : String) (params : Nat)
  deriving DecidableEq

namespace Event

def level : Event → Level
  | rejected _ _ => .warn
  | _ => .debug

/-- The named values of an event, its message last. -/
def fields : Event → List (String × String)
  | columnsSelected resource fields =>
    [("stage", "select"), ("resource", resource), ("fields", Text.natural fields),
      ("message", "resql.build")]
  | filtersApplied resource count =>
    [("stage", "filters"), ("resource", resource), ("count", Text.natural count),
      ("message", "resql.build")]
  | extensionsRun resource count =>
    [("stage", "extensions"), ("resource", resource), ("count", Text.natural count),
      ("message", "resql.build")]
  | rejected resource error =>
    [("resource", resource), ("error", error.message), ("message", "resql.rejected")]
  | rendered dialect text params =>
    [("dialect", dialect.name), ("sql", text), ("params", Text.natural params),
      ("message", "resql.query")]

end Event

/-- A computation, with the events that it reports in order. -/
structure Logged (ε α : Type) where
  events : List Event
  result : Except ε α

namespace Logged

variable {ε α β : Type}

/-- A computation that reports nothing. -/
def quiet (result : Except ε α) : Logged ε α := ⟨[], result⟩

/-- Reports an event and computes nothing. -/
def report (event : Event) : Logged ε Unit := ⟨[event], .ok ()⟩

/-- Goes on with what was computed, and reports behind what was reported. A failure ends both. -/
def bind (first : Logged ε α) (next : α → Logged ε β) : Logged ε β :=
  match first.result with
  | .error error => ⟨first.events, .error error⟩
  | .ok value => ⟨first.events ++ (next value).events, (next value).result⟩

instance : Monad (Logged ε) where
  pure value := quiet (.ok value)
  bind := bind

/-- Reports a failure at the end. -/
def reportFailure (logged : Logged ε α) (event : ε → Event) : Logged ε α :=
  match logged.result with
  | .error error => ⟨logged.events ++ [event error], .error error⟩
  | .ok _ => logged

@[simp] theorem result_quiet (result : Except ε α) : (quiet result).result = result := rfl

@[simp] theorem result_report (event : Event) :
    (report event : Logged ε Unit).result = pure () := rfl

@[simp] theorem result_pure (value : α) : (pure value : Logged ε α).result = pure value := rfl

/-- Events have no influence on results. -/
@[simp] theorem result_bind (first : Logged ε α) (next : α → Logged ε β) :
    (first >>= next).result = first.result >>= fun value => (next value).result := by
  change (bind first next).result = _
  rw [bind]
  cases first.result <;> rfl

@[simp] theorem result_reportFailure (logged : Logged ε α) (event : ε → Event) :
    (logged.reportFailure event).result = logged.result := by
  rw [reportFailure]
  cases failed : logged.result with
  | error error => rfl
  | ok value => exact failed

/-! What comes of going on -/

theorem mk_ok_bind (events : List Event) (value : α) (next : α → Logged ε β) :
    (⟨events, .ok value⟩ : Logged ε α) >>= next =
      ⟨events ++ (next value).events, (next value).result⟩ := rfl

theorem report_bind (event : Event) (next : Unit → Logged ε β) :
    report event >>= next = ⟨event :: (next ()).events, (next ()).result⟩ := rfl

theorem ok_bind (value : α) (next : α → Logged ε β) :
    quiet (.ok value) >>= next = next value := rfl

end Logged

end QueryGate
