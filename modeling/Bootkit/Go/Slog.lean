import Mathlib.Data.List.Basic

/-! Handlers of structured log records, and what the logging package asks of them. -/

namespace Go

/-- An attribute of a record: a key with a text, another value, or a group of attributes. -/
inductive LogAttr (Value : Type) where
  | string (key text : String)
  | other (key : String) (value : Value)
  | group (key : String) (attrs : List (LogAttr Value))

/-- A log record: its attributes, and the rest of it. -/
structure LogRecord (Value Header : Type) where
  -- Time, level, message, and program counter.
  header : Header
  attrs : List (LogAttr Value)

/-- The methods of a type of handlers. -/
structure LogHandlers (Handler Ctx Level Value Header Output : Type) where
  enabled : Handler → Ctx → Level → Bool
  -- What is emitted, with the error that is returned.
  handle : Handler → Ctx → LogRecord Value Header → Output
  withAttrs : Handler → List (LogAttr Value) → Handler
  withGroup : Handler → String → Handler

/-- One way to derive a handler from another one. -/
inductive HandlerCall (Value : Type) where
  | withAttrs (attrs : List (LogAttr Value))
  | withGroup (name : String)

section

variable {Handler Ctx Level Value Header Output : Type}

/-- Attributes put under a group; the empty name is no group. -/
def qualify (name : String) (attrs : List (LogAttr Value)) : List (LogAttr Value) :=
  if name = "" then attrs else [.group name attrs]

/-- The attributes of a record as a chain of calls adds to them and qualifies them. -/
def nest : List (HandlerCall Value) → List (LogAttr Value) → List (LogAttr Value)
  | [], attrs => attrs
  | .withAttrs added :: rest, attrs => added ++ nest rest attrs
  | .withGroup name :: rest, attrs => qualify name (nest rest attrs)

/--
What the logging package asks of handlers.

Attributes of the handler come before those of the record, and a group qualifies what comes after
it as a group attribute would. No attributes and a group without a name change nothing.
-/
structure LogContract (api : LogHandlers Handler Ctx Level Value Header Output) : Prop where
  attrs : ∀ handler added ctx record, api.handle (api.withAttrs handler added) ctx record =
    api.handle handler ctx { record with attrs := added ++ record.attrs }
  group : ∀ handler name ctx record, api.handle (api.withGroup handler name) ctx record =
    api.handle handler ctx { record with attrs := qualify name record.attrs }

/-- The handler that one call returns. -/
def LogHandlers.derive (api : LogHandlers Handler Ctx Level Value Header Output)
    (handler : Handler) : HandlerCall Value → Handler
  | .withAttrs attrs => api.withAttrs handler attrs
  | .withGroup name => api.withGroup handler name

/-- The handler that a chain of calls leads to. -/
def LogHandlers.deriveAll (api : LogHandlers Handler Ctx Level Value Header Output)
    (handler : Handler) (calls : List (HandlerCall Value)) : Handler :=
  calls.foldl api.derive handler

variable {api : LogHandlers Handler Ctx Level Value Header Output}

/-- A derived handler emits what the first one does for the record with its attributes nested. -/
theorem LogContract.deriveAll (contract : LogContract api) (handler : Handler)
    (calls : List (HandlerCall Value)) (ctx : Ctx) (record : LogRecord Value Header) :
    api.handle (api.deriveAll handler calls) ctx record =
      api.handle handler ctx { record with attrs := nest calls record.attrs } := by
  -- The first call is the outermost one, so the rest of the chain nests before it does.
  induction calls generalizing handler with
  | nil => rfl
  | cons call rest ih =>
    have later : api.handle (api.deriveAll handler (call :: rest)) ctx record =
        api.handle (api.derive handler call) ctx { record with attrs := nest rest record.attrs } :=
      ih (api.derive handler call)
    rw [later]
    cases call with
    | withAttrs added => exact contract.attrs handler added ctx _
    | withGroup name => exact contract.group handler name ctx _

end

end Go
