import Bootkit.Go.Slog

/-! The log handler that puts the ids of the current span at the root of every record. -/

namespace Bootkit

open Go

/-- What OpenTelemetry tells of the span of a context. -/
structure SpanContext where
  isValid : Bool
  -- The ids as text.
  traceID : String
  spanID : String
  deriving Repr, DecidableEq

/-- The attributes of a span. -/
def traceAttrs {Value : Type} (span : SpanContext) : List (LogAttr Value) :=
  [.string "trace_id" span.traceID, .string "span_id" span.spanID]

/-- One deferred operation on a handler. -/
structure HandlerOp (Value : Type) where
  isGroup : Bool
  name : String
  attrs : List (LogAttr Value)

/-- A handler around a base, with what is to be applied to the base. -/
structure TraceHandler (Handler Value : Type) where
  base : Handler
  ops : List (HandlerOp Value)

section

variable {Handler Ctx Level Value Header Output : Type}

/-- A new handler defers nothing yet. -/
def newTraceHandler (base : Handler) : TraceHandler Handler Value where
  base := base
  ops := []

variable (api : LogHandlers Handler Ctx Level Value Header Output)
  (spanContextFromContext : Ctx → SpanContext)

/-- One deferred operation applied to a handler. -/
def HandlerOp.apply (handler : Handler) (op : HandlerOp Value) : Handler :=
  if op.isGroup then api.withGroup handler op.name else api.withAttrs handler op.attrs

namespace TraceHandler

/-- Whether a level is enabled is the base's decision. -/
def enabled (h : TraceHandler Handler Value) (ctx : Ctx) (level : Level) : Bool :=
  api.enabled h.base ctx level

/-- The base gets the ids of a valid span first, and the deferred operations after that. -/
def handle (h : TraceHandler Handler Value) (ctx : Ctx) (record : LogRecord Value Header) :
    Output :=
  let span := spanContextFromContext ctx
  let handler := if span.isValid then api.withAttrs h.base (traceAttrs span) else h.base
  api.handle (h.ops.foldl (HandlerOp.apply api) handler) ctx record

/-- Attributes are deferred. -/
def withAttrs (h : TraceHandler Handler Value) (attrs : List (LogAttr Value)) :
    TraceHandler Handler Value where
  base := h.base
  ops := h.ops ++ [{ isGroup := false, name := "", attrs }]

/-- A group is deferred. -/
def withGroup (h : TraceHandler Handler Value) (name : String) : TraceHandler Handler Value where
  base := h.base
  ops := h.ops ++ [{ isGroup := true, name, attrs := [] }]

end TraceHandler

/-- Trace handlers are handlers themselves. -/
def traceHandlers : LogHandlers (TraceHandler Handler Value) Ctx Level Value Header Output where
  enabled := TraceHandler.enabled api
  handle := TraceHandler.handle api spanContextFromContext
  withAttrs := TraceHandler.withAttrs
  withGroup := TraceHandler.withGroup

/-- The operation that a call defers. -/
def deferred : HandlerCall Value → HandlerOp Value
  | .withAttrs attrs => { isGroup := false, name := "", attrs }
  | .withGroup name => { isGroup := true, name, attrs := [] }

/-- A chain of calls keeps the base and defers its calls in order. -/
theorem traceHandlers_deriveAll (h : TraceHandler Handler Value)
    (calls : List (HandlerCall Value)) :
    (traceHandlers api spanContextFromContext).deriveAll h calls =
      { base := h.base, ops := h.ops ++ calls.map deferred } := by
  -- Each call defers one operation behind those that are there.
  induction calls generalizing h with
  | nil => simp [LogHandlers.deriveAll]
  | cons call rest ih =>
    have first : (traceHandlers api spanContextFromContext).derive h call =
        { base := h.base, ops := h.ops ++ [deferred call] } := by
      cases call <;> rfl
    have later := ih ((traceHandlers api spanContextFromContext).derive h call)
    rw [first] at later
    simpa [LogHandlers.deriveAll, first] using later

/-- Applying what a chain defers is the chain itself. -/
theorem foldl_deferred (handler : Handler) (calls : List (HandlerCall Value)) :
    (calls.map deferred).foldl (HandlerOp.apply api) handler = api.deriveAll handler calls := by
  -- Each deferred operation is applied by the method that deferred it.
  induction calls generalizing handler with
  | nil => rfl
  | cons call rest ih =>
    have first : HandlerOp.apply api handler (deferred call) = api.derive handler call := by
      cases call <;> rfl
    rw [List.map_cons, List.foldl_cons, first]
    exact ih (api.derive handler call)

/-- A trace handler applies its chain to the base, behind the ids of a valid span. -/
theorem traceHandlers_handle (base : Handler) (calls : List (HandlerCall Value)) (ctx : Ctx)
    (record : LogRecord Value Header) :
    (traceHandlers api spanContextFromContext).handle
        ((traceHandlers api spanContextFromContext).deriveAll (newTraceHandler base) calls)
        ctx record =
      api.handle (api.deriveAll
        (if (spanContextFromContext ctx).isValid then
          api.withAttrs base (traceAttrs (spanContextFromContext ctx)) else base) calls)
        ctx record := by
  -- What the chain has deferred is the chain itself once it is applied.
  rw [traceHandlers_deriveAll, ← foldl_deferred]
  rfl

variable {api}

/--
A trace handler is transparent except for the attributes of a valid span.

Without a valid span it emits what the base does after the same chain of calls. With one it emits
what the base does for that record with the two ids at its root, in front of everything that the
chain adds and outside of every group that it opens.
-/
theorem traceHandler_transparent (contract : LogContract api) (base : Handler)
    (calls : List (HandlerCall Value)) (ctx : Ctx) (record : LogRecord Value Header) :
    -- What the base emits after the chain, in terms of the base alone.
    api.handle (api.deriveAll base calls) ctx record =
      api.handle base ctx { record with attrs := nest calls record.attrs } ∧
    (traceHandlers api spanContextFromContext).handle
        ((traceHandlers api spanContextFromContext).deriveAll (newTraceHandler base) calls)
        ctx record =
      if (spanContextFromContext ctx).isValid then
        api.handle base ctx { record with
          attrs := .string "trace_id" (spanContextFromContext ctx).traceID ::
            .string "span_id" (spanContextFromContext ctx).spanID :: nest calls record.attrs }
      else api.handle (api.deriveAll base calls) ctx record := by
  refine ⟨contract.deriveAll base calls ctx record, ?_⟩
  rw [traceHandlers_handle]
  by_cases valid : (spanContextFromContext ctx).isValid
  · -- The ids are attributes of the handler that the chain starts from.
    rw [if_pos valid, if_pos valid, contract.deriveAll, contract.attrs]
    rfl
  · rw [if_neg valid, if_neg valid]

end

/-- Handlers that remember their chain of calls and emit the nested attributes. -/
def collecting (Value : Type) :
    LogHandlers (List (HandlerCall Value)) SpanContext Unit Value String
      (String × List (LogAttr Value)) where
  enabled := fun _ _ _ => true
  handle := fun calls _ record => (record.header, nest calls record.attrs)
  withAttrs := fun calls attrs => calls ++ [.withAttrs attrs]
  withGroup := fun calls name => calls ++ [.withGroup name]

/-- A longer chain nests from the inside. -/
theorem nest_concat {Value : Type} (calls : List (HandlerCall Value)) (last : HandlerCall Value)
    (attrs : List (LogAttr Value)) :
    nest (calls ++ [last]) attrs = nest calls (nest [last] attrs) := by
  -- The induction is on the outer calls, which the last call does not see.
  induction calls with
  | nil => rfl
  | cons call rest ih => cases call <;> simp only [List.cons_append, nest, ih]

/-- Handlers that emit the nested attributes do what the logging package asks for. -/
theorem collecting_contract (Value : Type) : LogContract (collecting Value) where
  -- One more derivation nests one level deeper, for both kinds alike.
  attrs := by
    intro calls added ctx record
    exact congrArg (Prod.mk record.header) (nest_concat calls (.withAttrs added) record.attrs)
  group := by
    intro calls name ctx record
    exact congrArg (Prod.mk record.header) (nest_concat calls (.withGroup name) record.attrs)

/-- The ids stay at the root when an attribute and a group are added. -/
theorem traceHandler_transparent_group :
    let span : SpanContext :=
      ⟨true, "4b4b4b4b4b4b4b4b4b4b4b4b4b4b4b4b", "0f0f0f0f0f0f0f0f"⟩
    (traceHandlers (collecting Nat) id).handle
        ((traceHandlers (collecting Nat) id).deriveAll (newTraceHandler [])
          [.withAttrs [.string "component" "test"], .withGroup "group1"])
        span ⟨"test message", [.string "key" "value"]⟩ =
      ("test message",
        [.string "trace_id" "4b4b4b4b4b4b4b4b4b4b4b4b4b4b4b4b",
          .string "span_id" "0f0f0f0f0f0f0f0f", .string "component" "test",
          .group "group1" [.string "key" "value"]]) := by
  -- The span is valid, so that the record carries its ids outside of the group.
  intro span
  have spec := traceHandler_transparent id (collecting_contract Nat) []
    [.withAttrs [.string "component" "test"], .withGroup "group1"] span
    ⟨"test message", [.string "key" "value"]⟩
  have valid : (id span).isValid = true := rfl
  rw [spec.2, if_pos valid]
  rfl

end Bootkit
