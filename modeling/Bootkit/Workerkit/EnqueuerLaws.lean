import Bootkit.Go.Options
import Bootkit.Workerkit.Enqueuer

/-! How lists of enqueue options resolve, and what the job queue and its stand-in make of them. -/

namespace Bootkit

open Go

/-- The type of a field. -/
def EnqueueField.Value : EnqueueField → Type
  | .queue | .group => String
  | .maxRetry => Option Int
  | .deadline | .processAt => Time
  | .processIn | .unique | .timeout | .retention => Int

/-- A field of a configuration. -/
def EnqueueOptions.get (o : EnqueueOptions) : (field : EnqueueField) → field.Value
  | .queue => o.queue
  | .maxRetry => o.maxRetry
  | .deadline => o.deadline
  | .processIn => o.processIn
  | .processAt => o.processAt
  | .unique => o.unique
  | .timeout => o.timeout
  | .retention => o.retention
  | .group => o.group

/-- Configurations with the same fields are the same. -/
theorem EnqueueOptions.ext_get {a b : EnqueueOptions}
    (same : ∀ field, a.get field = b.get field) : a = b := by
  -- The fields are the record.
  obtain ⟨⟩ := a
  obtain ⟨⟩ := b
  rw [EnqueueOptions.mk.injEq]
  exact ⟨same .queue, same .maxRetry, same .deadline, same .processIn, same .processAt,
    same .unique, same .timeout, same .retention, same .group⟩

/-- The fields that an option assigns to. -/
def EnqueueOption.touches : EnqueueOption → List EnqueueField
  | .withQueue _ => [.queue]
  | .withMaxRetry _ => [.maxRetry]
  | .withDeadline _ => [.deadline]
  | .withProcessIn _ | .withProcessAt _ => [.processIn, .processAt]
  | .withUnique _ => [.unique]
  | .withTimeout _ => [.timeout]
  | .withRetention _ => [.retention]
  | .withGroup _ => [.group]

/-- Two options assign to a common field. -/
def SharesField (a b : EnqueueOption) : Prop :=
  ∃ field ∈ a.touches, field ∈ b.touches

instance : DecidableRel SharesField :=
  fun a b => inferInstanceAs (Decidable (∃ field ∈ a.touches, field ∈ b.touches))

/-- An option overwrites the fields that it assigns to and leaves the others. -/
theorem field_overwrites (field : EnqueueField) :
    Overwrites EnqueueOption.apply (fun opt => opt.touches.contains field)
      fun o => o.get field := by
  -- Every pair of an option and a field is a hit or a miss by definition.
  constructor
  · intro opt touched o other
    cases field <;> cases opt <;> first | rfl | cases touched
  · intro opt untouched o
    cases field <;> cases opt <;> first | rfl | cases untouched

/-- What a task can be configured with; the two ways to schedule it are alternatives. -/
inductive EnqueueSetting where
  | queue
  | maxRetry
  | deadline
  | schedule
  | unique
  | timeout
  | retention
  | group
  deriving Repr, DecidableEq

/-- The setting that an option is about. -/
def EnqueueOption.setting : EnqueueOption → EnqueueSetting
  | .withQueue _ => .queue
  | .withMaxRetry _ => .maxRetry
  | .withDeadline _ => .deadline
  | .withProcessIn _ | .withProcessAt _ => .schedule
  | .withUnique _ => .unique
  | .withTimeout _ => .timeout
  | .withRetention _ => .retention
  | .withGroup _ => .group

/-- The setting that a field belongs to. -/
def EnqueueField.setting : EnqueueField → EnqueueSetting
  | .queue => .queue
  | .maxRetry => .maxRetry
  | .deadline => .deadline
  | .processIn | .processAt => .schedule
  | .unique => .unique
  | .timeout => .timeout
  | .retention => .retention
  | .group => .group

/--
The constructor that an option asks for on its own, with its argument.

An empty name, a zero time, and a duration that is not positive ask for nothing.
-/
def EnqueueOption.meaning : EnqueueOption → Option AsynqCall
  | .withQueue name => if name = "" then none else some (.queue name)
  | .withMaxRetry n => some (.maxRetry n)
  | .withDeadline t => if t.sinceZero = 0 then none else some (.deadline t)
  | .withProcessIn d => if d ≤ 0 then none else some (.processIn d)
  | .withProcessAt t => if t.sinceZero = 0 then none else some (.processAt t)
  | .withUnique ttl => if ttl ≤ 0 then none else some (.unique ttl)
  | .withTimeout d => if d ≤ 0 then none else some (.timeout d)
  | .withRetention d => if d ≤ 0 then none else some (.retention d)
  | .withGroup name => if name = "" then none else some (.group name)

/-- A library whose options are the calls that made them. -/
def verbatim : AsynqLibrary AsynqCall where
  make := id
  tells := id
  kind_kept := fun _ => rfl

section Library

variable {Opt : Type} (asynq : AsynqLibrary Opt)

/-- What is appended under a condition is made of what would be appended verbatim. -/
theorem appendIf_make (condition : Bool) (call : AsynqCall) :
    appendIf condition (asynq.make call) = (appendIf condition call).map asynq.make := by
  cases condition <;> rfl

/-- The encoding is a list of calls, whatever the library makes of each. -/
theorem asynqOpts_make (o : EnqueueOptions) :
    o.asynqOpts asynq = (o.asynqOpts verbatim).map asynq.make := by
  -- Each append is one call or none.
  have retry : appendRetry asynq o.maxRetry =
      (appendRetry verbatim o.maxRetry).map asynq.make := by
    cases o.maxRetry <;> rfl
  simp only [EnqueueOptions.asynqOpts, List.map_append, appendIf_make asynq, retry]
  rfl

/-- An option is about the setting of the call that made it. -/
theorem filter_setting (calls : List AsynqCall) (setting : EnqueueSetting) :
    (calls.map asynq.make).filter (fun option => (asynq.tells option).kind.setting = setting) =
      (calls.filter fun call => call.kind.setting = setting).map asynq.make := by
  -- The library keeps the kind of what it is given.
  rw [List.filter_map]
  congr 1
  apply List.filter_congr
  intro call _
  simp [asynq.kind_kept call]

end Library

/-- The calls of a configuration's encoding that are about one setting. -/
def EnqueueOptions.emit (setting : EnqueueSetting) (o : EnqueueOptions) : List AsynqCall :=
  (o.asynqOpts verbatim).filter fun call => call.kind.setting = setting

/-- A call that is appended under a condition is kept or dropped as a whole. -/
theorem appendIf_filter (condition : Bool) (call : AsynqCall) (setting : EnqueueSetting) :
    (appendIf condition call).filter (fun call => call.kind.setting = setting) =
      if call.kind.setting = setting then appendIf condition call else [] := by
  cases condition <;> by_cases same : call.kind.setting = setting <;> simp [appendIf, same]

/-- The number of retries is kept or dropped as a whole. -/
theorem appendRetry_filter (maxRetry : Option Int) (setting : EnqueueSetting) :
    (appendRetry verbatim maxRetry).filter (fun call => call.kind.setting = setting) =
      if .maxRetry = setting then appendRetry verbatim maxRetry else [] := by
  -- A retry count is of its own setting and of no other.
  cases maxRetry <;> by_cases same : EnqueueSetting.maxRetry = setting <;>
    simp [appendRetry, verbatim, AsynqCall.kind, EnqueueField.setting, same]

/-- The part of the encoding about each setting. -/
theorem emit_eq (setting : EnqueueSetting) (o : EnqueueOptions) :
    o.emit setting = match setting with
      | .queue => appendIf (o.queue != "") (.queue o.queue)
      | .maxRetry => appendRetry verbatim o.maxRetry
      | .deadline => appendIf (!o.deadline.isZero) (.deadline o.deadline)
      | .schedule => appendIf (o.processIn > 0) (.processIn o.processIn) ++
          appendIf (!o.processAt.isZero) (.processAt o.processAt)
      | .unique => appendIf (o.unique > 0) (.unique o.unique)
      | .timeout => appendIf (o.timeout > 0) (.timeout o.timeout)
      | .retention => appendIf (o.retention > 0) (.retention o.retention)
      | .group => appendIf (o.group != "") (.group o.group) := by
  -- Each append is about one setting, so the filter keeps it or drops it as a whole.
  have made : ∀ call, verbatim.make call = call := fun _ => rfl
  simp only [EnqueueOptions.emit, EnqueueOptions.asynqOpts, List.filter_append, made,
    appendIf_filter, appendRetry_filter]
  cases setting <;> simp [AsynqCall.kind, EnqueueField.setting]

/-- An option overwrites what is encoded for its setting, and leaves every other setting. -/
theorem setting_overwrites (setting : EnqueueSetting) :
    Overwrites EnqueueOption.apply (fun opt => decide (opt.setting = setting))
      (EnqueueOptions.emit setting) := by
  -- The two ways to schedule clear each other, so they are one setting.
  constructor
  · intro opt touched o other
    obtain rfl := of_decide_eq_true touched
    rw [emit_eq, emit_eq]
    cases opt <;> rfl
  · intro opt untouched o
    have different := of_decide_eq_false untouched
    rw [emit_eq, emit_eq]
    cases setting <;> cases opt <;> first | rfl | exact absurd rfl different

/-- On its own, an option is encoded as what it asks for. -/
theorem emit_apply (opt : EnqueueOption) :
    (opt.apply zeroOptions).emit opt.setting = opt.meaning.toList := by
  -- Nothing else is configured, so the other half of a schedule is not encoded.
  rw [emit_eq]
  cases opt with
  | withQueue name | withGroup name =>
    by_cases empty : name = "" <;>
      simp [EnqueueOption.setting, EnqueueOption.apply, EnqueueOption.meaning, appendIf, empty]
  | withMaxRetry n => rfl
  | withDeadline t | withProcessAt t =>
    by_cases zero : t.sinceZero = 0 <;>
      simp [EnqueueOption.setting, EnqueueOption.apply, EnqueueOption.meaning, appendIf,
        Time.isZero, zero]
  | withProcessIn d | withUnique d | withTimeout d | withRetention d =>
    by_cases positive : 0 < d
    · simp [EnqueueOption.setting, EnqueueOption.apply, EnqueueOption.meaning, appendIf, positive,
        Time.isZero, zeroOptions, zeroTime, Int.not_le.mpr positive]
    · simp [EnqueueOption.setting, EnqueueOption.apply, EnqueueOption.meaning, appendIf, positive,
        Time.isZero, zeroOptions, zeroTime, Int.not_lt.mp positive]

/-- The library in use changes nothing but a negative number of retries. -/
theorem normalized_eq (call : AsynqCall) : call.normalized = match call with
    | .maxRetry n => .maxRetry (max n 0)
    | other => other := by
  -- A negative count becomes zero, and everything else is kept.
  cases call with
  | maxRetry n =>
    by_cases negative : n < 0
    · simp [AsynqCall.normalized, negative, Int.max_eq_right (Int.le_of_lt negative)]
    · simp [AsynqCall.normalized, negative, Int.max_eq_left (Int.not_lt.mp negative)]
  | _ => rfl

/-- What a list of options asks for in a setting is what the last of them in it asks for. -/
theorem emit_evaluated (opts : List EnqueueOption) (setting : EnqueueSetting) :
    (evaluated opts).emit setting =
      ((lastTouching (fun opt => decide (opt.setting = setting)) opts).bind
        EnqueueOption.meaning).toList := by
  -- The last option of the setting counts as if it were the only option.
  unfold evaluated
  rw [(setting_overwrites setting).foldl]
  cases last : lastTouching (fun opt => decide (opt.setting = setting)) opts with
  | none =>
    rw [emit_eq]
    cases setting <;> rfl
  | some opt =>
    -- The last option found is one of this setting.
    have found : opt ∈ opts.filter fun opt => decide (opt.setting = setting) :=
      List.mem_of_getLast? last
    obtain rfl := of_decide_eq_true (List.mem_filter.mp found).2
    exact emit_apply opt

section Resolved

variable {Opt : Type} (asynq : AsynqLibrary Opt) (opts : List EnqueueOption)

/-- The option for a setting is what the library makes of what the last option in it asks for. -/
theorem toAsynqOpts_filter (setting : EnqueueSetting) :
    (toAsynqOpts asynq opts).filter
        (fun option => (asynq.tells option).kind.setting = setting) =
      ((lastTouching (fun opt => decide (opt.setting = setting)) opts).bind
        EnqueueOption.meaning).toList.map asynq.make := by
  -- What is emitted for a setting is what the last option that touches it means.
  rw [toAsynqOpts, asynqOpts_make, filter_setting, ← emit_evaluated]
  rfl

/-- No two of the options of the job queue are about one setting. -/
theorem toAsynqOpts_settings :
    ((toAsynqOpts asynq opts).map fun option => (asynq.tells option).kind.setting).Nodup := by
  -- Counting the options of a setting is measuring what the last option in it asks for.
  rw [List.nodup_iff_count_le_one]
  intro setting
  have chosen := congrArg List.length (toAsynqOpts_filter asynq opts setting)
  rw [← List.countP_eq_length_filter, List.length_map] at chosen
  rw [List.count, List.countP_map]
  have counted : (toAsynqOpts asynq opts).countP
      ((· == setting) ∘ fun option => (asynq.tells option).kind.setting) ≤ 1 := by
    simp only [Function.comp_def, beq_eq_decide, chosen]
    cases (lastTouching (fun opt => decide (opt.setting = setting)) opts).bind
      EnqueueOption.meaning <;> simp
  exact counted

/-- Two of the options of the job queue about one setting are the same. -/
theorem toAsynqOpts_unique {a b : Opt} (first : a ∈ toAsynqOpts asynq opts)
    (second : b ∈ toAsynqOpts asynq opts)
    (same : (asynq.tells a).kind.setting = (asynq.tells b).kind.setting) : a = b :=
  List.inj_on_of_nodup_map (toAsynqOpts_settings asynq opts) first second same

end Resolved

/-- Whether the stand-in records a call: its context is not done. -/
def EnqueueCall.live : EnqueueCall → Bool
  | .enqueueContext (some _) _ _ => false
  | _ => true

section Requests

variable {Opt : Type} (asynq : AsynqLibrary Opt)

/-- The request for the job queue that a recorded task stands for. -/
def EnqueuedTask.request (recorded : EnqueuedTask) : AsynqRequest Opt where
  type := recorded.task.type
  payload := recorded.task.payload
  options := recorded.options.asynqOpts asynq

/-- What a client that is ready sends for a call with a live context. -/
def EnqueueCall.requests (client : AsynqRequest Opt → Except Err AsynqInfo) (call : EnqueueCall) :
    List (AsynqRequest Opt) :=
  ((AsynqClient.call asynq client .closed .ready call).map Prod.fst).getD []

/-- The task of a call. -/
def EnqueueCall.task : EnqueueCall → Task
  | .enqueue task _ | .enqueueContext _ task _ => task

/-- The options of a call. -/
def EnqueueCall.opts : EnqueueCall → List EnqueueOption
  | .enqueue _ opts | .enqueueContext _ _ opts => opts

/-- What is sent for a call, whenever something is. -/
def EnqueueCall.request (call : EnqueueCall) : AsynqRequest Opt where
  type := call.task.type
  payload := call.task.payload
  options := toAsynqOpts asynq call.opts

/-- A client sends nothing, or the task of the call with its options. -/
theorem call_sends {client : AsynqRequest Opt → Except Err AsynqInfo} {ready : ReadyChannel}
    {branch : WaitBranch} {call : EnqueueCall} {sent : List (AsynqRequest Opt)}
    {result : Except Err TaskInfo}
    (sends : AsynqClient.call asynq client ready branch call = some (sent, result))
    (something : sent ≠ []) : sent = [call.request asynq] := by
  -- A call that is turned away has sent nothing, in either form.
  cases call with
  | enqueue task opts =>
    simp only [AsynqClient.call] at sends
    split at sends <;> cases sends
    · rfl
    · exact absurd rfl something
  | enqueueContext ctx task opts =>
    obtain ⟨outcome, -, sends⟩ := Option.map_eq_some_iff.mp sends
    cases outcome with
    | none =>
      cases sends
      rfl
    | some err =>
      cases sends
      exact absurd rfl something

/-- A client that is ready sends a call whose context is not done. -/
theorem requests_live {call : EnqueueCall} (live : call.live = true)
    (client : AsynqRequest Opt → Except Err AsynqInfo) :
    call.requests asynq client = [call.request asynq] := by
  -- Only a context that is done keeps a call from the client.
  cases call with
  | enqueue task opts => rfl
  | enqueueContext ctx task opts =>
    cases ctx with
    | none => rfl
    | some err => cases live

/-- The stand-in records a call whose context is not done with its evaluated options. -/
theorem call_live (c : InMemoryClient) (now : Time) {call : EnqueueCall}
    (live : call.live = true) :
    (c.call now call).1.tasks = c.tasks ++ [⟨call.task, evaluated call.opts, now⟩] := by
  -- The call is recorded with the options as they resolve.
  cases call with
  | enqueue task opts => rfl
  | enqueueContext ctx task opts =>
    cases ctx with
    | none => rfl
    | some err => cases live

/-- The stand-in refuses a call whose context is done, and records nothing. -/
theorem call_done (c : InMemoryClient) (now : Time) {call : EnqueueCall}
    (done : call.live = false) : ∃ err, c.call now call = (c, .error err) := by
  -- A context that is done is the only refusal.
  cases call with
  | enqueue task opts => cases done
  | enqueueContext ctx task opts =>
    cases ctx with
    | none => cases done
    | some err => exact ⟨err, rfl⟩

/-- What the stand-in records of a call stands for what is sent. -/
theorem call_records {c : InMemoryClient} {now : Time} {call : EnqueueCall}
    {recorded : EnqueuedTask} {info : TaskInfo}
    (added : c.call now call = (⟨c.tasks ++ [recorded]⟩, .ok info)) :
    recorded.request asynq = call.request asynq := by
  cases live : call.live with
  | true =>
    -- The task that was added is the one that the record of the call ends with.
    have tasks := call_live c now live
    rw [added, List.append_cancel_left_eq, List.cons.injEq] at tasks
    rw [tasks.1]
    rfl
  | false =>
    obtain ⟨err, refused⟩ := call_done c now live
    rw [refused] at added
    cases (Prod.mk.inj added).2

/-- A call adds to the record what the client would send. -/
theorem call_requests (c : InMemoryClient) (now : Time) (call : EnqueueCall)
    (client : AsynqRequest Opt → Except Err AsynqInfo) :
    (c.call now call).1.tasks.map (EnqueuedTask.request asynq) =
      c.tasks.map (EnqueuedTask.request asynq) ++
        if call.live then call.requests asynq client else [] := by
  -- What is recorded of a live call is what the client would have been asked.
  cases live : call.live with
  | true =>
    rw [call_live c now live, List.map_append, if_pos rfl, requests_live asynq live]
    rfl
  | false =>
    obtain ⟨err, refused⟩ := call_done c now live
    simp [refused]

/-- What the stand-in has recorded after any calls is what the client would have sent. -/
theorem callAll_requests (c : InMemoryClient) (calls : List (Time × EnqueueCall))
    (client : AsynqRequest Opt → Except Err AsynqInfo) :
    (c.callAll calls).tasks.map (EnqueuedTask.request asynq) =
      c.tasks.map (EnqueuedTask.request asynq) ++
        ((calls.map Prod.snd).filter EnqueueCall.live).flatMap
          (EnqueueCall.requests asynq client) := by
  -- The record only grows, so the first call is recorded before the rest.
  induction calls generalizing c with
  | nil => simp [InMemoryClient.callAll]
  | cons head rest ih =>
    obtain ⟨now, call⟩ := head
    have later := ih (c.call now call).1
    rw [call_requests asynq c now call client] at later
    cases recorded : call.live <;>
      simpa [InMemoryClient.callAll, recorded] using later

end Requests

/--
Enqueue options resolve consistently, whatever the library of the job queue makes of them.

The options of the job queue are determined setting by setting, each by the last option that is
about it, so their order matters only among options that assign to a common field. What the
stand-in records determines what the client sends, whatever the job queue answers.
-/
theorem enqueue_options_resolve {Opt : Type} (asynq : AsynqLibrary Opt)
    (opts : List EnqueueOption) :
    -- At most one option of each kind, and one way to schedule.
    ((toAsynqOpts asynq opts).map fun option => (asynq.tells option).kind).Nodup ∧
    (∀ a ∈ toAsynqOpts asynq opts, ∀ b ∈ toAsynqOpts asynq opts,
      ¬((asynq.tells a).kind = .processIn ∧ (asynq.tells b).kind = .processAt)) ∧
    -- The last option of a setting decides it alone: its value is what the constructor is given.
    (∀ setting, (toAsynqOpts asynq opts).filter
        (fun option => (asynq.tells option).kind.setting = setting) =
      ((lastTouching (fun opt => decide (opt.setting = setting)) opts).bind
        EnqueueOption.meaning).toList.map asynq.make) ∧
    -- The library in use passes every value on, except that a negative retry count becomes zero.
    (∀ setting, (toAsynqOpts asynqLibrary opts).filter
        (fun option => option.kind.setting = setting) =
      ((lastTouching (fun opt => decide (opt.setting = setting)) opts).bind
        EnqueueOption.meaning).toList.map fun call => match call with
          | .maxRetry n => .maxRetry (max n 0)
          | other => other) ∧
    -- Only the order among options that share a field matters.
    (∀ from_ : Equiv.Perm (Fin opts.length), KeepsOrder SharesField opts from_ →
      evaluated (permuted opts from_) = evaluated opts ∧
      toAsynqOpts asynq (permuted opts from_) = toAsynqOpts asynq opts) ∧
    -- The record determines what is sent, call by call and over whole sequences of calls.
    (∀ (c : InMemoryClient) (now : Time) (call : EnqueueCall) recorded info,
      c.call now call = (⟨c.tasks ++ [recorded]⟩, .ok info) →
      ∀ client ready branch sent result,
        AsynqClient.call asynq client ready branch call = some (sent, result) → sent ≠ [] →
        sent = [⟨recorded.task.type, recorded.task.payload, recorded.options.asynqOpts asynq⟩]) ∧
    ∀ (calls : List (Time × EnqueueCall)) (client : AsynqRequest Opt → Except Err AsynqInfo),
      (InMemoryClient.new.callAll calls).tasks.map (EnqueuedTask.request asynq) =
        ((calls.map Prod.snd).filter EnqueueCall.live).flatMap
          (EnqueueCall.requests asynq client) := by
  refine ⟨?_, ?_, toAsynqOpts_filter asynq opts, ?_, ?_, ?_, ?_⟩
  · -- Options of one kind are about one setting.
    have settings : (((toAsynqOpts asynq opts).map fun option =>
        (asynq.tells option).kind).map EnqueueField.setting).Nodup := by
      rw [List.map_map]
      exact toAsynqOpts_settings asynq opts
    exact settings.of_map _
  · rintro a first b second ⟨delayed, scheduled⟩
    have same := toAsynqOpts_unique asynq opts first second (by rw [delayed, scheduled]; rfl)
    rw [same, scheduled] at delayed
    cases delayed
  · intro setting
    refine (toAsynqOpts_filter asynqLibrary opts setting).trans ?_
    congr 1
    funext call
    exact normalized_eq call
  · intro from_ keeps
    have same : evaluated (permuted opts from_) = evaluated opts := by
      apply EnqueueOptions.ext_get
      intro field
      apply (field_overwrites field).agree
      apply keeps.filter
      intro a b first second
      exact ⟨field, by simpa using first, by simpa using second⟩
    exact ⟨same, congrArg (EnqueueOptions.asynqOpts asynq) same⟩
  · intro c now call recorded info added client ready branch sent result sends something
    rw [call_sends asynq sends something, ← call_records asynq added]
    rfl
  · intro calls client
    simpa [InMemoryClient.new] using callAll_requests asynq .new calls client

/-- A permutation may move options of other settings, and the last schedule wins. -/
theorem enqueue_options_resolve_schedule :
    let opts : List EnqueueOption :=
      [.withProcessIn 60, .withQueue "high", .withProcessAt ⟨3600, "UTC"⟩, .withTimeout (-5)]
    toAsynqOpts asynqLibrary opts = [.queue "high", .processAt ⟨3600, "UTC"⟩] ∧
    KeepsOrder SharesField opts (Equiv.swap 1 2) ∧
    toAsynqOpts asynqLibrary (permuted opts (Equiv.swap 1 2)) = toAsynqOpts asynqLibrary opts := by
  -- Swapping the two in the middle keeps the order of those that share a field.
  intro opts
  have keeps : KeepsOrder SharesField opts (Equiv.swap 1 2) := by
    unfold KeepsOrder
    decide +kernel
  exact ⟨rfl, keeps, ((enqueue_options_resolve asynqLibrary opts).2.2.2.2.1 _ keeps).2⟩

/-- The value that is sent is not always that of the last option: minus one retry becomes none. -/
theorem negative_retries_replaced : ∃ (opts : List EnqueueOption) (n sent : Int),
    lastTouching (fun opt => decide (opt.setting = .maxRetry)) opts = some (.withMaxRetry n) ∧
    toAsynqOpts asynqLibrary opts = [.maxRetry sent] ∧ sent ≠ n :=
  ⟨[.withMaxRetry (-1)], -1, 0, rfl, rfl, by decide⟩

end Bootkit
