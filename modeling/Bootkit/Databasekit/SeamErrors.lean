import Bootkit.Databasekit.Seam
import Bootkit.Go.Trace

/-! Which errors of the driver reach the callers of the seam in the framework's words. -/

namespace Bootkit

open Go

/-- A sentinel of the framework matches itself, and no other sentinel of the seam. -/
theorem sentinels_apart : (Err.new errTxClosed).is errTxClosed = true ∧
    (Err.new errNoRows).is errNoRows = true ∧ (Err.new errTxClosed).is errNoRows = false ∧
    (Err.new errNoRows).is errTxClosed = false ∧
    (Err.new pgxErrTxClosed).is errTxClosed = false := by
  decide

/-- What a caller is told of an error of the driver. -/
def SeamCall.deliver : SeamCall → Err → Err
  | .rowScan _, err => if err.is pgxErrNoRows then .new errNoRows else err
  | .rollback _, err => if err.is pgxErrTxClosed then .new errTxClosed else err
  -- Every other method passes the error on.
  | _, err => err

/-- The error of a call that gets as far as the driver is the driver's, as the method names it. -/
theorem seamCall_err {s : SeamState} {c : SeamCall} (reply : PgxReply)
    (reached : s.reaches c = true) (fallible : c.fallible = true) :
    (seamCall s c reply).2.err = reply.err.map c.deliver := by
  -- By the kind of the call: most pass the driver's error on, and two translate it.
  cases c with
  | exec on | query on | begin on =>
    have backed : s.backed on = true := by
      simpa [SeamState.reaches, SeamCall.provider] using reached
    cases failed : reply.err <;>
      simp [seamCall, backed, failed, SeamResult.err, SeamCall.deliver]
  | rowScan row =>
    simp only [SeamState.reaches] at reached
    simp only [seamCall]
    split at reached
    · cases reached
    · cases failed : reply.err <;> simp_all [SeamResult.err, rowAdapterScan, SeamCall.deliver]
  | rollback tx =>
    cases failed : reply.err <;>
      simp [seamCall, failed, SeamResult.err, txAdapterRollback, SeamCall.deliver]
  | commit tx | rowsScan rows | rowsErr rows =>
    cases failed : reply.err <;> simp [seamCall, failed, SeamResult.err, SeamCall.deliver]
  | queryRow on | rowsNext rows | rowsClose rows => cases fallible

/-- A call whose method has no error tells none. -/
theorem seamCall_silent {s : SeamState} {c : SeamCall} (reply : PgxReply)
    (infallible : c.fallible = false) : (seamCall s c reply).2.err = none := by
  -- Three calls return no error at all.
  cases c with
  | queryRow on | rowsNext rows | rowsClose rows => rfl
  | _ => cases infallible

/-- Exactly a commit and a rollback close a transaction. -/
theorem seamCall_closed (s : SeamState) (c : SeamCall) (reply : PgxReply) (tx : Nat) :
    (seamCall s c reply).1.closed tx = true ↔
      s.closed tx = true ∨ c = .commit tx ∨ c = .rollback tx := by
  -- Only the two calls that end a transaction close it, whatever the driver replies.
  cases c with
  | commit other | rollback other =>
    by_cases same : tx = other
    · simp [seamCall, same]
    · simp [seamCall, same, Ne.symm same]
  | exec on | query on | begin on =>
    simp only [seamCall]
    split
    · cases reply.err <;> simp
    · simp
  | rowScan row =>
    simp only [seamCall]
    split <;> simp
  | _ => simp [seamCall]

/-- A row that was handed out stays what it is. -/
theorem seamCall_row {s : SeamState} {k : Nat} {row : SeamRow} (c : SeamCall) (reply : PgxReply)
    (held : s.row[k]? = some row) : (seamCall s c reply).1.row[k]? = some row := by
  -- Rows are only appended.
  cases c with
  | queryRow on =>
    obtain ⟨inside, -⟩ := List.getElem?_eq_some_iff.mp held
    simp only [seamCall]
    rw [List.getElem?_append_left inside]
    exact held
  | exec on | query on | begin on =>
    simp only [seamCall]
    split
    · cases reply.err <;> exact held
    · exact held
  | rowScan other =>
    simp only [seamCall]
    split <;> exact held
  | _ => exact held

/-- What a call can do. -/
theorem seamStep_call {s next : SeamState} {c : SeamCall} {reply : PgxReply}
    (taken : seamStep s (.call c reply) = some next) :
    s.permits c reply = true ∧ next = { (seamCall s c reply).1 with
      deliveries := s.deliveries ++
        [⟨c, if s.reaches c then reply.err else none, (seamCall s c reply).2⟩] } := by
  -- The guard of the step is the permission, and the delivery is what it appends.
  simp only [seamStep] at taken
  split at taken
  · rename_i enabled
    rw [Bool.and_eq_true] at enabled
    exact ⟨enabled.2, (Option.some.inj taken).symm⟩
  · cases taken

/-- A transaction was committed or rolled back by one of several calls. -/
def ClosedIn (tx : Nat) (calls : List Delivery) : Prop :=
  ∃ d ∈ calls, d.call = .commit tx ∨ d.call = .rollback tx

/--
A call is about a transaction that earlier calls had closed.

The scan of a single row is about the transaction on which the row was asked for.
-/
def OnClosed (tx : Nat) (earlier : List Delivery) (d : Delivery) : Prop :=
  (d.call.provider = some (.pgxTxAdapter tx) ∧ ClosedIn tx earlier) ∨
  ∃ before asked between row, earlier = before ++ asked :: between ∧
    asked.call = .queryRow (.pgxTxAdapter tx) ∧ asked.result = .row row ∧
    ClosedIn tx before ∧ d.call = .rowScan row

/-- Of the calls about a closed transaction only a rollback names it in the framework's words. -/
theorem OnClosed.recognised {tx : Nat} {earlier : List Delivery} {d : Delivery}
    (about : OnClosed tx earlier d) :
    (d.call.deliver (.new pgxErrTxClosed)).is errTxClosed = true ↔ d.call = .rollback tx := by
  obtain ⟨own, -, -, -, unmatched⟩ := sentinels_apart
  rcases about with ⟨on, -⟩ | ⟨-, -, -, row, -, -, -, -, scan⟩
  · cases called : d.call with
    | rollback other =>
      obtain rfl : other = tx := by simpa [called, SeamCall.provider] using on
      exact iff_of_true own rfl
    | rowScan row => simp [called, SeamCall.provider] at on
    | _ => simp [SeamCall.deliver, unmatched]
  · -- A scan looks for a missing row only.
    have kept : (SeamCall.rowScan row).deliver (.new pgxErrTxClosed) = .new pgxErrTxClosed := rfl
    rw [scan, kept, unmatched]
    simp

/-- What the calls so far say about the state of the seam. -/
structure SeamHistory (s : SeamState) : Prop where
  told : ∀ d ∈ s.deliveries, ∀ err, d.driver = some err → d.result.err = some (d.call.deliver err)
  silent : ∀ d ∈ s.deliveries, d.call.fallible = false → d.result.err = none
  closed : ∀ tx, ClosedIn tx s.deliveries → s.closed tx = true
  asked : ∀ earlier d later tx row, s.deliveries = earlier ++ d :: later →
    d.call = .queryRow (.pgxTxAdapter tx) → d.result = .row row → ClosedIn tx earlier →
    s.row[row]? = some (.pgxRowAdapter true)
  answered : ∀ earlier d later tx, s.deliveries = earlier ++ d :: later → OnClosed tx earlier d →
    d.call.fallible = true → d.driver = some (.new pgxErrTxClosed)

/-- A call about a closed transaction finds it closed, and reaches the driver. -/
theorem SeamHistory.stale {s : SeamState} (sound : SeamHistory s) {tx : Nat} {d : Delivery}
    (about : OnClosed tx s.deliveries d) : s.stale d.call = true ∧ s.reaches d.call = true := by
  -- A statement on a closed transaction is stale, and so is a row that was asked for through one.
  rcases about with ⟨on, closed⟩ | ⟨before, asked, between, row, split, query, got, closed, scan⟩
  · have spent := sound.closed tx closed
    cases found : d.call <;>
      simp_all [SeamState.stale, SeamState.reaches, SeamCall.provider, SeamState.spent,
        SeamState.backed]
  · have held := sound.asked before asked between tx row split query got closed
    simp [SeamState.stale, SeamState.reaches, scan, held]

/-- Every call keeps the history. -/
theorem SeamHistory.call {s next : SeamState} {c : SeamCall} {reply : PgxReply}
    (sound : SeamHistory s) (taken : seamStep s (.call c reply) = some next) :
    SeamHistory next := by
  obtain ⟨permitted, rfl⟩ := seamStep_call taken
  constructor
  case told =>
    intro d listed err failed
    rcases List.mem_append.mp listed with old | new
    · exact sound.told d old err failed
    · obtain rfl := List.mem_singleton.mp new
      by_cases reached : s.reaches c = true
      · have cause : reply.err = some err := by simpa [reached] using failed
        have fallible : c.fallible = true := by
          by_contra infallible
          simp [SeamState.permits, infallible, cause] at permitted
        simpa [cause] using seamCall_err reply reached fallible
      · simp [reached] at failed
  case silent =>
    intro d listed infallible
    rcases List.mem_append.mp listed with old | new
    · exact sound.silent d old infallible
    · obtain rfl := List.mem_singleton.mp new
      exact seamCall_silent reply infallible
  case closed =>
    rintro tx ⟨d, listed, closes⟩
    rw [seamCall_closed]
    rcases List.mem_append.mp listed with old | new
    · exact .inl (sound.closed tx ⟨d, old, closes⟩)
    · obtain rfl := List.mem_singleton.mp new
      exact .inr closes
  case asked =>
    intro earlier d later tx row split query got closed
    rcases split_concat split with ⟨rfl, rfl, -⟩ | ⟨rest, -, prior⟩
    · -- The row is the one handed out just now, on a transaction that is closed.
      obtain rfl : c = .queryRow (.pgxTxAdapter tx) := query
      obtain rfl : s.row.length = row := by simpa [seamCall] using got
      have spent := sound.closed tx closed
      simp [seamCall, SeamState.backed, SeamState.spent, spent]
    · exact seamCall_row c reply (sound.asked earlier d rest tx row prior query got closed)
  case answered =>
    intro earlier d later tx split about fallible
    rcases split_concat split with ⟨rfl, rfl, -⟩ | ⟨rest, -, prior⟩
    · obtain ⟨stale, reached⟩ := sound.stale about
      simp only at stale reached fallible
      simpa [SeamState.permits, fallible, stale, reached] using permitted
    · exact sound.answered earlier d rest tx prior about fallible

/-- The history holds after every run. -/
theorem seamHistory_run {labels : List SeamLabel} {s : SeamState}
    (reached : seamMachine.run newSeam labels = some s) : SeamHistory s := by
  -- Connecting delivers nothing, and the calls were considered on their own.
  refine seamMachine.run_invariant ?_ ?_ reached
  · constructor <;> simp [newSeam, ClosedIn]
  · intro s label next sound taken
    cases label with
    | connected =>
      obtain rfl : { s with pooled := true } = next := Option.some.inj taken
      exact ⟨sound.told, sound.silent, sound.closed, sound.asked, sound.answered⟩
    | call c reply => exact sound.call taken

/-- An error of the driver that matches one of its sentinels is told as the framework's. -/
def Delivery.Translated (d : Delivery) : Prop :=
  ∀ err, d.driver = some err → ∃ told, d.result.err = some told ∧
    (err.is pgxErrTxClosed = true → told.is errTxClosed = true) ∧
    (err.is pgxErrNoRows = true → told.is errNoRows = true)

/-- The driver reports a closed transaction to a rollback only, and a missing row to a scan only. -/
def Delivery.Covered (d : Delivery) : Prop :=
  ∀ err, d.driver = some err →
    (err.is pgxErrTxClosed = true → ∃ tx, d.call = .rollback tx) ∧
    (err.is pgxErrNoRows = true → ∃ row, d.call = .rowScan row)

/-- The driver's error has nothing of the framework in it. -/
def Delivery.Foreign (d : Delivery) : Prop :=
  ∀ err, d.driver = some err → err.is errTxClosed = false ∧ err.is errNoRows = false

/-- An error that only its own method meets is told in the framework's words. -/
theorem SeamCall.deliver_covered {c : SeamCall} {err : Err}
    (closed : err.is pgxErrTxClosed = true → ∃ tx, c = .rollback tx)
    (missing : err.is pgxErrNoRows = true → ∃ row, c = .rowScan row) :
    (err.is pgxErrTxClosed = true → (c.deliver err).is errTxClosed = true) ∧
    (err.is pgxErrNoRows = true → (c.deliver err).is errNoRows = true) := by
  -- Each of the two sentinels is translated by the one call that looks for it.
  constructor
  · intro matching
    obtain ⟨tx, rfl⟩ := closed matching
    simp only [SeamCall.deliver, if_pos matching]
    exact sentinels_apart.1
  · intro matching
    obtain ⟨row, rfl⟩ := missing matching
    simp only [SeamCall.deliver, if_pos matching]
    exact sentinels_apart.2.1

/-- A foreign error that is told in the framework's words met its own method. -/
theorem SeamCall.deliver_translated {c : SeamCall} {err : Err}
    (unclosed : err.is errTxClosed = false) (unmissing : err.is errNoRows = false)
    (closed : err.is pgxErrTxClosed = true → (c.deliver err).is errTxClosed = true)
    (missing : err.is pgxErrNoRows = true → (c.deliver err).is errNoRows = true) :
    (err.is pgxErrTxClosed = true → ∃ tx, c = .rollback tx) ∧
    (err.is pgxErrNoRows = true → ∃ row, c = .rowScan row) := by
  obtain ⟨-, -, noRows, txClosed, -⟩ := sentinels_apart
  cases c with
  | rollback tx =>
    refine ⟨fun _ => ⟨tx, rfl⟩, fun matching => ?_⟩
    -- Whether or not it is rewritten, the error names no missing row.
    have told := missing matching
    simp only [SeamCall.deliver] at told
    split at told
    · rw [noRows] at told
      cases told
    · rw [unmissing] at told
      cases told
  | rowScan row =>
    refine ⟨fun matching => ?_, fun _ => ⟨row, rfl⟩⟩
    have told := closed matching
    simp only [SeamCall.deliver] at told
    split at told
    · rw [txClosed] at told
      cases told
    · rw [unclosed] at told
      cases told
  | _ =>
    simp only [SeamCall.deliver, unclosed, unmissing] at closed missing
    exact ⟨fun matching => absurd (closed matching) (by simp),
      fun matching => absurd (missing matching) (by simp)⟩

/--
The driver's sentinels cross the seam as the framework's exactly where a method rewrites them.

On a closed transaction the framework's sentinel is told to a rollback, and to nothing else.
-/
theorem seam_errors_native (labels : List SeamLabel) (s : SeamState)
    (reached : seamMachine.run newSeam labels = some s) :
    (∀ d ∈ s.deliveries, (d.Covered → d.Translated) ∧
      (d.Foreign → d.Translated → d.Covered)) ∧
    ∀ earlier d later tx, s.deliveries = earlier ++ d :: later → OnClosed tx earlier d →
      ∀ err, d.result.err = some err → (err.is errTxClosed = true ↔ d.call = .rollback tx) := by
  have sound := seamHistory_run reached
  refine ⟨?_, ?_⟩
  · -- A delivery is the driver's error as the call delivers it.
    intro d listed
    refine ⟨?_, ?_⟩
    · intro covered err failed
      obtain ⟨closed, missing⟩ := covered err failed
      exact ⟨_, sound.told d listed err failed, SeamCall.deliver_covered closed missing⟩
    · intro foreign translated err failed
      obtain ⟨told, delivered, closed, missing⟩ := translated err failed
      rw [sound.told d listed err failed] at delivered
      obtain rfl := Option.some.inj delivered
      exact SeamCall.deliver_translated (foreign err failed).1 (foreign err failed).2 closed missing
  · -- On a closed transaction the driver says so, and only `Rollback` translates that.
    intro earlier d later tx split about err failed
    have listed : d ∈ s.deliveries := by simp [split]
    have fallible : d.call.fallible = true := by
      by_contra infallible
      rw [sound.silent d listed (by simpa using infallible)] at failed
      cases failed
    have driver := sound.answered earlier d later tx split about fallible
    have told := sound.told d listed _ driver
    rw [told] at failed
    obtain rfl := Option.some.inj failed
    exact about.recognised

/-- The calls that begin a transaction and commit it. -/
def committedCalls : List SeamLabel :=
  [.call (.begin .poolAdapter) (.outcome none), .call (.commit 0) (.outcome none)]

/-- What the callers got from them. -/
def committedDeliveries : List Delivery :=
  [⟨.begin .poolAdapter, none, .tx (.ok 0)⟩, ⟨.commit 0, none, .outcome none⟩]

/-- A call on the committed transaction finds it closed. -/
theorem onClosed_committed {d : Delivery} (on : d.call.provider = some (.pgxTxAdapter 0)) :
    OnClosed 0 committedDeliveries d :=
  .inl ⟨on, ⟨.commit 0, none, .outcome none⟩, by simp [committedDeliveries], .inl rfl⟩

/-- A rollback after a commit is told that the transaction is closed. -/
theorem seam_errors_native_rollback : ∃ s d err, seamMachine.run newSeam
    (committedCalls ++ [.call (.rollback 0) (.outcome (some (.new pgxErrTxClosed)))]) = some s ∧
    s.deliveries = committedDeliveries ++ [d] ∧ d.result.err = some err ∧
    err.is errTxClosed = true ∧ d.Translated := by
  -- The transaction was committed before, and the driver tells the rollback so.
  obtain ⟨s, reached, seen⟩ := seamMachine.run_observe newSeam
    (committedCalls ++ [.call (.rollback 0) (.outcome (some (.new pgxErrTxClosed)))])
    (fun s => s.deliveries = committedDeliveries ++
      [⟨.rollback 0, some (.new pgxErrTxClosed), .outcome (some (.new errTxClosed))⟩])
    (by decide +kernel)
  have law := seam_errors_native _ s reached
  have recognised := law.2 committedDeliveries _ [] 0 seen (onClosed_committed rfl) _ rfl
  have covered : Delivery.Covered
      ⟨.rollback 0, some (.new pgxErrTxClosed), .outcome (some (.new errTxClosed))⟩ := by
    intro err failed
    obtain rfl := Option.some.inj failed
    exact ⟨fun _ => ⟨0, rfl⟩, fun missing => absurd missing (by decide)⟩
  exact ⟨s, _, _, reached, seen, rfl, recognised.mpr rfl, (law.1 _ (by simp [seen])).1 covered⟩

/-- A statement after a commit is told of the closed transaction in the driver's words. -/
theorem closed_statement_unrecognised : ∃ labels s d err,
    seamMachine.run newSeam labels = some s ∧ s.deliveries = committedDeliveries ++ [d] ∧
    d.call = .exec (.pgxTxAdapter 0) ∧ OnClosed 0 committedDeliveries d ∧
    d.driver = some (.new pgxErrTxClosed) ∧ d.result.err = some err ∧
    err.is errTxClosed = false := by
  -- The statement passes the driver's sentinel on, which is not the framework's.
  obtain ⟨s, reached, seen⟩ := seamMachine.run_observe newSeam
    (committedCalls ++
      [.call (.exec (.pgxTxAdapter 0)) (.outcome (some (.new pgxErrTxClosed)))])
    (fun s => s.deliveries = committedDeliveries ++
      [⟨.exec (.pgxTxAdapter 0), some (.new pgxErrTxClosed),
        .count 0 (some (.new pgxErrTxClosed))⟩])
    (by decide +kernel)
  exact ⟨_, s, _, _, reached, seen, rfl, onClosed_committed rfl, rfl, rfl, by decide⟩

end Bootkit
