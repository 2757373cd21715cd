import Bootkit.Go.Machine

/-! A journal of accounts that are opened with an amount and are never overdrawn. -/

namespace Go

/-- What the openings and the entries of a journal mean. -/
structure Book (Account Opening Entry : Type) where
  -- The amount that an account is opened with.
  limit : Opening → Int
  -- The account that an entry draws on, and how much it takes.
  account : Entry → Account
  amount : Entry → Int
  -- Whether an entry may stand against an opening at all.
  permits : Opening → Entry → Bool

namespace Book

variable {Account Opening Entry : Type} [DecidableEq Account]

/-- What the entries have taken from one account. -/
def drawn (book : Book Account Opening Entry) : List Entry → Account → Int
  | [], _ => 0
  | entry :: rest, account =>
    (if book.account entry = account then book.amount entry else 0) + book.drawn rest account

variable {book : Book Account Opening Entry}

/-- One more entry takes its amount from its own account. -/
theorem drawn_concat (entries : List Entry) (entry : Entry) (account : Account) :
    book.drawn (entries ++ [entry]) account =
      book.drawn entries account +
        if book.account entry = account then book.amount entry else 0 := by
  -- By induction on the entries before.
  induction entries with
  | nil => simp [drawn]
  | cons head rest ih => simp [drawn, ih, Int.add_assoc]

/-- Nothing is taken from an account that no entry draws on. -/
theorem drawn_unused {entries : List Entry} {account : Account}
    (unused : ∀ entry ∈ entries, book.account entry ≠ account) :
    book.drawn entries account = 0 := by
  -- No entry counts for the account.
  induction entries with
  | nil => rfl
  | cons head rest ih =>
    have later : book.drawn rest account = 0 :=
      ih fun entry member => unused entry (List.mem_cons_of_mem head member)
    simp [drawn, later, unused head List.mem_cons_self]

end Book

/-- The accounts and the entries of a book, with no account overdrawn. -/
structure Journal {Account Opening Entry : Type} [DecidableEq Account]
    (book : Book Account Opening Entry) where
  openings : Account → Option Opening
  entries : List Entry
  -- Every entry draws on an account that permits it.
  backed : ∀ entry ∈ entries, ∃ opening, openings (book.account entry) = some opening ∧
    book.permits opening entry = true
  within : ∀ account opening, openings account = some opening →
    book.drawn entries account ≤ book.limit opening

namespace Journal

variable {Account Opening Entry : Type} [DecidableEq Account] {book : Book Account Opening Entry}

/-- The journal without any account. -/
def empty : Journal book where
  openings := fun _ => none
  entries := []
  backed := by simp
  within := by simp

/-- What is left of an account. -/
def remaining (journal : Journal book) (account : Account) (opening : Opening) : Int :=
  book.limit opening - book.drawn journal.entries account

/-- An open account is never overdrawn. -/
theorem remaining_nonneg (journal : Journal book) {account : Account} {opening : Opening}
    (opened : journal.openings account = some opening) : 0 ≤ journal.remaining account opening := by
  -- What is drawn is within the limit, by the journal's own field.
  have within := journal.within account opening opened
  unfold remaining
  omega

/-- Nothing is drawn on an account before it is opened. -/
theorem drawn_unopened (journal : Journal book) {account : Account}
    (unopened : journal.openings account = none) : book.drawn journal.entries account = 0 := by
  -- Every entry is backed by an opening of its account.
  refine Book.drawn_unused fun entry member same => ?_
  obtain ⟨opening, opened, -⟩ := journal.backed entry member
  rw [same, unopened] at opened
  cases opened

/-- One new account. -/
def opens (journal : Journal book) (account : Account) (opening : Opening)
    (unopened : journal.openings account = none) (covered : 0 ≤ book.limit opening) :
    Journal book where
  openings := update journal.openings account (some opening)
  entries := journal.entries
  backed := by
    intro entry member
    obtain ⟨known, opened, permitted⟩ := journal.backed entry member
    have other : book.account entry ≠ account := by
      intro same
      rw [same, unopened] at opened
      cases opened
    exact ⟨known, by rw [update_other _ _ other, opened], permitted⟩
  within := by
    intro other known opened
    by_cases same : other = account
    · -- The new account has its whole amount left.
      subst same
      rw [update_self] at opened
      cases opened
      rw [journal.drawn_unopened unopened]
      exact covered
    · rw [update_other _ _ same] at opened
      exact journal.within other known opened

/-- One new entry, for which there is enough left. -/
def draws (journal : Journal book) (entry : Entry) (opening : Opening)
    (opened : journal.openings (book.account entry) = some opening)
    (permitted : book.permits opening entry = true)
    (enough : book.amount entry ≤ journal.remaining (book.account entry) opening) :
    Journal book where
  openings := journal.openings
  entries := journal.entries ++ [entry]
  backed := by
    intro other member
    rcases List.mem_append.mp member with member | member
    · exact journal.backed other member
    · obtain rfl : other = entry := by simpa using member
      exact ⟨opening, opened, permitted⟩
  within := by
    intro account known held
    have within := journal.within account known held
    rw [Book.drawn_concat]
    by_cases same : book.account entry = account
    · subst same
      obtain rfl : opening = known := Option.some.inj (opened.symm.trans held)
      unfold remaining at enough
      rw [if_pos rfl]
      omega
    · rw [if_neg same]
      omega

/-- What can be written into a journal. -/
inductive Posting (Account Opening Entry : Type) where
  | opening (account : Account) (opening : Opening)
  | entry (entry : Entry)

/-- One posting, when the journal has room for it. -/
def post (journal : Journal book) : Posting Account Opening Entry → Option (Journal book)
  | .opening account opening =>
    match unopened : journal.openings account with
    | some _ => none
    | none =>
      if covered : 0 ≤ book.limit opening then some (journal.opens account opening unopened covered)
      else none
  | .entry entry =>
    match opened : journal.openings (book.account entry) with
    | none => none
    | some opening =>
      if allowed : book.permits opening entry = true ∧
          book.amount entry ≤ journal.remaining (book.account entry) opening then
        some (journal.draws entry opening opened allowed.1 allowed.2)
      else none

/-- A new account is posted when it is not open yet. -/
theorem post_opening (journal : Journal book) {account : Account} {opening : Opening}
    (unopened : journal.openings account = none) (covered : 0 ≤ book.limit opening) :
    journal.post (.opening account opening) =
      some (journal.opens account opening unopened covered) := by
  -- The guards of an opening are the two premises.
  simp only [post]
  split
  · next opened =>
    rw [unopened] at opened
    cases opened
  · rw [dif_pos covered]

/-- An entry is posted when its account is open and has enough left. -/
theorem post_entry (journal : Journal book) {entry : Entry} {opening : Opening}
    (opened : journal.openings (book.account entry) = some opening)
    (permitted : book.permits opening entry = true)
    (enough : book.amount entry ≤ journal.remaining (book.account entry) opening) :
    journal.post (.entry entry) = some (journal.draws entry opening opened permitted enough) := by
  -- The guards of an entry are met with the opening that is there.
  simp only [post]
  split
  · next unopened =>
    rw [opened] at unopened
    cases unopened
  · next known held =>
    obtain rfl : opening = known := Option.some.inj (opened.symm.trans held)
    rw [dif_pos ⟨permitted, enough⟩]

/-- Another account has as much left after an entry as before it. -/
theorem remaining_draws_other (journal : Journal book) {entry : Entry} {opening known : Opening}
    (opened : journal.openings (book.account entry) = some opening)
    (permitted : book.permits opening entry = true)
    (enough : book.amount entry ≤ journal.remaining (book.account entry) opening)
    {account : Account} (other : account ≠ book.account entry) :
    (journal.draws entry opening opened permitted enough).remaining account known =
      journal.remaining account known := by
  simp [remaining, draws, Book.drawn_concat, other.symm]

/-- The account of an entry has that much less left. -/
theorem remaining_draws_self (journal : Journal book) {entry : Entry} {opening : Opening}
    (opened : journal.openings (book.account entry) = some opening)
    (permitted : book.permits opening entry = true)
    (enough : book.amount entry ≤ journal.remaining (book.account entry) opening) :
    (journal.draws entry opening opened permitted enough).remaining (book.account entry) opening =
      journal.remaining (book.account entry) opening - book.amount entry := by
  -- The new entry is the last of its account.
  simp only [remaining, draws, Book.drawn_concat, if_true]
  omega

/-- The entry that a posting adds, if it adds one. -/
def Posting.entry? : Posting Account Opening Entry → Option Entry
  | .entry added => some added
  | .opening _ _ => none

/-- A posting that goes through adds its account, or its entry, and changes nothing else. -/
theorem post_eq_some {journal next : Journal book} {posting : Posting Account Opening Entry}
    (posted : journal.post posting = some next) :
    next.entries = journal.entries ++ posting.entry?.toList ∧
      ∀ account opening, next.openings account = some opening →
        posting = .opening account opening ∨ journal.openings account = some opening := by
  -- An opening writes to its account, and an entry to the list.
  cases posting with
  | opening account opening =>
    simp only [post] at posted
    split at posted
    · cases posted
    · split at posted
      · cases posted
        refine ⟨(List.append_nil _).symm, ?_⟩
        intro other known opened
        by_cases same : other = account
        · subst same
          obtain rfl : opening = known :=
            Option.some.inj ((update_self journal.openings _ _).symm.trans opened)
          exact .inl rfl
        · exact .inr ((update_other journal.openings _ same).symm.trans opened)
      · cases posted
  | entry entry =>
    simp only [post] at posted
    split at posted
    · cases posted
    · split at posted
      · cases posted
        exact ⟨rfl, fun _ _ opened => .inr opened⟩
      · cases posted

/-- The account that a posting opens, if it opens one. -/
def Posting.account? : Posting Account Opening Entry → Option Account
  | .entry _ => none
  | .opening account _ => some account

/-- A posting opens an account that was not open, and closes none. -/
theorem post_opens {journal next : Journal book} {posting : Posting Account Opening Entry}
    (posted : journal.post posting = some next) :
    (∀ account, posting.account? = some account →
      journal.openings account = none ∧ next.openings account ≠ none) ∧
    ∀ account, journal.openings account ≠ none → next.openings account ≠ none := by
  -- Only an account without an opening can be opened, and no opening is taken back.
  cases posting with
  | opening account opening =>
    simp only [post] at posted
    split at posted
    · cases posted
    · next unopened =>
      split at posted
      · cases posted
        refine ⟨?_, ?_⟩
        · rintro _ ⟨⟩
          exact ⟨unopened, by simp [opens, update_self]⟩
        · intro other opened
          by_cases same : other = account
          · simp [opens, same, update_self]
          · simpa only [opens, update_other _ _ same] using opened
      · cases posted
  | entry entry =>
    simp only [post] at posted
    split at posted
    · cases posted
    · split at posted
      · cases posted
        exact ⟨nofun, fun _ opened => opened⟩
      · cases posted

/-- The machine that takes one posting after the other. -/
def machine (book : Book Account Opening Entry) :
    Machine (Journal book) (Posting Account Opening Entry) where
  step := post

/-- A journal holds the entries that were posted, in that order, and no account but those posted. -/
theorem machine_posted {postings : List (Posting Account Opening Entry)} {journal : Journal book}
    (ran : (machine book).run empty postings = some journal) :
    journal.entries = postings.filterMap Posting.entry? ∧
      ∀ account opening, journal.openings account = some opening →
        .opening account opening ∈ postings := by
  -- By induction along the postings, each of which adds what it is.
  refine (machine book).run_history (fun postings journal =>
    journal.entries = postings.filterMap Posting.entry? ∧
      ∀ account opening, journal.openings account = some opening →
        .opening account opening ∈ postings) ⟨rfl, ?_⟩ ?_ postings journal ran
  · intro account opening opened
    cases opened
  · intro postings before posting after _ known posted
    obtain ⟨entries, openings⟩ := post_eq_some posted
    refine ⟨?_, ?_⟩
    · rw [entries, known.1, List.filterMap_append]
      cases posting <;> rfl
    · intro account opening opened
      rcases openings account opening opened with rfl | earlier
      · simp
      · exact List.mem_append_left _ (known.2 account opening earlier)

/-- No account is opened twice. -/
theorem machine_opened_once {postings : List (Posting Account Opening Entry)}
    {journal : Journal book} (ran : (machine book).run empty postings = some journal) :
    (postings.filterMap Posting.account?).Nodup := by
  -- What was opened stays open, and an open account refuses another opening.
  have opened : (postings.filterMap Posting.account?).Nodup ∧
      ∀ account ∈ postings.filterMap Posting.account?, journal.openings account ≠ none := by
    refine (machine book).run_history (fun postings journal =>
      (postings.filterMap Posting.account?).Nodup ∧
        ∀ account ∈ postings.filterMap Posting.account?, journal.openings account ≠ none)
      ⟨List.nodup_nil, nofun⟩ ?_ postings journal ran
    intro postings before posting after _ known posted
    obtain ⟨fresh, kept⟩ := post_opens posted
    cases added : posting.account? with
    | none =>
      rw [List.filterMap_append, List.filterMap_cons_none added, List.filterMap_nil,
        List.append_nil]
      exact ⟨known.1, fun account member => kept account (known.2 account member)⟩
    | some account =>
      obtain ⟨unopened, open_⟩ := fresh account added
      rw [List.filterMap_append, List.filterMap_cons_some added, List.filterMap_nil]
      refine ⟨?_, ?_⟩
      · rw [List.nodup_append]
        refine ⟨known.1, by simp, ?_⟩
        rintro other member _ single rfl
        obtain rfl := List.mem_singleton.mp single
        exact known.2 other member unopened
      · intro other member
        rcases List.mem_append.mp member with earlier | now
        · exact kept other (known.2 other earlier)
        · obtain rfl := List.mem_singleton.mp now
          exact open_
  exact opened.1

end Journal

end Go
