import Montana.Migration.Batches

/-! Accounts of any bytes: which of them the decoder survives, and what that means for a
migration. -/

namespace Montana.Migration

open Storage

private theorem readCompact_cases (width : Nat) {bytes : Bytes} {len : Nat} (enough : len ≤ bytes.length) :
    (width < len ∧ readCompact width bytes len = none) ∨
      len ≤ width ∧ ∃ value, readCompact width bytes len = some (value, bytes.drop len) := by
  rw [readCompact]
  by_cases empty : len = 0
  · subst empty
    exact .inr ⟨Nat.zero_le _, 0, if_pos rfl⟩
  · rw [if_neg empty]
    by_cases long : width < len
    · exact .inl ⟨long, if_pos (.inl long)⟩
    · refine .inr ⟨Nat.le_of_not_lt long, _, if_neg ?_⟩
      omega

namespace RethAccount

/-- The lengths in the flags fit their integers, unless there are not enough bytes for
them anyway. -/
def LengthsFit : Bytes → Prop
  | low :: high :: buf =>
    let flags := low.toNat + 256 * high.toNat
    buf.length < flags % 16 + flags / 16 % 64 + (if flags / 1024 % 2 ≠ 0 then 32 else 0) ∨
      flags % 16 ≤ 8 ∧ flags / 16 % 64 ≤ 32
  | _ => True

instance : ∀ bytes, Decidable (LengthsFit bytes)
  | _ :: _ :: _ => inferInstanceAs (Decidable (_ ∨ _))
  | [] => .isTrue trivial
  | [_] => .isTrue trivial

private theorem fromCompact_returns_iff (bytes : Bytes) :
    (∃ outcome, fromCompact bytes = some outcome) ↔ LengthsFit bytes := by
  rcases bytes with _ | ⟨low, _ | ⟨high, buf⟩⟩
  · exact iff_of_true ⟨_, rfl⟩ trivial
  · exact iff_of_true ⟨_, rfl⟩ trivial
  · rw [fromCompact, LengthsFit]
    generalize low.toNat + 256 * high.toNat = flags
    generalize hash : (if flags / 1024 % 2 ≠ 0 then 32 else 0) = hashLen
    by_cases short : buf.length < flags % 16 + flags / 16 % 64 + hashLen
    · rw [if_pos short]
      exact iff_of_true ⟨_, rfl⟩ (.inl short)
    · rw [if_neg short, or_iff_right short]
      rcases readCompact_cases 8 (show flags % 16 ≤ buf.length by omega) with
        ⟨long, panics⟩ | ⟨nonceFits, nonce, read⟩
      · rw [readCompactU64, panics]
        exact iff_of_false (by simp) fun fits => absurd fits.1 (Nat.not_le.mpr long)
      · rw [readCompactU64, read]
        have left : flags / 16 % 64 ≤ (buf.drop (flags % 16)).length := by
          rw [List.length_drop]
          omega
        rcases readCompact_cases 32 left with ⟨long, panics⟩ | ⟨balanceFits, balance, read⟩
        · simp only [readCompactU256, panics, Option.map_none]
          exact iff_of_false (by simp) fun fits => absurd fits.2 (Nat.not_le.mpr long)
        · simp only [readCompactU256, read, Option.map_some]
          exact iff_of_true ⟨_, rfl⟩ ⟨nonceFits, balanceFits⟩

end RethAccount

/-- The decoder returns an error for the account of the entry. -/
def undecodable (entry : Entry) : Bool :=
  match RethAccount.fromCompact entry.2 with
  | some (.error _) => true
  | _ => false

variable {Trie Txn : Type} [TrieTransaction Txn]

namespace Batch

/-- With an address of its length, the body returns unless the lengths do not fit. -/
theorem processAccountEntry_returns (batch : Batch Trie Txn) {entry : Entry} (address : entry.1.length = 20)
    (fits : RethAccount.LengthsFit entry.2) : ∃ next, batch.processAccountEntry entry = some next := by
  obtain ⟨outcome, decoded⟩ := (RethAccount.fromCompact_returns_iff entry.2).mpr fits
  rw [processAccountEntry, addressFromSlice, if_pos address]
  simp only [decoded]
  cases outcome with
  | error e => exact ⟨_, rfl⟩
  | ok account =>
    dsimp only
    split <;> exact ⟨_, rfl⟩

/-- All of the entries so far fit, each was counted once, and among the errors is every
one that could not be decoded. -/
structure Counted (done : List Entry) (batch : Batch Trie Txn) : Prop where
  fit : ∀ entry ∈ done, RethAccount.LengthsFit entry.2
  total : batch.stats.accountsMigrated + batch.stats.accountErrors = done.length
  errors : done.countP undecodable ≤ batch.stats.accountErrors

theorem Counted.process {done : List Entry} {batch next : Batch Trie Txn} {entry : Entry}
    (counted : Counted done batch) (processed : batch.processAccountEntry entry = some next) :
    Counted (done ++ [entry]) next := by
  obtain ⟨fit, total, errors⟩ := counted
  have fits {outcome} (decoded : RethAccount.fromCompact entry.2 = some outcome) :
      ∀ other ∈ done ++ [entry], RethAccount.LengthsFit other.2 := by
    intro other member
    rcases List.mem_append.mp member with earlier | last
    · exact fit other earlier
    · rw [List.mem_singleton.mp last]
      exact (RethAccount.fromCompact_returns_iff entry.2).mp ⟨outcome, decoded⟩
  have length : (done ++ [entry]).length = done.length + 1 := List.length_append
  have count : (done ++ [entry]).countP undecodable ≤ done.countP undecodable + 1 := by
    rw [List.countP_append]
    exact Nat.add_le_add_left List.countP_le_length _
  obtain ⟨address, _, ⟨e, undecoded, rfl⟩ | ⟨account, decoded, ⟨e, _, rfl⟩ | ⟨dstTxn, _, rfl⟩⟩⟩ :=
    processAccountEntry_cases processed
  · exact ⟨fits undecoded, by dsimp only; omega, by dsimp only; omega⟩
  · exact ⟨fits decoded, by dsimp only; omega, by dsimp only; omega⟩
  · refine ⟨fits decoded, by dsimp only; omega, ?_⟩
    have decodable : undecodable entry = false := by rw [undecodable, decoded]
    rw [List.countP_append, List.countP_singleton, decodable]
    exact errors

variable [TrieDb Trie Txn] {config : MigratorConfig}

/-- A commit between two entries counts nothing. -/
theorem endEntry_stats {batch next : Batch Trie Txn} (ended : batch.endEntry config = some (.ok next)) :
    next.stats = batch.stats := by
  rw [endEntry] at ended
  split at ended
  · cases ended
  · split at ended
    · split at ended
      · cases ended
      · next destination _ =>
        rw [start] at ended
        split at ended <;> cases ended
        rfl
    · cases ended
      rfl

/-- Where the body never panics and progress is logged at some interval, the loop does not. -/
theorem forEntries_returns {process : Batch Trie Txn → Entry → Option (Batch Trie Txn)}
    (interval : config.logInterval ≠ 0) {entries : List Entry}
    (returns : ∀ batch, ∀ entry ∈ entries, ∃ next, process batch entry = some next) (batch : Batch Trie Txn) :
    ∃ outcome, forEntries config process (entries.map .ok) batch = some outcome := by
  induction entries generalizing batch with
  | nil => exact ⟨_, rfl⟩
  | cons entry rest ih =>
    obtain ⟨next, processed⟩ := returns batch entry List.mem_cons_self
    have later := ih fun batch other member => returns batch other (List.mem_cons_of_mem _ member)
    rw [List.map_cons, forEntries, processed]
    dsimp only
    split
    · next stopped =>
      rw [Batch.endEntry, if_neg interval] at stopped
      split at stopped
      · split at stopped <;> cases stopped
      · cases stopped
    · exact ⟨_, rfl⟩
    · exact later _

end Batch

namespace Migrator

variable [TrieDb Trie Txn]

/-- A migration that succeeds decoded entries that fit only, and counted among its errors
every one that could not be decoded. -/
theorem migrateAccounts_counted {self : Migrator Trie} {entries : List Entry} {stats : MigrationStats}
    {destination : Trie} (opened : self.source.openCursor "PlainAccountState" = .ok (entries.map .ok))
    (finished : self.migrateAccounts = some (.ok (stats, destination))) :
    (∀ entry ∈ entries, RethAccount.LengthsFit entry.2) ∧
      stats.accountsMigrated + stats.accountErrors = entries.length ∧
      entries.countP undecodable ≤ stats.accountErrors := by
  obtain ⟨cursor, batch, last, opened', started, looped, _, rfl⟩ := migrateAccounts_inv finished
  cases opened.symm.trans opened'
  have fresh : batch.stats = {} := by
    rw [Batch.start] at started
    split at started <;> cases started
    rfl
  have begun : Batch.Counted [] batch :=
    ⟨fun _ member => absurd member List.not_mem_nil, by rw [fresh]; rfl, by rw [fresh]; exact Nat.le_refl _⟩
  obtain ⟨all, same, fit, total, errors⟩ := Batch.forEntries_ok Batch.Counted
    (fun _ _ _ _ counted processed => counted.process processed)
    (fun _ _ _ counted ended => by
      obtain ⟨fit, total, errors⟩ := counted
      rw [← Batch.endEntry_stats ended] at total errors
      exact ⟨fit, total, errors⟩)
    begun looped
  obtain rfl : entries = all := (List.map_injective_iff.mpr fun _ _ => Except.ok.inj) same
  exact ⟨fit, total, errors⟩

/-- Without entries whose lengths do not fit, it does not panic. -/
theorem migrateAccounts_returns {self : Migrator Trie} (interval : self.config.logInterval ≠ 0)
    {entries : List Entry} (opened : self.source.openCursor "PlainAccountState" = .ok (entries.map .ok))
    (addresses : ∀ entry ∈ entries, entry.1.length = 20)
    (fit : ∀ entry ∈ entries, RethAccount.LengthsFit entry.2) :
    ∃ outcome, self.migrateAccounts = some outcome := by
  rw [migrateAccounts, opened]
  dsimp only
  split
  · exact ⟨_, rfl⟩
  · next batch started =>
    obtain ⟨outcome, looped⟩ := Batch.forEntries_returns interval
      (fun batch entry member => batch.processAccountEntry_returns (addresses entry member) (fit entry member))
      batch
    rw [looped]
    split
    · next impossible => cases impossible
    · exact ⟨_, rfl⟩
    · split <;> exact ⟨_, rfl⟩

/-- The decoder returns exactly on lengths that fit. Where all of them do, the migration
does not panic, and where one does not, it does not succeed; if it succeeds, it has
counted every entry, and among the errors every one that could not be decoded. -/
theorem fromCompact_total_iff :
    (∀ bytes, (∃ outcome, RethAccount.fromCompact bytes = some outcome) ↔ RethAccount.LengthsFit bytes) ∧
    ∀ (self : Migrator Trie) (entries : List Entry), self.config.logInterval ≠ 0 →
      self.source.openCursor "PlainAccountState" = .ok (entries.map .ok) →
      (∀ entry ∈ entries, entry.1.length = 20) →
      ((∀ entry ∈ entries, RethAccount.LengthsFit entry.2) → ∃ outcome, self.migrateAccounts = some outcome) ∧
      ∀ stats destination, self.migrateAccounts = some (.ok (stats, destination)) →
        (∀ entry ∈ entries, RethAccount.LengthsFit entry.2) ∧
          stats.accountsMigrated + stats.accountErrors = entries.length ∧
          entries.countP undecodable ≤ stats.accountErrors :=
  ⟨RethAccount.fromCompact_returns_iff, fun _ _ interval opened addresses =>
    ⟨migrateAccounts_returns interval opened addresses,
      fun _ _ finished => migrateAccounts_counted opened finished⟩⟩

end Migrator

section Examples

open Reference

def accountsMdbx (values : List Bytes) : Mdbx where
  beginRoTxn := .ok ()
  openTable _ := .ok ()
  cursor _ := .ok (values.map fun value => .ok (List.replicate 20 1, value))

/-- An account with a nonce of 5, and a value that is too short. -/
def twoAccounts : Migrator MemoryTrie := ⟨accountsMdbx [[1, 0, 5], [1]], ⟨fun _ => none⟩, {}⟩

def twoAccountEntries : List Entry :=
  [(List.replicate 20 1, [1, 0, 5]), (List.replicate 20 1, [1])]

theorem fromCompact_total_two :
    (∃ outcome, RethAccount.fromCompact [1] = some outcome) ∧
      (∃ outcome, twoAccounts.migrateAccounts = some outcome) ∧
      ∃ destination, twoAccounts.migrateAccounts = some (.ok (⟨1, 0, 1, 0⟩, destination)) ∧
        (∀ entry ∈ twoAccountEntries, RethAccount.LengthsFit entry.2) ∧
        1 + 1 = twoAccountEntries.length ∧ twoAccountEntries.countP undecodable ≤ 1 := by
  obtain ⟨decodes, migrates⟩ := @Migrator.fromCompact_total_iff MemoryTrie _ _ _
  obtain ⟨returns, succeeds⟩ := migrates twoAccounts twoAccountEntries (by decide) rfl (by decide)
  exact ⟨(decodes [1]).mpr trivial, returns (by decide), _, rfl, succeeds ⟨1, 0, 1, 0⟩ _ rfl⟩

/-- Nine bytes of a nonce, and thirty-three of a balance, are enough to panic on. -/
theorem long_lengths_panic :
    RethAccount.fromCompact ([9, 0] ++ List.replicate 9 1) = none ∧
      RethAccount.fromCompact ([16, 2] ++ List.replicate 33 1) = none ∧
      Migrator.migrateAccounts ⟨accountsMdbx [[9, 0] ++ List.replicate 9 1], (⟨fun _ => none⟩ : MemoryTrie), {}⟩ =
        none :=
  ⟨by decide, by decide, rfl⟩

end Examples

end Montana.Migration
