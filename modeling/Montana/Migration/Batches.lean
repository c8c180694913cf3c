import Montana.Migration.Migrator
import Montana.Storage.Reference

/-! Where a migration commits has no influence on what it writes. -/

namespace Montana.Migration

open Storage

/-- Accounts and slots as all databases of the destination show them. -/
abbrev Leaves : Type := Address → Option Leaf

def decodeAccount (entry : Entry) : Option (Address × TrieAccount) :=
  match addressFromSlice entry.1, RethAccount.fromCompact entry.2 with
  | some address, some (.ok account) => some (address, account.toTriedbAccount)
  | _, _ => none

def decodeSlot (entry : Entry) : Option (Address × StorageEntry) :=
  match addressFromSlice entry.1, decodeStorageEntry entry.2 with
  | some address, .ok slot => some (address, slot)
  | _, _ => none

def setLeaf (leaves : Leaves) (write : Address × TrieAccount) : Leaves :=
  Function.update leaves write.1 (some ⟨write.2.body, storageAt (leaves write.1)⟩)

def setSlot (leaves : Leaves) (write : Address × StorageEntry) : Leaves :=
  Function.update leaves write.1 ((leaves write.1).map (·.setSlot write.2.slot (some write.2.value)))

/-- The writes that succeed, in the order of the cursor. -/
def successful (decode : Entry → Option (Address × Value)) (accepts : Address → Value → Bool)
    (entries : List Entry) : List (Address × Value) :=
  entries.filterMap fun entry => (decode entry).filter fun write => accepts write.1 write.2

private theorem successful_append (decode : Entry → Option (Address × Value))
    (accepts : Address → Value → Bool)
    (entries : List Entry) (entry : Entry) :
    successful decode accepts (entries ++ [entry]) = successful decode accepts entries ++
      ((decode entry).filter fun write => accepts write.1 write.2).toList := by
  rw [successful, List.filterMap_append, successful]
  cases found : (decode entry).filter fun write => accepts write.1 write.2 <;> simp [found]

/-- The destination after these entries, and how many of them were counted as what. -/
structure Migrated (decode : Entry → Option (Address × Value)) (accepts : Address → Value → Bool)
    (write : Leaves → Address × Value → Leaves) (start : Leaves) (entries : List Entry)
    (leaves : Leaves) (migrated errors : Nat) : Prop where
  reached : leaves = (successful decode accepts entries).foldl write start
  counted : migrated = (successful decode accepts entries).length
  total : migrated + errors = entries.length

namespace Migrated

variable {decode : Entry → Option (Address × Value)} {accepts : Address → Value → Bool}
variable {write : Leaves → Address × Value → Leaves} {start leaves : Leaves} {entries : List Entry}
variable {migrated errors : Nat}

theorem none (start : Leaves) : Migrated decode accepts write start [] start 0 0 := ⟨rfl, rfl, rfl⟩

theorem succeeded (sofar : Migrated decode accepts write start entries leaves migrated errors)
    {entry : Entry} {next : Address × Value} (decoded : decode entry = some next)
    (accepted : accepts next.1 next.2 = true) :
    Migrated decode accepts write start (entries ++ [entry]) (write leaves next) (migrated + 1) errors := by
  have grown : successful decode accepts (entries ++ [entry]) =
      successful decode accepts entries ++ [next] := by
    simp [successful_append, decoded, Option.filter, accepted]
  refine ⟨?_, ?_, ?_⟩
  · rw [grown, List.foldl_append, ← sofar.reached]
    rfl
  · rw [grown, List.length_append, ← sofar.counted]
    rfl
  · rw [List.length_append, List.length_singleton, ← sofar.total]
    omega

theorem failed (sofar : Migrated decode accepts write start entries leaves migrated errors) {entry : Entry}
    (refused : ∀ next, decode entry = some next → accepts next.1 next.2 = false) :
    Migrated decode accepts write start (entries ++ [entry]) leaves migrated (errors + 1) := by
  have same : successful decode accepts (entries ++ [entry]) = successful decode accepts entries := by
    rw [successful_append]
    cases decoded : decode entry with
    | none => simp
    | some next => simp [Option.filter, refused next decoded]
  refine ⟨?_, ?_, ?_⟩
  · rw [same, sofar.reached]
  · rw [same, sofar.counted]
  · rw [List.length_append, List.length_singleton, ← sofar.total]
    omega

theorem undecoded (sofar : Migrated decode accepts write start entries leaves migrated errors)
    {entry : Entry} (none : decode entry = .none) :
    Migrated decode accepts write start (entries ++ [entry]) leaves migrated (errors + 1) := by
  apply sofar.failed
  intro next decoded
  rw [none] at decoded
  cases decoded

theorem refused (sofar : Migrated decode accepts write start entries leaves migrated errors)
    {entry : Entry} {next : Address × Value} (decoded : decode entry = some next)
    (refused : ¬ accepts next.1 next.2 = true) :
    Migrated decode accepts write start (entries ++ [entry]) leaves migrated (errors + 1) := by
  apply sofar.failed
  intro other same
  obtain rfl := Option.some.inj (decoded.symm.trans same)
  exact Bool.not_eq_true _ ▸ refused

end Migrated

variable {Trie Txn : Type} [TrieTransaction Txn]

namespace Migrator

variable {dstTxn : Txn} {address : Address} {value : Bytes} {stats : MigrationStats}

theorem processStorageEntry_undecoded {e : StorageDecodeError} (undecoded : decodeStorageEntry value = .error e) :
    processStorageEntry dstTxn address value stats =
      (dstTxn, { stats with storageErrors := stats.storageErrors + 1 }) := by
  simp only [processStorageEntry, undecoded]

theorem processStorageEntry_refused {entry : StorageEntry} {e : String}
    (decoded : decodeStorageEntry value = .ok entry)
    (refused : TrieTransaction.setStorageSlot dstTxn address entry.slot (some entry.value) = .error e) :
    processStorageEntry dstTxn address value stats =
      (dstTxn, { stats with storageErrors := stats.storageErrors + 1 }) := by
  simp only [processStorageEntry, decoded, refused]

theorem processStorageEntry_set {entry : StorageEntry} {dstTxn' : Txn}
    (decoded : decodeStorageEntry value = .ok entry)
    (set : TrieTransaction.setStorageSlot dstTxn address entry.slot (some entry.value) = .ok dstTxn') :
    processStorageEntry dstTxn address value stats =
      (dstTxn', { stats with storageSlotsMigrated := stats.storageSlotsMigrated + 1 }) := by
  simp only [processStorageEntry, decoded, set]

theorem processStorageItem_cases {batch batch' : Batch Trie Txn} {entry : Entry}
    (processed : processStorageItem batch entry = some batch') :
    ∃ address, addressFromSlice entry.1 = some address ∧
      batch' = { batch with
        dstTxn := (processStorageEntry batch.dstTxn address entry.2 batch.stats).1
        stats := (processStorageEntry batch.dstTxn address entry.2 batch.stats).2 } := by
  rw [processStorageItem] at processed
  split at processed
  · cases processed
  · rename_i address sliced
    exact ⟨address, sliced, (Option.some.inj processed).symm⟩

end Migrator

/-- The body of the loop over the accounts counts each entry as one or the other. -/
theorem Batch.processAccountEntry_cases {batch batch' : Batch Trie Txn} {entry : Entry}
    (processed : batch.processAccountEntry entry = some batch') :
    ∃ address, addressFromSlice entry.1 = some address ∧
      ((∃ e, RethAccount.fromCompact entry.2 = some (.error e) ∧
        batch' = { batch with stats.accountErrors := batch.stats.accountErrors + 1 }) ∨
      ∃ account, RethAccount.fromCompact entry.2 = some (.ok account) ∧
        ((∃ e, TrieTransaction.setAccount batch.dstTxn address (some account.toTriedbAccount) = .error e ∧
          batch' = { batch with stats.accountErrors := batch.stats.accountErrors + 1 }) ∨
        ∃ dstTxn, TrieTransaction.setAccount batch.dstTxn address (some account.toTriedbAccount) = .ok dstTxn ∧
          batch' = { batch with
            dstTxn
            stats.accountsMigrated := batch.stats.accountsMigrated + 1 })) := by
  rw [processAccountEntry] at processed
  split at processed
  · cases processed
  · next address sliced =>
    refine ⟨address, sliced, ?_⟩
    split at processed
    · cases processed
    · next account decoded =>
      refine .inr ⟨account, decoded, ?_⟩
      split at processed
      · next e refused => exact .inl ⟨e, refused, (Option.some.inj processed).symm⟩
      · next dstTxn accepted => exact .inr ⟨dstTxn, accepted, (Option.some.inj processed).symm⟩
    · next e undecoded => exact .inl ⟨e, undecoded, (Option.some.inj processed).symm⟩

section Entries

variable [LawfulTransaction Txn]

namespace Batch

open LawfulTransaction (view)

/-- The accounts of the batch, as they are counted. -/
def AccountsMigrated (accepts : Address → TrieAccount → Bool) (initial : Leaves) (done : List Entry)
    (batch : Batch Trie Txn) : Prop :=
  Migrated decodeAccount accepts setLeaf initial done (view batch.dstTxn)
    batch.stats.accountsMigrated batch.stats.accountErrors

def SlotsMigrated (accepts : Address → StorageEntry → Bool) (initial : Leaves) (done : List Entry)
    (batch : Batch Trie Txn) : Prop :=
  Migrated decodeSlot accepts setSlot initial done (view batch.dstTxn)
    batch.stats.storageSlotsMigrated batch.stats.storageErrors

private theorem accountsMigrated_process {accepts : Address → TrieAccount → Bool}
    (outcome : ∀ (tx : Txn) address account,
      (∃ tx', TrieTransaction.setAccount tx address (some account) = .ok tx') ↔ accepts address account = true)
    {initial : Leaves} {done : List Entry} {batch batch' : Batch Trie Txn} {entry : Entry}
    (sofar : batch.AccountsMigrated accepts initial done)
    (processed : batch.processAccountEntry entry = some batch') :
    batch'.AccountsMigrated accepts initial (done ++ [entry]) := by
  obtain ⟨address, sliced, ⟨e, undecoded, rfl⟩ | ⟨rethAccount, decoded, written⟩⟩ :=
    processAccountEntry_cases processed
  · exact Migrated.undecoded sofar (by simp only [decodeAccount, sliced, undecoded])
  · have write : decodeAccount entry = some (address, rethAccount.toTriedbAccount) := by
      simp only [decodeAccount, sliced, decoded]
    rcases written with ⟨e, refused, rfl⟩ | ⟨dstTxn, accepted, rfl⟩
    · apply Migrated.refused sofar write
      rw [← outcome batch.dstTxn]
      rintro ⟨tx', accepted⟩
      rw [accepted] at refused
      cases refused
    · have written := Migrated.succeeded sofar write ((outcome batch.dstTxn _ _).1 ⟨dstTxn, accepted⟩)
      rwa [setLeaf, ← LawfulTransaction.setAccount_view accepted] at written

private theorem slotsMigrated_process {accepts : Address → StorageEntry → Bool}
    (outcome : ∀ (tx : Txn) address (entry : StorageEntry),
      (∃ tx', TrieTransaction.setStorageSlot tx address entry.slot (some entry.value) = .ok tx') ↔
        accepts address entry = true)
    {initial : Leaves} {done : List Entry} {batch batch' : Batch Trie Txn} {entry : Entry}
    (sofar : batch.SlotsMigrated accepts initial done)
    (processed : Migrator.processStorageItem batch entry = some batch') :
    batch'.SlotsMigrated accepts initial (done ++ [entry]) := by
  obtain ⟨address, sliced, rfl⟩ := Migrator.processStorageItem_cases processed
  rw [SlotsMigrated]
  cases decoded : decodeStorageEntry entry.2 with
  | error e =>
    rw [Migrator.processStorageEntry_undecoded decoded]
    exact Migrated.undecoded sofar (by simp only [decodeSlot, sliced, decoded])
  | ok slot =>
    have write : decodeSlot entry = some (address, slot) := by simp only [decodeSlot, sliced, decoded]
    cases set : TrieTransaction.setStorageSlot batch.dstTxn address slot.slot (some slot.value) with
    | error e =>
      rw [Migrator.processStorageEntry_refused decoded set]
      apply Migrated.refused sofar write
      rw [← outcome batch.dstTxn]
      rintro ⟨tx', accepted⟩
      rw [accepted] at set
      cases set
    | ok dstTxn =>
      rw [Migrator.processStorageEntry_set decoded set]
      have written := Migrated.succeeded sofar write ((outcome batch.dstTxn _ _).1 ⟨dstTxn, set⟩)
      rwa [setSlot, ← LawfulTransaction.setStorageSlot_view set] at written

end Batch

end Entries

variable [TrieDb Trie Txn]

namespace Batch

variable {config : MigratorConfig} {process : Batch Trie Txn → Entry → Option (Batch Trie Txn)}

/-- Both loops go through the entries in the same way. -/
theorem whileEntries_eq_forEntries (entry : Entry) (cursor : Cursor) (batch : Batch Trie Txn) :
    whileEntries config process (some entry) cursor batch =
      forEntries config process (.ok entry :: cursor) batch := by
  induction cursor generalizing entry batch with
  | nil =>
    rw [whileEntries, forEntries]
    split
    · rfl
    · split <;> rfl
  | cons item rest ih =>
    rw [whileEntries, forEntries]
    split
    · rfl
    · split
      · rfl
      · rfl
      · cases item with
        | error e => rfl
        | ok next => exact ih next _

/-- What each entry preserves, and each commit, holds of all entries of the table. -/
theorem forEntries_ok (Invariant : List Entry → Batch Trie Txn → Prop)
    (step : ∀ done batch entry batch', Invariant done batch → process batch entry = some batch' →
      Invariant (done ++ [entry]) batch')
    (ended : ∀ done batch batch', Invariant done batch → batch.endEntry config = some (.ok batch') →
      Invariant done batch')
    {cursor : Cursor} {done : List Entry} {batch batch' : Batch Trie Txn} (holds : Invariant done batch)
    (finished : forEntries config process cursor batch = some (.ok batch')) :
    ∃ entries : List Entry, cursor = entries.map .ok ∧ Invariant (done ++ entries) batch' := by
  induction cursor generalizing done batch with
  | nil =>
    cases finished
    exact ⟨[], rfl, by simpa using holds⟩
  | cons item rest ih =>
    cases item with
    | error e => cases finished
    | ok entry =>
      rw [forEntries] at finished
      split at finished
      · cases finished
      · rename_i processed
        split at finished
        · cases finished
        · cases finished
        · rename_i counted
          have next := ended _ _ _ (step done batch entry _ holds processed) counted
          obtain ⟨entries, rfl, whole⟩ := ih next finished
          refine ⟨entry :: entries, rfl, ?_⟩
          rwa [List.append_assoc] at whole

end Batch

/-- How a migration of the accounts comes to its end. -/
theorem Migrator.migrateAccounts_inv {self : Migrator Trie} {stats : MigrationStats} {destination : Trie}
    (finished : self.migrateAccounts = some (.ok (stats, destination))) :
    ∃ (cursor : Cursor) (batch last : Batch Trie Txn), self.source.openCursor "PlainAccountState" = .ok cursor ∧
      Batch.start self.destination {} = .ok batch ∧
      Batch.forEntries self.config Batch.processAccountEntry cursor batch = some (.ok last) ∧
      last.commit = .ok destination ∧ stats = last.stats := by
  rw [migrateAccounts] at finished
  split at finished
  · cases finished
  · next cursor opened =>
    split at finished
    · cases finished
    · next batch started =>
      split at finished
      · cases finished
      · cases finished
      · next last looped =>
        split at finished
        · cases finished
        · next committed =>
          cases finished
          exact ⟨cursor, batch, last, opened, started, looped, committed, rfl⟩

variable [LawfulTransaction Txn] [LawfulTrieDb Trie Txn]

namespace Batch

open LawfulTransaction (view)

theorem start_cases {destination : Trie} {stats : MigrationStats} {batch : Batch Trie Txn}
    (started : start destination stats = .ok batch) :
    view batch.dstTxn = LawfulTrieDb.view destination ∧ batch.stats = stats := by
  rw [start] at started
  split at started
  · cases started
  · rename_i begun
    cases started
    exact ⟨LawfulTrieDb.beginRw_view begun, rfl⟩

theorem commit_view {batch : Batch Trie Txn} {destination : Trie} (committed : batch.commit = .ok destination) :
    LawfulTrieDb.view destination = view batch.dstTxn := by
  rw [commit] at committed
  split at committed
  · cases committed
  · rename_i written
    cases committed
    exact LawfulTrieDb.commitRw_view written

/-- Whether or not the entry completes a batch, the next one finds what was written. -/
theorem endEntry_cases {batch batch' : Batch Trie Txn} {config : MigratorConfig}
    (ended : batch.endEntry config = some (.ok batch')) :
    view batch'.dstTxn = view batch.dstTxn ∧ batch'.stats = batch.stats := by
  rw [endEntry] at ended
  by_cases zero : config.logInterval = 0
  · rw [if_pos zero] at ended
    cases ended
  · rw [if_neg zero] at ended
    by_cases full : batch.batchCount + 1 ≥ config.batchSize
    · rw [if_pos full] at ended
      cases committed : batch.commit with
      | error failure => simp [committed] at ended
      | ok destination =>
        rw [committed] at ended
        obtain ⟨viewed, kept⟩ := start_cases (Option.some.inj ended)
        exact ⟨viewed.trans (commit_view committed), kept⟩
    · rw [if_neg full] at ended
      cases ended
      exact ⟨rfl, rfl⟩

/-- A loop between its first transaction and its last commit, by what each entry adds. -/
theorem forEntries_migrated {decode : Entry → Option (Address × Value)}
    {accepts : Address → Value → Bool} {write : Leaves → Address × Value → Leaves}
    {config : MigratorConfig} {process : Batch Trie Txn → Entry → Option (Batch Trie Txn)}
    (migrated errors : MigrationStats → Nat) (none : migrated {} = 0 ∧ errors {} = 0)
    {destination destination' : Trie}
    (step : ∀ (done : List Entry) (batch : Batch Trie Txn) (entry : Entry) (batch' : Batch Trie Txn),
      Migrated decode accepts write (LawfulTrieDb.view destination) done (view batch.dstTxn)
        (migrated batch.stats) (errors batch.stats) →
      process batch entry = some batch' →
      Migrated decode accepts write (LawfulTrieDb.view destination) (done ++ [entry])
        (view batch'.dstTxn) (migrated batch'.stats) (errors batch'.stats))
    {cursor : Cursor} {batch last : Batch Trie Txn} (started : start destination {} = .ok batch)
    (looped : forEntries config process cursor batch = some (.ok last))
    (committed : last.commit = .ok destination') :
    ∃ entries : List Entry, cursor = entries.map .ok ∧
      Migrated decode accepts write (LawfulTrieDb.view destination) entries
        (LawfulTrieDb.view destination') (migrated last.stats) (errors last.stats) := by
  obtain ⟨viewed, fresh⟩ := start_cases started
  have begun : Migrated decode accepts write (LawfulTrieDb.view destination) [] (view batch.dstTxn)
      (migrated batch.stats) (errors batch.stats) := by
    rw [viewed, fresh, none.1, none.2]
    exact Migrated.none _
  obtain ⟨entries, all, whole⟩ := forEntries_ok
    (fun done batch => Migrated decode accepts write (LawfulTrieDb.view destination) done
      (view batch.dstTxn) (migrated batch.stats) (errors batch.stats))
    step
    (fun _ _ _ sofar ended => by
      obtain ⟨viewed, kept⟩ := endEntry_cases ended
      rw [viewed, kept]
      exact sofar)
    begun looped
  refine ⟨entries, all, ?_⟩
  rw [commit_view committed]
  exact whole

end Batch

namespace Migrator

open Batch

variable {acceptsAccount : Address → TrieAccount → Bool} {acceptsSlot : Address → StorageEntry → Bool}

private theorem migrateAccounts_migrated
    (outcome : ∀ (tx : Txn) address account,
      (∃ tx', TrieTransaction.setAccount tx address (some account) = .ok tx') ↔
        acceptsAccount address account = true)
    {self : Migrator Trie} {stats : MigrationStats} {destination : Trie}
    (finished : self.migrateAccounts = some (.ok (stats, destination))) :
    ∃ entries : List Entry, self.source.openCursor "PlainAccountState" = .ok (entries.map .ok) ∧
      Migrated decodeAccount acceptsAccount setLeaf (LawfulTrieDb.view self.destination) entries
        (LawfulTrieDb.view destination) stats.accountsMigrated stats.accountErrors := by
  obtain ⟨cursor, batch, last, opened, started, looped, committed, rfl⟩ := migrateAccounts_inv finished
  obtain ⟨entries, rfl, whole⟩ := forEntries_migrated
    (·.accountsMigrated) (·.accountErrors) ⟨rfl, rfl⟩
    (fun _ _ _ _ sofar processed => accountsMigrated_process outcome sofar processed)
    started looped committed
  exact ⟨entries, opened, whole⟩

private theorem migrateStorage_migrated
    (outcome : ∀ (tx : Txn) address (entry : StorageEntry),
      (∃ tx', TrieTransaction.setStorageSlot tx address entry.slot (some entry.value) = .ok tx') ↔
        acceptsSlot address entry = true)
    {self : Migrator Trie} {stats : MigrationStats} {destination : Trie}
    (finished : self.migrateStorage = some (.ok (stats, destination))) :
    ∃ entries : List Entry, self.source.openCursor "PlainStorageState" = .ok (entries.map .ok) ∧
      Migrated decodeSlot acceptsSlot setSlot (LawfulTrieDb.view self.destination) entries
        (LawfulTrieDb.view destination) stats.storageSlotsMigrated stats.storageErrors := by
  rw [migrateStorage] at finished
  split at finished
  · cases finished
  · rename_i cursor opened
    split at finished
    · cases finished
    · rename_i batch started
      dsimp only at finished
      split at finished
      · cases finished
      · cases finished
      · rename_i last looped
        split at finished
        · cases finished
        · rename_i committed
          cases finished
          have looped : forEntries self.config processStorageItem cursor batch = some (.ok last) := by
            cases cursor with
            | nil => exact looped
            | cons item rest =>
              cases item with
              | error e => cases looped
              | ok first =>
                rw [← whileEntries_eq_forEntries]
                exact looped
          obtain ⟨entries, rfl, whole⟩ := forEntries_migrated
            (·.storageSlotsMigrated) (·.storageErrors) ⟨rfl, rfl⟩
            (fun _ _ _ _ sofar processed => slotsMigrated_process outcome sofar processed)
            started looped committed
          exact ⟨entries, opened, whole⟩

/-- A migration that succeeds has applied the successful writes of the decoded entries in the
order of the cursor and counted every entry once, whatever the configuration. -/
theorem migrate_accounts_for_all_entries (acceptsAccount : Address → TrieAccount → Bool)
    (acceptsSlot : Address → StorageEntry → Bool)
    (accountOutcome : ∀ (tx : Txn) address account,
      (∃ tx', TrieTransaction.setAccount tx address (some account) = .ok tx') ↔
        acceptsAccount address account = true)
    (slotOutcome : ∀ (tx : Txn) address (entry : StorageEntry),
      (∃ tx', TrieTransaction.setStorageSlot tx address entry.slot (some entry.value) = .ok tx') ↔
        acceptsSlot address entry = true)
    (self : Migrator Trie) (stats : MigrationStats) (destination : Trie) :
    (self.migrateAccounts = some (.ok (stats, destination)) →
      ∃ entries : List Entry, self.source.openCursor "PlainAccountState" = .ok (entries.map .ok) ∧
        LawfulTrieDb.view destination =
          (successful decodeAccount acceptsAccount entries).foldl setLeaf (LawfulTrieDb.view self.destination) ∧
        stats.accountsMigrated = (successful decodeAccount acceptsAccount entries).length ∧
        stats.accountsMigrated + stats.accountErrors = entries.length) ∧
    (self.migrateStorage = some (.ok (stats, destination)) →
      ∃ entries : List Entry, self.source.openCursor "PlainStorageState" = .ok (entries.map .ok) ∧
        LawfulTrieDb.view destination =
          (successful decodeSlot acceptsSlot entries).foldl setSlot (LawfulTrieDb.view self.destination) ∧
        stats.storageSlotsMigrated = (successful decodeSlot acceptsSlot entries).length ∧
        stats.storageSlotsMigrated + stats.storageErrors = entries.length) := by
  constructor
  · intro finished
    obtain ⟨entries, opened, whole⟩ := migrateAccounts_migrated accountOutcome finished
    exact ⟨entries, opened, whole.reached, whole.counted, whole.total⟩
  · intro finished
    obtain ⟨entries, opened, whole⟩ := migrateStorage_migrated slotOutcome finished
    exact ⟨entries, opened, whole.reached, whole.counted, whole.total⟩

end Migrator

section Examples

open Reference

/-- Two accounts and, between them, a value that is too short. -/
def accountEntries : List Entry :=
  [(List.replicate 20 1, [1, 0, 5]), (List.replicate 20 1, [7]), (List.replicate 20 2, [0, 0])]

/-- Two slots of the first account and, between them, a value that is too short. -/
def slotEntries : List Entry :=
  [(List.replicate 20 1, List.replicate 32 0 ++ [5]), (List.replicate 20 1, [7]),
   (List.replicate 20 1, List.replicate 31 0 ++ [1, 9])]

def twoTables : Mdbx where
  beginRoTxn := .ok ()
  openTable _ := .ok ()
  cursor table := .ok ((if table = "PlainAccountState" then accountEntries else slotEntries).map .ok)

/-- With a batch size of 0, every entry is committed on its own. -/
def tablesMigrator (destination : MemoryTrie) : Migrator MemoryTrie := ⟨twoTables, destination, ⟨0, 1⟩⟩

/-- A migration that returns these statistics also returns a destination. -/
private theorem finished_of_stats {ε : Type} {outcome : Option (Except ε (MigrationStats × MemoryTrie))}
    {stats : MigrationStats} (counted : (outcome.bind Except.toOption).map Prod.fst = some stats) :
    ∃ destination, outcome = some (.ok (stats, destination)) := by
  obtain ⟨reached, found, rfl⟩ := Option.map_eq_some_iff.mp counted
  obtain ⟨answer, rfl, ok⟩ := Option.bind_eq_some_iff.mp found
  cases answer with
  | error e => cases ok
  | ok result =>
    cases ok
    exact ⟨reached.2, rfl⟩

theorem migrate_accounts_for_all_entries_three :
    ∃ afterAccounts afterStorage : MemoryTrie,
      ((tablesMigrator ⟨fun _ => none⟩).migrateAccounts = some (.ok (⟨2, 0, 1, 0⟩, afterAccounts)) ∧
        LawfulTrieDb.view afterAccounts =
          (successful decodeAccount (fun _ _ => true) accountEntries).foldl setLeaf (fun _ => none) ∧
        2 = (successful decodeAccount (fun _ _ => true) accountEntries).length ∧
        2 + 1 = accountEntries.length) ∧
      (tablesMigrator afterAccounts).migrateStorage = some (.ok (⟨0, 2, 0, 1⟩, afterStorage)) ∧
        LawfulTrieDb.view afterStorage =
          (successful decodeSlot (fun _ _ => true) slotEntries).foldl setSlot
            (LawfulTrieDb.view afterAccounts) ∧
        2 = (successful decodeSlot (fun _ _ => true) slotEntries).length ∧
        2 + 1 = slotEntries.length := by
  have migrates := fun destination => Migrator.migrate_accounts_for_all_entries
    (fun _ _ => true) (fun _ _ => true) (fun _ _ _ => ⟨fun _ => rfl, fun _ => ⟨_, rfl⟩⟩)
    (fun _ _ _ => ⟨fun _ => rfl, fun _ => ⟨_, rfl⟩⟩) (tablesMigrator destination)
  have injective : Function.Injective (Except.ok : Entry → Except String Entry) :=
    fun _ _ => Except.ok.inj
  obtain ⟨afterAccounts, accountsFinished⟩ :=
    @finished_of_stats _ (tablesMigrator ⟨fun _ => none⟩).migrateAccounts ⟨2, 0, 1, 0⟩ rfl
  obtain ⟨afterStorage, storageFinished⟩ :=
    @finished_of_stats _ (tablesMigrator afterAccounts).migrateStorage ⟨0, 2, 0, 1⟩ rfl
  refine ⟨afterAccounts, afterStorage, ⟨accountsFinished, ?_⟩, storageFinished, ?_⟩
  · obtain ⟨entries, opened, reached⟩ := (migrates _ _ _).1 accountsFinished
    obtain rfl := List.map_injective_iff.mpr injective (Except.ok.inj opened)
    exact reached
  · obtain ⟨entries, opened, reached⟩ := (migrates _ _ _).2 storageFinished
    obtain rfl := List.map_injective_iff.mpr injective (Except.ok.inj opened)
    exact reached

end Examples

end Montana.Migration
