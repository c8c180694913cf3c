import Montana.Storage.TrieGenesis

/-! Genesis across restarts: which interruptions of one start a later one does not notice. -/

namespace Montana.Storage

open Dialogue (Ending Fate Triple)

/-- An attempt that failed or was stopped after a database came to exist and before its
last operation that matters. -/
def Torn {Txn State : Type} (ending : Ending (Operation Txn) (Except SetupError Unit) State) : Prop :=
  ending.result ≠ some (.ok ()) ∧ ∃ operation ∈ ending.last, operation.Initializes

section Restarts

variable {DB Trie Txn : Type} [ColumnStore DB] [LawfulColumnStore DB] [TrieTransaction Txn]
variable [TrieDb Trie Txn] [LawfulTransaction Txn] [LawfulTrieDb Trie Txn] [TrieFile Trie]

namespace Paths

/-- Both databases are there and hold all of the genesis. -/
def Initialized (hashSlow : Bytes → B256) (genesis : Genesis) (self : Paths DB Trie) : Prop :=
  ∃ kvdb trie, self.kvdb = some kvdb ∧ self.trie = some trie ∧ kvdb.Ready ∧
    genesis.Present hashSlow kvdb trie

/-- The disk after these attempts. -/
def after (hashSlow : Bytes → B256) (genesis : Genesis) (self : Paths DB Trie)
    (attempts : List (List Fate)) : Paths DB Trie :=
  attempts.foldl (fun paths fates => (paths.attempt hashSlow genesis fates).state) self

/-- How each of these attempts ended. -/
def endings (hashSlow : Bytes → B256) (genesis : Genesis) (self : Paths DB Trie) :
    List (List Fate) → List (Ending (Operation Txn) (Except SetupError Unit) (Paths DB Trie))
  | [] => []
  | fates :: rest =>
    self.attempt hashSlow genesis fates ::
      endings hashSlow genesis (self.attempt hashSlow genesis fates).state rest

/-- What every attempt leaves: the trie is never created alone, and as long as its
genesis is not complete the header of the genesis holds no root. -/
def Sane (hashSlow : Bytes → B256) (genesis : Genesis) : Paths DB Trie → Prop
  | ⟨none, trie⟩ => trie = none
  | ⟨some kvdb, none⟩ => kvdb.Rootless
  | ⟨some kvdb, some trie⟩ => kvdb.Rootless ∨ genesis.Present hashSlow kvdb trie

/-- What exists was initialized. -/
def Finished (hashSlow : Bytes → B256) (genesis : Genesis) : Paths DB Trie → Prop
  | ⟨none, _⟩ => True
  | ⟨some kvdb, none⟩ => kvdb.Ready
  | ⟨some kvdb, some trie⟩ => kvdb.Ready ∧ genesis.Present hashSlow kvdb trie

/-- An interruption at this operation: what existed before stays as finished as it was. -/
def Interrupted (hashSlow : Bytes → B256) (genesis : Genesis) (before : Paths DB Trie)
    (operation : Operation Txn) (paths : Paths DB Trie) : Prop :=
  paths.Sane hashSlow genesis ∧
    (paths.Finished hashSlow genesis ↔ before.Finished hashSlow genesis ∧ ¬operation.Initializes)

omit [LawfulColumnStore DB] [TrieFile Trie] in
private theorem interrupted_refl {hashSlow : Bytes → B256} {genesis : Genesis} {paths : Paths DB Trie}
    (sane : paths.Sane hashSlow genesis) {operation : Operation Txn}
    (harmless : ¬operation.Initializes) :
    Interrupted hashSlow genesis paths operation paths :=
  ⟨sane, (and_iff_left harmless).symm⟩

private theorem reads_create (cf : ColumnFamily) (key : Bytes) :
    (⟨ColumnStore.create⟩ : RocksDbKvDatabase DB).reads cf key = .ok none :=
  LawfulColumnStore.getCf_create cf key

variable [LawfulTrieFile Trie Txn]

omit [LawfulTrieFile Trie Txn] in
/-- `DB::open_cf` leaves what existed; what it creates is empty until the genesis. -/
theorem triple_openCf (hashSlow : Bytes → B256) {genesis : Genesis} {paths : Paths DB Trie}
    (sane : paths.Sane hashSlow genesis) :
    Triple Paths.answer Paths.refuse (RocksDbKvDatabase.openCf : Action Txn DbError Unit) paths
      (fun _ after => after = ⟨some (paths.kvdb.getD ⟨ColumnStore.create⟩), paths.trie⟩)
      (Interrupted hashSlow genesis paths) := by
  have created : Triple Paths.answer Paths.refuse
      (perform .createMissing RocksDbKvDatabase.openFailed : Action Txn DbError Bool) paths
      (fun created after => created = paths.kvdb.isNone ∧
        after = ⟨some (paths.kvdb.getD ⟨ColumnStore.create⟩), paths.trie⟩)
      (Interrupted hashSlow genesis paths) := by
    refine Triple.call (interrupted_refl sane id) (fun message refusal refused => ?_)
      (fun e failed => by cases failed) fun created performed => ?_
    · cases refused
      exact ⟨_, rfl⟩
    · cases performed
      exact ⟨rfl, rfl⟩
  refine created.andThen ?_
  rintro _ _ ⟨rfl, rfl⟩
  have stopped : Interrupted hashSlow genesis paths (Operation.openCf paths.kvdb.isNone : Operation Txn)
      ⟨some (paths.kvdb.getD ⟨ColumnStore.create⟩), paths.trie⟩ := by
    obtain ⟨kvdb, trie⟩ := paths
    cases kvdb with
    | some kvdb => exact interrupted_refl sane Bool.false_ne_true
    | none =>
      obtain rfl : trie = none := sane
      exact ⟨RocksDbKvDatabase.rootless_of_unset (reads_create _ _),
        iff_of_false (RocksDbKvDatabase.not_ready (reads_create _ _)) fun both => both.2 rfl⟩
  refine Triple.call stopped (fun message refusal refused => ?_) (fun e failed => by cases failed)
    fun _ _ => rfl
  cases refused
  exact ⟨_, rfl⟩

omit [LawfulTrieFile Trie Txn] in
/-- Opening the key-value database keeps the trie, and finishes what it creates. -/
theorem triple_openKvdb (hashSlow : Bytes → B256) {genesis : Genesis} {paths : Paths DB Trie}
    (sane : paths.Sane hashSlow genesis) :
    Triple Paths.answer Paths.refuse
      (RocksDbKvDatabase.openOrCreate hashSlow genesis : Action Txn DbError Unit) paths
      (fun _ after => (∃ kvdb, after = ⟨some kvdb, paths.trie⟩) ∧ after.Sane hashSlow genesis ∧
        (after.Finished hashSlow genesis ↔ paths.Finished hashSlow genesis))
      (Interrupted hashSlow genesis paths) := by
  have exist : Triple Paths.answer Paths.refuse (perform .kvExists .ok : Action Txn DbError Bool) paths
      (fun found after => found = paths.kvdb.isSome ∧ after = paths)
      (Interrupted hashSlow genesis paths) := by
    refine Triple.call (interrupted_refl sane id) (fun message refusal refused => by cases refused)
      (fun e failed => by cases failed) fun found performed => ?_
    cases performed
    exact ⟨rfl, rfl⟩
  refine exist.andThen ?_
  rintro _ after ⟨rfl, same⟩
  rw [same]
  refine (triple_openCf hashSlow sane).andThen ?_
  rintro _ _ rfl
  obtain ⟨kvdb, trie⟩ := paths
  cases kvdb with
  | some kvdb => exact Triple.done ⟨⟨kvdb, rfl⟩, sane, Iff.rfl⟩
  | none =>
    obtain rfl : trie = none := sane
    refine (RocksDbKvDatabase.triple_applyGenesis hashSlow genesis reads_create).mono ?_ ?_
    · rintro _ _ ⟨kvdb, rfl, rootless, ready⟩
      exact ⟨⟨kvdb, rfl⟩, rootless, iff_of_true ready trivial⟩
    · rintro operation _ ⟨kvdb, rfl, rootless, ready⟩
      exact ⟨rootless, ready.trans (iff_of_eq (true_and _)).symm⟩

omit [LawfulTrieFile Trie Txn] [LawfulColumnStore DB] [TrieFile Trie] in
/-- A header without a root is not that of any trie. -/
theorem not_present {hashSlow : Bytes → B256} {genesis : Genesis}
    (rooted : ∀ trie : Trie, TrieDb.stateRoot trie ≠ 0) {kvdb : RocksDbKvDatabase DB} {trie : Trie}
    (rootless : kvdb.Rootless) : ¬genesis.Present hashSlow kvdb trie := by
  intro present
  have header := present.header
  rcases rootless with unset | zero
  · rw [unset] at header
    cases header
  · rw [zero, Except.ok.injEq, Option.some.injEq, Header.mk.injEq] at header
    exact rooted trie header.symm

omit [LawfulColumnStore DB] [LawfulTrieFile Trie Txn] in
/-- `TrieDb::create_new` leaves nothing or an empty trie, whose root is not that of the header. -/
theorem triple_createNew (hashSlow : Bytes → B256) (genesis : Genesis)
    (rooted : ∀ trie : Trie, TrieDb.stateRoot trie ≠ 0) {kvdb : RocksDbKvDatabase DB}
    (rootless : kvdb.Rootless) :
    Triple Paths.answer Paths.refuse (TrieDatabase.createNew : Action Txn OpenError Unit)
      (⟨some kvdb, none⟩ : Paths DB Trie) (fun _ after => after = ⟨some kvdb, some TrieFile.createNew⟩)
      (Interrupted hashSlow genesis ⟨some kvdb, none⟩) := by
  have sane : (⟨some kvdb, none⟩ : Paths DB Trie).Sane hashSlow genesis := rootless
  have created : Triple Paths.answer Paths.refuse (perform .createTrie id : Action Txn OpenError Unit)
      (⟨some kvdb, none⟩ : Paths DB Trie) (fun _ after => after = ⟨some kvdb, some TrieFile.createNew⟩)
      (Interrupted hashSlow genesis ⟨some kvdb, none⟩) := by
    refine Triple.call (interrupted_refl sane id) (fun message refusal refused => ?_)
      (fun e failed => by cases failed) fun _ _ => rfl
    cases refused
    exact ⟨_, rfl⟩
  refine created.andThen ?_
  rintro _ _ rfl
  have stopped : Interrupted hashSlow genesis ⟨some kvdb, none⟩ (Operation.openCreated : Operation Txn)
      ⟨some kvdb, some (TrieFile.createNew : Trie)⟩ :=
    ⟨.inl rootless, iff_of_false (fun finished => not_present rooted rootless finished.2)
      fun both => both.2 trivial⟩
  refine Triple.call stopped (fun message refusal refused => ?_) (fun e failed => by cases failed)
    fun _ _ => rfl
  cases refused
  exact ⟨_, rfl⟩

/-- Opening the trie database after the other one: it is initialized afterwards exactly if
what existed was. -/
theorem triple_openTrieDb {hashSlow : Bytes → B256} {genesis : Genesis}
    (collisionFree : genesis.CollisionFree hashSlow)
    (rooted : ∀ trie : Trie, TrieDb.stateRoot trie ≠ 0) {kvdb : RocksDbKvDatabase DB}
    {trie : Option Trie} (sane : (⟨some kvdb, trie⟩ : Paths DB Trie).Sane hashSlow genesis) :
    Triple Paths.answer Paths.refuse
      (TrieDatabase.openOrCreate hashSlow genesis : Action Txn OpenError Unit) ⟨some kvdb, trie⟩
      (fun _ after => after.Sane hashSlow genesis ∧
        (after.Initialized hashSlow genesis ↔
          (⟨some kvdb, trie⟩ : Paths DB Trie).Finished hashSlow genesis) ∧
        (after.Finished hashSlow genesis ↔
          (⟨some kvdb, trie⟩ : Paths DB Trie).Finished hashSlow genesis))
      (Interrupted hashSlow genesis ⟨some kvdb, trie⟩) := by
  have initialized (kvdb : RocksDbKvDatabase DB) (trie : Trie) :
      (⟨some kvdb, some trie⟩ : Paths DB Trie).Initialized hashSlow genesis ↔
        (⟨some kvdb, some trie⟩ : Paths DB Trie).Finished hashSlow genesis := by
    constructor
    · rintro ⟨_, _, ⟨⟩, ⟨⟩, ready, present⟩
      exact ⟨ready, present⟩
    · rintro ⟨ready, present⟩
      exact ⟨kvdb, trie, rfl, rfl, ready, present⟩
  have opened : Triple Paths.answer Paths.refuse
      (perform .openTrie TrieDatabase.found : Action Txn OpenError Bool) ⟨some kvdb, trie⟩
      (fun opened after => opened = trie.isSome ∧ after = ⟨some kvdb, trie⟩)
      (Interrupted hashSlow genesis ⟨some kvdb, trie⟩) := by
    refine Triple.call (interrupted_refl sane id) (fun message refusal refused => ?_) (fun e failed => ?_)
      fun opened performed => ?_
    · cases refused
      exact ⟨_, rfl⟩
    · cases trie <;> cases failed
    · cases trie <;> cases performed <;> exact ⟨rfl, rfl⟩
  refine opened.andThen ?_
  rintro _ _ ⟨rfl, rfl⟩
  cases trie with
  | some trie => exact Triple.done ⟨sane, initialized kvdb trie, Iff.rfl⟩
  | none =>
    refine (triple_createNew hashSlow genesis rooted sane).andThen ?_
    rintro _ _ rfl
    refine (TrieDatabase.triple_applyGenesis collisionFree rooted sane).mono ?_ ?_
    · rintro _ _ ⟨kvdb', trie', rfl, present, ready⟩
      have finished : (⟨some kvdb', some trie'⟩ : Paths DB Trie).Finished hashSlow genesis ↔ kvdb.Ready :=
        (and_iff_left present).trans ready
      exact ⟨.inr present, (initialized kvdb' trie').trans finished, finished⟩
    · rintro operation _ ⟨initializes, kvdb', trie', rfl, rootless⟩
      exact ⟨.inl rootless, iff_of_false (fun finished => not_present rooted rootless finished.2)
        fun both => both.2 initializes⟩

/-- What one attempt leaves, however it ends. -/
theorem attempt_cases {hashSlow : Bytes → B256} {genesis : Genesis}
    (collisionFree : genesis.CollisionFree hashSlow)
    (rooted : ∀ trie : Trie, TrieDb.stateRoot trie ≠ 0) {paths : Paths DB Trie}
    (sane : paths.Sane hashSlow genesis) (fates : List Fate) :
    (paths.attempt hashSlow genesis fates).state.Sane hashSlow genesis ∧
      ((paths.attempt hashSlow genesis fates).state.Finished hashSlow genesis ↔
        paths.Finished hashSlow genesis ∧ ¬Torn (paths.attempt hashSlow genesis fates)) ∧
      ((paths.attempt hashSlow genesis fates).result = some (.ok ()) →
        ((paths.attempt hashSlow genesis fates).state.Initialized hashSlow genesis ↔
          paths.Finished hashSlow genesis)) := by
  have opened : Triple Paths.answer Paths.refuse (openBoth hashSlow genesis : Action Txn SetupError Unit)
      paths
      (fun _ after => after.Sane hashSlow genesis ∧
        (after.Initialized hashSlow genesis ↔ paths.Finished hashSlow genesis) ∧
        (after.Finished hashSlow genesis ↔ paths.Finished hashSlow genesis))
      (Interrupted hashSlow genesis paths) := by
    refine ((triple_openKvdb hashSlow sane).mapError _).andThen ?_
    rintro _ _ ⟨⟨kvdb, rfl⟩, sane, finished⟩
    refine ((triple_openTrieDb collisionFree rooted sane).mapError _).mono ?_ ?_
    · rintro _ after ⟨sane, initialized, kept⟩
      exact ⟨sane, initialized.trans finished, kept.trans finished⟩
    · rintro operation after ⟨sane, kept⟩
      exact ⟨sane, kept.trans (and_congr_left' finished)⟩
  have meets := opened fates none
  rw [← attempt] at meets
  generalize paths.attempt hashSlow genesis fates = ending at meets
  obtain ⟨result, last, after⟩ := ending
  have broken (failed : result ≠ some (.ok ()))
      (stopped : ∃ operation, last = some operation ∧ Interrupted hashSlow genesis paths operation after) :
      after.Sane hashSlow genesis ∧
        (after.Finished hashSlow genesis ↔
          paths.Finished hashSlow genesis ∧ ¬Torn ⟨result, last, after⟩) := by
    obtain ⟨operation, rfl, sane, finished⟩ := stopped
    refine ⟨sane, finished.trans (and_congr_right' (not_congr ?_))⟩
    simp [Torn, failed]
  rcases result with _ | e | ⟨⟩
  · exact ⟨(broken nofun meets).1, (broken nofun meets).2, nofun⟩
  · exact ⟨(broken nofun meets).1, (broken nofun meets).2, nofun⟩
  · obtain ⟨sane, initialized, finished⟩ := meets
    refine ⟨sane, finished.trans (and_iff_left ?_).symm, fun _ => initialized⟩
    simp [Torn]

/-- After any number of attempts, what exists was initialized exactly if none of them was torn. -/
theorem after_finished {hashSlow : Bytes → B256} {genesis : Genesis}
    (collisionFree : genesis.CollisionFree hashSlow)
    (rooted : ∀ trie : Trie, TrieDb.stateRoot trie ≠ 0) (attempts : List (List Fate))
    {paths : Paths DB Trie} (sane : paths.Sane hashSlow genesis) :
    (paths.after hashSlow genesis attempts).Sane hashSlow genesis ∧
      ((paths.after hashSlow genesis attempts).Finished hashSlow genesis ↔
        paths.Finished hashSlow genesis ∧
          ∀ ending ∈ paths.endings hashSlow genesis attempts, ¬Torn ending) := by
  induction attempts generalizing paths with
  | nil => exact ⟨sane, by simp [after, endings]⟩
  | cons fates rest ih =>
    obtain ⟨next, finished, _⟩ := attempt_cases collisionFree rooted sane fates
    obtain ⟨last, after⟩ := ih next
    refine ⟨last, after.trans ?_⟩
    rw [finished, endings, List.forall_mem_cons, and_assoc]

/-- After failed and interrupted attempts, an attempt that returns `Ok` yields databases
with all of the genesis exactly if none of the others was torn. -/
theorem initialized_iff_untorn {hashSlow : Bytes → B256} {genesis : Genesis}
    (collisionFree : genesis.CollisionFree hashSlow)
    (rooted : ∀ trie : Trie, TrieDb.stateRoot trie ≠ 0) (attempts : List (List Fate))
    {fates : List Fate}
    (succeeds : (((⟨none, none⟩ : Paths DB Trie).after hashSlow genesis attempts).attempt hashSlow
      genesis fates).result = some (.ok ())) :
    (((⟨none, none⟩ : Paths DB Trie).after hashSlow genesis attempts).attempt hashSlow genesis
        fates).state.Initialized hashSlow genesis ↔
      ∀ ending ∈ (⟨none, none⟩ : Paths DB Trie).endings hashSlow genesis attempts, ¬Torn ending := by
  obtain ⟨sane, finished⟩ := after_finished collisionFree rooted attempts
    (show (⟨none, none⟩ : Paths DB Trie).Sane hashSlow genesis from rfl)
  rw [(attempt_cases collisionFree rooted sane fates).2.2 succeeds, finished]
  exact iff_of_eq (true_and _)

end Paths

end Restarts

section Examples

open Reference

/-- A RocksDB that remembers its puts, the last one first. -/
structure MemoryStore where
  puts : List ((ColumnFamily × Bytes) × Bytes)
  deriving DecidableEq, Repr

instance : ColumnStore MemoryStore where
  create := ⟨[]⟩
  getCf store cf key := .ok (store.puts.lookup (cf, key))
  putCf store cf key value := (.ok (), ⟨((cf, key), value) :: store.puts⟩)

instance : LawfulColumnStore MemoryStore where
  getCf_create cf key := rfl
  getCf_putCf written cf' key' := by
    cases written
    simp only [ColumnStore.getCf, List.lookup_cons, beq_eq_decide, Prod.mk.injEq]
    split <;> simp_all
  getCf_failed failed := by cases failed

/-- The trie in memory, with a root that is not zero. -/
structure RootedTrie where
  accounts : Address → Option Leaf

instance : TrieDb RootedTrie MemoryTrie where
  beginRo trie := .ok ⟨trie.accounts⟩
  beginRw trie := .ok ⟨trie.accounts⟩
  commitRw _ tx := .ok ⟨tx.accounts⟩
  stateRoot _ := 1

instance : LawfulTrieDb RootedTrie MemoryTrie where
  view := RootedTrie.accounts
  beginRo_view begun := by
    cases begun
    rfl
  beginRw_view begun := by
    cases begun
    rfl
  commitRw_view committed := by
    cases committed
    rfl

instance : TrieFile RootedTrie := ⟨⟨fun _ => none⟩⟩

instance : LawfulTrieFile RootedTrie MemoryTrie := ⟨rfl⟩

/-- A genesis of one account, with a code of one byte. -/
def oneContract : Genesis := ⟨[⟨1, ⟨none, 5, some [96], none⟩⟩].toAList⟩

/-- Hashes that tell codes apart by their length. -/
def byLength (code : Bytes) : B256 := BitVec.ofNat 256 (code.length + 1)

/-- Nothing at the two paths. -/
def nowhere : Paths MemoryStore RootedTrie := ⟨none, none⟩

/-- Each of these operations is performed, then the process stops. -/
def stopAfter (count : Nat) : List Fate := List.replicate count .performed ++ [.stopped]

private theorem oneContract_collisionFree : oneContract.CollisionFree byLength := by
  intro entry member other member' code code' coded coded' _
  obtain rfl := List.mem_singleton.mp member
  obtain rfl := List.mem_singleton.mp member'
  cases coded
  cases coded'
  rfl

namespace Paths

/-- The first start cannot create the directory, the next one stops before the key-value
database gets its header: the third one completes it. -/
theorem stopped_before_header :
    ((nowhere.after byLength oneContract [[.performed, .refused "No space left"], stopAfter 6]).attempt
      byLength oneContract []).state.Initialized byLength oneContract := by
  have rooted (trie : RootedTrie) : TrieDb.stateRoot trie ≠ 0 := show (1 : B256) ≠ 0 by decide
  refine (initialized_iff_untorn oneContract_collisionFree rooted _ rfl).mpr ?_
  intro ending member
  rcases List.mem_cons.mp member with rfl | member
  · rintro ⟨_, operation, last, initializes⟩
    cases last
    exact initializes
  · obtain rfl := List.mem_singleton.mp member
    rintro ⟨_, operation, last, initializes⟩
    cases last
    exact initializes rfl

/-- After a first start that ends so, the second one returns `Ok` without the genesis. -/
def SkipsGenesis (fates : List Fate) : Prop :=
  ((nowhere.after byLength oneContract [fates]).attempt byLength oneContract []).result = some (.ok ()) ∧
    ¬((nowhere.after byLength oneContract [fates]).attempt byLength oneContract
      []).state.Initialized byLength oneContract

private theorem not_ready_of_unset {kvdb : RocksDbKvDatabase MemoryStore} (unset : kvdb.getSafe = .ok none) :
    ¬kvdb.Ready := by
  rintro ⟨⟨blockNumber, read⟩, _⟩
  rw [unset] at read
  cases read

/-- The first start stops after RocksDB has created its directory, or fails to open it: the
second one returns `Ok` with a database whose safe block number is not set. -/
theorem stopped_after_creation :
    SkipsGenesis (stopAfter 3) ∧ SkipsGenesis [.performed, .performed, .refused "IO error"] := by
  constructor
  · refine ⟨rfl, ?_⟩
    rintro ⟨kvdb, trie, found, _, ready, _⟩
    cases found
    exact not_ready_of_unset rfl ready
  · refine ⟨rfl, ?_⟩
    rintro ⟨kvdb, trie, found, _, ready, _⟩
    cases found
    exact not_ready_of_unset rfl ready

end Paths

end Examples

end Montana.Storage
