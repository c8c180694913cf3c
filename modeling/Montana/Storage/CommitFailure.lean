import Montana.Storage.Reference

/-! `TrieDatabase::commit_block` when one of its calls fails. The trie commits as a
whole; the header is written after it, to the other store. -/

namespace Montana.Storage

/-- `KeyValueDatabase::get_header`. -/
class HeaderDatabase (KV : Type) where
  getHeader : KV → Nat → Except DbError (Option Header)

/-- Headers are kept apart from codes, a written header is read back, and a write
that fails stores nothing. -/
class LawfulHeaderDatabase (KV : Type) [KeyValueDatabase KV] [HeaderDatabase KV] : Prop where
  getHeader_setCode : ∀ (kvdb : KV) (codeHash : B256) (code : Bytes),
    HeaderDatabase.getHeader (KeyValueDatabase.setCode kvdb codeHash code).2 =
      HeaderDatabase.getHeader kvdb
  getHeader_setHeader : ∀ {kvdb kvdb' : KV} {blockNumber : Nat} {header : Header},
    KeyValueDatabase.setHeader kvdb blockNumber header = (.ok (), kvdb') →
      HeaderDatabase.getHeader kvdb' blockNumber = .ok (some header)
  getHeader_failed : ∀ {kvdb kvdb' : KV} {blockNumber : Nat} {header : Header} {e : DbError},
    KeyValueDatabase.setHeader kvdb blockNumber header = (.error e, kvdb') →
      HeaderDatabase.getHeader kvdb' = HeaderDatabase.getHeader kvdb

namespace TrieDatabase

variable {Trie Txn KV : Type} [TrieTransaction Txn] [TrieDb Trie Txn] [KeyValueDatabase KV]
variable [HeaderDatabase KV]

def headers (self : TrieDatabase Trie KV) : Nat → Except DbError (Option Header) :=
  HeaderDatabase.getHeader self.kvdb

variable [LawfulHeaderDatabase KV]

omit [TrieTransaction Txn] [TrieDb Trie Txn] in
private theorem storeCode_headers (kvdb : KV) (info : AccountInfo) :
    HeaderDatabase.getHeader (storeCode kvdb info).2 = HeaderDatabase.getHeader kvdb := by
  unfold storeCode
  split
  · split
    · exact LawfulHeaderDatabase.getHeader_setCode _ _ _
    · rfl
  · rfl

omit [TrieDb Trie Txn] in
private theorem updateAccount_headers (kvdb : KV) (tx : Txn) (address : Address) (account : Account) :
    HeaderDatabase.getHeader (updateAccount kvdb tx address account).2 =
      HeaderDatabase.getHeader kvdb := by
  unfold updateAccount
  split
  · rfl
  · have stored := storeCode_headers kvdb account.info
    dsimp only
    split
    · rfl
    · split <;> rename_i outcome <;> rw [outcome] at stored <;> exact stored

omit [TrieDb Trie Txn] in
/-- The loops over the accounts write code at most, however far they come. -/
theorem applyChanges_headers (entries : List ((_ : Address) × Account)) (kvdb : KV) (tx : Txn) :
    HeaderDatabase.getHeader (applyChanges kvdb tx entries).2 = HeaderDatabase.getHeader kvdb := by
  induction entries generalizing kvdb tx with
  | nil => rfl
  | cons entry rest ih =>
    have updated := updateAccount_headers kvdb tx entry.1 entry.2
    rw [applyChanges]
    split <;> rename_i outcome <;> rw [outcome] at updated
    · exact updated
    · split
      · exact updated
      · exact (ih _ _).trans updated

omit [TrieDb Trie Txn] in
private theorem applyTransactions_headers (states : List EvmState) (kvdb : KV) (tx : Txn) :
    HeaderDatabase.getHeader (applyTransactions kvdb tx states).2 = HeaderDatabase.getHeader kvdb := by
  induction states generalizing kvdb tx with
  | nil => rfl
  | cons state rest ih =>
    have changed := applyChanges_headers state.entries kvdb tx
    rw [applyTransactions]
    split <;> rename_i outcome <;> rw [outcome] at changed
    · exact changed
    · exact (ih _ _).trans changed

variable [LawfulTransaction Txn] [LawfulTrieDb Trie Txn]

/-- The two databases hold the same accounts, storage, state root and headers. -/
structure Unchanged (before after : TrieDatabase Trie KV) : Prop where
  accounts : after.accounts = before.accounts
  stateRoot : TrieDb.stateRoot after.inner = TrieDb.stateRoot before.inner
  headers : after.headers = before.headers

/-- A commit that fails leaves everything as it was, and one that succeeds returns the
root that the trie and the header of the block have. -/
def AllOrNothing (self : TrieDatabase Trie KV) (blockNumber : Nat) (states : List EvmState) : Prop :=
  match self.commitBlock blockNumber states with
  | (.error _, after) => self.Unchanged after
  | (.ok root, after) =>
    TrieDb.stateRoot after.inner = root ∧ after.headers blockNumber = .ok (some ⟨root⟩)

/-- The trie transaction goes through and commits: the store it leaves the header to,
and the trie it leaves behind. -/
def Commits (self : TrieDatabase Trie KV) (states : List EvmState) (kvdb : KV) (inner : Trie) : Prop :=
  ∃ begun tx, TrieDb.beginRw self.inner = .ok begun ∧
    applyTransactions self.kvdb begun states = (.ok tx, kvdb) ∧
    TrieDb.commitRw self.inner tx = .ok inner

/-- `set_header` does not fail for the root of the committed trie, unless committing
has not changed the trie. -/
def HeaderKept (self : TrieDatabase Trie KV) (blockNumber : Nat) (states : List EvmState) : Prop :=
  ∀ kvdb inner, self.Commits states kvdb inner →
    (KeyValueDatabase.setHeader kvdb blockNumber ⟨TrieDb.stateRoot inner⟩).1.isOk = true ∨
      LawfulTrieDb.view inner = self.accounts ∧ TrieDb.stateRoot inner = TrieDb.stateRoot self.inner

omit [LawfulTransaction Txn] [LawfulTrieDb Trie Txn] in
/-- The ends of `commit_block`: before the trie commits nothing but code is written;
afterwards only the header is left to write. -/
theorem commitBlock_cases (self : TrieDatabase Trie KV) (blockNumber : Nat) (states : List EvmState) :
    (∃ e kvdb, self.commitBlock blockNumber states = (.error e, { self with kvdb }) ∧
      HeaderDatabase.getHeader kvdb = self.headers ∧ ∀ kvdb inner, ¬self.Commits states kvdb inner) ∨
    ∃ kvdb inner, HeaderDatabase.getHeader kvdb = self.headers ∧
      self.Commits states kvdb inner ∧
      (∀ kvdb' inner', self.Commits states kvdb' inner' → kvdb' = kvdb ∧ inner' = inner) ∧
      ∀ outcome after,
        KeyValueDatabase.setHeader kvdb blockNumber ⟨TrieDb.stateRoot inner⟩ = (outcome, after) →
        self.commitBlock blockNumber states =
          (outcome.map fun _ => TrieDb.stateRoot inner, { inner, kvdb := after }) := by
  unfold commitBlock
  cases begun : TrieDb.beginRw self.inner with
  | error e =>
    refine .inl ⟨_, self.kvdb, rfl, rfl, fun kvdb inner commits => ?_⟩
    obtain ⟨_, _, began, _⟩ := commits
    cases begun.symm.trans began
  | ok tx =>
    have codes := applyTransactions_headers states self.kvdb tx
    cases applied : applyTransactions self.kvdb tx states with
    | mk outcome kvdb =>
      rw [applied] at codes
      cases outcome with
      | error e =>
        refine .inl ⟨e, kvdb, by simp only [applied], codes, fun kvdb inner commits => ?_⟩
        obtain ⟨_, _, began, done, _⟩ := commits
        cases begun.symm.trans began
        cases applied.symm.trans done
      | ok written =>
        cases committed : TrieDb.commitRw self.inner written with
        | error e =>
          refine .inl ⟨.commit e, kvdb, by simp only [applied, committed], codes,
            fun kvdb inner commits => ?_⟩
          obtain ⟨_, _, began, done, whole⟩ := commits
          cases begun.symm.trans began
          cases applied.symm.trans done
          cases committed.symm.trans whole
        | ok inner =>
          refine .inr ⟨kvdb, inner, codes, ⟨tx, written, begun, applied, committed⟩,
            fun kvdb' inner' commits => ?_, fun outcome after stored => ?_⟩
          · obtain ⟨_, _, began, done, whole⟩ := commits
            cases begun.symm.trans began
            cases applied.symm.trans done
            cases committed.symm.trans whole
            exact ⟨rfl, rfl⟩
          · simp only [applied, committed, stored]
            cases outcome <;> rfl

/-- The one failure that is not undone is that of the last write. -/
theorem allOrNothing_iff_headerKept (self : TrieDatabase Trie KV) (blockNumber : Nat)
    (states : List EvmState) :
    self.AllOrNothing blockNumber states ↔ self.HeaderKept blockNumber states := by
  unfold AllOrNothing HeaderKept
  rcases commitBlock_cases self blockNumber states with
    ⟨e, kvdb, failed, headers, stops⟩ | ⟨kvdb, inner, headers, commits, only, ended⟩
  · rw [failed]
    exact iff_of_true ⟨rfl, rfl, headers⟩ fun kvdb inner through => absurd through (stops kvdb inner)
  · cases stored : KeyValueDatabase.setHeader kvdb blockNumber ⟨TrieDb.stateRoot inner⟩ with
    | mk outcome after =>
      rw [ended outcome after stored]
      cases outcome with
      | ok done =>
        refine iff_of_true ⟨rfl, LawfulHeaderDatabase.getHeader_setHeader stored⟩ ?_
        intro kvdb' inner' through
        obtain ⟨rfl, rfl⟩ := only kvdb' inner' through
        exact .inl (by rw [stored]; rfl)
      | error e =>
        have kept := (LawfulHeaderDatabase.getHeader_failed stored).trans headers
        constructor
        · intro unchanged kvdb' inner' through
          obtain ⟨rfl, rfl⟩ := only kvdb' inner' through
          exact .inr ⟨unchanged.accounts, unchanged.stateRoot⟩
        · intro unchanged
          rcases unchanged kvdb inner commits with refused | ⟨accounts, stateRoot⟩
          · rw [stored] at refused
            cases refused
          · exact ⟨accounts, stateRoot, kept⟩

end TrieDatabase

section Examples

open Reference

/-- A key-value store whose header writes succeed or fail as listed, and succeed afterwards. -/
structure ScriptedKv where
  store : MemoryKv
  headerWrites : List Bool

instance : KeyValueDatabase ScriptedKv where
  getCode kvdb codeHash := .ok (kvdb.store.codes codeHash)
  setCode kvdb codeHash code := (.ok (), { kvdb with
    store := { kvdb.store with codes := Function.update kvdb.store.codes codeHash (some code) } })
  setHeader kvdb blockNumber header :=
    match kvdb.headerWrites with
    | false :: rest => (.error (.keyValue "Failed to set header: disk full"), { kvdb with headerWrites := rest })
    | _ => (.ok (), {
        store := { kvdb.store with headers := Function.update kvdb.store.headers blockNumber (some header) }
        headerWrites := kvdb.headerWrites.tail })

instance : HeaderDatabase ScriptedKv where
  getHeader kvdb blockNumber := .ok (kvdb.store.headers blockNumber)

instance : LawfulHeaderDatabase ScriptedKv where
  getHeader_setCode _ _ _ := rfl
  getHeader_setHeader {kvdb kvdb' blockNumber header} stored := by
    simp only [KeyValueDatabase.setHeader] at stored
    split at stored <;> cases stored
    simp [HeaderDatabase.getHeader]
  getHeader_failed stored := by
    simp only [KeyValueDatabase.setHeader] at stored
    split at stored <;> cases stored
    rfl

/-- An empty trie over such a store. -/
def scripted (headerWrites : List Bool) : TrieDatabase MemoryTrie ScriptedKv where
  inner := ⟨fun _ => none⟩
  kvdb := ⟨⟨fun _ => none, fun _ => none⟩, headerWrites⟩

/-- A block that pays a new account. -/
def paid : List EvmState := [stateOf [⟨7, { emptyAccount with
  info := { balance := 10, nonce := 0, codeHash := keccakEmpty, code := none }
  touched := true }⟩]]

theorem paid_allOrNothing : (scripted []).AllOrNothing 1 paid :=
  (TrieDatabase.allOrNothing_iff_headerKept (scripted []) 1 paid).mpr fun _ _ commits => by
    obtain ⟨_, _, begun, applied, committed⟩ := commits
    cases begun
    cases applied
    exact .inl rfl

/-- The header cannot be written: the call fails, and the payment is in the trie. -/
theorem header_failure_keeps_payment :
    (∃ after, (scripted [false]).commitBlock 1 paid =
      (.error (.keyValue "Failed to set header: disk full"), after) ∧
      (scripted [false]).accounts 7 = none ∧ after.accounts 7 ≠ none) ∧
    ¬(scripted [false]).AllOrNothing 1 paid := by
  refine ⟨⟨_, rfl, rfl, fun absent => Option.some_ne_none _ absent⟩, fun kept => ?_⟩
  have unchanged : (scripted [false]).Unchanged _ := kept
  exact Option.some_ne_none _ (congrFun unchanged.accounts 7)

end Examples

end Montana.Storage
