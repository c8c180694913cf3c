import Montana.TxMgr.Nonce

/-! When a nonce is handed out twice, the chain has been asked in between, unless a reset
installs an answer that has been overtaken. -/

namespace Montana.TxMgr

open Threads (Pool Turn run)

/-- Every time the nonce was handed out, a reset has since read at most it. -/
def Licensed (log : List Entry) (nonce : Nat) : Prop :=
  ∀ before after, log = before ++ .returned nonce :: after → ∃ answer ≤ nonce, .read answer ∈ after

/-- What the history of a tracker should look like. -/
structure FreshlyRead (log : List Entry) : Prop where
  repeated : ∀ before between after nonce,
    log = before ++ .returned nonce :: (between ++ .returned nonce :: after) →
      ∃ answer ≤ nonce, .read answer ∈ between
  consecutive : ∀ before between after nonce next,
    log = before ++ .returned nonce :: (between ++ .returned next :: after) →
      (∀ entry ∈ between, ∃ answer, entry = .read answer) → next = nonce + 1

/-- A list that ends in an entry, split at one of its entries. -/
theorem split_concat {α : Type} {list before after : List α} {last entry : α}
    (split : list ++ [last] = before ++ entry :: after) :
    (after = [] ∧ last = entry ∧ list = before) ∨
      ∃ rest, after = rest ++ [last] ∧ list = before ++ entry :: rest := by
  rcases List.eq_nil_or_concat after with rfl | ⟨rest, final, rfl⟩
  · left
    obtain ⟨same, last⟩ := List.append_inj' split rfl
    exact ⟨rfl, (List.cons.inj last).1, same⟩
  · right
    rw [List.concat_eq_append, ← List.cons_append, ← List.append_assoc] at split
    obtain ⟨same, last⟩ := List.append_inj' split rfl
    cases last
    exact ⟨rest, List.concat_eq_append, same⟩

theorem Licensed.concat {log : List Entry} {nonce : Nat} (licensed : Licensed log nonce) {entry : Entry}
    (other : entry ≠ .returned nonce) : Licensed (log ++ [entry]) nonce := by
  intro before after split
  rcases split_concat split with ⟨-, same, -⟩ | ⟨rest, rfl, same⟩
  · exact absurd same other
  · obtain ⟨answer, atMost, member⟩ := licensed before rest same
    exact ⟨answer, atMost, List.mem_append_left _ member⟩

/-- A reading licenses what was handed out before it. -/
theorem licensed_of_read {answer nonce : Nat} (atMost : answer ≤ nonce) (log rest : List Entry)
    (licensed : Licensed rest nonce) : Licensed (log ++ .read answer :: rest) nonce := by
  intro before after split
  rcases List.append_eq_append_iff.mp split with ⟨middle, rfl, tail⟩ | ⟨middle, rfl, tail⟩
  · cases middle with
    | nil => cases tail
    | cons head middle =>
      obtain ⟨-, tail⟩ := List.cons.inj tail
      exact licensed middle after tail
  · cases middle with
    | nil => cases tail
    | cons head middle =>
      obtain ⟨-, rfl⟩ := List.cons.inj tail
      exact ⟨answer, atMost, List.mem_append_right _ (List.mem_cons_self ..)⟩

/-- What the cache stands for: no nonce from it on is repeated without a reading, and it goes on
from the last one handed out. -/
structure Ready (tracker : NonceTracker) : Prop where
  fresh : FreshlyRead tracker.log
  unused : tracker.nonce = none → ∀ nonce, .returned nonce ∉ tracker.log
  licensed : ∀ current, tracker.nonce = some current → ∀ nonce ≥ current, Licensed tracker.log nonce
  follows : ∀ current, tracker.nonce = some current → ∀ before after nonce,
    tracker.log = before ++ .returned nonce :: after → (∀ entry ∈ after, ∃ answer, entry = .read answer) →
      current = nonce + 1

theorem FreshlyRead.concat {log : List Entry} (fresh : FreshlyRead log) {entry : Entry}
    (licensed : ∀ nonce, entry = .returned nonce → Licensed log nonce)
    (follows : ∀ next, entry = .returned next → ∀ before after nonce,
      log = before ++ .returned nonce :: after → (∀ entry ∈ after, ∃ answer, entry = .read answer) →
        next = nonce + 1) :
    FreshlyRead (log ++ [entry]) where
  repeated before between after nonce split := by
    rw [← List.cons_append, ← List.append_assoc] at split
    rcases split_concat split with ⟨-, same, whole⟩ | ⟨rest, rfl, whole⟩
    · exact licensed nonce same before between whole
    · apply fresh.repeated before between rest nonce
      rw [whole, List.append_assoc, List.cons_append]
  consecutive before between after nonce next split onlyReads := by
    rw [← List.cons_append, ← List.append_assoc] at split
    rcases split_concat split with ⟨-, same, whole⟩ | ⟨rest, rfl, whole⟩
    · exact follows next same before between nonce whole onlyReads
    · apply fresh.consecutive before between rest nonce next _ onlyReads
      rw [whole, List.append_assoc, List.cons_append]

private theorem ready_new : Ready NonceTracker.new where
  fresh := ⟨fun before _ _ _ split => absurd split.symm (by simp [NonceTracker.new]),
    fun before _ _ _ _ split => absurd split.symm (by simp [NonceTracker.new])⟩
  unused _ nonce member := by cases member
  licensed _ cached := by cases cached
  follows _ cached := by cases cached

/-- Handing out the nonce that the cache stands for. -/
theorem ready_take {self : NonceTracker} (ready : Ready self) {current : Nat} (small : current < 2 ^ 64 - 1)
    (stands : self.nonce = some current ∨ self.nonce = none) : Ready (self.take current) := by
  have licensed : ∀ nonce ≥ current, Licensed self.log nonce := by
    intro nonce above
    rcases stands with cached | none
    · exact ready.licensed current cached nonce above
    · intro before after split
      exact absurd (split ▸ List.mem_append_right _ (List.mem_cons_self ..)) (ready.unused none nonce)
  have next : (current + 1) % 2 ^ 64 = current + 1 := by omega
  refine ⟨?_, ?_, ?_, ?_⟩
  · apply ready.fresh.concat
    · intro nonce same
      cases same
      exact licensed current (Nat.le_refl _)
    · intro other same before after nonce split onlyReads
      cases same
      rcases stands with cached | none
      · exact ready.follows current cached before after nonce split onlyReads
      · exact absurd (split ▸ List.mem_append_right _ (List.mem_cons_self ..)) (ready.unused none nonce)
  · intro none
    cases none
  · intro cached isCached nonce above
    cases isCached
    rw [next] at above
    apply (licensed nonce (by omega)).concat
    intro same
    cases same
    omega
  · intro cached isCached before after nonce split onlyReads
    cases isCached
    rw [next]
    rcases split_concat split with ⟨-, same, -⟩ | ⟨rest, rfl, -⟩
    · cases same
      rfl
    · obtain ⟨answer, same⟩ := onlyReads _ (List.mem_append_right _ (List.mem_singleton.mpr rfl))
      cases same

private theorem ready_read {self : NonceTracker} (ready : Ready self) (answer : Nat) :
    Ready { self with log := self.log ++ [.read answer] } where
  fresh := ready.fresh.concat (fun _ same => by cases same) (fun _ same => by cases same)
  unused none nonce member := by
    rcases List.mem_append.mp member with earlier | last
    · exact ready.unused none nonce earlier
    · simp at last
  licensed current cached nonce above :=
    (ready.licensed current cached nonce above).concat (fun same => by cases same)
  follows current cached before after nonce split onlyReads := by
    rcases split_concat split with ⟨-, same, -⟩ | ⟨rest, rfl, whole⟩
    · cases same
    · exact ready.follows current cached before rest nonce whole
        fun entry member => onlyReads entry (List.mem_append_left _ member)

/-- Installing an answer that every later use of a nonce from it on has been licensed again. -/
theorem ready_write {self : NonceTracker} (ready : Ready self) {chainNonce : Nat} {earlier later : List Entry}
    (reading : self.log = earlier ++ .read chainNonce :: later)
    (licensed : ∀ nonce ≥ chainNonce, Licensed later nonce) :
    Ready { nonce := some chainNonce, log := self.log ++ [.wrote chainNonce] } where
  fresh := ready.fresh.concat (fun _ same => by cases same) (fun _ same => by cases same)
  unused none := by cases none
  licensed current cached nonce above := by
    cases cached
    apply Licensed.concat _ (fun same => by cases same)
    rw [reading]
    exact licensed_of_read above earlier later (licensed nonce above)
  follows current cached before after nonce split onlyReads := by
    rcases split_concat split with ⟨-, same, -⟩ | ⟨rest, rfl, -⟩
    · cases same
    · obtain ⟨answer, same⟩ := onlyReads _ (List.mem_append_right _ (List.mem_singleton.mpr rfl))
      cases same

/-- A reset that is about to write has read what it writes. -/
def HasRead (log : List Entry) (call : Call) : Prop :=
  ∀ chainNonce since, call = .write chainNonce since →
    ∃ earlier later, log = earlier ++ .read chainNonce :: later ∧ since = earlier.length + 1

private theorem HasRead.grow {log : List Entry} {call : Call} (read : HasRead log call)
    (more : List Entry) :
    HasRead (log ++ more) call := by
  intro chainNonce since isWrite
  obtain ⟨earlier, later, rfl, position⟩ := read chainNonce since isWrite
  exact ⟨earlier, later ++ more, by simp, position⟩

/-- The condition on a turn: no call hands out `u64::MAX`, and when a reset writes what it has read,
each nonce from it on that was handed out since has been licensed by another reset's reading. -/
def Admits (pool : Pool NonceTracker Call) : Threads.Turn Request Move → Prop
  | .start _ => True
  | .act _ .cancel => True
  | .act id (.advance answer) =>
    match pool.threads[id]? with
    | some .nextNonce => ∀ current, (pool.shared.nonce = some current ∨
        pool.shared.nonce = none ∧ answer = .ok current) → current < 2 ^ 64 - 1
    | some (.write chainNonce since) => ∀ nonce ≥ chainNonce, Licensed (pool.shared.log.drop since) nonce
    | _ => True

/-- All that is known of the tracker and its calls along an admitted run. -/
structure Known (pool : Pool NonceTracker Call) : Prop where
  ready : Ready pool.shared
  read : ∀ call ∈ pool.threads, HasRead pool.shared.log call

/-- One move of a call, which only adds to the history. -/
theorem known_advance {pool : Pool NonceTracker Call} (known : Known pool) {id : Nat} {call : Call}
    (found : pool.threads[id]? = some call) (answer : Except String Nat)
    (admitted : Admits pool (.act id (.advance answer))) :
    Ready (call.advance pool.shared answer).2 ∧
      HasRead (call.advance pool.shared answer).2.log (call.advance pool.shared answer).1 ∧
      ∃ more, (call.advance pool.shared answer).2.log = pool.shared.log ++ more := by
  have hasRead := known.read call (List.mem_of_getElem? found)
  cases call with
  | nextNonce =>
    simp only [Admits, found] at admitted
    cases cached : pool.shared.nonce with
    | some current =>
      simp only [Call.advance, Call.takeNonce, cached]
      exact ⟨ready_take known.ready (admitted current (.inl cached)) (.inl cached),
        (fun _ _ isWrite => by cases isWrite), _, rfl⟩
    | none =>
      cases answer with
      | error e =>
        simp only [Call.advance, Call.takeNonce, cached]
        exact ⟨known.ready, (fun _ _ isWrite => by cases isWrite), [], (List.append_nil _).symm⟩
      | ok chainNonce =>
        simp only [Call.advance, Call.takeNonce, cached]
        exact ⟨ready_take known.ready (admitted chainNonce (.inr ⟨cached, rfl⟩)) (.inr cached),
          (fun _ _ isWrite => by cases isWrite), _, rfl⟩
  | reset =>
    cases answer with
    | error e => exact ⟨known.ready, (fun _ _ isWrite => by cases isWrite), [], (List.append_nil _).symm⟩
    | ok chainNonce =>
      refine ⟨ready_read known.ready chainNonce, ?_, _, rfl⟩
      intro other since isWrite
      cases isWrite
      exact ⟨pool.shared.log, [], rfl, rfl⟩
  | write chainNonce since =>
    obtain ⟨earlier, later, reading, position⟩ := hasRead chainNonce since rfl
    have dropped : pool.shared.log.drop since = later := by
      rw [reading, position]
      simp
    simp only [Admits, found, dropped] at admitted
    exact ⟨ready_write known.ready reading admitted, (fun _ _ isWrite => by cases isWrite), _, rfl⟩
  | returned _ | resetDone | failed _ | cancelled =>
    exact ⟨known.ready, (fun _ _ isWrite => by cases isWrite), [], (List.append_nil _).symm⟩

private theorem known_step {pool : Pool NonceTracker Call} (known : Known pool)
    (turn : Threads.Turn Request Move)
    (admitted : Admits pool turn) : Known (Threads.step calls pool turn) := by
  cases turn with
  | start request =>
    refine ⟨known.ready, ?_⟩
    intro call member
    rcases List.mem_append.mp member with old | new
    · exact known.read call old
    · rw [List.mem_singleton.mp new]
      cases request
      · exact fun _ _ isWrite => by cases isWrite
      · exact fun _ _ isWrite => by cases isWrite
  | act id move =>
    rw [Threads.step]
    split
    · exact known
    · rename_i call found
      cases move with
      | cancel =>
        refine ⟨known.ready, ?_⟩
        intro other member
        rcases List.mem_or_eq_of_mem_set member with old | rfl
        · exact known.read other old
        · intro chainNonce since isWrite
          cases call <;> cases isWrite
      | advance answer =>
        obtain ⟨ready, hasRead, more, grown⟩ := known_advance known found answer admitted
        refine ⟨ready, ?_⟩
        intro other member
        rcases List.mem_or_eq_of_mem_set member with old | rfl
        · change HasRead (call.advance pool.shared answer).2.log other
          rw [grown]
          exact (known.read other old).grow more
        · exact hasRead

private theorem log_takes (nonces : List Nat) (self : NonceTracker) :
    (nonces.foldl NonceTracker.take self).log = self.log ++ nonces.map .returned := by
  induction nonces generalizing self with
  | nil => simp
  | cons nonce rest ih => simp [ih, NonceTracker.take]

/-- The condition is needed: after the write of an answer that was overtaken, the calls that follow
come to a nonce which nobody has licensed. -/
theorem not_freshlyRead_of_unlicensed {log : List Entry} {chainNonce nonce : Nat} (above : chainNonce ≤ nonce)
    (unlicensed : ¬ Licensed log nonce) :
    ¬ FreshlyRead ((List.range' chainNonce (nonce - chainNonce + 1)).foldl NonceTracker.take
      ⟨some chainNonce, log ++ [.wrote chainNonce]⟩).log := by
  intro fresh
  apply unlicensed
  intro before after split
  have last : List.range' chainNonce (nonce - chainNonce + 1) =
      List.range' chainNonce (nonce - chainNonce) ++ [nonce] := by
    rw [List.range'_concat]
    congr 2
    omega
  obtain ⟨answer, atMost, member⟩ := fresh.repeated before
    (after ++ .wrote chainNonce :: (List.range' chainNonce (nonce - chainNonce)).map .returned) [] nonce
    (by rw [log_takes, last]; simp [split])
  refine ⟨answer, atMost, ?_⟩
  simpa using member

/-- In every run whose turns meet the condition, and after each of them, a nonce that is handed
out again has been licensed by a reset's reading in between, and nonces are consecutive
between the writes of resets. -/
theorem freshlyRead_of_admitted (turns : List (Threads.Turn Request Move))
    (admitted : Runs.Guarded (Threads.step calls) Admits ⟨NonceTracker.new, []⟩ turns) :
    FreshlyRead (run calls ⟨NonceTracker.new, []⟩ turns).shared.log := by
  have known : Known (run calls ⟨NonceTracker.new, []⟩ turns) :=
    Runs.invariant_guarded Known (fun pool turn admits known => known_step known turn admits) admitted
      ⟨ready_new, fun call member => by cases member⟩
  exact known.ready.fresh

section Examples

/-- A nonce is taken, the chain is read and installed, and the nonce is handed out again. -/
def resetBetween : List (Threads.Turn Request Move) :=
  [.start .nextNonce, .act 0 (.advance (.ok 5)), .start .reset, .act 1 (.advance (.ok 5)),
   .act 1 (.advance (.ok 0)), .start .nextNonce, .act 2 (.advance (.ok 0))]

theorem freshlyRead_of_admitted_reset :
    FreshlyRead [.returned 5, .read 5, .wrote 5, .returned 5] := by
  apply freshlyRead_of_admitted resetBetween
  refine ⟨trivial, ?_, trivial, trivial, ?_, trivial, ?_, trivial⟩
  · rintro current (cached | ⟨-, answered⟩)
    · cases cached
    · cases answered
      decide
  · intro nonce above before after split
    cases before <;> cases split
  · rintro current (cached | ⟨none, -⟩)
    · cases cached
      decide
    · cases none

/-- The nonce 6 is handed out while the answer of a reset is on its way to the cache. -/
def overtaken : List (Threads.Turn Request Move) :=
  [.start .nextNonce, .act 0 (.advance (.ok 5)), .start .reset, .act 1 (.advance (.ok 6)),
   .start .nextNonce, .act 2 (.advance (.ok 0)), .act 1 (.advance (.ok 0)),
   .start .nextNonce, .act 3 (.advance (.ok 0))]

theorem not_freshlyRead_overtaken :
    ¬ FreshlyRead (run calls ⟨NonceTracker.new, []⟩ overtaken).shared.log := by
  intro fresh
  obtain ⟨answer, -, member⟩ := fresh.repeated [.returned 5, .read 6] [.wrote 6] [] 6 rfl
  simp at member

end Examples

end Montana.TxMgr
