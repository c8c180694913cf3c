/-! Logs of attempts: each is made under a key, may act, and may come to its end. -/

universe u v

namespace Attempts

variable {Key : Type u} {Entry : Type v} [DecidableEq Key]
variable (key : Entry → Key) (acts finishes : Entry → Bool)

omit [DecidableEq Key] in
/-- An attempt under this key came to its end. -/
def Finished (log : List Entry) (name : Key) : Prop :=
  ∃ entry ∈ log, key entry = name ∧ finishes entry = true

/-- How many attempts under this key acted. -/
def times (log : List Entry) (name : Key) : Nat :=
  log.countP fun entry => key entry = name && acts entry

/-- What came to its end under a key was acted on once, counting all attempts. -/
def AtMostOnce (log : List Entry) : Prop :=
  ∀ name, Finished key finishes log name → times key acts log name ≤ 1

theorem times_pos_iff (log : List Entry) (name : Key) :
    0 < times key acts log name ↔ ∃ entry ∈ log, key entry = name ∧ acts entry = true := by
  simp [times, List.countP_pos_iff]

omit [DecidableEq Key] in
theorem finished_concat (log : List Entry) (entry : Entry) (name : Key) :
    Finished key finishes (log ++ [entry]) name ↔
      Finished key finishes log name ∨ key entry = name ∧ finishes entry = true := by
  simp only [Finished, List.mem_append, List.mem_singleton]
  constructor
  · rintro ⟨found, member | rfl, named, finished⟩
    · exact .inl ⟨found, member, named, finished⟩
    · exact .inr ⟨named, finished⟩
  · rintro (⟨found, member, named, finished⟩ | ⟨named, finished⟩)
    · exact ⟨found, .inl member, named, finished⟩
    · exact ⟨entry, .inr rfl, named, finished⟩

theorem times_concat (log : List Entry) (entry : Entry) (name : Key) :
    times key acts (log ++ [entry]) name =
      times key acts log name + if key entry = name ∧ acts entry = true then 1 else 0 := by
  simp [times, List.countP_append, List.countP_singleton]

/-- Another attempt matters for its own key only. -/
theorem atMostOnce_concat_iff {log : List Entry} (once : AtMostOnce key acts finishes log)
    (entry : Entry) : AtMostOnce key acts finishes (log ++ [entry]) ↔
      (Finished key finishes log (key entry) ∨ finishes entry = true →
        times key acts log (key entry) + (if acts entry = true then 1 else 0) ≤ 1) := by
  constructor
  · intro still done
    have bound := still (key entry) ((finished_concat key finishes log entry _).mpr
      (done.imp id fun finished => ⟨rfl, finished⟩))
    simpa [times_concat] using bound
  · intro bound name done
    rw [times_concat]
    by_cases same : key entry = name
    · subst same
      have done := (finished_concat key finishes log entry _).mp done
      simpa using bound (done.imp id (·.2))
    · have before : Finished key finishes log name := by
        rcases (finished_concat key finishes log entry _).mp done with earlier | ⟨named, _⟩
        · exact earlier
        · exact absurd named same
      simpa [same] using once name before

end Attempts
