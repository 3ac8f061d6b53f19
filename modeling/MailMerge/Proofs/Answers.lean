import Mathlib.Data.List.Nodup

/-!
# Questions and their answers

Questions are put one after the other, and each of them is answered or fails. A log
lists them with what came of them. What counts for a question is its first answer; a
question that has failed may be put again. A log is *settled* when no question was put
again after it had been answered.

Main facts:

* `first?_append`: the first answer in a log that goes on;
* `Settled.concat`: a question without an answer so far may be put;
* `mem_answered_iff`, `Settled.nodup_answered`: the questions that were answered, each of
  them once.
-/

namespace MailMerge

/-- Questions with their answers or failures, in the order in which they were put. -/
abbrev Answers (κ ε α : Type) := List (κ × Except ε α)

namespace Answers

variable {κ ε α : Type}

/-- The questions that were answered, in order. -/
def answered (log : Answers κ ε α) : List κ :=
  (log.filter fun entry => entry.2.toOption.isSome).map Prod.fst

/-- No question was put again after it had been answered. -/
def Settled (log : Answers κ ε α) : Prop :=
  log.Pairwise fun earlier later => earlier.1 = later.1 → earlier.2.toOption = none

theorem settled_nil :
    Settled ([] : Answers κ ε α) :=
  .nil

theorem answered_concat_error
    (log : Answers κ ε α)
    (k : κ) (e : ε) :
    answered (log ++ [(k, .error e)]) = answered log := by
  simp [answered, Except.toOption]

theorem answered_concat_ok
    (log : Answers κ ε α)
    (k : κ) (a : α) :
    answered (log ++ [(k, .ok a)]) = answered log ++ [k] := by
  simp [answered, Except.toOption]

theorem Settled.nodup_answered
    {log : Answers κ ε α}
    (h : log.Settled) :
    log.answered.Nodup := by
  have hanswers := h.filter fun entry => entry.2.toOption.isSome
  refine List.pairwise_map.2 ?_
  refine hanswers.imp_of_mem ?_
  intro earlier later hearlier _ hpair hk
  have hsome := (List.mem_filter.1 hearlier).2
  rw [hpair hk] at hsome
  cases hsome

variable [DecidableEq κ]

instance [DecidableEq α] (log : Answers κ ε α) : Decidable log.Settled :=
  inferInstanceAs (Decidable (List.Pairwise _ log))

/-- The first answer to a question. -/
def first? (log : Answers κ ε α) (k : κ) : Option α :=
  log.findSome? fun entry => if entry.1 = k then entry.2.toOption else none

theorem first?_append
    (log log' : Answers κ ε α)
    (k : κ) :
    first? (log ++ log') k = (log.first? k).or (log'.first? k) := by
  unfold first?
  rw [List.findSome?_append]

theorem first?_singleton
    (k k' : κ)
    (answer : Except ε α) :
    first? [(k, answer)] k' = if k = k' then answer.toOption else none := by
  unfold first?
  simp

/-- A failure is no answer. -/
theorem first?_concat_error
    (log : Answers κ ε α)
    (k k' : κ) (e : ε) :
    first? (log ++ [(k, .error e)]) k' = log.first? k' := by
  rw [first?_append, first?_singleton]
  simp [Except.toOption]

/-- An answer to a question without one is its first. -/
theorem first?_concat_ok
    {log : Answers κ ε α}
    {k : κ}
    (h : log.first? k = none)
    (k' : κ) (a : α) :
    first? (log ++ [(k, .ok a)]) k' = if k = k' then some a else log.first? k' := by
  rw [first?_append, first?_singleton]
  by_cases hk : k = k'
  · subst hk
    simp [h, Except.toOption]
  · simp [hk]

theorem first?_eq_none_iff
    {log : Answers κ ε α} {k : κ} :
    log.first? k = none ↔ ∀ entry ∈ log, entry.1 = k → entry.2.toOption = none := by
  unfold first?
  rw [List.findSome?_eq_none_iff]
  refine forall₂_congr fun entry _ => ?_
  by_cases hk : entry.1 = k <;> simp [hk]

theorem mem_answered_iff
    {log : Answers κ ε α} {k : κ} :
    k ∈ log.answered ↔ log.first? k ≠ none := by
  rw [Ne, first?_eq_none_iff]
  unfold answered
  simp [Option.isSome_iff_ne_none]

/-- A question without an answer so far may be put. -/
theorem Settled.concat
    {log : Answers κ ε α}
    (h : log.Settled)
    {k : κ}
    (hk : log.first? k = none)
    (answer : Except ε α) :
    Settled (log ++ [(k, answer)]) := by
  refine List.pairwise_append.2 ⟨h, List.pairwise_singleton _ _, ?_⟩
  intro earlier hearlier later hlater hkey
  obtain rfl := List.mem_singleton.1 hlater
  exact first?_eq_none_iff.1 hk earlier hearlier hkey

end Answers

end MailMerge
