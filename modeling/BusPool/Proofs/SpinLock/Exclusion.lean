import BusPool.Proofs.Attempt
import BusPool.SpinLock.Threads
import Mathlib.Data.List.Induction
import Mathlib.Data.List.Perm.Basic

/-!
# One holder at a time

What holds of a lock and its threads after any schedule (**`System.guarded_run`**). At most one
thread holds the lock, and the flag is set exactly while one does. The value is that of the critical
sections carried out one at a time, in the order in which the flag was set for them; the one section
that may be missing in it is that of a holder that has not come to write. Stopping at a fault makes
no difference: the holder lets go of the lock all the same, and what its section left is kept.

All of this is one invariant with two cases (**`System.Owned`**). Either nobody holds the lock, and
then the value is that of all sections; or one thread does, and then its phase tells how far its
section has come (**`System.Stands`**). What a step can do is said once (**`System.step_moves`**).
-/

namespace BusPool.SpinLock

variable {α β : Type}

namespace System

variable {s s' : System α β} {i j : Nat} {t t' u : Thread α β}

/-! ### Steps -/

/-- The threads after one of them has changed. -/
theorem getElem?_setThread (h : s.threads[i]? = some t) :
    (s.setThread i t').threads[j]? = if j = i then some t' else s.threads[j]? := by
  obtain ⟨hlt, -⟩ := List.getElem?_eq_some_iff.1 h
  rw [setThread, List.getElem?_set]
  by_cases hj : j = i
  · simp [hj, hlt]
  · simp [hj, Ne.symm hj]

/-- What one step of thread `i` can do. -/
inductive Moves (s : System α β) (i : Nat) : System α β → Prop
  /-- There is nothing to do, or the flag that is watched is still set. -/
  | stays (idle : ∀ t, s.threads[i]? = some t → t.phase.holds = false ∧
      (s.locked = false → t.phase = .outside ∧ t.program = [])) : Moves s i s
  /-- The thread found the flag set, or saw it clear. -/
  | waits {t : Thread α β} {phase : Phase α β} (thread : s.threads[i]? = some t)
    (outside : t.phase.holds = false) (still : phase.holds = false)
    (clear : s.locked = false → t.phase = .watching ∧ phase = .outside) :
    Moves s i (s.setThread i { t with phase })
  /-- The thread sets the flag. -/
  | acquires {t : Thread α β} {body : Attempt α β} {rest : List (Attempt α β)}
    (thread : s.threads[i]? = some t) (phase : t.phase = .outside)
    (program : t.program = body :: rest) (unlocked : s.locked = false) :
    Moves s i { s.setThread i { t with phase := .entered body, program := rest } with
      locked := true
      acquired := body :: s.acquired }
  /-- The holder reads the value and computes. -/
  | computes {t : Thread α β} {body : Attempt α β} (thread : s.threads[i]? = some t)
    (phase : t.phase = .entered body) :
    Moves s i (s.setThread i { t with
      phase := .computed (body.outcome s.value).1 (body.outcome s.value).2 })
  /-- The holder writes the value. -/
  | writes {t : Thread α β} {outcome : Except Fault β} {value : α} (thread : s.threads[i]? = some t)
    (phase : t.phase = .computed outcome value) :
    Moves s i { s.setThread i { t with phase := .leaving outcome } with value }
  /-- The holder clears the flag. -/
  | releases {t : Thread α β} {outcome : Except Fault β} (thread : s.threads[i]? = some t)
    (phase : t.phase = .leaving outcome) :
    Moves s i { s.setThread i { t with phase := .outside, outcomes := outcome :: t.outcomes } with
      locked := false }

/-- **Every step is one of these.** -/
theorem step_moves (s : System α β) (i : Nat) : s.Moves i (s.step i) := by
  unfold step
  cases hthread : s.threads[i]? with
  | none => exact .stays (by simp [hthread])
  | some t =>
    obtain ⟨program, phase, outcomes⟩ := t
    cases phase with
    | outside =>
      cases program with
      | nil => exact .stays (by simp [hthread, Phase.holds])
      | cons body rest =>
        cases hlocked : s.locked with
        | false => simpa [hlocked] using Moves.acquires hthread rfl rfl hlocked
        | true =>
          have hstill : (Phase.watching : Phase α β).holds = false := rfl
          simpa [hlocked] using Moves.waits hthread rfl hstill (by simp [hlocked])
    | watching =>
      cases hlocked : s.locked with
      | false =>
        have hstill : (Phase.outside : Phase α β).holds = false := rfl
        simpa [hlocked] using Moves.waits hthread rfl hstill (by simp)
      | true => simpa [hlocked] using Moves.stays (by simp [hthread, hlocked, Phase.holds])
    | entered body => exact .computes hthread rfl
    | computed outcome value => exact .writes hthread rfl
    | leaving outcome => exact .releases hthread rfl

/-- A step changes one thread at most. -/
theorem step_threads (s : System α β) (i : Nat) : (s.step i).threads = s.threads ∨
    ∃ t t', s.threads[i]? = some t ∧ (s.step i).threads = (s.setThread i t').threads := by
  have hmove := s.step_moves i
  generalize s.step i = s' at hmove ⊢
  cases hmove with
  | stays idle => exact .inl rfl
  | waits thread outside still clear => exact .inr ⟨_, _, thread, rfl⟩
  | acquires thread phase program unlocked => exact .inr ⟨_, _, thread, rfl⟩
  | computes thread phase => exact .inr ⟨_, _, thread, rfl⟩
  | writes thread phase => exact .inr ⟨_, _, thread, rfl⟩
  | releases thread phase => exact .inr ⟨_, _, thread, rfl⟩

/-- It leaves the others as they are. -/
theorem getElem?_step_of_ne (hne : j ≠ i) : (s.step i).threads[j]? = s.threads[j]? := by
  rcases step_threads s i with hsame | ⟨t, t', hthread, hset⟩
  · rw [hsame]
  · rw [hset, getElem?_setThread hthread, if_neg hne]

/-- It does not start one. -/
theorem length_threads_step (s : System α β) (i : Nat) :
    (s.step i).threads.length = s.threads.length := by
  rcases step_threads s i with hsame | ⟨t, t', hthread, hset⟩
  · rw [hsame]
  · rw [hset, setThread, List.length_set]

/-- A schedule with one more step. -/
theorem run_concat (s : System α β) (schedule : List Nat) (i : Nat) :
    s.run (schedule ++ [i]) = (s.run schedule).step i := by
  rw [run, List.foldl_append]
  rfl

/-! ### The holder -/

/-- How far a holder in this phase has come with its critical section, the last one for which the
flag was set. -/
inductive Stands (initial : α) (s : System α β) : Phase α β → Prop
  /-- It has not read the value, which is that of all earlier sections. -/
  | entered {body : Attempt α β} {earlier : List (Attempt α β)}
    (last : s.acquired = body :: earlier) (value_eq : s.value = serial initial earlier) :
    Stands initial s (.entered body)
  /-- It has computed from that value, which is there still. -/
  | computed {body : Attempt α β} {earlier : List (Attempt α β)} {outcome : Except Fault β}
    {value : α} (last : s.acquired = body :: earlier) (value_eq : s.value = serial initial earlier)
    (computed_eq : body.outcome s.value = (outcome, value)) :
    Stands initial s (.computed outcome value)
  /-- It has written, so that the value is what the section left, also if it stopped. -/
  | leaving {body : Attempt α β} {earlier : List (Attempt α β)} {outcome : Except Fault β}
    (last : s.acquired = body :: earlier)
    (computed_eq : body.outcome (serial initial earlier) = (outcome, s.value)) :
    Stands initial s (.leaving outcome)

/-- The state of a thread does not matter to how far the section has come. -/
private theorem Stands.setThread {initial : α} {phase : Phase α β} (h : Stands initial s phase) :
    Stands initial (s.setThread i t') phase := by
  cases h with
  | entered last value_eq => exact .entered last value_eq
  | computed last value_eq computed_eq => exact .computed last value_eq computed_eq
  | leaving last computed_eq => exact .leaving last computed_eq

/-- No thread is in a phase of the holder. -/
def HeldByNone (s : System α β) : Prop :=
  ∀ (j : Nat) (u : Thread α β), s.threads[j]? = some u → u.phase.holds = false

/-- No thread but one is in a phase of the holder. -/
def HeldOnlyBy (s : System α β) (i : Nat) : Prop :=
  ∀ (j : Nat) (u : Thread α β), s.threads[j]? = some u → u.phase.holds = true → j = i

/-- Who holds the lock, and what that says about the value. -/
inductive Owned (initial : α) (s : System α β) : Prop
  /-- Nobody does. All sections are over. -/
  | free (unlocked : s.locked = false) (nobody : s.HeldByNone)
    (value_eq : s.value = serial initial s.acquired)
  /-- One thread does, and no other. -/
  | held {i : Nat} {t : Thread α β} (locked : s.locked = true) (thread : s.threads[i]? = some t)
    (holds : t.phase.holds = true) (only : s.HeldOnlyBy i) (stands : Stands initial s t.phase)

namespace Owned

variable {initial : α}

/-- Before the first step nobody holds the lock. -/
theorem start (initial : α) (programs : List (List (Attempt α β))) :
    Owned initial (System.start initial programs) := by
  refine .free rfl (fun j u hu => ?_) rfl
  obtain ⟨program, -, rfl⟩ := List.mem_map.1 (List.mem_of_getElem? hu)
  rfl

/-- A thread in a phase of the holder is the one that holds the lock. -/
theorem of_holds (h : Owned initial s) (hthread : s.threads[i]? = some t)
    (hholds : t.phase.holds = true) :
    s.locked = true ∧ s.HeldOnlyBy i ∧ Stands initial s t.phase := by
  cases h with
  | free unlocked nobody value_eq =>
    rw [nobody i t hthread] at hholds
    cases hholds
  | held locked thread holds only stands =>
    cases only i t hthread hholds
    cases thread.symm.trans hthread
    exact ⟨locked, only, stands⟩

/-- While the flag is clear nobody holds the lock. -/
theorem of_unlocked (h : Owned initial s) (hunlocked : s.locked = false) :
    s.HeldByNone ∧ s.value = serial initial s.acquired := by
  cases h with
  | free unlocked nobody value_eq => exact ⟨nobody, value_eq⟩
  | held locked =>
    rw [locked] at hunlocked
    cases hunlocked

/-- While the flag is set somebody does. -/
theorem exists_holder (h : Owned initial s) (hlocked : s.locked = true) :
    ∃ (i : Nat) (t : Thread α β), s.threads[i]? = some t ∧ t.phase.holds = true := by
  cases h with
  | free unlocked =>
    rw [unlocked] at hlocked
    cases hlocked
  | held locked thread holds => exact ⟨_, _, thread, holds⟩

/-- Where one thread changes and no other holds the lock, no other does afterwards. -/
private theorem heldOnlyBy_setThread (hthread : s.threads[i]? = some t) (honly : s.HeldOnlyBy i)
    (t' : Thread α β) : (s.setThread i t').HeldOnlyBy i := by
  intro j u hu hholds
  rw [getElem?_setThread hthread] at hu
  by_cases hj : j = i
  · exact hj
  · rw [if_neg hj] at hu
    exact honly j u hu hholds

/-- If nobody holds the lock, nobody but one thread does. -/
private theorem heldOnlyBy_of_none (hnobody : s.HeldByNone) (i : Nat) : s.HeldOnlyBy i := by
  intro j u hu hholds
  rw [hnobody j u hu] at hholds
  cases hholds

/-- If nobody but one thread may hold the lock and that one does not, nobody does. -/
private theorem heldByNone_of_only (honly : s.HeldOnlyBy i) (hthread : s.threads[i]? = some t)
    (hstill : t.phase.holds = false) : s.HeldByNone := by
  intro j u hu
  cases hholds : u.phase.holds with
  | false => rfl
  | true =>
    cases honly j u hu hholds
    cases hthread.symm.trans hu
    rw [hstill] at hholds
    cases hholds

/-- A changed thread is looked up as it is now. -/
private theorem self_setThread (hthread : s.threads[i]? = some t) (t' : Thread α β) :
    (s.setThread i t').threads[i]? = some t' :=
  (getElem?_setThread hthread).trans (if_pos rfl)

/-- A thread that only waits does not matter to who holds the lock. -/
private theorem waits (h : Owned initial s) (hthread : s.threads[i]? = some t)
    (houtside : t.phase.holds = false) {phase : Phase α β} (hstill : phase.holds = false) :
    Owned initial (s.setThread i { t with phase }) := by
  cases h with
  | free unlocked nobody value_eq =>
    have honly := heldOnlyBy_setThread hthread (heldOnlyBy_of_none nobody i) { t with phase }
    exact .free unlocked (heldByNone_of_only honly (self_setThread hthread _) hstill) value_eq
  | @held k v locked thread holds only stands =>
    have hne : k ≠ i := by
      rintro rfl
      cases thread.symm.trans hthread
      rw [houtside] at holds
      cases holds
    refine .held locked ((getElem?_setThread hthread).trans ((if_neg hne).trans thread)) holds ?_ ?_
    · intro j u hu hholds
      rw [getElem?_setThread hthread] at hu
      by_cases hj : j = i
      · rw [if_pos hj] at hu
        cases hu
        rw [hstill] at hholds
        cases hholds
      · rw [if_neg hj] at hu
        exact only j u hu hholds
    · exact stands.setThread

/-- **A step leaves one holder at most**, and the value that of the sections. -/
theorem step (h : Owned initial s) (i : Nat) : Owned initial (s.step i) := by
  have hmove := s.step_moves i
  generalize s.step i = s' at hmove ⊢
  cases hmove with
  | stays idle => exact h
  | waits thread outside still clear => exact h.waits thread outside still
  | acquires thread phase program unlocked =>
    obtain ⟨hnobody, hvalue⟩ := h.of_unlocked unlocked
    exact .held rfl (self_setThread thread _) rfl
      (heldOnlyBy_setThread thread (heldOnlyBy_of_none hnobody i) _) (.entered rfl hvalue)
  | computes thread phase =>
    obtain ⟨hlocked, honly, hstands⟩ := h.of_holds thread (by rw [phase]; rfl)
    refine .held hlocked (self_setThread thread _) rfl (heldOnlyBy_setThread thread honly _) ?_
    rw [phase] at hstands
    cases hstands with
    | entered last value_eq => exact .computed last value_eq rfl
  | writes thread phase =>
    obtain ⟨hlocked, honly, hstands⟩ := h.of_holds thread (by rw [phase]; rfl)
    refine .held hlocked (self_setThread thread _) rfl (heldOnlyBy_setThread thread honly _) ?_
    rw [phase] at hstands
    cases hstands with
    | computed last value_eq computed_eq => exact .leaving last (value_eq ▸ computed_eq)
  | releases thread phase =>
    obtain ⟨-, honly, hstands⟩ := h.of_holds thread (by rw [phase]; rfl)
    refine .free rfl ?_ ?_
    · exact heldByNone_of_only (heldOnlyBy_setThread thread honly _) (self_setThread thread _) rfl
    · rw [phase] at hstands
      cases hstands with
      | leaving last computed_eq =>
        show s.value = serial initial s.acquired
        rw [last, serial, computed_eq]

/-- **After any schedule there is one holder at most.** -/
theorem run (h : Owned initial s) (schedule : List Nat) : Owned initial (s.run schedule) := by
  induction schedule using List.reverseRecOn with
  | nil => exact h
  | append_singleton schedule i ih =>
    rw [run_concat]
    exact ih.step i

end Owned

/-! ### The sections -/

/-- All critical sections: those for which the flag was set and those that have not been entered. -/
def sections (s : System α β) : List (Attempt α β) :=
  s.acquired ++ s.threads.flatMap Thread.program

/-- The threads around one of them. -/
theorem exists_split (h : s.threads[i]? = some t) : ∃ front back, s.threads = front ++ t :: back ∧
    ∀ t', (s.setThread i t').threads = front ++ t' :: back := by
  obtain ⟨hlt, rfl⟩ := List.getElem?_eq_some_iff.1 h
  refine ⟨s.threads.take i, s.threads.drop (i + 1), ?_, fun t' => ?_⟩
  · rw [← List.drop_eq_getElem_cons hlt, List.take_append_drop]
  · rw [setThread, List.set_eq_take_append_cons_drop, if_pos hlt]

/-- A thread that changes without entering a section leaves the sections as they are. -/
private theorem sections_setThread (hthread : s.threads[i]? = some t)
    (hprogram : t'.program = t.program) : (s.setThread i t').sections = s.sections := by
  obtain ⟨front, back, hsplit, hset⟩ := exists_split hthread
  rw [sections, sections, hset, hsplit, List.flatMap_append, List.flatMap_append,
    List.flatMap_cons, List.flatMap_cons, hprogram]
  rfl

/-- No step adds a section or loses one. -/
theorem perm_sections_step (s : System α β) (i : Nat) : (s.step i).sections.Perm s.sections := by
  have hmove := s.step_moves i
  generalize s.step i = s' at hmove ⊢
  cases hmove with
  | stays idle => exact .rfl
  | waits thread outside still clear => exact .of_eq (sections_setThread thread rfl)
  | @acquires t body rest thread phase program unlocked =>
    obtain ⟨front, back, hsplit, hset⟩ := exists_split thread
    show (body :: (s.acquired ++ (s.setThread i _).threads.flatMap Thread.program)).Perm _
    rw [sections, hset, hsplit, List.flatMap_append, List.flatMap_append, List.flatMap_cons,
      List.flatMap_cons, program]
    -- The section moves from the front of its program to the front of those acquired.
    have hmiddle : ∀ done behind ahead : List (Attempt α β),
        (body :: (done ++ (behind ++ ahead))).Perm (done ++ (behind ++ body :: ahead)) := by
      intro done behind ahead
      rw [← List.append_assoc, ← List.append_assoc]
      exact List.perm_middle.symm
    exact hmiddle _ _ _
  | computes thread phase => exact .of_eq (sections_setThread thread rfl)
  | writes thread phase => exact .of_eq (sections_setThread thread rfl)
  | releases thread phase => exact .of_eq (sections_setThread thread rfl)

/-- **The sections of a run are those of the programs.** -/
theorem perm_sections_run (initial : α) (programs : List (List (Attempt α β)))
    (schedule : List Nat) :
    ((System.start initial programs).run schedule).sections.Perm programs.flatten := by
  induction schedule using List.reverseRecOn with
  | nil =>
    refine .of_eq ?_
    show [] ++ (programs.map Thread.start).flatMap Thread.program = programs.flatten
    rw [List.nil_append, List.flatMap_map]
    exact List.flatMap_id
  | append_singleton schedule i ih =>
    rw [run_concat]
    exact (perm_sections_step _ i).trans ih

end System

/-- Whether the section of a holder in this phase has not been written. -/
def Phase.pending : Phase α β → Bool
  | .entered _ | .computed _ _ => true
  | .outside | .watching | .leaving _ => false

namespace System

variable {s : System α β} {initial : α} {programs : List (List (Attempt α β))}

/-- The critical sections that have been written, the latest first: those for which the flag was
set, without that of a holder that has not come to write. -/
def written (s : System α β) : List (Attempt α β) :=
  if s.threads.any fun t => t.phase.pending then s.acquired.tail else s.acquired

/-- Where nobody holds the lock, all sections have been written. -/
theorem written_of_none (hnobody : s.HeldByNone) : s.written = s.acquired := by
  refine if_neg fun hany => ?_
  obtain ⟨t, hmem, hpending⟩ := List.any_eq_true.1 hany
  obtain ⟨j, hj⟩ := List.mem_iff_getElem?.1 hmem
  have hholds := hnobody j t hj
  cases hphase : t.phase <;> rw [hphase] at hholds hpending <;> contradiction

/-- Where one thread holds it, the phase of that one decides. -/
theorem written_of_only {i : Nat} {t : Thread α β} (hthread : s.threads[i]? = some t)
    (honly : s.HeldOnlyBy i) :
    s.written = if t.phase.pending then s.acquired.tail else s.acquired := by
  have hany : (s.threads.any fun u => u.phase.pending) = t.phase.pending := by
    rw [Bool.eq_iff_iff, List.any_eq_true]
    constructor
    · rintro ⟨u, hmem, hpending⟩
      obtain ⟨j, hj⟩ := List.mem_iff_getElem?.1 hmem
      have hholds : u.phase.holds = true := by
        cases hphase : u.phase <;> rw [hphase] at hpending <;> first | rfl | contradiction
      cases honly j u hj hholds
      cases hthread.symm.trans hj
      exact hpending
    · exact fun hpending => ⟨t, List.mem_of_getElem? hthread, hpending⟩
  rw [written, hany]

/-- **The value is that of the sections that have been written**, carried out one at a time. -/
theorem Owned.value_eq_serial (h : Owned initial s) : s.value = serial initial s.written := by
  cases h with
  | free unlocked nobody value_eq => rw [written_of_none nobody, value_eq]
  | @held i t locked thread holds only stands =>
    rw [written_of_only thread only]
    generalize t.phase = phase at stands
    cases stands with
    | entered last value_eq =>
      rw [last, value_eq]
      rfl
    | computed last value_eq computed_eq =>
      rw [last, value_eq]
      rfl
    | leaving last computed_eq =>
      rw [last]
      exact (congrArg Prod.snd computed_eq).symm

/-- What threads with these programs can count on, in a state that they reach. -/
structure Guarded (initial : α) (programs : List (List (Attempt α β))) (s : System α β) :
    Prop where
  /-- No two threads hold the lock. -/
  exclusive : ∀ (i j : Nat) (t u : Thread α β), s.threads[i]? = some t → s.threads[j]? = some u →
    t.phase.holds = true → u.phase.holds = true → i = j
  /-- The flag is set exactly while a thread holds the lock. -/
  locked_iff : s.locked = true ↔ ∃ t ∈ s.threads, t.phase.holds = true
  /-- The value is that of the sections written so far, carried out one at a time in the order in
  which the flag was set for them. -/
  value_eq : s.value = serial initial s.written
  /-- A holder that was stopped by a fault has left the value as its section left it, and its next
  step clears the flag and keeps the value. -/
  stopped : ∀ (i : Nat) (t : Thread α β) (f : Fault), s.threads[i]? = some t →
    t.phase = .leaving (.error f) → (∃ body earlier, s.acquired = body :: earlier ∧
      body.outcome (serial initial earlier) = (.error f, s.value)) ∧
    (s.step i).locked = false ∧ (s.step i).value = s.value
  /-- When all threads are done, the flag has been set once for each section of their programs, and
  all have been written. -/
  complete : s.finished = true → s.locked = false ∧ s.acquired.Perm programs.flatten ∧
    s.value = serial initial s.acquired

/-- A thread that is done has nothing left to do and does not hold the lock. -/
theorem finished_iff : s.finished = true ↔
    ∀ t ∈ s.threads, t.program = [] ∧ t.phase.holds = false := by
  simp [finished]

/-- Whoever holds a lock as it should be, the threads can count on it. -/
theorem Owned.guarded (h : Owned initial s) (hsections : s.sections.Perm programs.flatten) :
    s.Guarded initial programs := by
  refine ⟨?_, ?_, h.value_eq_serial, ?_, fun hfinished => ?_⟩
  · intro i j t u ht hu htholds huholds
    obtain ⟨-, honly, -⟩ := h.of_holds hu huholds
    exact honly i t ht htholds
  · constructor
    · intro hlocked
      obtain ⟨i, t, hthread, hholds⟩ := h.exists_holder hlocked
      exact ⟨t, List.mem_of_getElem? hthread, hholds⟩
    · rintro ⟨t, hmem, hholds⟩
      obtain ⟨i, hthread⟩ := List.mem_iff_getElem?.1 hmem
      exact (h.of_holds hthread hholds).1
  · intro i t f hthread hphase
    obtain ⟨-, -, hstands⟩ := h.of_holds hthread (by rw [hphase]; rfl)
    rw [hphase] at hstands
    obtain ⟨program, phase, outcomes⟩ := t
    cases hphase
    cases hstands with
    | leaving last computed_eq =>
      refine ⟨⟨_, _, last, computed_eq⟩, ?_, ?_⟩ <;> simp [System.step, hthread, setThread]
  · rw [finished_iff] at hfinished
    have hunlocked : s.locked = false := by
      rw [← Bool.not_eq_true]
      intro hlocked
      obtain ⟨i, t, hthread, hholds⟩ := h.exists_holder hlocked
      rw [(hfinished t (List.mem_of_getElem? hthread)).2] at hholds
      cases hholds
    have hnone : s.threads.flatMap Thread.program = [] :=
      List.flatMap_eq_nil_iff.2 fun t ht => (hfinished t ht).1
    rw [sections, hnone, List.append_nil] at hsections
    exact ⟨hunlocked, hsections, (h.of_unlocked hunlocked).2⟩

/-- **The lock guards the value in every state that threads reach**, however their steps are
interleaved. -/
theorem guarded_run (initial : α) (programs : List (List (Attempt α β))) (schedule : List Nat) :
    ((System.start initial programs).run schedule).Guarded initial programs :=
  ((Owned.start initial programs).run schedule).guarded
    (perm_sections_run initial programs schedule)

end System

end BusPool.SpinLock
