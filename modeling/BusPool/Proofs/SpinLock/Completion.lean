import BusPool.Proofs.SpinLock.Exclusion
import BusPool.Scenario.Lock
import Mathlib.Algebra.GroupWithZero.Nat
import Mathlib.Tactic.Push

/-!
# All sections get done

Threads behind a spin lock finish, whatever order their steps are taken in, as long as every thread
keeps getting turns (**`System.exists_finished`**). A thread may wait for ever in a schedule that
leaves out the holder, so this cannot be had without such a condition (`Fair`).

The proof counts the steps that the threads have still to take while they hold the lock. A step
makes the count smaller or it is one of waiting, which changes nothing but whether a thread watches
the flag (**`System.step_falls_or_waits`**). From then on, the count falls at the next turn of one
thread: of the holder if there is one, else of any thread that has a section to carry out.

Sections that add to a counter leave the sum of what they add, once they are done
(**`System.locked_sections_serialise`**, which puts together all that the lock is for).
-/

namespace BusPool.SpinLock

variable {α β : Type}

/-- The steps that a thread in this phase takes until it has let go of the lock. -/
def Phase.stepsLeft : Phase α β → Nat
  | .outside | .watching => 0
  | .entered _ => 3
  | .computed _ _ => 2
  | .leaving _ => 1

/-- There are none exactly for a thread that does not hold the lock. -/
theorem Phase.stepsLeft_eq_zero_iff {phase : Phase α β} :
    phase.stepsLeft = 0 ↔ phase.holds = false := by
  cases phase <;> simp [stepsLeft, holds]

/-- The steps that a thread has to take until all its sections are done, without those of
waiting. -/
def Thread.stepsLeft (t : Thread α β) : Nat := stepsAlone * t.program.length + t.phase.stepsLeft

namespace System

variable {s s' : System α β} {i j count : Nat} {t : Thread α β} {order : Nat → Nat}

/-! ### Steps that are left -/

/-- The steps that all threads have still to take, without those of waiting. -/
def stepsLeft (s : System α β) : Nat := (s.threads.map Thread.stepsLeft).sum

/-- No steps are left exactly when all threads are done. -/
theorem finished_iff_stepsLeft : s.finished = true ↔ s.stepsLeft = 0 := by
  rw [finished_iff, stepsLeft, List.sum_eq_zero_iff_forall_eq_nat, List.forall_mem_map]
  refine forall₂_congr fun t _ => ?_
  rw [Thread.stepsLeft, Nat.add_eq_zero_iff, Phase.stepsLeft_eq_zero_iff, Nat.mul_eq_zero,
    List.length_eq_zero_iff]
  simp [stepsAlone]

/-- The steps that are left after one thread has changed. -/
theorem stepsLeft_setThread (hthread : s.threads[i]? = some t) (t' : Thread α β) :
    (s.setThread i t').stepsLeft + t.stepsLeft = s.stepsLeft + t'.stepsLeft := by
  obtain ⟨front, back, hsplit, hset⟩ := exists_split hthread
  rw [stepsLeft, stepsLeft, hset, hsplit]
  simp only [List.map_append, List.map_cons, List.sum_append, List.sum_cons]
  omega

/-- They are fewer if the thread has fewer left. -/
theorem stepsLeft_setThread_lt (hthread : s.threads[i]? = some t) {t' : Thread α β}
    (hlt : t'.stepsLeft < t.stepsLeft) : (s.setThread i t').stepsLeft < s.stepsLeft := by
  have hleft := stepsLeft_setThread hthread t'
  omega

/-- A step of the thread `i` that brings no section further: the thread does not hold the lock,
and where the flag is clear, it is done or sees that. -/
structure Waits (s : System α β) (i : Nat) (s' : System α β) : Prop where
  /-- Nothing is done. -/
  stepsLeft_eq : s'.stepsLeft = s.stepsLeft
  /-- The flag stays. -/
  locked_eq : s'.locked = s.locked
  /-- The thread does not hold the lock. -/
  holds_eq : ∀ t, s.threads[i]? = some t → t.phase.holds = false
  /-- Where the flag is clear, the thread has no section to carry out or is going to try. -/
  clear : ∀ t, s.threads[i]? = some t → s.locked = false →
    t.phase = .outside ∧ t.program = [] ∨
      t.phase = .watching ∧ s'.threads[i]? = some { t with phase := .outside }

/-- **A step brings a section further or is one of waiting.** -/
theorem step_falls_or_waits (s : System α β) (i : Nat) :
    (s.step i).stepsLeft < s.stepsLeft ∨ s.Waits i (s.step i) := by
  have hmove := s.step_moves i
  generalize s.step i = s' at hmove ⊢
  cases hmove with
  | stays idle =>
    exact .inr ⟨rfl, rfl, fun t ht => (idle t ht).1, fun t ht hclear => .inl ((idle t ht).2 hclear)⟩
  | @waits t phase thread outside still clear =>
    have hleft := stepsLeft_setThread thread { t with phase }
    simp only [Thread.stepsLeft, Phase.stepsLeft_eq_zero_iff.2 outside,
      Phase.stepsLeft_eq_zero_iff.2 still] at hleft
    refine .inr ⟨by omega, rfl, fun u hu => ?_, fun u hu hclear => .inr ?_⟩
    · cases thread.symm.trans hu
      exact outside
    · cases thread.symm.trans hu
      obtain ⟨hwatching, rfl⟩ := clear hclear
      exact ⟨hwatching, (getElem?_setThread thread).trans (if_pos rfl)⟩
  | acquires thread phase program unlocked =>
    refine .inl (stepsLeft_setThread_lt thread ?_)
    simp only [Thread.stepsLeft, phase, program, Phase.stepsLeft, List.length_cons, stepsAlone]
    omega
  | computes thread phase =>
    refine .inl (stepsLeft_setThread_lt thread ?_)
    simp only [Thread.stepsLeft, phase, Phase.stepsLeft]
    omega
  | writes thread phase =>
    refine .inl (stepsLeft_setThread_lt thread ?_)
    simp only [Thread.stepsLeft, phase, Phase.stepsLeft]
    omega
  | releases thread phase =>
    refine .inl (stepsLeft_setThread_lt thread ?_)
    simp only [Thread.stepsLeft, phase, Phase.stepsLeft]
    omega

/-! ### Endless schedules -/

/-- The state after the first `n` steps of an endless schedule. -/
def after (s : System α β) (order : Nat → Nat) (n : Nat) : System α β :=
  s.run ((List.range n).map order)

/-- Every one of `count` threads keeps getting turns. -/
def Fair (count : Nat) (order : Nat → Nat) : Prop := ∀ i < count, ∀ n, ∃ m, n ≤ m ∧ order m = i

/-- One step more. -/
theorem after_succ (s : System α β) (order : Nat → Nat) (n : Nat) :
    s.after order (n + 1) = (s.after order n).step (order n) := by
  rw [after, List.range_succ, List.map_append]
  exact run_concat s _ _

/-- The threads stay the same in number. -/
theorem length_threads_after (s : System α β) (order : Nat → Nat) (n : Nat) :
    (s.after order n).threads.length = s.threads.length := by
  induction n with
  | zero => rfl
  | succ n ih => rw [after_succ, length_threads_step, ih]

/-- The steps that are left do not get more. -/
theorem stepsLeft_after_le (s : System α β) (order : Nat → Nat) {n m : Nat} (h : n ≤ m) :
    (s.after order m).stepsLeft ≤ (s.after order n).stepsLeft := by
  induction h with
  | refl => exact Nat.le_refl _
  | @step m _ ih =>
    rw [after_succ]
    rcases step_falls_or_waits (s.after order m) (order m) with hfalls | hwaits
    · exact Nat.le_trans (Nat.le_of_lt hfalls) ih
    · exact Nat.le_trans (Nat.le_of_eq hwaits.stepsLeft_eq) ih

/-- What lasts until the turn of thread `i`, unless a section is brought further before, holds
when that turn has come. -/
theorem exists_turn (Lasts : System α β → Prop)
    (hlasts : ∀ s j, i ≠ j → Lasts s → Lasts (s.step j) ∨ (s.step j).stepsLeft < s.stepsLeft)
    (hfair : Fair count order) (hi : i < count) {n : Nat} (h : Lasts (s.after order n)) :
    ∃ m, n ≤ m ∧ ((s.after order m).stepsLeft < (s.after order n).stepsLeft ∨
      order m = i ∧ Lasts (s.after order m)) := by
  obtain ⟨turn, hle, hturn⟩ := hfair i hi n
  -- The induction is on the steps until that turn. An earlier turn will do as well.
  obtain ⟨distance, rfl⟩ := Nat.exists_eq_add_of_le hle
  clear hle
  induction distance generalizing n with
  | zero => exact ⟨n, Nat.le_refl n, .inr ⟨hturn, h⟩⟩
  | succ distance ih =>
    by_cases hnow : order n = i
    · exact ⟨n, Nat.le_refl n, .inr ⟨hnow, h⟩⟩
    rcases hlasts _ _ (Ne.symm hnow) h with hnext | hfalls
    · rw [← after_succ] at hnext
      obtain ⟨m, hm, hcase⟩ := ih hnext (by rw [← hturn]; congr 1; omega)
      have hle := stepsLeft_after_le s order n.le_succ
      exact ⟨m, by omega, hcase.imp_left fun hlt => Nat.lt_of_lt_of_le hlt hle⟩
    · exact ⟨n + 1, n.le_succ, .inl (by rwa [after_succ])⟩

/-! ### Turns that bring a section further -/

/-- The holder's next turn does. -/
theorem falls_of_holds (hfair : Fair count order) (hi : i < count) {n : Nat}
    (hthread : (s.after order n).threads[i]? = some t) (hholds : t.phase.holds = true) :
    ∃ m, (s.after order m).stepsLeft < (s.after order n).stepsLeft := by
  obtain ⟨m, hle, hfalls | ⟨rfl, hlast⟩⟩ := exists_turn (fun s => s.threads[i]? = some t)
    (fun s j hne h => .inl ((getElem?_step_of_ne hne).trans h)) hfair hi hthread
  · exact ⟨m, hfalls⟩
  · rcases step_falls_or_waits (s.after order m) (order m) with hfalls | hwaits
    · rw [← after_succ] at hfalls
      exact ⟨m + 1, Nat.lt_of_lt_of_le hfalls (stepsLeft_after_le s order hle)⟩
    · rw [hwaits.holds_eq t hlast] at hholds
      cases hholds

/-- The flag is clear, and thread `i` is this one. -/
def ClearFor (i : Nat) (t : Thread α β) (s : System α β) : Prop :=
  s.locked = false ∧ s.threads[i]? = some t

/-- While the flag is clear, the next turn of a thread that has a section to carry out does, unless
the thread was still watching the flag. -/
theorem falls_or_tries (hfair : Fair count order) (hi : i < count) {n : Nat}
    (hclear : (s.after order n).ClearFor i t) (hprogram : t.program ≠ []) :
    ∃ m, n ≤ m ∧ ((s.after order m).stepsLeft < (s.after order n).stepsLeft ∨
      t.phase = .watching ∧ (s.after order m).ClearFor i { t with phase := .outside }) := by
  have hlasts : ∀ s j, i ≠ j → ClearFor i t s →
      ClearFor i t (s.step j) ∨ (s.step j).stepsLeft < s.stepsLeft := by
    intro s j hne h
    rcases step_falls_or_waits s j with hfalls | hwaits
    · exact .inr hfalls
    · exact .inl ⟨hwaits.locked_eq.trans h.1, (getElem?_step_of_ne hne).trans h.2⟩
  obtain ⟨m, hle, hfalls | ⟨rfl, hlast⟩⟩ := exists_turn (ClearFor i t) hlasts hfair hi hclear
  · exact ⟨m, hle, .inl hfalls⟩
  refine ⟨m + 1, Nat.le_succ_of_le hle, ?_⟩
  rw [after_succ]
  rcases step_falls_or_waits (s.after order m) (order m) with hfalls | hwaits
  · exact .inl (Nat.lt_of_lt_of_le hfalls (stepsLeft_after_le s order hle))
  · rcases hwaits.clear t hlast.2 hlast.1 with ⟨-, hdone⟩ | ⟨hwatching, houtside⟩
    · exact absurd hdone hprogram
    · exact .inr ⟨hwatching, hwaits.locked_eq.trans hlast.1, houtside⟩

/-- While the flag is clear, a turn of a thread that has a section to carry out does. -/
theorem falls_of_clear (hfair : Fair count order) (hi : i < count) {n : Nat}
    (hclear : (s.after order n).ClearFor i t) (hprogram : t.program ≠ []) :
    ∃ m, (s.after order m).stepsLeft < (s.after order n).stepsLeft := by
  obtain ⟨k, hle, hfalls | ⟨-, htries⟩⟩ := falls_or_tries hfair hi hclear hprogram
  · exact ⟨k, hfalls⟩
  · -- The thread saw the flag clear. It tries in its next turn.
    obtain ⟨m, -, hfalls | ⟨hwatching, -⟩⟩ := falls_or_tries hfair hi htries hprogram
    · exact ⟨m, Nat.lt_of_lt_of_le hfalls (stepsLeft_after_le s order hle)⟩
    · cases hwatching

/-- Some turn does, as long as not all threads are done. -/
theorem exists_falls {initial : α} {n : Nat} (howned : Owned initial (s.after order n))
    (hfair : Fair s.threads.length order) (hleft : (s.after order n).stepsLeft ≠ 0) :
    ∃ m, (s.after order m).stepsLeft < (s.after order n).stepsLeft := by
  have hlt : ∀ {i : Nat} {t : Thread α β}, (s.after order n).threads[i]? = some t →
      i < s.threads.length := by
    intro i t hthread
    rw [← length_threads_after s order n]
    exact (List.getElem?_eq_some_iff.1 hthread).1
  cases hlocked : (s.after order n).locked with
  | true =>
    obtain ⟨i, t, hthread, hholds⟩ := howned.exists_holder hlocked
    exact falls_of_holds hfair (hlt hthread) hthread hholds
  | false =>
    -- Nobody holds the lock. So it is for their programs that not all threads are done.
    obtain ⟨hnobody, -⟩ := howned.of_unlocked hlocked
    rw [ne_eq, ← finished_iff_stepsLeft, finished_iff] at hleft
    push Not at hleft
    obtain ⟨t, hmem, hundone⟩ := hleft
    obtain ⟨i, hthread⟩ := List.mem_iff_getElem?.1 hmem
    have hprogram : t.program ≠ [] := fun hnil => hundone hnil (hnobody i t hthread)
    exact falls_of_clear hfair (hlt hthread) ⟨hlocked, hthread⟩ hprogram

/-- The states of an endless schedule are as they should be. -/
theorem Owned.after {initial : α} (h : Owned initial s) (order : Nat → Nat) (n : Nat) :
    Owned initial (s.after order n) := h.run _

/-- **Threads that keep getting turns finish**, and stay so. -/
theorem exists_finished {initial : α} (howned : Owned initial s)
    (hfair : Fair s.threads.length order) :
    ∃ n, ∀ m, n ≤ m → (s.after order m).finished = true := by
  -- The induction is on the number of steps that are left at some moment.
  have hnone : ∀ left n, (s.after order n).stepsLeft = left →
      ∃ m, (s.after order m).stepsLeft = 0 := by
    intro left
    induction left using Nat.strongRecOn with
    | ind left ih =>
      intro n hleft
      by_cases hzero : left = 0
      · exact ⟨n, hleft.trans hzero⟩
      · obtain ⟨m, hfalls⟩ := exists_falls (howned.after order n) hfair (by rwa [hleft])
        exact ih _ (hleft ▸ hfalls) m rfl
  obtain ⟨n, hn⟩ := hnone _ 0 rfl
  refine ⟨n, fun m hle => finished_iff_stepsLeft.2 (Nat.le_zero.1 ?_)⟩
  rw [← hn]
  exact stepsLeft_after_le s order hle

end System

/-! ### Sections that add to a counter -/

/-- The section adds to a counter in the value, around the top, also if it stops at a fault. -/
def Adds (counter : α → Word) (amount : Word) (body : Attempt α β) : Prop :=
  ∀ value, counter (body.outcome value).2 = counter value + amount

namespace Adds

variable {γ : Type} {counter : α → Word} {amount : Word} {body : Attempt α β}

/-- It does so whatever it does next, if it leaves the counter alone from there on. -/
theorem bind {next : β → Attempt α γ} (h : Adds counter amount body)
    (hnext : ∀ b value, counter ((next b).outcome value).2 = counter value) :
    Adds counter amount (body >>= next) := by
  intro value
  have hadds := h value
  cases hbody : body.outcome value with
  | mk result left =>
    rw [hbody] at hadds
    cases result with
    | ok b => rw [Attempt.outcome_bind_ok hbody, hnext, hadds]
    | error f => rw [Attempt.outcome_bind_error hbody, hadds]

/-- Adding around the top does. -/
theorem wrappingAddBody (amount : Word) : Adds id amount (Scenario.Lock.wrappingAddBody amount) :=
  fun _ => rfl

end Adds

namespace System

variable {s : System α β} {initial : α} {programs : List (List (Attempt α β))}
  {counter : α → Word} {amount : Word}

/-- Sections that are carried out one at a time add up. -/
theorem counter_serial {sections : List (Attempt α β)}
    (hadds : ∀ body ∈ sections, Adds counter amount body) :
    (counter (serial initial sections)).toNat =
      ((counter initial).toNat + sections.length * amount.toNat) % UInt64.size := by
  induction sections with
  | nil =>
    rw [List.length_nil, Nat.zero_mul, Nat.add_zero, Nat.mod_eq_of_lt (UInt64.toNat_lt_size _)]
    rfl
  | cons body earlier ih =>
    rw [List.forall_mem_cons] at hadds
    calc (counter (serial initial (body :: earlier))).toNat
        = (counter (serial initial earlier) + amount).toNat := by rw [serial, hadds.1]
      _ = (((counter initial).toNat + earlier.length * amount.toNat) % UInt64.size +
            amount.toNat) % UInt64.size := by rw [UInt64.toNat_add, ih hadds.2]
      _ = ((counter initial).toNat + (earlier.length + 1) * amount.toNat) % UInt64.size := by
        rw [Nat.mod_add_mod, Nat.add_mul, Nat.one_mul, Nat.add_assoc]

/-- The number of sections, if all programs have the same. -/
private theorem length_flatten_of_rounds {rounds : Nat}
    (hrounds : ∀ program ∈ programs, program.length = rounds) :
    programs.flatten.length = programs.length * rounds := by
  have hlengths : programs.map List.length = List.replicate programs.length rounds :=
    List.map_eq_replicate_iff.2 hrounds
  rw [List.length_flatten, hlengths, List.sum_replicate_nat]

/-- **What each of the threads adds is there when all are done.** -/
theorem Guarded.counter_eq {rounds : Nat} (h : s.Guarded initial programs)
    (hadds : ∀ program ∈ programs, program.length = rounds ∧
      ∀ body ∈ program, Adds counter amount body) (hfinished : s.finished = true) :
    (counter s.value).toNat =
      ((counter initial).toNat + programs.length * rounds * amount.toNat) % UInt64.size := by
  obtain ⟨-, hperm, hvalue⟩ := h.complete hfinished
  have hacquired : ∀ body ∈ s.acquired, Adds counter amount body := by
    intro body hmem
    obtain ⟨program, hprogram, hbody⟩ := List.mem_flatten.1 (hperm.mem_iff.1 hmem)
    exact (hadds program hprogram).2 body hbody
  rw [hvalue, counter_serial hacquired, hperm.length_eq,
    length_flatten_of_rounds fun program hprogram => (hadds program hprogram).1]

/-- **The lock makes its critical sections one sequence.** In every state that the threads reach it
guards the value; if all threads keep getting turns, they finish; and sections that each add the
same to a counter, the same number of them in every thread, then leave the sum. -/
theorem locked_sections_serialise (initial : α) (programs : List (List (Attempt α β))) :
    (∀ schedule, ((System.start initial programs).run schedule).Guarded initial programs) ∧
    (∀ order, Fair programs.length order →
      ∃ n, ∀ m, n ≤ m → ((System.start initial programs).after order m).finished = true) ∧
    ∀ (counter : α → Word) (amount : Word) (rounds : Nat),
      (∀ program ∈ programs, program.length = rounds ∧
        ∀ body ∈ program, Adds counter amount body) →
      ∀ schedule, ((System.start initial programs).run schedule).finished = true →
        (counter ((System.start initial programs).run schedule).value).toNat =
          ((counter initial).toNat + programs.length * rounds * amount.toNat) % UInt64.size := by
  have hguarded := guarded_run initial programs
  refine ⟨hguarded, fun order hfair => ?_, ?_⟩
  · have hcount : (System.start initial programs).threads.length = programs.length :=
      List.length_map _
    exact exists_finished (Owned.start initial programs) (hcount ▸ hfair)
  · intro counter amount rounds hadds schedule hfinished
    exact (hguarded schedule).counter_eq hadds hfinished

/-- Two threads that add a bit more than half of all words, twice each; the second one stops at a
fault after its last addition. -/
def samplePrograms : List (List (Attempt Word Word)) :=
  let add := Scenario.Lock.wrappingAddBody 0x8000000000000001
  [[add, add], [add, add >>= fun found => throw (.holderStopped found)]]

/-- Each of their sections adds that. -/
theorem samplePrograms_add : ∀ program ∈ samplePrograms, program.length = 2 ∧
    ∀ body ∈ program, Adds id 0x8000000000000001 body := by
  have hadd : Adds id 0x8000000000000001 (Scenario.Lock.wrappingAddBody 0x8000000000000001) :=
    Adds.wrappingAddBody _
  have hstop := hadd.bind (fun found _ => rfl : ∀ found value,
    id ((throw (.holderStopped found) : Attempt Word Word).outcome value).2 = id value)
  simp only [samplePrograms, List.forall_mem_cons, List.not_mem_nil, false_imp_iff, implies_true,
    and_true, List.length_cons, List.length_nil, Nat.zero_add, hadd, hstop]

/-- The threads take turns. -/
theorem fair_turns : Fair 2 fun n => n % 2 := by
  intro i hi n
  refine ⟨2 * n + i, by omega, ?_⟩
  show (2 * n + i) % 2 = i
  omega

/-- Forty steps, turn by turn. -/
def sampleRun : System Word Word :=
  (System.start 5 samplePrograms).run ((List.range 40).map fun n => n % 2)

/-- Turn by turn, the threads finish, and all that was added is there, also what the second thread
added before it stopped. -/
theorem locked_sections_of_two :
    (∃ n, ∀ m, n ≤ m →
      ((System.start 5 samplePrograms).after (fun n => n % 2) m).finished = true) ∧
    sampleRun.finished = true ∧
    Scenario.Lock.latest sampleRun 1 = .fault (.holderStopped 0x8000000000000008) ∧
    sampleRun.value.toNat = 9 := by
  obtain ⟨-, hfinish, hsum⟩ := locked_sections_serialise 5 samplePrograms
  have hfinished : sampleRun.finished = true := by decide
  have hvalue : sampleRun.value.toNat = (5 + 2 * 2 * 0x8000000000000001) % UInt64.size :=
    hsum id _ 2 samplePrograms_add _ hfinished
  exact ⟨hfinish _ fair_turns, hfinished, rfl, hvalue.trans (by decide)⟩

end System

end BusPool.SpinLock
