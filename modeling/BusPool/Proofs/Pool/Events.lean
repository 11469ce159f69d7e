import BusPool.Proofs.Attempt
import BusPool.Proofs.Pool.Moves
import Mathlib.Data.List.Induction
import Mathlib.Data.List.Nodup

/-!
# Events and calls

Runs are taken apart at any event (**`Machine.run_append`**, **`Machine.run_concat`**), so that a
property of all events of a run can speak of the state in which each of them takes place
(**`Machine.Along`**).

From the point of view of one call most events do not matter; the others begin it or move it on
(**`Machine.step_call_cases`**). What it reports then tells which event it was
(**`Machine.prompts_of_step`**). Calls are told apart by their numbers (**`Machine.numbered_run`**),
so that what they hold can be told call by call (**`Machine.Numbered.perm_collect`**).
-/

namespace BusPool.Pool

variable {τ : Type}

/-! ### Runs, event by event -/

namespace Machine

variable {m : Machine τ} {events : List (Event τ)}

/-- A run in two parts. -/
theorem run_append (m : Machine τ) (front back : List (Event τ)) :
    m.run (front ++ back) =
      (((m.run front).1.run back).1, (m.run front).2 ++ ((m.run front).1.run back).2) := by
  induction front generalizing m with
  | nil => rfl
  | cons e rest ih =>
    show (((m.step e).1.run (rest ++ back)).1,
      (m.step e).2.toList ++ ((m.step e).1.run (rest ++ back)).2) = _
    rw [ih, ← List.append_assoc]
    rfl

/-- A run with one more event. -/
theorem run_concat (m : Machine τ) (events : List (Event τ)) (e : Event τ) :
    m.run (events ++ [e]) =
      (((m.run events).1.step e).1, (m.run events).2 ++ ((m.run events).1.step e).2.toList) := by
  rw [run_append]
  show (_, (m.run events).2 ++ (((m.run events).1.step e).2.toList ++ [])) = _
  rw [List.append_nil]
  rfl

/-- What is reported is reported at an event. -/
theorem exists_event_of_report {r : Report τ} (hr : r ∈ (m.run events).2) :
    ∃ front e back, events = front ++ e :: back ∧ ((m.run front).1.step e).2 = some r := by
  induction events using List.reverseRecOn with
  | nil => cases hr
  | append_singleton events e ih =>
    rw [run_concat] at hr
    rcases List.mem_append.1 hr with hr | hr
    · obtain ⟨front, e', back, rfl, hreport⟩ := ih hr
      refine ⟨front, e', back ++ [e], ?_, hreport⟩
      rw [List.append_assoc, List.cons_append]
    · exact ⟨events, e, [], rfl, Option.mem_toList.1 hr⟩

/-- All events of a run take place as `P` says, which knows the machine before the event and what
has been reported by then. -/
def Along (m : Machine τ) (P : Machine τ → List (Report τ) → Event τ → Prop)
    (events : List (Event τ)) : Prop :=
  ∀ front e back, events = front ++ e :: back → P (m.run front).1 (m.run front).2 e

variable {P : Machine τ → List (Report τ) → Event τ → Prop}

/-- Nothing takes place in a run without events. -/
theorem along_nil : m.Along P [] := by
  intro front e back h
  cases List.append_eq_nil_iff.1 h.symm |>.2

/-- One more event takes place after all the others. -/
theorem along_concat {e : Event τ} :
    m.Along P (events ++ [e]) ↔ m.Along P events ∧ P (m.run events).1 (m.run events).2 e := by
  constructor
  · intro h
    constructor
    · intro front e' back heq
      apply h front e' (back ++ [e])
      rw [heq, List.append_assoc, List.cons_append]
    · exact h events e [] rfl
  · rintro ⟨hinit, hlast⟩ front e' back heq
    rcases List.eq_nil_or_concat back with rfl | ⟨back, last, rfl⟩
    · obtain ⟨rfl, he⟩ := List.append_inj' heq rfl
      cases he
      exact hlast
    · rw [List.concat_eq_append, ← List.cons_append, ← List.append_assoc] at heq
      exact hinit front e' back (List.append_inj' heq rfl).1

/-- A run with one more event at its front. -/
theorem along_cons {e : Event τ} :
    m.Along P (e :: events) ↔ P m [] e ∧
      (m.step e).1.Along (fun m' reports => P m' ((m.step e).2.toList ++ reports)) events := by
  constructor
  · intro h
    constructor
    · exact h [] e events rfl
    · intro front e' back heq
      exact h (e :: front) e' back (congrArg (List.cons e) heq)
  · rintro ⟨hfirst, hrest⟩ front e' back heq
    cases front with
    | nil =>
      cases heq
      exact hfirst
    | cons _ front =>
      cases heq
      exact hrest front e' back rfl

/-- What holds along a run holds along its first part. -/
theorem Along.front {front back : List (Event τ)} (h : m.Along P (front ++ back)) :
    m.Along P front := by
  intro before e after heq
  apply h before e (after ++ back)
  rw [heq, List.append_assoc, List.cons_append]

end Machine

/-! ### One call -/

/-- The stage in which a call goes on, if it does. -/
def Next.stage? : Next τ → Option (Stage τ)
  | goOn stage => some stage
  | returned _ => none

namespace Machine

variable {m : Machine τ} {id : Nat}

/-- Where a call stands among all calls but one. -/
private theorem lookup_others (calls : List (Nat × Stage τ)) (id other : Nat) :
    (calls.filter fun entry => entry.1 != id).lookup other =
      if other = id then none else calls.lookup other := by
  induction calls with
  | nil => simp
  | cons entry rest ih =>
    obtain ⟨key, stage⟩ := entry
    by_cases hkey : key = id
    · subst hkey
      rw [List.filter_cons_of_neg (by simp), ih]
      split
      · rfl
      · rename_i hne
        rw [List.lookup_cons, beq_false_of_ne hne]
    · rw [List.filter_cons_of_pos (by simp [hkey]), List.lookup_cons, List.lookup_cons, ih]
      by_cases hother : other = key
      · subst hother
        simp [hkey]
      · rw [beq_false_of_ne hother]

/-- A call that is told what follows stands there, and all others stand where they stood. -/
theorem stage?_follow (next : Next τ) (other : Nat) :
    (m.follow id next).stage? other = if other = id then next.stage? else m.stage? other := by
  cases next with
  | goOn stage =>
    show ((id, stage) :: m.calls.filter fun entry => entry.1 != id).lookup other = _
    rw [List.lookup_cons, lookup_others]
    by_cases h : other = id
    · rw [if_pos h, beq_iff_eq.2 h, if_pos h]
      rfl
    · rw [if_neg h, if_neg h, beq_false_of_ne h]
      rfl
  | returned outcome => exact lookup_others m.calls id other

/-- **What an event means for one call**: nothing, its beginning, or a move. -/
theorem step_call_cases (m : Machine τ) (e : Event τ) (id : Nat) :
    ((m.step e).1.stage? id = m.stage? id ∧ ∀ r, (m.step e).2 = some r → r.call ≠ id) ∨
    (id = m.begun ∧ ∃ request : Request, (m.step e).1.stage? id = some request.start ∧
      (m.step e).2 = some ⟨id, [], .goOn request.start⟩) ∨
    ∃ stage turn, m.stage? id = some stage ∧ m.Moves stage turn ∧
      (m.step e).1.state = turn.state ∧ (m.step e).1.stage? id = turn.next.stage? ∧
      (m.step e).2 = some ⟨id, turn.records, turn.next⟩ := by
  rcases m.step_cases e with ⟨memory, heq⟩ | ⟨request, -, heq⟩ |
    ⟨other, stage, turn, hstage, hmove, heq⟩
  · rw [heq]
    refine .inl ⟨rfl, ?_⟩
    intro r hr
    cases hr
  · have hafter : (m.step e).1.stage? id =
        if id = m.begun then some request.start else m.stage? id := by
      rw [heq]
      exact stage?_follow (.goOn request.start) id
    by_cases hid : id = m.begun
    · refine .inr (.inl ⟨hid, request, ?_, ?_⟩)
      · rw [hafter, if_pos hid]
      · rw [heq, hid]
    · refine .inl ⟨?_, ?_⟩
      · rw [hafter, if_neg hid]
      · rw [heq]
        intro r hr
        cases hr
        exact Ne.symm hid
  · have hafter : (m.step e).1.stage? id =
        if id = other then turn.next.stage? else m.stage? id := by
      rw [heq]
      exact stage?_follow turn.next id
    by_cases hid : id = other
    · subst hid
      refine .inr (.inr ⟨stage, turn, hstage, hmove, ?_, ?_, ?_⟩)
      · rw [heq]
        exact follow_state _
      · rw [hafter, if_pos rfl]
      · rw [heq]
    · refine .inl ⟨?_, ?_⟩
      · rw [hafter, if_neg hid]
      · rw [heq]
        intro r hr
        cases hr
        exact Ne.symm hid

end Machine

/-! ### Reports and their events -/

namespace Machine

variable {m : Machine τ}

/-- Which event makes a call report what. -/
inductive Prompts (m : Machine τ) : Event τ → Report τ → Prop
  /-- A call begins. -/
  | begins (request : Request) : Prompts m (.call request) ⟨m.begun, [], .goOn request.start⟩
  /-- A call carries out a piece. -/
  | advances {id : Nat} {stage : Stage τ} {turn : Turn τ} (stands : m.stage? id = some stage)
    (advance : stage.advance? m.name m.config m.state m.memory = some turn) :
    Prompts m (.advance id) ⟨id, turn.records, turn.next⟩
  /-- A call is told the granularity. -/
  | sizes {id : Nat} {stage : Stage τ} {granularity : Word} {next : Next τ}
    (stands : m.stage? id = some stage) (answered : stage.sized? m.config granularity = some next) :
    Prompts m (.granularity id granularity) ⟨id, [], next⟩
  /-- A call is given a segment or none. -/
  | replies {id : Nat} {stage : Stage τ} {answer : Except StoreError (Grant τ)}
    {records : List Record} {next : Next τ} (stands : m.stage? id = some stage)
    (answered : stage.replied? answer = some (records, next)) :
    Prompts m (.reply id answer) ⟨id, records, next⟩
  /-- A call is told that the store has done its part. -/
  | acknowledges {id : Nat} {stage : Stage τ} {next : Next τ} (stands : m.stage? id = some stage)
    (answered : stage.acknowledged? = some next) : Prompts m (.acknowledge id) ⟨id, [], next⟩

/-- **Every report is prompted by its event.** -/
theorem prompts_of_step {e : Event τ} {r : Report τ} (hr : (m.step e).2 = some r) :
    m.Prompts e r := by
  cases e with
  | call request =>
    cases hr
    exact .begins request
  | advance id =>
    cases hturn : (m.stage? id).bind (Stage.advance? m.name m.config m.state m.memory) with
    | none => simp only [step, hturn, reduceCtorEq] at hr
    | some turn =>
      obtain ⟨stage, hstage, hmove⟩ := Option.bind_eq_some_iff.1 hturn
      simp only [step, hturn, Option.some.injEq] at hr
      rw [← hr]
      exact .advances hstage hmove
  | granularity id w =>
    cases hnext : (m.stage? id).bind (Stage.sized? m.config w) with
    | none => simp only [step, hnext, reduceCtorEq] at hr
    | some next =>
      obtain ⟨stage, hstage, hmove⟩ := Option.bind_eq_some_iff.1 hnext
      simp only [step, hnext, Option.some.injEq] at hr
      rw [← hr]
      exact .sizes hstage hmove
  | reply id answer =>
    cases hnext : (m.stage? id).bind (Stage.replied? answer) with
    | none => simp only [step, hnext, reduceCtorEq] at hr
    | some turn =>
      obtain ⟨stage, hstage, hmove⟩ := Option.bind_eq_some_iff.1 hnext
      simp only [step, hnext, Option.some.injEq] at hr
      rw [← hr]
      exact .replies hstage hmove
  | acknowledge id =>
    cases hnext : (m.stage? id).bind Stage.acknowledged? with
    | none => simp only [step, hnext, reduceCtorEq] at hr
    | some next =>
      obtain ⟨stage, hstage, hmove⟩ := Option.bind_eq_some_iff.1 hnext
      simp only [step, hnext, Option.some.injEq] at hr
      rw [← hr]
      exact .acknowledges hstage hmove
  | map bytes => cases hr
  | write p n byte => cases hr

end Machine

/-! ### Numbers of calls -/

namespace Machine

variable {m : Machine τ} {reports : List (Report τ)} {id : Nat}

/-- Calls are known by the number of calls that began before them. -/
structure Numbered (m : Machine τ) (reports : List (Report τ)) : Prop where
  /-- Calls in progress have begun. -/
  calls_lt : ∀ call ∈ m.calls, call.1 < m.begun
  /-- No two calls in progress have one number. -/
  nodup : (m.calls.map Prod.fst).Nodup
  /-- Calls that have reported have begun. -/
  reports_lt : ∀ r ∈ reports, r.call < m.begun

namespace Numbered

/-- A call in progress and all the others. -/
theorem perm_calls (h : m.Numbered reports) {stage : Stage τ} (hstage : m.stage? id = some stage) :
    m.calls.Perm ((id, stage) :: m.calls.filter fun entry => entry.1 != id) := by
  obtain ⟨front, back, hsplit, hfront⟩ := List.lookup_eq_some_iff.1 hstage
  have hnodup := h.nodup
  rw [hsplit, List.map_append, List.map_cons, List.nodup_middle, List.nodup_cons,
    List.mem_append, not_or] at hnodup
  have hback : ∀ entry ∈ back, (entry.1 != id) = true := by
    intro entry hentry
    rw [bne_iff_ne]
    intro heq
    exact hnodup.1.2 (List.mem_map.2 ⟨entry, hentry, heq⟩)
  have hothers : m.calls.filter (fun entry => entry.1 != id) = front ++ back := by
    rw [hsplit, List.filter_append, List.filter_cons_of_neg (by simp),
      List.filter_eq_self.2 hback, List.filter_eq_self.2]
    intro entry hentry
    rw [bne_comm]
    exact hfront entry hentry
  rw [hothers, hsplit]
  exact List.perm_middle

/-- Where a call stands is looked up. -/
theorem stage?_of_mem (h : m.Numbered reports) {stage : Stage τ} (hmem : (id, stage) ∈ m.calls) :
    m.stage? id = some stage := by
  obtain ⟨front, back, hsplit⟩ := List.append_of_mem hmem
  have hnodup := h.nodup
  rw [hsplit, List.map_append, List.map_cons, List.nodup_middle, List.nodup_cons,
    List.mem_append, not_or] at hnodup
  refine List.lookup_eq_some_iff.2 ⟨front, back, hsplit, ?_⟩
  intro entry hentry
  rw [bne_iff_ne]
  intro heq
  exact hnodup.1.1 (List.mem_map.2 ⟨entry, hentry, heq.symm⟩)

/-- What follows for a call that has begun keeps calls numbered. -/
theorem follow (h : m.Numbered reports) (hid : id < m.begun) (records : List Record)
    (next : Next τ) : (m.follow id next).Numbered (reports ++ [⟨id, records, next⟩]) := by
  have hbegun : (m.follow id next).begun = m.begun := by cases next <;> rfl
  refine ⟨?_, ?_, ?_⟩
  · intro call hcall
    rw [hbegun]
    rcases mem_follow_calls hcall with ⟨rfl, -⟩ | hcall
    · exact hid
    · exact h.calls_lt call hcall
  · have hothers := h.nodup.sublist ((List.filter_sublist (p := fun entry => entry.1 != id)).map
      Prod.fst)
    cases next with
    | goOn stage =>
      refine List.nodup_cons.2 ⟨?_, hothers⟩
      intro hin
      obtain ⟨entry, hentry, hkey⟩ := List.mem_map.1 hin
      have := (List.mem_filter.1 hentry).2
      rw [hkey, bne_self_eq_false] at this
      cases this
    | returned outcome => exact hothers
  · intro r hr
    rw [hbegun]
    rcases List.mem_append.1 hr with hr | hr
    · exact h.reports_lt r hr
    · rw [List.mem_singleton.1 hr]
      exact hid

/-- One event keeps calls numbered. -/
theorem step (h : m.Numbered reports) (e : Event τ) :
    (m.step e).1.Numbered (reports ++ (m.step e).2.toList) := by
  rcases m.step_cases e with ⟨memory, heq⟩ | ⟨request, -, heq⟩ | ⟨id, stage, turn, hstage, -, heq⟩
  · rw [heq, Option.toList_none, List.append_nil]
    exact ⟨h.calls_lt, h.nodup, h.reports_lt⟩
  · have hmore : Numbered { m with begun := m.begun + 1 } reports := by
      refine ⟨?_, h.nodup, ?_⟩
      · intro call hcall
        exact Nat.lt_succ_of_lt (h.calls_lt call hcall)
      · intro r hr
        exact Nat.lt_succ_of_lt (h.reports_lt r hr)
    rw [heq]
    exact hmore.follow (Nat.lt_succ_self m.begun) [] (.goOn request.start)
  · have hmoved : Numbered { m with state := turn.state, memory := turn.memory } reports :=
      ⟨h.calls_lt, h.nodup, h.reports_lt⟩
    rw [heq]
    exact hmoved.follow (h.calls_lt _ (mem_of_stage? hstage)) turn.records turn.next

end Numbered

/-! ### What calls in progress hold -/

variable {α : Type}

/-- What calls in progress hold, where `f` says what is held in a stage. -/
def collect (f : Stage τ → Option α) (m : Machine τ) : List α :=
  m.calls.filterMap fun call => f call.2

/-- What calls other than one hold. -/
def collectBut (f : Stage τ → Option α) (m : Machine τ) (id : Nat) : List α :=
  (m.calls.filter fun entry => entry.1 != id).filterMap fun call => f call.2

/-- What is held once a call is told what follows. -/
theorem collect_follow (f : Stage τ → Option α) (m : Machine τ) (id : Nat) (next : Next τ) :
    (m.follow id next).collect f = (next.stage?.bind f).toList ++ m.collectBut f id := by
  cases next with
  | returned outcome => rfl
  | goOn stage =>
    show ((id, stage) :: m.calls.filter fun entry => entry.1 != id).filterMap
      (fun call => f call.2) = (f stage).toList ++ _
    rw [List.filterMap_cons]
    cases f stage <;> rfl

/-- A call holds what its stage says. -/
theorem mem_collect {f : Stage τ → Option α} {a : α} {stage : Stage τ}
    (hstage : m.stage? id = some stage) (ha : f stage = some a) : a ∈ m.collect f :=
  List.mem_filterMap.2 ⟨_, mem_of_stage? hstage, ha⟩

/-- What one call holds, and what all others do. -/
theorem Numbered.perm_collect (h : m.Numbered reports) (f : Stage τ → Option α) {stage : Stage τ}
    (hstage : m.stage? id = some stage) :
    (m.collect f).Perm ((f stage).toList ++ m.collectBut f id) := by
  refine ((h.perm_calls hstage).filterMap _).trans (.of_eq ?_)
  rw [List.filterMap_cons]
  cases f stage <;> rfl

/-- A call that has not begun holds nothing. -/
theorem Numbered.collectBut_begun (h : m.Numbered reports) (f : Stage τ → Option α) :
    m.collectBut f m.begun = m.collect f := by
  rw [collectBut, List.filter_eq_self.2]
  · rfl
  · intro call hcall
    rw [bne_iff_ne]
    exact Nat.ne_of_lt (h.calls_lt call hcall)

/-- A new pool has nothing to keep, and no call has begun on it. -/
theorem create_eq {name : String} {c : Config} (created : create name c = .ok m) :
    m = ⟨name, c, .empty, .empty, 0, []⟩ := by
  unfold create at created
  obtain ⟨_, -, hm⟩ := bind_eq_ok_iff.1 created
  exact (Except.ok.inj hm).symm

/-- **Calls are numbered in every reachable state.** -/
theorem numbered_run {name : String} {c : Config} (created : create name c = .ok m)
    (events : List (Event τ)) : (m.run events).1.Numbered (m.run events).2 := by
  induction events using List.reverseRecOn with
  | nil =>
    rw [create_eq created]
    exact ⟨by simp [run], .nil, by simp [run]⟩
  | append_singleton events e ih =>
    rw [run_concat]
    exact ih.step e

end Machine

end BusPool.Pool
