import BusPool.Proofs.Pool.LazyGrowth

/-!
# Runs with and without a call

Two machines that differ at most in where one call stands do the same at every event that is not
about this call (**`Machine.SameBut.step`**). As long as an allocation has not found room and has
no segment added, its own pieces and the answers it is given change neither the pool nor the local
memory (**`Machine.Moves.idle_of_seeks`**). A run in which it comes that far can therefore be
compared with the run of the other events: the pool is in the same state and the other calls have
reported the same (**`Machine.run_others`**).
-/

namespace BusPool.Pool

variable {τ : Type}

/-- The events that are not about a call. -/
def others (id : Nat) (events : List (Event τ)) : List (Event τ) :=
  events.filter fun e => e.call? ≠ some id

/-- What calls other than one report. -/
def reportsBut (id : Nat) (reports : List (Report τ)) : List (Report τ) :=
  reports.filter fun r => r.call ≠ id

/-- Whether an allocation is still after room: nothing is reserved for it, and if the store has
granted it a segment, that is not added yet. -/
def Stage.seeks : Stage τ → Bool
  | reserving _ | sizing _ | importing _ _ | adopting _ _ => true
  | delivering _ _ | freeing _ | resolving _ _ | syncing _ _ _ _ => false

/-- An event about the call is left out. -/
theorem others_concat_own {id : Nat} {e : Event τ} (he : e.call? = some id)
    (events : List (Event τ)) : others id (events ++ [e]) = others id events := by
  simp [others, he]

/-- Any other event is not. -/
theorem others_concat {id : Nat} {e : Event τ} (he : e.call? ≠ some id)
    (events : List (Event τ)) : others id (events ++ [e]) = others id events ++ [e] := by
  simp [others, he]

/-- What other calls report in two parts of a run. -/
theorem reportsBut_append (id : Nat) (reports more : List (Report τ)) :
    reportsBut id (reports ++ more) = reportsBut id reports ++ reportsBut id more :=
  List.filter_append ..

namespace Machine

variable {m m' m'' : Machine τ} {id : Nat}

/-! ### Machines that differ in one call -/

/-- Two machines that differ at most in where one call stands. -/
structure SameBut (id : Nat) (m m' : Machine τ) : Prop where
  /-- The pools have one name. -/
  name_eq : m.name = m'.name
  /-- They have the same parameters. -/
  config_eq : m.config = m'.config
  /-- They keep the same. -/
  state_eq : m.state = m'.state
  /-- The local memory is the same. -/
  memory_eq : m.memory = m'.memory
  /-- As many calls have begun. -/
  begun_eq : m.begun = m'.begun
  /-- All other calls stand at the same stage. -/
  stage?_eq : ∀ other, other ≠ id → m.stage? other = m'.stage? other

namespace SameBut

/-- A machine does not differ from itself. -/
theorem refl (id : Nat) (m : Machine τ) : m.SameBut id m :=
  ⟨rfl, rfl, rfl, rfl, rfl, fun _ _ => rfl⟩

/-- Machines that differ in the same call from a third one differ in no more from each other. -/
theorem trans (h : m.SameBut id m') (h' : m'.SameBut id m'') : m.SameBut id m'' where
  name_eq := h.name_eq.trans h'.name_eq
  config_eq := h.config_eq.trans h'.config_eq
  state_eq := h.state_eq.trans h'.state_eq
  memory_eq := h.memory_eq.trans h'.memory_eq
  begun_eq := h.begun_eq.trans h'.begun_eq
  stage?_eq := fun other hne => (h.stage?_eq other hne).trans (h'.stage?_eq other hne)

/-- What a piece leaves behind is left behind in both machines. -/
theorem turned (h : m.SameBut id m') (state : State τ) (memory : Memory) :
    SameBut id { m with state, memory } { m' with state, memory } :=
  ⟨h.name_eq, h.config_eq, rfl, rfl, h.begun_eq, h.stage?_eq⟩

/-- A call that is told what follows stands at the same stage in both machines. -/
theorem follow (h : m.SameBut id m') (other : Nat) (next : Next τ) :
    (m.follow other next).SameBut id (m'.follow other next) where
  name_eq := by cases next <;> exact h.name_eq
  config_eq := by
    rw [follow_config, follow_config]
    exact h.config_eq
  state_eq := by
    rw [follow_state, follow_state]
    exact h.state_eq
  memory_eq := by cases next <;> exact h.memory_eq
  begun_eq := by cases next <;> exact h.begun_eq
  stage?_eq := by
    intro third hne
    rw [stage?_follow, stage?_follow, h.stage?_eq third hne]

/-- **An event that is not about the call does the same in both machines.** -/
theorem step (h : m.SameBut id m') {e : Event τ} (he : e.call? ≠ some id) :
    (m.step e).2 = (m'.step e).2 ∧ (m.step e).1.SameBut id (m'.step e).1 := by
  have hstage : ∀ other, some other ≠ some id → m.stage? other = m'.stage? other :=
    fun other hne => h.stage?_eq other fun heq => hne (congrArg some heq)
  cases e with
  | call request =>
    have hfollow := h.follow m.begun (.goOn request.start)
    rw [Machine.step, Machine.step, ← h.begun_eq]
    exact ⟨rfl, hfollow.name_eq, hfollow.config_eq, hfollow.state_eq, hfollow.memory_eq, rfl,
      hfollow.stage?_eq⟩
  | advance other =>
    have hturn : (m.stage? other).bind (Stage.advance? m.name m.config m.state m.memory) =
        (m'.stage? other).bind (Stage.advance? m'.name m'.config m'.state m'.memory) := by
      rw [hstage other he, h.name_eq, h.config_eq, h.state_eq, h.memory_eq]
    rw [Machine.step, Machine.step, hturn]
    cases (m'.stage? other).bind (Stage.advance? m'.name m'.config m'.state m'.memory) with
    | none => exact ⟨rfl, h⟩
    | some turn => exact ⟨rfl, (h.turned _ _).follow other turn.next⟩
  | granularity other g =>
    rw [Machine.step, Machine.step, hstage other he, h.config_eq]
    cases (m'.stage? other).bind (Stage.sized? m'.config g) with
    | none => exact ⟨rfl, h⟩
    | some next => exact ⟨rfl, h.follow other next⟩
  | reply other answer =>
    rw [Machine.step, Machine.step, hstage other he]
    cases (m'.stage? other).bind (Stage.replied? answer) with
    | none => exact ⟨rfl, h⟩
    | some turn => exact ⟨rfl, h.follow other turn.2⟩
  | acknowledge other =>
    rw [Machine.step, Machine.step, hstage other he]
    cases (m'.stage? other).bind Stage.acknowledged? with
    | none => exact ⟨rfl, h⟩
    | some next => exact ⟨rfl, h.follow other next⟩
  | map bytes =>
    refine ⟨rfl, h.name_eq, h.config_eq, h.state_eq, ?_, h.begun_eq, h.stage?_eq⟩
    exact congrArg (fun memory => memory.map bytes) h.memory_eq
  | write p n byte =>
    refine ⟨rfl, h.name_eq, h.config_eq, h.state_eq, ?_, h.begun_eq, h.stage?_eq⟩
    exact congrArg (fun memory => memory.fill p n byte) h.memory_eq

/-- Being told what follows makes a difference only to the call that is told. -/
theorem of_follow (id : Nat) (m : Machine τ) (next : Next τ) : (m.follow id next).SameBut id m where
  name_eq := by cases next <;> rfl
  config_eq := follow_config next
  state_eq := follow_state next
  memory_eq := by cases next <;> rfl
  begun_eq := by cases next <;> rfl
  stage?_eq := by
    intro other hne
    rw [stage?_follow, if_neg hne]

/-- So does a move that leaves the pool and the memory alone. -/
theorem of_move {turn : Turn τ} (hstate : turn.state = m.state) (hmemory : turn.memory = m.memory) :
    (({ m with state := turn.state, memory := turn.memory } : Machine τ).follow id
      turn.next).SameBut id m := by
  rw [hstate, hmemory]
  exact of_follow id m turn.next

end SameBut

/-! ### Events about other calls -/

/-- An event makes a call report that it is about, or one that it begins. -/
theorem call_of_report {e : Event τ} {r : Report τ} (hr : (m.step e).2 = some r) :
    e.call? = some r.call ∨ r.call = m.begun := by
  cases prompts_of_step hr with
  | begins request => exact .inr rfl
  | _ => exact .inl rfl

/-- A call that has begun stays where it stands at an event that is not about it. -/
theorem stage?_step_of_ne (hid : id < m.begun) {e : Event τ} (he : e.call? ≠ some id) :
    (m.step e).1.stage? id = m.stage? id := by
  rcases m.step_call_cases e id with ⟨hstage, -⟩ | ⟨rfl, -⟩ | ⟨stage, turn, -, -, -, -, hreport⟩
  · exact hstage
  · exact absurd hid (Nat.lt_irrefl _)
  · rcases call_of_report hreport with hown | hnew
    · exact absurd hown he
    · exact absurd hnew (Nat.ne_of_lt hid)

/-! ### One more event in both runs -/

section alike

variable {events events' : List (Event τ)}

/-- Two runs that differ in one call, in where it stands and in what it reports. -/
def AlikeBut (id : Nat) (m : Machine τ) (events events' : List (Event τ)) : Prop :=
  (m.run events).1.SameBut id (m.run events').1 ∧
    reportsBut id (m.run events).2 = reportsBut id (m.run events').2

/-- An event about the call may come in one run only, if all it changes is where the call stands. -/
theorem AlikeBut.concat_own (h : AlikeBut id m events events') {e : Event τ}
    (hidle : ((m.run events).1.step e).1.SameBut id (m.run events).1)
    (hsilent : reportsBut id ((m.run events).1.step e).2.toList = []) :
    AlikeBut id m (events ++ [e]) events' := by
  refine ⟨?_, ?_⟩
  · rw [run_concat]
    exact hidle.trans h.1
  · rw [run_concat, reportsBut_append, hsilent, List.append_nil]
    exact h.2

/-- Any other event comes in both. -/
theorem AlikeBut.concat (h : AlikeBut id m events events') {e : Event τ}
    (he : e.call? ≠ some id) : AlikeBut id m (events ++ [e]) (events' ++ [e]) := by
  obtain ⟨hreport, hsame⟩ := h.1.step he
  refine ⟨?_, ?_⟩
  · rw [run_concat, run_concat]
    exact hsame
  · rw [run_concat, run_concat, reportsBut_append, reportsBut_append, h.2, hreport]

end alike

/-! ### An allocation that is after room -/

/-- **A call that stays after room changes nothing** but where it stands. -/
theorem Moves.idle_of_seeks {live : List Block} (h : m.Sound live) {stage after : Stage τ}
    {turn : Turn τ} (hmove : m.Moves stage turn) (hnext : turn.next = .goOn after)
    (hseeks : after.seeks = true) :
    stage.seeks = true ∧ turn.state = m.state ∧ turn.memory = m.memory := by
  have hleads := hmove.leads
  rw [hnext] at hleads
  cases hleads with
  | missed flags =>
    obtain ⟨-, rfl, -⟩ := h.full_of_missed hmove hnext
    exact ⟨rfl, rfl, rfl⟩
  | sized flags minSize =>
    cases hmove with
    | piece advance => cases advance
    | _ => exact ⟨rfl, rfl, rfl⟩
  | granted flags minSize g =>
    cases hmove with
    | piece advance => cases advance
    | _ => exact ⟨rfl, rfl, rfl⟩
  | reserved => cases hseeks
  | adopted => cases hseeks
  | resolved => cases hseeks

/-- An event after which its call is still after room changes nothing but where the call stands. -/
theorem Sound.same_but_of_seeks {live : List Block} (h : m.Sound live) {e : Event τ}
    (he : e.call? = some id) {after : Stage τ} (stands : (m.step e).1.stage? id = some after)
    (hseeks : after.seeks = true) :
    (∃ before, m.stage? id = some before ∧ before.seeks = true) ∧ (m.step e).1.SameBut id m ∧
      reportsBut id (m.step e).2.toList = [] := by
  rcases m.step_own_cases he with hnone | ⟨before, turn, hbefore, hmove, hmoved⟩
  · rw [hnone] at stands ⊢
    exact ⟨⟨after, stands, hseeks⟩, .refl id m, rfl⟩
  · rw [hmoved] at stands ⊢
    rw [stage?_follow, if_pos rfl] at stands
    have hnext : turn.next = .goOn after := by
      cases hturn : turn.next with
      | goOn stage =>
        rw [hturn] at stands
        exact congrArg Next.goOn (Option.some.inj stands)
      | returned outcome =>
        rw [hturn] at stands
        cases stands
    obtain ⟨hbeforeSeeks, hstate, hmemory⟩ := hmove.idle_of_seeks h hnext hseeks
    exact ⟨⟨before, hbefore, hbeforeSeeks⟩, .of_move hstate hmemory, by simp [reportsBut]⟩

variable {name : String} {c : Config} {events : List (Event τ)}

/-- **A call that is after room leaves no trace.** As long as a call that has begun has come no
further, the run of the events that are not about it ends in the same state, and the other calls
report the same. -/
theorem run_others (created : create name c = .ok m) {stage : Stage τ}
    (stood : (m.run events).1.stage? id = some stage) (more : List (Event τ)) {after : Stage τ}
    (stands : (m.run (events ++ more)).1.stage? id = some after) (hseeks : after.seeks = true) :
    AlikeBut id m (events ++ more) (events ++ others id more) := by
  induction more using List.reverseRecOn generalizing after with
  | nil => exact ⟨.refl id _, rfl⟩
  | append_singleton more e ih =>
    have hbegun : id < (m.run (events ++ more)).1.begun := lt_begun_of_stood created more stood
    rw [← List.append_assoc, run_concat] at stands
    rw [← List.append_assoc]
    by_cases he : e.call? = some id
    · obtain ⟨hsound, -⟩ := reachable_sound created (events ++ more)
      obtain ⟨⟨before, hbefore, hbeforeSeeks⟩, hstep, hsilent⟩ :=
        hsound.same_but_of_seeks he stands hseeks
      rw [others_concat_own he]
      exact (ih hbefore hbeforeSeeks).concat_own hstep hsilent
    · rw [stage?_step_of_ne hbegun he] at stands
      rw [others_concat he, ← List.append_assoc]
      exact (ih stands hseeks).concat he

end Machine

end BusPool.Pool
