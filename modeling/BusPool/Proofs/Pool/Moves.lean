import BusPool.Pool.Machine

/-!
# Moves of a machine

What one event can do, said once (**`Machine.step_cases`**): it changes nothing but the local
memory, it begins a call, or it moves one call in progress on from its stage. A call moves on by a
piece of its own or by an answer of the store (**`Machine.Moves`**). Whatever holds of all runs is
shown by going through these cases.
-/

namespace BusPool.Pool

variable {τ : Type}

namespace Stage

variable {c : Config} {stage : Stage τ} {next : Next τ}

/-! ### Answers of the store -/

/-- A granularity leads to a request, or to the fault that there is none. -/
theorem sized?_cases {granularity : Word} (h : stage.sized? c granularity = some next) :
    ∃ flags, stage = .sizing flags ∧
      ((∃ minSize, c.growthRequest granularity = .ok minSize ∧
        next = .goOn (.importing flags minSize)) ∨
      ∃ f, c.growthRequest granularity = .error f ∧ next = .returned (.fault f)) := by
  cases stage with
  | sizing flags =>
    refine ⟨flags, rfl, ?_⟩
    unfold sized? at h
    cases hgrowth : c.growthRequest granularity with
    | ok minSize =>
      rw [hgrowth] at h
      exact .inl ⟨minSize, rfl, (Option.some.inj h).symm⟩
    | error f =>
      rw [hgrowth] at h
      exact .inr ⟨f, rfl, (Option.some.inj h).symm⟩
  | _ => cases h

/-- A grant is adopted if it is as large as was asked for. -/
theorem replied?_cases {answer : Except StoreError (Grant τ)} {records : List Record}
    (h : stage.replied? answer = some (records, next)) :
    ∃ flags minSize, stage = .importing flags minSize ∧
      ((∃ g, answer = .ok g ∧ minSize ≤ g.len ∧ records = [] ∧ next = .goOn (.adopting flags g)) ∨
      (∃ g, answer = .ok g ∧ ¬minSize ≤ g.len ∧ records = [] ∧
        next = .returned (.fault .shortGrant)) ∨
      ∃ cause, answer = .error cause ∧ records = [.importFailed minSize cause] ∧
        next = .returned (.failed (.store cause))) := by
  cases stage with
  | importing flags minSize =>
    refine ⟨flags, minSize, rfl, ?_⟩
    unfold replied? at h
    cases answer with
    | ok g =>
      dsimp only at h
      split at h
      · rename_i hlen
        cases h
        exact .inl ⟨g, rfl, hlen, rfl, rfl⟩
      · rename_i hshort
        cases h
        exact .inr (.inl ⟨g, rfl, hshort, rfl, rfl⟩)
    | error cause =>
      cases h
      exact .inr (.inr ⟨cause, rfl, rfl, rfl⟩)
  | _ => cases h

/-- A synchronisation is over once the store has done its part. -/
theorem acknowledged?_eq (h : stage.acknowledged? = some next) : next = .returned .done := by
  cases stage with
  | syncing => exact (Option.some.inj h).symm
  | _ => cases h

end Stage

/-- The call in progress that an event is about, if it is about one. -/
def Event.call? : Event τ → Option Nat
  | advance id | granularity id _ | reply id _ | acknowledge id => some id
  | call _ | map _ | write _ _ _ => none

namespace Machine

variable {m : Machine τ} {id : Nat}

/-! ### Moves -/

/-- How a call can go on from a stage, and what that leaves behind. -/
inductive Moves (m : Machine τ) : Stage τ → Turn τ → Prop
  /-- The call carries out a piece. -/
  | piece {stage : Stage τ} {turn : Turn τ}
    (advance : stage.advance? m.name m.config m.state m.memory = some turn) : Moves m stage turn
  /-- The store names its granularity. -/
  | sized {stage : Stage τ} {granularity : Word} {next : Next τ}
    (answered : stage.sized? m.config granularity = some next) :
    Moves m stage ⟨m.state, m.memory, [], next⟩
  /-- The store grants a segment or gives none. -/
  | replied {stage : Stage τ} {answer : Except StoreError (Grant τ)} {records : List Record}
    {next : Next τ} (answered : stage.replied? answer = some (records, next)) :
    Moves m stage ⟨m.state, m.memory, records, next⟩
  /-- The store has done its part of a synchronisation. -/
  | acknowledged {stage : Stage τ} {next : Next τ}
    (answered : stage.acknowledged? = some next) : Moves m stage ⟨m.state, m.memory, [], next⟩

/-- A call that can carry out a piece goes on by it. -/
theorem Moves.eq_of_advance {stage : Stage τ} {turn turn' : Turn τ} (hmove : m.Moves stage turn)
    (hturn : stage.advance? m.name m.config m.state m.memory = some turn') : turn = turn' := by
  cases hmove with
  | piece advance => exact Option.some.inj (advance.symm.trans hturn)
  | sized answered =>
    obtain ⟨flags, rfl, -⟩ := Stage.sized?_cases answered
    cases hturn
  | replied answered =>
    obtain ⟨flags, minSize, rfl, -⟩ := Stage.replied?_cases answered
    cases hturn
  | acknowledged answered =>
    cases stage with
    | syncing => cases hturn
    | _ => cases answered

/-- A stage that is looked up is one of a call in progress. -/
theorem mem_of_stage? {stage : Stage τ} (h : m.stage? id = some stage) : (id, stage) ∈ m.calls := by
  obtain ⟨front, back, hsplit, -⟩ := List.lookup_eq_some_iff.1 h
  rw [hsplit]
  exact List.mem_append_right _ List.mem_cons_self

/-! ### What follows a piece -/

/-- What follows a piece leaves the parameters alone. -/
@[simp] theorem follow_config (next : Next τ) : (m.follow id next).config = m.config := by
  cases next <;> rfl

/-- What follows a piece leaves the state alone. -/
@[simp] theorem follow_state (next : Next τ) : (m.follow id next).state = m.state := by
  cases next <;> rfl

/-- The calls in progress after a piece: the one that goes on, and others that were before. -/
theorem mem_follow_calls {next : Next τ} {call : Nat × Stage τ}
    (h : call ∈ (m.follow id next).calls) :
    (call.1 = id ∧ next = .goOn call.2) ∨ call ∈ m.calls := by
  cases next with
  | goOn stage =>
    rcases List.mem_cons.1 h with rfl | h
    · exact .inl ⟨rfl, rfl⟩
    · exact .inr ((List.mem_filter.1 h).1)
  | returned outcome => exact .inr ((List.mem_filter.1 h).1)

/-! ### Steps -/

/-- A call that advances carries out the piece of its stage. -/
theorem step_advance {stage : Stage τ} {turn : Turn τ} (hstage : m.stage? id = some stage)
    (hturn : stage.advance? m.name m.config m.state m.memory = some turn) :
    m.step (.advance id) =
      (({ m with state := turn.state, memory := turn.memory } : Machine τ).follow id turn.next,
        some ⟨id, turn.records, turn.next⟩) := by
  unfold step
  simp only [hstage, Option.bind_some, hturn]

/-- The state after a call has advanced is the one that its piece leaves. -/
theorem step_advance_state {stage : Stage τ} {turn : Turn τ} (hstage : m.stage? id = some stage)
    (hturn : stage.advance? m.name m.config m.state m.memory = some turn) :
    (m.step (.advance id)).1.state = turn.state := by
  rw [step_advance hstage hturn]
  exact follow_state _

/-- An event about a call changes nothing, or it moves that call on. -/
theorem step_own_cases (m : Machine τ) {e : Event τ} (he : e.call? = some id) :
    m.step e = (m, none) ∨ ∃ stage turn, m.stage? id = some stage ∧ m.Moves stage turn ∧
      m.step e =
        (({ m with state := turn.state, memory := turn.memory } : Machine τ).follow id turn.next,
          some ⟨id, turn.records, turn.next⟩) := by
  cases e with
  | advance id =>
    cases he
    cases hturn : (m.stage? id).bind (Stage.advance? m.name m.config m.state m.memory) with
    | none => exact .inl (by simp only [step, hturn])
    | some turn =>
      obtain ⟨stage, hstage, hmove⟩ := Option.bind_eq_some_iff.1 hturn
      exact .inr ⟨stage, turn, hstage, .piece hmove, by simp only [step, hturn]⟩
  | granularity id g =>
    cases he
    cases hnext : (m.stage? id).bind (Stage.sized? m.config g) with
    | none => exact .inl (by simp only [step, hnext])
    | some next =>
      obtain ⟨stage, hstage, hmove⟩ := Option.bind_eq_some_iff.1 hnext
      exact .inr ⟨stage, _, hstage, .sized hmove, by simp only [step, hnext]⟩
  | reply id answer =>
    cases he
    cases hnext : (m.stage? id).bind (Stage.replied? answer) with
    | none => exact .inl (by simp only [step, hnext])
    | some turn =>
      obtain ⟨stage, hstage, hmove⟩ := Option.bind_eq_some_iff.1 hnext
      exact .inr ⟨stage, _, hstage, .replied hmove, by simp only [step, hnext]⟩
  | acknowledge id =>
    cases he
    cases hnext : (m.stage? id).bind Stage.acknowledged? with
    | none => exact .inl (by simp only [step, hnext])
    | some next =>
      obtain ⟨stage, hstage, hmove⟩ := Option.bind_eq_some_iff.1 hnext
      exact .inr ⟨stage, _, hstage, .acknowledged hmove, by simp only [step, hnext]⟩
  | call request => cases he
  | map bytes => cases he
  | write p n byte => cases he

/-- **What an event can do.** -/
theorem step_cases (m : Machine τ) (e : Event τ) :
    (∃ memory, m.step e = ({ m with memory }, none)) ∨
    (∃ request : Request, e = .call request ∧
      m.step e = ({ m.follow m.begun (.goOn request.start) with begun := m.begun + 1 },
        some ⟨m.begun, [], .goOn request.start⟩)) ∨
    ∃ id stage turn, m.stage? id = some stage ∧ m.Moves stage turn ∧
      m.step e =
        (({ m with state := turn.state, memory := turn.memory } : Machine τ).follow id turn.next,
          some ⟨id, turn.records, turn.next⟩) := by
  cases he : e.call? with
  | some id =>
    rcases m.step_own_cases he with hnone | ⟨stage, turn, hmoved⟩
    · exact .inl ⟨m.memory, hnone⟩
    · exact .inr (.inr ⟨id, stage, turn, hmoved⟩)
  | none =>
    cases e with
    | call request => exact .inr (.inl ⟨request, rfl, rfl⟩)
    | map bytes => exact .inl ⟨_, rfl⟩
    | write p n byte => exact .inl ⟨_, rfl⟩
    | _ => cases he

/-- No event changes the parameters. -/
theorem step_config (m : Machine τ) (e : Event τ) : (m.step e).1.config = m.config := by
  rcases m.step_cases e with ⟨memory, heq⟩ | ⟨request, -, heq⟩ | ⟨id, stage, turn, -, -, heq⟩
  · rw [heq]
  · rw [heq]
    exact follow_config _
  · rw [heq, follow_config]

/-- No run changes the parameters. -/
theorem run_config (m : Machine τ) (events : List (Event τ)) :
    (m.run events).1.config = m.config := by
  induction events generalizing m with
  | nil => rfl
  | cons e rest ih =>
    show ((m.step e).1.run rest).1.config = m.config
    rw [ih, step_config]

end Machine

end BusPool.Pool
