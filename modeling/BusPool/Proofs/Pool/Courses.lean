import BusPool.Proofs.Pool.Events

/-!
# The course of a call

What a call is told to do next, report by report, is its *course*. It goes along the edges between
stages (**`Stage.Leads`**, **`Machine.course_leads`**), and no stage comes twice, because the bound
for what a call still takes falls with every report (**`Course.falling`**). Where more is known of
the moves of a run, courses go along fewer edges (**`Machine.course_run`**).
-/

namespace BusPool.Pool

variable {τ : Type}

/-! ### Edges between stages -/

namespace Stage

/-- Whether the next piece or answer may be a fault: the last ones, after which the call is over
with what it was made for, are none. -/
def canFault : Stage τ → Bool
  | delivering _ _ | syncing _ _ _ _ => false
  | _ => true

/-- What can follow a stage, whatever the state of the pool and the answers of the store. -/
inductive Leads : Stage τ → Next τ → Prop
  /-- The first try reserves a block. -/
  | reserved (flags : AllocFlags) (b : Block) :
    Leads (.reserving flags) (.goOn (.delivering flags b))
  /-- The first try finds no room. -/
  | missed (flags : AllocFlags) : Leads (.reserving flags) (.goOn (.sizing flags))
  /-- The store named its granularity. -/
  | sized (flags : AllocFlags) (minSize : Word) :
    Leads (.sizing flags) (.goOn (.importing flags minSize))
  /-- The store granted a segment. -/
  | granted (flags : AllocFlags) (minSize : Word) (g : Grant τ) :
    Leads (.importing flags minSize) (.goOn (.adopting flags g))
  /-- The store gave none. -/
  | refused (flags : AllocFlags) (minSize : Word) (cause : StoreError) :
    Leads (.importing flags minSize) (.returned (.failed (.store cause)))
  /-- The segment is added and the second try reserves a block. -/
  | adopted (flags : AllocFlags) (g : Grant τ) (b : Block) :
    Leads (.adopting flags g) (.goOn (.delivering flags b))
  /-- The segment is added and the second try finds no room. -/
  | exhausted (flags : AllocFlags) (g : Grant τ) :
    Leads (.adopting flags g) (.returned (.failed .exhausted))
  /-- The block is handed out. -/
  | delivered (flags : AllocFlags) (b : Block) : Leads (.delivering flags b) (.returned (.block b))
  /-- The block is taken back. -/
  | freed (handle : Address) : Leads (.freeing handle) (.returned .done)
  /-- The segment of the block is found. -/
  | resolved (handle : Address) (ops : SyncOps) (token : τ) (offset len : Word) :
    Leads (.resolving handle ops) (.goOn (.syncing token offset len ops))
  /-- The store has maintained the block's part of the segment. -/
  | synced (token : τ) (offset len : Word) (ops : SyncOps) :
    Leads (.syncing token offset len ops) (.returned .done)
  /-- A piece stops at a fault. -/
  | faulted {stage : Stage τ} (f : Fault) (canFault : stage.canFault = true) :
    Leads stage (.returned (.fault f))

/-- How an allocation is to be carried out, for the stages of one. -/
def flags? : Stage τ → Option AllocFlags
  | reserving flags | sizing flags | importing flags _ | adopting flags _ | delivering flags _ =>
    some flags
  | _ => none

/-- A call that goes on goes on with its flags. -/
theorem Leads.flags?_eq {stage after : Stage τ} (h : stage.Leads (.goOn after)) :
    after.flags? = stage.flags? := by
  cases h <;> rfl

/-- No call goes back to where calls start. -/
theorem Leads.ne_start {stage : Stage τ} (request : Request) :
    ¬stage.Leads (.goOn request.start) := by
  cases request <;> exact fun h => nomatch h

/-- Every stage that follows is nearer to the end. -/
theorem Leads.remaining_lt {stage : Stage τ} {next : Next τ} (h : stage.Leads next) :
    next.remaining < stage.remaining := by
  cases h with
  | faulted f canFault => cases stage <;> exact Nat.succ_pos _
  | _ => simp [Next.remaining, remaining]

end Stage

namespace Machine

variable {m : Machine τ}

/-- **Moves follow the edges between stages.** -/
theorem Moves.leads {stage : Stage τ} {turn : Turn τ} (hmove : m.Moves stage turn) :
    stage.Leads turn.next := by
  cases hmove with
  | piece hturn =>
    cases stage with
    | reserving flags =>
      cases hturn
      unfold Stage.reserve
      split
      · exact .reserved _ _
      · exact .missed _
      · exact .faulted _ rfl
    | adopting flags g =>
      cases hturn
      unfold Stage.adopt
      split
      · exact .faulted _ rfl
      · dsimp only
        split
        · exact .adopted _ _ _
        · exact .exhausted _ _
        · exact .faulted _ rfl
    | delivering flags b =>
      cases hturn
      exact .delivered _ _
    | freeing handle =>
      cases hturn
      unfold Stage.free
      split
      · exact .freed _
      · exact .faulted _ rfl
    | resolving handle ops =>
      cases hturn
      unfold Stage.resolve
      cases hlocate : Stage.locate m.name m.config m.state handle ops with
      | ok stage =>
        unfold Stage.locate at hlocate
        simp only [bind_eq_ok_iff] at hlocate
        obtain ⟨-, -, segment, -, offset, -, sum, -, -, -, hstage⟩ := hlocate
        cases hstage
        exact .resolved _ _ _ _ _
      | error f => exact .faulted _ rfl
    | sizing => cases hturn
    | importing => cases hturn
    | syncing => cases hturn
  | sized hnext =>
    obtain ⟨flags, rfl, ⟨minSize, -, rfl⟩ | ⟨f, -, rfl⟩⟩ := Stage.sized?_cases hnext
    · exact .sized _ _
    · exact .faulted _ rfl
  | replied hnext =>
    obtain ⟨flags, minSize, rfl, hcases⟩ := Stage.replied?_cases hnext
    rcases hcases with ⟨g, -, -, -, rfl⟩ | ⟨g, -, -, -, rfl⟩ | ⟨cause, -, -, rfl⟩
    · exact .granted _ _ _
    · exact .faulted _ rfl
    · exact .refused _ _ _
  | acknowledged hnext =>
    rw [Stage.acknowledged?_eq hnext]
    cases stage with
    | syncing => exact .synced _ _ _ _
    | _ => cases hnext

end Machine

namespace Machine

variable {m : Machine τ}

/-- A call that starts has just been made. -/
theorem call_of_started {e : Event τ} {r : Report τ} (hr : (m.step e).2 = some r)
    {request : Request} (hnext : r.next = .goOn request.start) : e = .call request := by
  rcases m.step_cases e with ⟨memory, heq⟩ | ⟨request', he, heq⟩ | ⟨id, stage, turn, -, hmove, heq⟩
  · rw [heq] at hr
    cases hr
  · rw [heq] at hr
    cases hr
    rw [he]
    cases request <;> cases request' <;> cases hnext <;> rfl
  · rw [heq] at hr
    cases hr
    have hleads := hmove.leads
    rw [show turn.next = .goOn request.start from hnext] at hleads
    exact absurd hleads (Stage.Leads.ne_start request)

end Machine

/-! ### Courses -/

/-- A course along edges, and where it leads. -/
inductive Course (edge : Stage τ → Next τ → Prop) : List (Next τ) → Option (Stage τ) → Prop
  /-- The call has not begun. -/
  | idle : Course edge [] none
  /-- The call has begun. -/
  | began (request : Request) : Course edge [.goOn request.start] (some request.start)
  /-- The call has moved on. -/
  | moved {nexts : List (Next τ)} {stage : Stage τ} {next : Next τ}
    (before : Course edge nexts (some stage)) (leads : edge stage next) :
    Course edge (nexts ++ [next]) next.stage?

namespace Course

variable {edge edge' : Stage τ → Next τ → Prop} {nexts : List (Next τ)} {stage : Stage τ}
  {stage? : Option (Stage τ)}

/-- Where a call stands it was told to go. -/
theorem mem_of_stage (h : Course edge nexts (some stage)) : .goOn stage ∈ nexts := by
  generalize hlast : some stage = last at h
  cases h with
  | idle => cases hlast
  | began request =>
    cases hlast
    exact List.mem_singleton_self _
  | @moved nexts _ next before leads =>
    cases next with
    | goOn stage =>
      cases hlast
      exact List.mem_append_right _ (List.mem_singleton_self _)
    | returned outcome => cases hlast

/-- A call in progress was not told that it is over. -/
theorem not_returned (h : Course edge nexts (some stage)) (outcome : Outcome) :
    .returned outcome ∉ nexts := by
  generalize hlast : some stage = last at h
  induction h generalizing stage with
  | idle => exact List.not_mem_nil
  | began request => exact fun h => nomatch List.mem_singleton.1 h
  | @moved nexts before next _ leads ih =>
    cases next with
    | goOn after =>
      rw [List.mem_append, not_or]
      exact ⟨ih rfl, fun h => nomatch List.mem_singleton.1 h⟩
    | returned outcome' => cases hlast

/-- A call has the same flags all along its course. -/
theorem flags?_eq (h : Course Stage.Leads nexts (some stage)) {earlier : Stage τ}
    (hmem : .goOn earlier ∈ nexts) : earlier.flags? = stage.flags? := by
  generalize hlast : some stage = last at h
  induction h generalizing stage with
  | idle => cases hlast
  | began request =>
    cases hlast
    cases List.mem_singleton.1 hmem
    rfl
  | @moved nexts before next _ leads ih =>
    cases next with
    | goOn after =>
      cases hlast
      rcases List.mem_append.1 hmem with hmem | hmem
      · exact (ih hmem rfl).trans leads.flags?_eq.symm
      · cases List.mem_singleton.1 hmem
        rfl
    | returned outcome => cases hlast

/-- **The bound for what a call still takes falls along its course.** -/
theorem falling (h : Course Stage.Leads nexts stage?) :
    (nexts.Pairwise fun earlier later => later.remaining < earlier.remaining) ∧
      ∀ next ∈ nexts, (stage?.elim 0 Stage.remaining) ≤ next.remaining := by
  induction h with
  | idle => exact ⟨.nil, by simp⟩
  | began request =>
    refine ⟨List.pairwise_singleton _ _, ?_⟩
    intro next hnext
    rw [List.mem_singleton.1 hnext]
    exact Nat.le_refl _
  | @moved nexts stage next before leads ih =>
    obtain ⟨hpairs, hlow⟩ := ih
    have hlt := leads.remaining_lt
    have hend : next.stage?.elim 0 Stage.remaining = next.remaining := by cases next <;> rfl
    constructor
    · rw [List.pairwise_append]
      refine ⟨hpairs, List.pairwise_singleton _ _, ?_⟩
      intro earlier hearlier later hlater
      rw [List.mem_singleton.1 hlater]
      exact Nat.lt_of_lt_of_le hlt (hlow earlier hearlier)
    · intro earlier hearlier
      rw [hend]
      rcases List.mem_append.1 hearlier with hearlier | hearlier
      · exact Nat.le_of_lt (Nat.lt_of_lt_of_le hlt (hlow earlier hearlier))
      · exact Nat.le_of_eq (congrArg Next.remaining (List.mem_singleton.1 hearlier).symm)

end Course

/-- What a call was told to do next, report by report. -/
def course (id : Nat) (reports : List (Report τ)) : List (Next τ) :=
  (reports.filter fun r => r.call = id).map Report.next

/-- The course after one more event. -/
theorem course_append (id : Nat) (reports : List (Report τ)) (more : List (Report τ)) :
    course id (reports ++ more) = course id reports ++ course id more := by
  rw [course, List.filter_append, List.map_append]
  rfl

/-- The course of a call that has reported once. -/
@[simp] theorem course_singleton (id : Nat) (records : List Record) (next : Next τ) :
    course id [⟨id, records, next⟩] = [next] := by
  rw [course, List.filter_cons_of_pos (by simp)]
  rfl

/-- What a call was told it was told in a report. -/
theorem mem_course {id : Nat} {reports : List (Report τ)} {next : Next τ} :
    next ∈ course id reports ↔ ∃ r ∈ reports, r.call = id ∧ r.next = next := by
  rw [course, List.mem_map]
  constructor
  · rintro ⟨r, hr, rfl⟩
    obtain ⟨hr, hcall⟩ := List.mem_filter.1 hr
    exact ⟨r, hr, of_decide_eq_true hcall, rfl⟩
  · rintro ⟨r, hr, hcall, rfl⟩
    exact ⟨r, List.mem_filter.2 ⟨hr, decide_eq_true hcall⟩, rfl⟩

namespace Machine

variable {m : Machine τ} {reports : List (Report τ)} {events : List (Event τ)} {id : Nat}

/-- A call that has not begun has no course. -/
theorem Numbered.course_eq_nil (h : m.Numbered reports) (hid : m.begun ≤ id) :
    course id reports = [] := by
  rw [course, List.map_eq_nil_iff, List.filter_eq_nil_iff]
  intro r hr heq
  have hlt := h.reports_lt r hr
  rw [of_decide_eq_true heq] at hlt
  exact Nat.not_le.2 hlt hid

/-- **Every call takes its course.** If all moves of a run go along the edges, the course of a call
does, and it leads to where the call stands. -/
theorem course_run {name : String} {c : Config} (created : create name c = .ok m)
    {edge : Stage τ → Next τ → Prop}
    (hedge : m.Along (fun m' _ _ => ∀ id stage turn, m'.stage? id = some stage →
      m'.Moves stage turn → edge stage turn.next) events) (id : Nat) :
    Course edge (course id (m.run events).2) ((m.run events).1.stage? id) := by
  induction events using List.reverseRecOn with
  | nil =>
    rw [create_eq created]
    exact .idle
  | append_singleton events e ih =>
    obtain ⟨hinit, hlast⟩ := along_concat.1 hedge
    have hcourse := ih hinit
    have hnumbered := numbered_run created events
    rw [run_concat, course_append]
    dsimp only
    rcases (m.run events).1.step_call_cases e id with
      ⟨hstage, hother⟩ | ⟨hid, request, hstage, hreport⟩ |
      ⟨stage, turn, hstage, hmove, -, hafter, hreport⟩
    · have hnone : course id ((m.run events).1.step e).2.toList = [] := by
        rw [course, List.map_eq_nil_iff, List.filter_eq_nil_iff]
        intro r hr hcall
        exact hother r (Option.mem_toList.1 hr) (of_decide_eq_true hcall)
      rw [hnone, List.append_nil, hstage]
      exact hcourse
    · rw [hnumbered.course_eq_nil (Nat.le_of_eq hid.symm), hstage, hreport, Option.toList_some,
        course_singleton]
      exact .began request
    · rw [hstage] at hcourse
      rw [hafter, hreport, Option.toList_some, course_singleton]
      exact hcourse.moved (hlast id stage turn hstage hmove)

/-- The course of a call in any run. -/
theorem course_leads {name : String} {c : Config} (created : create name c = .ok m)
    (events : List (Event τ)) (id : Nat) :
    Course Stage.Leads (course id (m.run events).2) ((m.run events).1.stage? id) := by
  apply course_run created
  intro front e back _ id stage turn _ hmove
  exact hmove.leads

/-- Where a call stands it was told to go. -/
theorem mem_course_of_stage? {name : String} {c : Config} (created : create name c = .ok m)
    {stage : Stage τ} (hstage : (m.run events).1.stage? id = some stage) :
    .goOn stage ∈ course id (m.run events).2 := by
  have hcourse := course_leads created events id
  rw [hstage] at hcourse
  exact hcourse.mem_of_stage

/-- Where a call stood during a run it was told to go. -/
theorem mem_course_of_stood {name : String} {c : Config} (created : create name c = .ok m)
    {front : List (Event τ)} (back : List (Event τ)) {stage : Stage τ}
    (hstage : (m.run front).1.stage? id = some stage) :
    .goOn stage ∈ course id (m.run (front ++ back)).2 := by
  rw [run_append, course_append]
  exact List.mem_append_left _ (mem_course_of_stage? created hstage)

/-- A call that stood somewhere during a run has begun. -/
theorem lt_begun_of_stood {name : String} {c : Config} (created : create name c = .ok m)
    {front : List (Event τ)} (back : List (Event τ)) {stage : Stage τ}
    (hstage : (m.run front).1.stage? id = some stage) : id < (m.run (front ++ back)).1.begun := by
  by_contra hid
  have htold := mem_course_of_stood created back hstage
  rw [(numbered_run created (front ++ back)).course_eq_nil (Nat.not_lt.1 hid)] at htold
  cases htold

/-! ### How much a call still takes -/

/-- A bound for the number of pieces and answers that a call still takes. -/
def left (m : Machine τ) (id : Nat) : Nat := (m.stage? id).elim 0 Stage.remaining

/-- A call that is told what follows takes less than before. -/
theorem Moves.left_lt {stage : Stage τ} {turn : Turn τ} (hmove : m.Moves stage turn) :
    turn.next.stage?.elim 0 Stage.remaining < stage.remaining := by
  have hend : turn.next.stage?.elim 0 Stage.remaining = turn.next.remaining := by
    cases turn.next <;> rfl
  rw [hend]
  exact hmove.leads.remaining_lt

/-- No event makes a call that has begun take more. -/
theorem left_step_le (hid : id < m.begun) (e : Event τ) : (m.step e).1.left id ≤ m.left id := by
  rcases m.step_call_cases e id with
    ⟨hstage, -⟩ | ⟨hnew, -⟩ | ⟨stage, turn, hstage, hmove, -, hafter, -⟩
  · exact Nat.le_of_eq (congrArg (fun stage? => stage?.elim 0 Stage.remaining) hstage)
  · exact absurd hnew (Nat.ne_of_lt hid)
  · rw [left, left, hstage, hafter]
    exact Nat.le_of_lt hmove.left_lt

/-- A call that is over stays over. -/
theorem stage?_step_eq_none (hid : id < m.begun) (hover : m.stage? id = none) (e : Event τ) :
    (m.step e).1.stage? id = none := by
  rcases m.step_call_cases e id with ⟨hsame, -⟩ | ⟨hnew, -⟩ | ⟨stage, turn, hstage, -⟩
  · rw [hsame, hover]
  · exact absurd hnew (Nat.ne_of_lt hid)
  · rw [hover] at hstage
    cases hstage

/-- A call that carries out a piece takes less than before. -/
theorem left_advance_lt {stage : Stage τ} {turn : Turn τ} (hstage : m.stage? id = some stage)
    (hturn : stage.advance? m.name m.config m.state m.memory = some turn) :
    (m.step (.advance id)).1.left id < m.left id := by
  have hafter : (m.step (.advance id)).1.stage? id = turn.next.stage? := by
    rw [step_advance hstage hturn]
    exact (stage?_follow turn.next id).trans (if_pos rfl)
  rw [left, left, hstage, hafter]
  exact (Moves.piece hturn).left_lt

end Machine

end BusPool.Pool
