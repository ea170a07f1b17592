import DemandPaging.Space.Basic

/-! # How actions end

`Ends` says what an action leaves behind, whether it answers or fails: it is the weakest precondition
of the action for two conditions, one on answers and one on failures. The rules follow the way actions
are put together. A sequence ends as its last part does unless a part before it fails; an attempt turns
a failure into an answer; an action on the machine leaves the space alone. Loops are ruled by a
condition on the items that are still to come.
-/

namespace DemandPaging

/-- Whether `ok` holds of the answer or `fail` of the failure, each with the state left behind. -/
def Ends {ε σ α : Type} (action : EStateM ε σ α) (ok : α → σ → Prop) (fail : ε → σ → Prop)
    (state : σ) : Prop :=
  match action state with
  | .ok answer next => ok answer next
  | .error reason next => fail reason next

section Rules

variable {ε σ α β : Type} {ok : α → σ → Prop} {fail : ε → σ → Prop} {state : σ}

theorem Ends.mono {weaker : α → σ → Prop} {milder : ε → σ → Prop} {action : EStateM ε σ α}
    (ends : Ends action ok fail state) (onOk : ∀ answer next, ok answer next → weaker answer next)
    (onFail : ∀ reason next, fail reason next → milder reason next) :
    Ends action weaker milder state := by
  unfold Ends at *
  cases ran : action state with
  | ok answer next => simp only [ran] at ends ⊢; exact onOk answer next ends
  | error reason next => simp only [ran] at ends ⊢; exact onFail reason next ends

/-- What is known of an action from two sources. -/
theorem Ends.and {also : α → σ → Prop} {besides : ε → σ → Prop} {action : EStateM ε σ α}
    (ends : Ends action ok fail state) (more : Ends action also besides state) :
    Ends action (fun answer next => ok answer next ∧ also answer next)
      (fun reason next => fail reason next ∧ besides reason next) state := by
  unfold Ends at *
  cases ran : action state with
  | ok answer next => simp only [ran] at ends more ⊢; exact ⟨ends, more⟩
  | error reason next => simp only [ran] at ends more ⊢; exact ⟨ends, more⟩

/-- What an action that cannot fail leaves behind, weakened. -/
theorem Ends.sure {weaker : α → σ → Prop} {action : EStateM ε σ α} (ends : Ends action ok (fun _ _ => False) state)
    (onOk : ∀ answer next, ok answer next → weaker answer next) : Ends action weaker fail state :=
  ends.mono onOk fun _ _ never => never.elim

/-- What is said of the answers of an action, weakened. -/
theorem Ends.answers {weaker : α → σ → Prop} {action : EStateM ε σ α} (ends : Ends action ok fail state)
    (onOk : ∀ answer next, ok answer next → weaker answer next) : Ends action weaker fail state :=
  ends.mono onOk fun _ _ failed => failed

/-- What an action leaves behind when it answers. -/
theorem Ends.of_ok {action : EStateM ε σ α} {answer : α} {next : σ} (ends : Ends action ok fail state)
    (answered : action state = .ok answer next) : ok answer next := by
  unfold Ends at ends
  rwa [answered] at ends

/-- What an action leaves behind when it fails. -/
theorem Ends.of_error {action : EStateM ε σ α} {reason : ε} {next : σ} (ends : Ends action ok fail state)
    (failed : action state = .error reason next) : fail reason next := by
  unfold Ends at ends
  rwa [failed] at ends

/-- An action that cannot fail has an answer. -/
theorem Ends.exists_ok {action : EStateM ε σ α} (ends : Ends action ok (fun _ _ => False) state) :
    ∃ answer next, action state = .ok answer next ∧ ok answer next := by
  unfold Ends at ends
  cases ran : action state with
  | ok answer next =>
    rw [ran] at ends
    exact ⟨answer, next, rfl, ends⟩
  | error reason next =>
    rw [ran] at ends
    exact ends.elim

/-- An action that has no answer fails. -/
theorem Ends.exists_error {action : EStateM ε σ α} (ends : Ends action (fun _ _ => False) fail state) :
    ∃ reason next, action state = .error reason next ∧ fail reason next := by
  unfold Ends at ends
  cases ran : action state with
  | ok answer next =>
    rw [ran] at ends
    exact ends.elim
  | error reason next =>
    rw [ran] at ends
    exact ⟨reason, next, rfl, ends⟩

/-- An action ends in one answer exactly if it gives that answer. -/
theorem run_eq_ok_iff_ends {action : EStateM ε σ α} {answer : α} {next : σ} : action state = .ok answer next ↔
    Ends action (fun given left => given = answer ∧ left = next) (fun _ _ => False) state := by
  unfold Ends
  cases action state <;> simp

/-- An action ends as it does. -/
theorem Ends.self (action : EStateM ε σ α) (state : σ) :
    Ends action (fun answer next => action state = .ok answer next)
      (fun reason next => action state = .error reason next) state := by
  unfold Ends
  split
  · next ran => exact ran
  · next ran => exact ran

/-- An action that nothing is asked of. -/
theorem Ends.anyhow {action : EStateM ε σ α} : Ends action (fun _ _ => True) (fun _ _ => True) state := by
  unfold Ends
  split <;> trivial

@[simp] theorem ends_pure (answer : α) : Ends (pure answer : EStateM ε σ α) ok fail state ↔ ok answer state :=
  Iff.rfl

@[simp] theorem ends_throw (reason : ε) :
    Ends (throw reason : EStateM ε σ α) ok fail state ↔ fail reason state := Iff.rfl

@[simp] theorem ends_bind (action : EStateM ε σ β) (next : β → EStateM ε σ α) :
    Ends (action >>= next) ok fail state ↔
      Ends action (fun answer => Ends (next answer) ok fail) fail state := by
  simp only [Ends, bind, EStateM.bind]
  cases action state <;> rfl

@[simp] theorem ends_map (action : EStateM ε σ β) (change : β → α) :
    Ends (change <$> action) ok fail state ↔ Ends action (fun answer => ok (change answer)) fail state := by
  simp only [Ends, Functor.map, EStateM.map]
  cases action state <;> rfl

@[simp] theorem ends_ite (condition : Prop) [Decidable condition] (one other : EStateM ε σ α) :
    Ends (if condition then one else other) ok fail state ↔
      (condition → Ends one ok fail state) ∧ (¬ condition → Ends other ok fail state) := by
  split <;> simp [*]

@[simp] theorem ends_get {ok : σ → σ → Prop} :
    Ends (get : EStateM ε σ σ) ok fail state ↔ ok state state := Iff.rfl

@[simp] theorem ends_modify {ok : Unit → σ → Prop} (change : σ → σ) :
    Ends (modify change : EStateM ε σ Unit) ok fail state ↔ ok () (change state) := Iff.rfl

@[simp] theorem ends_settle (outcome : Except ε α) :
    Ends (settle outcome) ok fail state ↔
      (∀ answer, outcome = .ok answer → ok answer state) ∧
        ∀ reason, outcome = .error reason → fail reason state := by
  cases outcome <;> simp [Ends, settle]

theorem ends_settle_ok (answer : α) :
    Ends (settle (.ok answer) : EStateM ε σ α) ok fail state ↔ ok answer state := Iff.rfl

theorem ends_settle_error (reason : ε) :
    Ends (settle (.error reason) : EStateM ε σ α) ok fail state ↔ fail reason state := Iff.rfl

/-- An outcome that hangs on one condition. -/
theorem ends_settle_ite {condition : Prop} [Decidable condition] {answer : α} {reason : ε} :
    Ends (settle (if condition then .ok answer else .error reason)) ok fail state ↔
      (condition → ok answer state) ∧ (¬ condition → fail reason state) := by
  split <;> simp [*]

@[simp] theorem ends_attempt {ok : Except ε α → σ → Prop} (action : EStateM ε σ α) :
    Ends (attempt action) ok fail state ↔
      Ends action (fun answer => ok (.ok answer)) (fun reason => ok (.error reason)) state := by
  simp only [Ends, attempt]
  cases action state <;> rfl

/-- A loop over a list keeps a condition on the items that are left and never fails. -/
theorem ends_forM (pending : List β → σ → Prop) {action : β → EStateM ε σ PUnit}
    (step : ∀ item rest state, pending (item :: rest) state →
      Ends (action item) (fun _ => pending rest) (fun _ _ => False) state)
    {items : List β} (start : pending items state) :
    Ends (items.forM action) (fun _ => pending []) (fun _ _ => False) state := by
  induction items generalizing state with
  | nil => exact start
  | cons item rest ih =>
    show Ends (action item >>= fun _ => rest.forM action) _ _ state
    rw [ends_bind]
    exact (step item rest state start).sure fun _ _ left => ih left

/-- A fold that stops at a failure keeps a condition on the items that are done. -/
theorem ends_foldlM_upTo (done : List α → β → σ → Prop) (stuck : List α → α → ε → σ → Prop)
    {step : β → α → EStateM ε σ β} {items : List α}
    (advance : ∀ before item after, items = before ++ item :: after → ∀ result state, done before result state →
      Ends (step result item) (fun next => done (before ++ [item]) next) (stuck before item) state)
    {start : β} (holds : done [] start state) :
    Ends (items.foldlM step start) (fun result => done items result)
      (fun reason next => ∃ before item after, items = before ++ item :: after ∧ stuck before item reason next)
      state := by
  -- The items split into those that were done and the rest that the induction is on.
  suffices loop : ∀ rest prior result state, items = prior ++ rest → done prior result state →
      Ends (rest.foldlM step result) (fun result => done items result)
        (fun reason next => ∃ before item after, items = before ++ item :: after ∧ stuck before item reason next)
        state from loop items [] start state rfl holds
  intro rest
  induction rest with
  | nil =>
    intro prior result state split reached
    rw [List.append_nil] at split
    exact split ▸ reached
  | cons item rest ih =>
    intro prior result state split reached
    rw [List.foldlM_cons, ends_bind]
    apply (advance prior item rest split result state reached).mono
    · intro result middle next
      rw [List.append_cons] at split
      exact ih (prior ++ [item]) result middle split next
    · exact fun reason last left => ⟨prior, item, rest, split, left⟩

/-- A fold keeps a condition that each of its steps keeps, and fails as the step that fails. -/
theorem ends_foldlM {invariant : σ → Prop} {step : β → α → EStateM ε σ β}
    {items : List α} (keeps : ∀ item ∈ items, ∀ result state, invariant state →
      Ends (step result item) (fun _ => invariant) fail state) {start : β} (holds : invariant state) :
    Ends (items.foldlM step start) (fun _ => invariant) fail state := by
  apply (ends_foldlM_upTo (fun _ _ => invariant) (fun _ _ => fail) ?_ holds).mono
  · exact fun _ _ kept => kept
  · rintro _ _ ⟨_, _, _, -, failed⟩
    exact failed
  · rintro before item after rfl
    exact keeps item (List.mem_append_right _ List.mem_cons_self)

end Rules

namespace Paging

variable {T α β : Type} {ok : α → Stage T → Prop} {fail : MemoryError → Stage T → Prop} {stage : Stage T}

@[simp] theorem ends_onMachine (action : DeviceAction α) :
    Ends (onMachine action) ok fail stage ↔
      Ends action (fun answer machine => ok answer { stage with toMachine := machine })
        (fun reason machine => fail (.device reason) { stage with toMachine := machine })
        stage.toMachine := by
  simp only [Ends, onMachine]
  cases action stage.toMachine <;> rfl

@[simp] theorem ends_emit {ok : Unit → Stage T → Prop} (event : Event) :
    Ends (emit event) ok fail stage ↔ ok () { stage with log := event :: stage.log } := Iff.rfl

@[simp] theorem ends_geometry {ok : Geometry → Stage T → Prop} :
    Ends geometry ok fail stage ↔ ok stage.devices.geometry stage := Iff.rfl

@[simp] theorem ends_space {ok : Space T → Stage T → Prop} :
    Ends space ok fail stage ↔ ok stage.space stage := Iff.rfl

@[simp] theorem ends_modifySpace {ok : Unit → Stage T → Prop} (change : Space T → Space T) :
    Ends (modifySpace change) ok fail stage ↔ ok () { stage with space := change stage.space } := Iff.rfl

@[simp] theorem ends_lookup [PageTable T] {ok : Entry → Stage T → Prop} (page : Nat) :
    Ends (lookup page) ok fail stage ↔ ok (PageTable.lookup stage.space.table page) stage := Iff.rfl

/-- A write changes the table alone, or it fails and changes nothing. -/
theorem ends_commit [PageTable T] (page : Nat) (written : Except TableError T) :
    Ends (commit page written)
      (fun _ after => ∃ table, written = .ok table ∧ after.devices = stage.devices ∧
        after.space = { stage.space with table })
      (fun _ after => after = stage ∧ ∀ table, written ≠ .ok table) stage := by
  cases written with
  | error refusal => exact ⟨rfl, fun _ => nofun⟩
  | ok table =>
    simp only [commit, ends_bind, ends_space, ends_modifySpace]
    cases PageTable.growth? stage.space.table table page with
    | none => exact ⟨table, rfl, rfl, rfl⟩
    | some event => exact ⟨table, rfl, rfl, rfl⟩

@[simp] theorem ends_reporting {ok : Unit → Stage T → Prop} (action : Paging T β)
    (event : MemoryError → Event) :
    Ends (reporting action event) ok fail stage ↔
      Ends action (fun _ next => ok () next)
        (fun reason next => ok () { next with log := event reason :: next.log }) stage := by
  rw [reporting, ends_bind, ends_attempt]
  rfl

/-- A loop that stops at a failure keeps a condition on the items that are done. -/
theorem ends_eachUntilFailure (done : List α → Stage T → Prop) (stuck : List α → α → MemoryError → Stage T → Prop)
    {action : α → Paging T Unit} {items : List α}
    (step : ∀ before item after, items = before ++ item :: after → ∀ stage, done before stage →
      Ends (action item) (fun _ => done (before ++ [item])) (stuck before item) stage)
    (start : done [] stage) :
    Ends (eachUntilFailure action items)
      (fun result next => (result = (items, none) ∧ done items next) ∨
        ∃ before item after reason, items = before ++ item :: after ∧ result = (before, some (item, reason)) ∧
          stuck before item reason next)
      (fun _ _ => False) stage := by
  -- The items split into those that were done and the rest that the induction is on.
  suffices loop : ∀ rest prior stage, items = prior ++ rest → done prior stage →
      Ends (eachUntilFailure action rest)
        (fun result next => (result = (rest, none) ∧ done items next) ∨
          ∃ before item after reason, rest = before ++ item :: after ∧ result = (before, some (item, reason)) ∧
            stuck (prior ++ before) item reason next)
        (fun _ _ => False) stage from loop items [] stage rfl start
  intro rest
  induction rest with
  | nil =>
    intro prior stage split reached
    rw [List.append_nil] at split
    exact .inl ⟨rfl, split ▸ reached⟩
  | cons item rest ih =>
    intro prior stage split reached
    simp only [eachUntilFailure, ends_bind, ends_attempt]
    apply (step prior item rest split stage reached).mono
    · intro _ middle next
      rw [ends_bind]
      rw [List.append_cons] at split
      apply (ih (prior ++ [item]) middle split next).sure
      rintro _ last (⟨rfl, all⟩ | ⟨before, failed, after, reason, rfl, rfl, left⟩)
      · exact .inl ⟨rfl, all⟩
      · rw [List.append_assoc] at left
        exact .inr ⟨item :: before, failed, after, reason, rfl, rfl, left⟩
    · intro reason last left
      rw [← List.append_nil prior] at left
      exact .inr ⟨[], item, rest, reason, rfl, rfl, left⟩

end Paging

end DemandPaging
