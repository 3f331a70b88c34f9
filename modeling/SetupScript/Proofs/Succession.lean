import SetupScript.Execution

/-!
# Succession

What becomes of commands that are run one after the other.  A dry run only says what it would start
(`runAll_dryRun`).  A run that keeps going starts every command and answers those that failed
(`runAll_keepGoing`); any other starts the commands up to the first one that fails
(`runAll_cases`).  For a whole plan the three are compared in `Plan.execute_modes`.
-/

namespace SetupScript

namespace Execution

variable {options : Options} {command : String} {commands : List String} {execution : Execution}

/-! ## Starts -/

/-- The exit status of a command, by the number of commands started before it. -/
def statusAt (execution : Execution) (index : Nat) : Int :=
  execution.statuses.getD index 0

/-- The execution when commands were started, one after the other. -/
def started (options : Options) (commands : List String) (execution : Execution) : Execution where
  statuses := execution.statuses.drop commands.length
  starts := execution.starts ++ commands.map (⟨·, options.shell⟩)
  notices := execution.notices ++ commands.map .starting

@[simp]
theorem statusAt_note (execution : Execution) (notice : Notice) (index : Nat) :
    (execution.note notice).statusAt index = execution.statusAt index := rfl

@[simp]
theorem starts_note (execution : Execution) (notice : Notice) :
    (execution.note notice).starts = execution.starts := rfl

@[simp]
theorem starts_started (options : Options) (commands : List String) (execution : Execution) :
    (execution.started options commands).starts =
      execution.starts ++ commands.map (⟨·, options.shell⟩) := rfl

@[simp]
theorem started_nil (options : Options) (execution : Execution) :
    execution.started options [] = execution := by
  simp [started]

/-- Commands that were started leave the exit statuses of those that follow. -/
@[simp]
theorem statusAt_started (options : Options) (commands : List String) (execution : Execution)
    (index : Nat) :
    (execution.started options commands).statusAt index =
      execution.statusAt (commands.length + index) := by
  simp [statusAt, started, List.getD_eq_getElem?_getD]

/-- When a command was started, the exit statuses are those of the commands behind it. -/
theorem statusAt_started_singleton (options : Options) (command : String) (execution : Execution)
    (index : Nat) :
    (execution.started options [command]).statusAt index = execution.statusAt (index + 1) := by
  rw [statusAt_started, List.length_singleton, Nat.add_comm]

/-- Starting some commands and then others is starting them all. -/
theorem started_append (options : Options) (first second : List String) (execution : Execution) :
    (execution.started options first).started options second =
      execution.started options (first ++ second) := by
  simp [started]

theorem headD_statuses (execution : Execution) :
    execution.statuses.headD 0 = execution.statusAt 0 := by
  unfold statusAt
  cases execution.statuses <;> rfl

/-- A command that is not run dry is started. -/
theorem runCommand_eq (wet : options.dryRun = false) (command : String) (execution : Execution) :
    runCommand options command execution =
      (execution.statusAt 0, execution.started options [command]) := by
  rw [runCommand, wet, if_neg Bool.false_ne_true, start, ← headD_statuses]
  simp [started, note]

/-! ## Dry runs -/

/-- A dry run starts nothing, fails nowhere, and names the commands in order. -/
theorem runAll_dryRun (dry : options.dryRun = true) (commands : List String)
    (execution : Execution) :
    runAll options commands execution =
      (.ok [], { execution with
        notices := execution.notices ++ commands.map .wouldStart }) := by
  induction commands generalizing execution with
  | nil => simp [runAll]
  | cons command commands ih =>
    have first : runCommand options command execution =
        (0, execution.note (.wouldStart command)) := by
      rw [runCommand, dry, if_pos rfl]
    simp only [runAll, first, if_true]
    rw [ih]
    simp [note]

/-! ## Runs that stop at a failure -/

/-- A command that succeeds is followed by the others. -/
theorem runAll_cons_of_success (wet : options.dryRun = false) (success : execution.statusAt 0 = 0) :
    runAll options (command :: commands) execution =
      runAll options commands (execution.started options [command]) := by
  rw [runAll, runCommand_eq wet]
  exact if_pos success

/-- A run that does not keep going starts every command if none fails, and otherwise the commands up
to the first one that does. -/
theorem runAll_cases (wet : options.dryRun = false) (stops : options.keepGoing = false)
    (commands : List String) (execution : Execution) :
    ((∀ index < commands.length, execution.statusAt index = 0) ∧
        runAll options commands execution = (.ok [], execution.started options commands)) ∨
      ∃ before command after, commands = before ++ command :: after ∧
        (∀ index < before.length, execution.statusAt index = 0) ∧
        execution.statusAt before.length ≠ 0 ∧
        runAll options commands execution =
          (.error ⟨command, execution.statusAt before.length⟩,
            execution.started options (before ++ [command])) := by
  induction commands generalizing execution with
  | nil =>
    refine Or.inl ⟨fun index bound => absurd bound (Nat.not_lt_zero index), ?_⟩
    rw [started_nil]
    rfl
  | cons command commands ih =>
    by_cases success : execution.statusAt 0 = 0
    · have shift := execution.statusAt_started_singleton options command
      have successes {count : Nat}
          (others : ∀ index < count, (execution.started options [command]).statusAt index = 0) :
          ∀ index < count + 1, execution.statusAt index = 0 := by
        intro index bound
        cases index with
        | zero => exact success
        | succ index => exact shift index ▸ others index (Nat.lt_of_succ_lt_succ bound)
      rw [runAll_cons_of_success wet success]
      rcases ih (execution.started options [command]) with
        ⟨others, ran⟩ | ⟨before, failing, after, rfl, others, failure, ran⟩
      · refine Or.inl ⟨successes others, ?_⟩
        rw [ran, started_append, List.singleton_append]
      · rw [shift] at failure ran
        refine Or.inr ⟨command :: before, failing, after, rfl, successes others, failure, ?_⟩
        rw [ran, started_append]
        rfl
    · refine Or.inr ⟨[], command, commands, rfl,
        fun index bound => absurd bound (Nat.not_lt_zero index), success, ?_⟩
      simp only [runAll, runCommand_eq wet, if_neg success, stops]
      rfl

/-! ## Runs that keep going -/

/-- The commands that fail if all are started. -/
def failing (execution : Execution) (commands : List String) : List String :=
  (commands.zipIdx.filter fun entry => execution.statusAt entry.2 ≠ 0).map Prod.fst

theorem failing_cons (command : String) (commands : List String) (execution : Execution)
    {reached : Execution}
    (shift : ∀ index, reached.statusAt index = execution.statusAt (index + 1)) :
    execution.failing (command :: commands) =
      if execution.statusAt 0 = 0 then reached.failing commands
      else command :: reached.failing commands := by
  have others : ((commands.zipIdx 1).filter fun entry => execution.statusAt entry.2 ≠ 0).map
      Prod.fst = reached.failing commands := by
    rw [List.zipIdx_succ, List.filter_map, List.map_map, failing]
    simp only [shift]
    rfl
  rw [failing, List.zipIdx_cons]
  split
  · rename_i success
    rw [List.filter_cons_of_neg (by simpa using success)]
    exact others
  · rename_i failure
    rw [List.filter_cons_of_pos (by simpa using failure)]
    exact congrArg (command :: ·) others

/-- No command fails exactly if all their exit statuses are zero. -/
theorem failing_eq_nil_iff (execution : Execution) (commands : List String) :
    execution.failing commands = [] ↔
      ∀ index < commands.length, execution.statusAt index = 0 := by
  rw [failing, List.map_eq_nil_iff, List.filter_eq_nil_iff]
  constructor
  · intro none index bound
    have member : (commands[index], index) ∈ commands.zipIdx := by
      rw [List.mem_zipIdx_iff_getElem?]
      exact List.getElem?_eq_getElem bound
    simpa using none _ member
  · rintro successes ⟨command, index⟩ member
    rw [List.mem_zipIdx_iff_getElem?] at member
    obtain ⟨bound, _⟩ := List.getElem?_eq_some_iff.1 member
    simpa using successes index bound

/-- A run that keeps going starts every command and answers those that failed. -/
theorem runAll_keepGoing (wet : options.dryRun = false) (keeps : options.keepGoing = true)
    (commands : List String) (execution : Execution) :
    (runAll options commands execution).1 = .ok (execution.failing commands) ∧
      (runAll options commands execution).2.starts =
        execution.starts ++ commands.map (⟨·, options.shell⟩) := by
  induction commands generalizing execution with
  | nil => exact ⟨rfl, (List.append_nil _).symm⟩
  | cons command commands ih =>
    have shift := execution.statusAt_started_singleton options command
    by_cases success : execution.statusAt 0 = 0
    · obtain ⟨result, starts⟩ := ih (execution.started options [command])
      rw [runAll_cons_of_success wet success, failing_cons command commands execution shift,
        if_pos success, result, starts, starts_started, List.append_assoc]
      exact ⟨rfl, rfl⟩
    · obtain ⟨result, starts⟩ := ih ((execution.started options [command]).note
        (.continuing (execution.statusAt 0) command))
      have noted (index : Nat) : ((execution.started options [command]).note
          (.continuing (execution.statusAt 0) command)).statusAt index =
            execution.statusAt (index + 1) := by
        rw [statusAt_note, shift]
      rw [failing_cons command commands execution noted, if_neg success]
      simp only [runAll, runCommand_eq wet, if_neg success, keeps, if_true, result, starts]
      rw [starts_note, starts_started, List.append_assoc]
      exact ⟨rfl, rfl⟩

/-! ## Plans -/

/-- Commands of which none fails are all started. -/
theorem runAll_of_successes (wet : options.dryRun = false) (stops : options.keepGoing = false)
    (successes : ∀ index < commands.length, execution.statusAt index = 0) :
    runAll options commands execution = (.ok [], execution.started options commands) := by
  rcases runAll_cases wet stops commands execution with
    ⟨_, ran⟩ | ⟨before, failed, after, rfl, _, failure, _⟩
  · exact ran
  · refine absurd (successes before.length ?_) failure
    rw [List.length_append, List.length_cons]
    omega

/-- The first failure ends a run that does not keep going. -/
theorem runAll_of_failure {before after : List String} (wet : options.dryRun = false)
    (stops : options.keepGoing = false)
    (successes : ∀ index < before.length, execution.statusAt index = 0)
    (failure : execution.statusAt before.length ≠ 0) :
    runAll options (before ++ command :: after) execution =
      (.error ⟨command, execution.statusAt before.length⟩,
        execution.started options (before ++ [command])) := by
  rcases runAll_cases wet stops (before ++ command :: after) execution with
    ⟨all, _⟩ | ⟨front, failed, behind, whole, others, alsoFailure, ran⟩
  · refine absurd (all before.length ?_) failure
    rw [List.length_append, List.length_cons]
    omega
  · have same : before.length = front.length := by
      rcases Nat.lt_trichotomy before.length front.length with less | same | more
      · exact absurd (others _ less) failure
      · exact same
      · exact absurd (successes _ more) alsoFailure
    obtain ⟨rfl, rest⟩ := List.append_inj whole same
    obtain ⟨rfl, _⟩ := List.cons.inj rest
    exact ran

/-- The first command that fails is the first of those that fail. -/
theorem exists_failing_eq_cons {before after : List String}
    (successes : ∀ index < before.length, execution.statusAt index = 0)
    (failure : execution.statusAt before.length ≠ 0) :
    ∃ others, execution.failing (before ++ command :: after) = command :: others := by
  have none := List.map_eq_nil_iff.1 ((failing_eq_nil_iff execution before).2 successes)
  rw [failing, List.zipIdx_append, List.filter_append, none, List.nil_append, List.zipIdx_cons,
    List.filter_cons_of_pos (by simpa using failure)]
  exact ⟨_, rfl⟩

end Execution

/-- A plan is executed in three modes.  Run dry, it starts nothing and succeeds, be it told to keep
going or not.  Told to keep going, it starts every command in the given shell and answers those that
failed, in order.  Otherwise it starts the commands up to the first that fails, which it reports
with its exit status; it does so exactly if keeping going answers some command, and reports the
first of them. -/
theorem Plan.execute_modes (plan : Plan) (shell : String) (execution : Execution) :
    (∀ keepGoing,
      (plan.execute ⟨true, keepGoing, shell⟩ execution).1 = .ok [] ∧
      (plan.execute ⟨true, keepGoing, shell⟩ execution).2.starts = execution.starts) ∧
    ((plan.execute ⟨false, true, shell⟩ execution).1 = .ok (execution.failing plan.commands) ∧
      (plan.execute ⟨false, true, shell⟩ execution).2.starts =
        execution.starts ++ plan.commands.map (⟨·, shell⟩)) ∧
    ((∀ index < plan.commands.length, execution.statusAt index = 0) →
      (plan.execute ⟨false, false, shell⟩ execution).1 = .ok [] ∧
      (plan.execute ⟨false, false, shell⟩ execution).2.starts =
        execution.starts ++ plan.commands.map (⟨·, shell⟩)) ∧
    (∀ before command after, plan.commands = before ++ command :: after →
      (∀ index < before.length, execution.statusAt index = 0) →
      execution.statusAt before.length ≠ 0 →
        (plan.execute ⟨false, false, shell⟩ execution).1 =
          .error ⟨command, execution.statusAt before.length⟩ ∧
        (plan.execute ⟨false, false, shell⟩ execution).2.starts =
          execution.starts ++ (before ++ [command]).map (⟨·, shell⟩)) ∧
    ∀ command,
      (∃ status, (plan.execute ⟨false, false, shell⟩ execution).1 = .error ⟨command, status⟩) ↔
        ∃ others, (plan.execute ⟨false, true, shell⟩ execution).1 = .ok (command :: others) := by
  let announced := execution.note (.executing plan.commands.length plan.filename)
  refine ⟨fun keepGoing => ?_, Execution.runAll_keepGoing rfl rfl plan.commands announced,
    fun successes => ?_, fun before command after whole successes failure => ?_,
    fun command => ?_⟩
  · rw [Plan.execute, Execution.runAll_dryRun rfl]
    exact ⟨rfl, rfl⟩
  · have ran := @Execution.runAll_of_successes ⟨false, false, shell⟩ plan.commands announced rfl rfl
      successes
    rw [Plan.execute, ran]
    exact ⟨rfl, rfl⟩
  · have ran := @Execution.runAll_of_failure ⟨false, false, shell⟩ command announced before after
      rfl rfl successes failure
    rw [← whole] at ran
    rw [Plan.execute, ran]
    exact ⟨rfl, rfl⟩
  · obtain ⟨kept, _⟩ := @Execution.runAll_keepGoing ⟨false, true, shell⟩ rfl rfl plan.commands
      announced
    rcases @Execution.runAll_cases ⟨false, false, shell⟩ rfl rfl plan.commands announced with
      ⟨successes, ran⟩ | ⟨before, failed, after, whole, successes, failure, ran⟩
    · have none := (Execution.failing_eq_nil_iff announced plan.commands).2 successes
      rw [Plan.execute, Plan.execute, ran, kept, none]
      exact ⟨nofun, nofun⟩
    · obtain ⟨others, first⟩ := @Execution.exists_failing_eq_cons failed announced before after
        successes failure
      rw [← whole] at first
      rw [Plan.execute, Plan.execute, ran, kept, first]
      constructor
      · rintro ⟨status, same⟩
        cases same
        exact ⟨others, rfl⟩
      · rintro ⟨others, same⟩
        cases same
        exact ⟨_, rfl⟩

/-- A command that is given twice and fails once, behind one that is killed. -/
theorem Plan.execute_modes_repeated :
    ((Plan.execute ⟨"f", ["a", "b", "a"], .empty⟩ ⟨false, true, "sh"⟩ ⟨[0, -9, 1], [], []⟩).1 =
        .ok ["b", "a"]) ∧
      (Plan.execute ⟨"f", ["a", "b", "a"], .empty⟩ ⟨false, false, "sh"⟩ ⟨[0, -9, 1], [], []⟩).1 =
        .error ⟨"b", -9⟩ ∧
      (Plan.execute ⟨"f", ["a", "b", "a"], .empty⟩ ⟨false, false, "sh"⟩
        ⟨[0, -9, 1], [], []⟩).2.starts = [⟨"a", "sh"⟩, ⟨"b", "sh"⟩] := by
  obtain ⟨_, ⟨kept, _⟩, _, stopped, _⟩ :=
    Plan.execute_modes ⟨"f", ["a", "b", "a"], .empty⟩ "sh" ⟨[0, -9, 1], [], []⟩
  obtain ⟨failed, started⟩ := stopped ["a"] "b" ["a"] rfl (by decide) (by decide)
  exact ⟨kept, failed, started⟩

end SetupScript
