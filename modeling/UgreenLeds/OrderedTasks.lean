import Mathlib.Data.List.Basic
import Mathlib.Data.List.Forall2

/-!
# Tasks in order, each with a few attempts

A client works through a list of tasks.  It attempts each of them until an
attempt is done or the attempts run out, and gives up at the first task for which
they do.  If every attempt adds a piece to a log, the log of a run consists of one
segment for each task, in order, up to the task that failed.  If the log drives a
device on which a task may be repeated, the run performs a prefix of its tasks.

The task, state and log types are parameters.
-/

namespace OrderedTasks

variable {Task State Item : Type*}

section Run

variable (attempt : Task → State → Bool × State)

/-- Attempt one task until it is done, at most so many times. -/
def tryTask
    (task : Task) :
    (tries : Nat) → State → Bool × State
  | 0, state =>
      (false, state)
  | tries + 1, state =>
      match attempt task state with
      | (true, after) =>
          (true, after)
      | (false, after) =>
          tryTask task tries after

/-- Work through the tasks up to the first one that fails. -/
def runTasks
    (tries : Nat) :
    List Task → State → Bool × State
  | [], state =>
      (true, state)
  | task :: rest, state =>
      match tryTask attempt task tries state with
      | (false, after) =>
          (false, after)
      | (true, after) =>
          runTasks tries rest after

/-- Tasks in two lists are worked through one list after the other. -/
theorem runTasks_append
    (tries : Nat)
    (first second : List Task)
    (state : State) :
    runTasks attempt tries (first ++ second) state =
      match runTasks attempt tries first state with
      | (false, after) =>
          (false, after)
      | (true, after) =>
          runTasks attempt tries second after := by
  induction first generalizing state with
  | nil =>
      rfl
  | cons task rest inductionHypothesis =>
      simp only [List.cons_append, runTasks]
      rcases tryTask attempt task tries state with ⟨_ | _, after⟩
      · rfl
      · exact inductionHypothesis after

end Run

section Log

variable (Missed Done : Task → List Item → Prop)

/-- A segment in which the last of a few attempts is done. -/
def Passes
    (tries : Nat)
    (task : Task)
    (segment : List Item) : Prop :=
  ∃ (misses : List (List Item)) (last : List Item),
    segment = misses.flatten ++ last ∧
      misses.length < tries ∧
      (∀ miss ∈ misses, Missed task miss) ∧
      Done task last

/-- A segment of as many attempts as there may be, none of which is done. -/
def Fails
    (tries : Nat)
    (task : Task)
    (segment : List Item) : Prop :=
  ∃ misses : List (List Item),
    segment = misses.flatten ∧
      misses.length = tries ∧
      ∀ miss ∈ misses, Missed task miss

/-- The segments of a run that has worked through all its tasks. -/
def AllPass
    (tries : Nat)
    (tasks : List Task)
    (segments : List (List Item)) : Prop :=
  List.Forall₂ (Passes Missed Done tries) tasks segments

/-- The segments of a run that has given up at one of its tasks. -/
def GivesUp
    (tries : Nat)
    (tasks : List Task)
    (segments : List (List Item)) : Prop :=
  ∃ before task after passed failed,
    tasks = before ++ task :: after ∧
      segments = passed ++ [failed] ∧
      AllPass Missed Done tries before passed ∧
      Fails Missed tries task failed

variable {Missed Done}

/-- An item of a segment that passes belongs to one of its attempts. -/
theorem Passes.mem
    {tries : Nat}
    {task : Task}
    {segment : List Item}
    (passes : Passes Missed Done tries task segment)
    {item : Item}
    (member : item ∈ segment) :
    ∃ piece,
      item ∈ piece ∧ (Missed task piece ∨ Done task piece) := by
  obtain ⟨misses, last, rfl, -, allMissed, done⟩ := passes
  rcases List.mem_append.mp member with earlier | isLast
  · obtain ⟨piece, isMiss, inPiece⟩ := List.mem_flatten.mp earlier
    exact ⟨piece, inPiece, Or.inl (allMissed piece isMiss)⟩
  · exact ⟨last, isLast, Or.inr done⟩

/-- An item of the segments of passed tasks belongs to one attempt. -/
theorem AllPass.mem
    {tries : Nat}
    {tasks : List Task}
    {segments : List (List Item)}
    (allPass : AllPass Missed Done tries tasks segments)
    {item : Item}
    (member : item ∈ segments.flatten) :
    ∃ task ∈ tasks, ∃ piece,
      item ∈ piece ∧ (Missed task piece ∨ Done task piece) := by
  induction allPass with
  | nil =>
      cases member
  | @cons task segment tasks segments passes _ inductionHypothesis =>
      rw [List.flatten_cons] at member
      rcases List.mem_append.mp member with first | later
      · exact ⟨task, List.mem_cons_self, passes.mem first⟩
      · obtain ⟨other, isTask, piece⟩ := inductionHypothesis later
        exact ⟨other, List.mem_cons_of_mem task isTask, piece⟩

/-- An item of the segments of a run that gave up belongs to one attempt. -/
theorem GivesUp.mem
    {tries : Nat}
    {tasks : List Task}
    {segments : List (List Item)}
    (givesUp : GivesUp Missed Done tries tasks segments)
    {item : Item}
    (member : item ∈ segments.flatten) :
    ∃ task ∈ tasks, ∃ piece,
      item ∈ piece ∧ (Missed task piece ∨ Done task piece) := by
  obtain ⟨before, task, after, passed, failed, rfl, rfl, allPass,
    misses, rfl, -, allMissed⟩ := givesUp
  rw [List.flatten_append] at member
  rcases List.mem_append.mp member with earlier | last
  · obtain ⟨other, isTask, piece⟩ := allPass.mem earlier
    exact ⟨other, List.mem_append_left _ isTask, piece⟩
  · rw [List.flatten_cons, List.flatten_nil, List.append_nil] at last
    obtain ⟨piece, isMiss, inPiece⟩ := List.mem_flatten.mp last
    exact
      ⟨task, List.mem_append_right _ List.mem_cons_self, piece, inPiece,
        Or.inl (allMissed piece isMiss)⟩

variable (Missed Done)

/-- What one attempt adds to the log. -/
structure Logs
    (attempt : Task → State → Bool × State)
    (log : State → List Item) : Prop where
  logged :
    ∀ task state,
      ∃ piece,
        log (attempt task state).2 = log state ++ piece ∧
          ((attempt task state).1 = true → Done task piece) ∧
          ((attempt task state).1 = false → Missed task piece)

variable
  {Missed Done}
  {attempt : Task → State → Bool × State}
  {log : State → List Item}
  (logs : Logs Missed Done attempt log)

include logs

/-- What the attempts of one task add to the log. -/
theorem tryTask_log
    (task : Task)
    (tries : Nat)
    (state : State) :
    ∃ segment,
      log (tryTask attempt task tries state).2 =
          log state ++ segment ∧
        ((tryTask attempt task tries state).1 = true →
          Passes Missed Done tries task segment) ∧
        ((tryTask attempt task tries state).1 = false →
          Fails Missed tries task segment) := by
  induction tries generalizing state with
  | zero =>
      exact
        ⟨[], (List.append_nil _).symm, nofun,
          fun _ => ⟨[], rfl, rfl, nofun⟩⟩
  | succ tries inductionHypothesis =>
      obtain ⟨piece, first, done, missed⟩ := logs.logged task state
      simp only [tryTask]
      generalize attempt task state = result at first done missed ⊢
      rcases result with ⟨_ | _, after⟩
      · obtain ⟨segment, later, passes, fails⟩ :=
          inductionHypothesis after
        refine ⟨piece ++ segment, ?_, ?_, ?_⟩
        · rw [later, first, List.append_assoc]
        · intro ended
          obtain ⟨misses, last, rfl, fewer, allMissed, isDone⟩ :=
            passes ended
          refine
            ⟨piece :: misses, last, ?_, Nat.succ_lt_succ fewer, ?_,
              isDone⟩
          · rw [List.flatten_cons, List.append_assoc]
          · exact List.forall_mem_cons.mpr ⟨missed rfl, allMissed⟩
        · intro ended
          obtain ⟨misses, rfl, count, allMissed⟩ := fails ended
          refine ⟨piece :: misses, rfl, congrArg Nat.succ count, ?_⟩
          exact List.forall_mem_cons.mpr ⟨missed rfl, allMissed⟩
      · refine ⟨piece, first, fun _ => ?_, nofun⟩
        exact
          ⟨[], piece, rfl, Nat.zero_lt_succ tries, nofun, done rfl⟩

/-- The log of a run has one segment for each task, in order. -/
theorem runTasks_log
    (tries : Nat)
    (tasks : List Task)
    (state : State) :
    ∃ segments,
      log (runTasks attempt tries tasks state).2 =
          log state ++ segments.flatten ∧
        ((runTasks attempt tries tasks state).1 = true →
          AllPass Missed Done tries tasks segments) ∧
        ((runTasks attempt tries tasks state).1 = false →
          GivesUp Missed Done tries tasks segments) := by
  induction tasks generalizing state with
  | nil =>
      exact ⟨[], (List.append_nil _).symm, fun _ => .nil, nofun⟩
  | cons task rest inductionHypothesis =>
      obtain ⟨segment, first, passes, fails⟩ :=
        tryTask_log logs task tries state
      simp only [runTasks]
      generalize tryTask attempt task tries state = result
        at first passes fails ⊢
      rcases result with ⟨_ | _, after⟩
      · refine ⟨[segment], by simpa using first, nofun, fun _ => ?_⟩
        exact ⟨[], task, rest, [], segment, rfl, rfl, .nil, fails rfl⟩
      · obtain ⟨segments, later, allPass, givesUp⟩ :=
          inductionHypothesis after
        refine ⟨segment :: segments, ?_, ?_, ?_⟩
        · rw [later, first, List.flatten_cons, List.append_assoc]
        · exact fun ended => .cons (passes rfl) (allPass ended)
        · intro ended
          obtain ⟨before, failing, remaining, passed, failed, rfl, rfl,
            earlier, last⟩ := givesUp ended
          exact
            ⟨task :: before, failing, remaining, segment :: passed,
              failed, rfl, rfl, .cons (passes rfl) earlier, last⟩

end Log

section Device

variable {Device Value : Type*}

/-- What one task does to a value, and the tasks of a list one by one. -/
def performAll
    (perform : Task → Value → Value)
    (tasks : List Task)
    (value : Value) : Value :=
  tasks.foldl (fun value task => perform task value) value

/-- One more task is performed after the others. -/
theorem performAll_concat
    (perform : Task → Value → Value)
    (tasks : List Task)
    (task : Task)
    (value : Value) :
    performAll perform (tasks ++ [task]) value =
      perform task (performAll perform tasks value) := by
  simp [performAll]

/--
A log changes a device piece by piece.  A missed attempt leaves the value that is
read from the device, or performs its task nevertheless; a done attempt performs
it.
-/
structure Drives
    (Missed Done : Task → List Item → Prop)
    (Changes : List Item → Device → Device → Prop)
    (read : Device → Value)
    (perform : Task → Value → Value) : Prop where
  nil :
    ∀ {before after}, Changes [] before after → read after = read before
  append :
    ∀ {first second before after},
      Changes (first ++ second) before after →
      ∃ middle, Changes first before middle ∧ Changes second middle after
  missed :
    ∀ {task piece before after},
      Missed task piece →
      Changes piece before after →
      read after = read before ∨
        read after = perform task (read before)
  done :
    ∀ {task piece before after},
      Done task piece →
      Changes piece before after →
      read after = perform task (read before)
  again :
    ∀ task value, perform task (perform task value) = perform task value

variable
  {Missed Done : Task → List Item → Prop}
  {Changes : List Item → Device → Device → Prop}
  {read : Device → Value}
  {perform : Task → Value → Value}
  (drives : Drives Missed Done Changes read perform)

include drives

/-- Missed attempts of a task perform it or do nothing. -/
theorem Drives.misses
    {task : Task}
    {misses : List (List Item)}
    (allMissed : ∀ miss ∈ misses, Missed task miss)
    {before after : Device}
    (changes : Changes misses.flatten before after) :
    read after = read before ∨
      read after = perform task (read before) := by
  induction misses generalizing before with
  | nil =>
      exact Or.inl (drives.nil changes)
  | cons miss rest inductionHypothesis =>
      obtain ⟨isMissed, others⟩ := List.forall_mem_cons.mp allMissed
      rw [List.flatten_cons] at changes
      obtain ⟨middle, first, later⟩ := drives.append changes
      rcases drives.missed isMissed first with same | performed <;>
        rcases inductionHypothesis others later with kept | again
      · exact Or.inl (kept.trans same)
      · rw [same] at again
        exact Or.inr again
      · exact Or.inr (kept.trans performed)
      · rw [performed, drives.again] at again
        exact Or.inr again

/-- A segment that passes performs its task. -/
theorem Drives.passes
    {tries : Nat}
    {task : Task}
    {segment : List Item}
    (passes : Passes Missed Done tries task segment)
    {before after : Device}
    (changes : Changes segment before after) :
    read after = perform task (read before) := by
  obtain ⟨misses, last, rfl, -, allMissed, isDone⟩ := passes
  obtain ⟨middle, earlier, final⟩ := drives.append changes
  have performed := drives.done isDone final
  rcases drives.misses allMissed earlier with same | already
  · rw [performed, same]
  · rw [performed, already, drives.again]

/-- A run that has worked through its tasks has performed all of them. -/
theorem Drives.allPass
    {tries : Nat}
    {tasks : List Task}
    {segments : List (List Item)}
    (allPass : AllPass Missed Done tries tasks segments)
    {before after : Device}
    (changes : Changes segments.flatten before after) :
    read after = performAll perform tasks (read before) := by
  induction allPass generalizing before with
  | nil =>
      exact drives.nil changes
  | cons passes _ inductionHypothesis =>
      rw [List.flatten_cons] at changes
      obtain ⟨middle, first, later⟩ := drives.append changes
      rw [inductionHypothesis later, drives.passes passes first]
      rfl

/--
A run that has given up has performed the tasks before the one that failed, and
perhaps that one, too.
-/
theorem Drives.givesUp
    {tries : Nat}
    {tasks : List Task}
    {segments : List (List Item)}
    (givesUp : GivesUp Missed Done tries tasks segments)
    {before after : Device}
    (changes : Changes segments.flatten before after) :
    ∃ performed failed remaining,
      tasks = performed ++ failed :: remaining ∧
        (read after = performAll perform performed (read before) ∨
          read after =
            performAll perform (performed ++ [failed])
              (read before)) := by
  obtain ⟨performed, failed, remaining, passed, last, rfl, rfl, allPass,
    misses, rfl, -, allMissed⟩ := givesUp
  rw [List.flatten_append, List.flatten_cons, List.flatten_nil,
    List.append_nil] at changes
  obtain ⟨middle, earlier, final⟩ := drives.append changes
  have reached := drives.allPass allPass earlier
  refine ⟨performed, failed, remaining, rfl, ?_⟩
  rw [performAll_concat, ← reached]
  exact drives.misses allMissed final

end Device

end OrderedTasks
