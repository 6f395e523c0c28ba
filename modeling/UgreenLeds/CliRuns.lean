import UgreenLeds.CliMain
import UgreenLeds.OrderedTasks
import Mathlib.Data.List.ProdSigma

/-!
# What a run of the command-line tool transmits

The nested loops of `main` work through the pairs of an LED and an operation as a
client works through a list of tasks.  Parsing only reads.  So the log of a run is
the log of its parsing phase, followed by one segment for each pair in LED-major
order, up to the pair that fails.
-/

namespace UgreenLeds

namespace CliLeds

/-- Whether a transfer modifies an LED. -/
def Transfer.isWrite : Transfer → Bool
  | .write _ _ =>
      true
  | _ =>
      false

section Reads

/-- Between two logs nothing has been written. -/
def Reads (before after : Log) : Prop :=
  ∃ reads,
    after = before ++ reads ∧
      ∀ transfer ∈ reads, transfer.isWrite = false

theorem Reads.refl (log : Log) : Reads log log :=
  ⟨[], (List.append_nil log).symm, nofun⟩

theorem Reads.trans
    {before between after : Log}
    (first : Reads before between)
    (second : Reads between after) :
    Reads before after := by
  obtain ⟨earlier, rfl, earlierReads⟩ := first
  obtain ⟨later, rfl, laterReads⟩ := second
  refine ⟨earlier ++ later, List.append_assoc .., ?_⟩
  intro transfer member
  rcases List.mem_append.mp member with isEarlier | isLater
  · exact earlierReads transfer isEarlier
  · exact laterReads transfer isLater

variable
  (transfers : Transfers)
  (led : LedType)
  (log : Log)

theorem readStatus_reads :
    Reads log (readStatus transfers led log).2 := by
  refine ⟨_, rfl, ?_⟩
  intro transfer member
  rw [List.mem_singleton.mp member]
  rfl

theorem retryStatus_reads
    (retries : Nat)
    (data : LedData) :
    Reads log (retryStatus transfers led retries data log).2 := by
  induction retries generalizing data log with
  | zero =>
      exact .refl log
  | succ retries inductionHypothesis =>
      simp only [retryStatus]
      split
      · exact .refl log
      · exact
          (readStatus_reads transfers led log).trans
            (inductionHypothesis _ _)

theorem getStatusRobust_reads :
    Reads log (getStatusRobust transfers led log).2 :=
  (readStatus_reads transfers led log).trans
    (retryStatus_reads transfers led _ _ _)

theorem showLedsInfo_reads (leds : List LedTypePair) :
    Reads log (showLedsInfo transfers leds log) := by
  induction leds generalizing log with
  | nil =>
      exact .refl log
  | cons led rest inductionHypothesis =>
      exact
        (getStatusRobust_reads transfers led.2 log).trans
          (inductionHypothesis _)

theorem availableLeds_reads (leds : List LedTypePair) :
    Reads log (availableLeds transfers leds log).2 := by
  induction leds generalizing log with
  | nil =>
      exact .refl log
  | cons led rest inductionHypothesis =>
      exact
        (getStatusRobust_reads transfers led.2 log).trans
          (inductionHypothesis _)

theorem parseLeds_reads
    (args : List Argument)
    (leds : List LedTypePair) :
    Reads log (parseLeds transfers args leds log).2 := by
  induction args generalizing leds log with
  | nil =>
      exact .refl log
  | cons arg args inductionHypothesis =>
      cases arg with
      | nil =>
          exact .refl log
      | cons first name =>
          simp only [parseLeds]
          split
          · exact .refl log
          · split
            · exact
                (availableLeds_reads transfers log ledNameMap).trans
                  (inductionHypothesis _ _)
            · split
              · exact .refl log
              · exact inductionHypothesis log _

/-- Parsing an argument list modifies nothing. -/
theorem parse_reads (args : List Argument) :
    Reads log (parse transfers args log).2 := by
  have reads := parseLeds_reads transfers log args []
  simp only [parse]
  generalize parseLeds transfers args [] log = result at reads ⊢
  rcases result with ⟨stop | ⟨leds, _ | ⟨option, rest⟩⟩, after⟩
  · exact reads
  · exact reads
  · simp only
    split <;> exact reads

end Reads

section Tries

/-- An LED and an operation on it. -/
abbrev Pair := LedTypePair × Operation

/-- A try that is not passed: a modification that is not acknowledged. -/
def MissedTry
    (pair : Pair)
    (piece : Log) : Prop :=
  pair.2.isModification = true ∧
    match pair.2.frame? pair.1.2 with
    | none =>
        piece = []
    | some frame =>
        (∃ error, piece = [.write frame (some error)]) ∨
          ∃ reply,
            reply ≠ some 1 ∧
              piece = [.write frame none, .readByte 0x80 reply]

/-- A try that is passed: an acknowledged modification, or a query. -/
def DoneTry
    (pair : Pair)
    (piece : Log) : Prop :=
  if pair.2.isModification then
    ∃ frame,
      pair.2.frame? pair.1.2 = some frame ∧
        piece = [.write frame none, .readByte 0x80 (some 1)]
  else
    ∀ transfer ∈ piece, transfer.isWrite = false

variable (transfers : Transfers)

/-- What one pass of the retry loop does for a modification. -/
theorem attempt_of_frame
    {led : LedTypePair}
    {op : Operation}
    {frame : Frame}
    (modifies : op.isModification = true)
    (framed : op.frame? led.2 = some frame)
    (log : Log) :
    attempt transfers led op log =
      match transfers.write log.length with
      | some error =>
          (false, log ++ [.write frame (some error)])
      | none =>
          let reply := transfers.readByte (log.length + 1)
          (reply.getD 0 = 1,
            log ++ [.write frame none, .readByte 0x80 reply]) := by
  simp only [attempt, modifies, framed, ↓reduceIte, writeFrame]
  cases transfers.write log.length with
  | some error =>
      rfl
  | none =>
      simp [isLastModificationSuccessful, readByteData]

/-- One pass of the retry loop as an attempt of a task. -/
def attemptPair
    (pair : Pair)
    (log : Log) : Bool × Log :=
  attempt transfers pair.1 pair.2 log

/-- What one pass of the retry loop adds to the log. -/
theorem attemptPair_logs :
    OrderedTasks.Logs MissedTry DoneTry (attemptPair transfers) id := by
  constructor
  rintro ⟨led, op⟩ log
  simp only [attemptPair, MissedTry, DoneTry, id]
  cases modifies : op.isModification with
  | false =>
      obtain ⟨reads, same, noWrites⟩ :=
        showLedsInfo_reads transfers log [led]
      simp only [attempt, modifies, Bool.false_eq_true, ↓reduceIte]
      exact ⟨reads, same, fun _ => noWrites, nofun⟩
  | true =>
      cases framed : op.frame? led.2 with
      | none =>
          simp only [attempt, modifies, framed, ↓reduceIte]
          exact
            ⟨[], (List.append_nil log).symm, nofun,
              fun _ => ⟨trivial, rfl⟩⟩
      | some frame =>
          rw [attempt_of_frame transfers modifies framed]
          cases transfers.write log.length with
          | some error =>
              exact
                ⟨_, rfl, nofun, fun _ => ⟨rfl, Or.inl ⟨error, rfl⟩⟩⟩
          | none =>
              refine ⟨_, rfl, ?_, ?_⟩
              · intro accepted
                cases reply : transfers.readByte (log.length + 1) with
                | none =>
                    simp [reply] at accepted
                | some byte =>
                    simp only [reply, Option.getD_some,
                      decide_eq_true_eq] at accepted
                    rw [accepted]
                    exact ⟨frame, rfl, rfl⟩
              · intro missed
                refine ⟨rfl, Or.inr ⟨_, ?_, rfl⟩⟩
                intro accepted
                simp [accepted] at missed

end Tries

section Pairs

variable (transfers : Transfers)

/-- The retry loop tries one task. -/
theorem retryOp_eq
    (led : LedTypePair)
    (op : Operation)
    (retries : Nat)
    (log : Log) :
    retryOp transfers led op retries log =
      OrderedTasks.tryTask (attemptPair transfers) (led, op) retries
        log := by
  induction retries generalizing log with
  | zero =>
      rfl
  | succ retries inductionHypothesis =>
      simp only [retryOp, OrderedTasks.tryTask, attemptPair]
      rcases attempt transfers led op log with ⟨_ | _, after⟩
      · exact inductionHypothesis after
      · rfl

/-- The loop over the operations works through the pairs of one LED. -/
theorem runOps_eq
    (led : LedTypePair)
    (ops : List Operation)
    (log : Log) :
    runOps transfers led ops log =
      OrderedTasks.runTasks (attemptPair transfers) maxRetryCount
        (ops.map fun op => (led, op)) log := by
  induction ops generalizing log with
  | nil =>
      rfl
  | cons op ops inductionHypothesis =>
      simp only [runOps, List.map_cons, OrderedTasks.runTasks,
        retryOp_eq]
      rcases OrderedTasks.tryTask (attemptPair transfers) (led, op)
          maxRetryCount log with ⟨_ | _, after⟩
      · rfl
      · exact inductionHypothesis after

/-- The nested loops work through the pairs in LED-major order. -/
theorem runLeds_eq
    (ops : List Operation)
    (leds : List LedTypePair)
    (log : Log) :
    runLeds transfers ops leds log =
      OrderedTasks.runTasks (attemptPair transfers) maxRetryCount
        (leds ×ˢ ops) log := by
  induction leds generalizing log with
  | nil =>
      rfl
  | cons led leds inductionHypothesis =>
      rw [List.product_cons, OrderedTasks.runTasks_append, ← runOps_eq]
      simp only [runLeds]
      rcases runOps transfers led ops log with ⟨_ | _, after⟩
      · rfl
      · exact inductionHypothesis after

end Pairs

/-- What a run of the command-line tool transmits, and how it ends. -/
structure OrderedRun
    (transfers : Transfers)
    (opened : Bool)
    (args : List Argument) : Prop where
  /-- A modification is sent only once every argument has been parsed. -/
  parsedFirst :
    ∀ transfer ∈ (main transfers opened args).2,
      transfer.isWrite = true →
      ∃ leds ops, (parse transfers args []).1 = .ok (leds, some ops)
  /-- The pairs are worked through in order, up to the first that fails. -/
  ordered :
    args ≠ [] →
    opened = true →
    ∀ leds ops,
      (parse transfers args []).1 = .ok (leds, some ops) →
      Reads [] (parse transfers args []).2 ∧
        ∃ segments : List Log,
          (main transfers opened args).2 =
              (parse transfers args []).2 ++ segments.flatten ∧
            ((main transfers opened args).1 = .exited 0 ∧
                OrderedTasks.AllPass MissedTry DoneTry 5
                  (leds ×ˢ ops) segments ∨
              (main transfers opened args).1 = .exited (-1) ∧
                OrderedTasks.GivesUp MissedTry DoneTry 5
                  (leds ×ˢ ops) segments)
  /-- A run that succeeds has had every modification acknowledged. -/
  acknowledged :
    (main transfers opened args).1 = .exited 0 →
    ∀ leds ops,
      args ≠ [] →
      opened = true →
      (parse transfers args []).1 = .ok (leds, some ops) →
      ∀ led ∈ leds, ∀ op ∈ ops,
        op.isModification = true →
        ∃ frame,
          op.frame? led.2 = some frame ∧
            [.write frame none, .readByte 0x80 (some 1)] <:+:
              (main transfers opened args).2

section Main

variable
  (transfers : Transfers)
  (opened : Bool)
  (args : List Argument)

/-- A run that has not parsed any options modifies nothing. -/
theorem main_reads
    (unparsed :
      ∀ leds ops,
        (parse transfers args []).1 ≠ .ok (leds, some ops)) :
    Reads [] (main transfers opened args).2 := by
  have reads := parse_reads transfers [] args
  simp only [main]
  split
  · exact .refl []
  · split
    · exact .refl []
    · generalize parse transfers args [] = result at reads unparsed ⊢
      rcases result with ⟨stop | ⟨leds, _ | ops⟩, after⟩
      · exact reads
      · exact reads.trans (showLedsInfo_reads transfers after leds)
      · exact (unparsed leds ops rfl).elim

/-- The log of a run that has parsed its options. -/
theorem main_ordered
    {args : List Argument}
    (nonempty : args ≠ [])
    {leds : List LedTypePair}
    {ops : List Operation}
    (parsed : (parse transfers args []).1 = .ok (leds, some ops)) :
    ∃ segments : List Log,
      (main transfers true args).2 =
          (parse transfers args []).2 ++ segments.flatten ∧
        ((main transfers true args).1 = .exited 0 ∧
            OrderedTasks.AllPass MissedTry DoneTry 5
              (leds ×ˢ ops) segments ∨
          (main transfers true args).1 = .exited (-1) ∧
            OrderedTasks.GivesUp MissedTry DoneTry 5
              (leds ×ˢ ops) segments) := by
  simp only [main, nonempty, ↓reduceIte, Bool.not_true,
    Bool.false_eq_true]
  generalize parse transfers args [] = result at parsed ⊢
  rcases result with ⟨result, after⟩
  simp only at parsed
  subst parsed
  obtain ⟨segments, logged, allPass, givesUp⟩ :=
    OrderedTasks.runTasks_log (attemptPair_logs transfers)
      maxRetryCount (leds ×ˢ ops) after
  rw [← runLeds_eq] at logged allPass givesUp
  simp only [id] at logged ⊢
  generalize runLeds transfers ops leds after = run
    at logged allPass givesUp ⊢
  rcases run with ⟨_ | _, final⟩
  · exact ⟨segments, logged, Or.inr ⟨rfl, givesUp rfl⟩⟩
  · exact ⟨segments, logged, Or.inl ⟨rfl, allPass rfl⟩⟩

/-- A try writes no frame but that of its operation. -/
theorem frame_of_write
    {pair : Pair}
    {piece : Log}
    (isTry : MissedTry pair piece ∨ DoneTry pair piece)
    {frame : Frame}
    {error : Option Errno}
    (member : .write frame error ∈ piece) :
    pair.2.frame? pair.1.2 = some frame := by
  rcases isTry with ⟨-, missed⟩ | done
  · cases framed : pair.2.frame? pair.1.2 with
    | none =>
        rw [framed] at missed
        simp only at missed
        rw [missed] at member
        cases member
    | some other =>
        rw [framed] at missed
        rcases missed with ⟨_, rfl⟩ | ⟨_, -, rfl⟩
        · simp only [List.mem_singleton, Transfer.write.injEq] at member
          rw [member.1]
        · simp only [List.mem_cons, Transfer.write.injEq, reduceCtorEq,
            List.not_mem_nil, or_false] at member
          rw [member.1]
  · rw [DoneTry] at done
    split at done
    · obtain ⟨other, framed, rfl⟩ := done
      simp only [List.mem_cons, Transfer.write.injEq, reduceCtorEq,
        List.not_mem_nil, or_false] at member
      rw [framed, member.1]
    · have isRead := done _ member
      cases isRead

/-- Every frame a run writes is that of an operation on an LED. -/
theorem main_writes
    {frame : Frame}
    {error : Option Errno}
    (member : .write frame error ∈ (main transfers opened args).2) :
    ∃ leds ops,
      (parse transfers args []).1 = .ok (leds, some ops) ∧
        ∃ led ∈ leds, ∃ op ∈ ops, op.frame? led.2 = some frame := by
  by_cases unparsed :
      ∀ leds ops,
        (parse transfers args []).1 ≠ .ok (leds, some ops)
  · obtain ⟨reads, same, noWrites⟩ :=
      main_reads transfers opened args unparsed
    rw [same, List.nil_append] at member
    have isRead := noWrites _ member
    cases isRead
  · push Not at unparsed
    obtain ⟨leds, ops, parsed⟩ := unparsed
    refine ⟨leds, ops, parsed, ?_⟩
    by_cases runs : args ≠ [] ∧ opened = true
    · obtain ⟨nonempty, rfl⟩ := runs
      obtain ⟨reads, same, noWrites⟩ := parse_reads transfers [] args
      obtain ⟨segments, logged, outcome⟩ :=
        main_ordered transfers nonempty parsed
      rw [logged, same, List.nil_append] at member
      have tried :
          ∃ pair ∈ leds ×ˢ ops, ∃ piece,
            .write frame error ∈ piece ∧
              (MissedTry pair piece ∨ DoneTry pair piece) := by
        rcases List.mem_append.mp member with isRead | written
        · have notWritten := noWrites _ isRead
          cases notWritten
        · rcases outcome with ⟨-, allPass⟩ | ⟨-, givesUp⟩
          · exact allPass.mem written
          · exact givesUp.mem written
      obtain ⟨⟨led, op⟩, isPair, piece, inPiece, isTry⟩ := tried
      obtain ⟨isLed, isOp⟩ := List.mem_product.mp isPair
      exact ⟨led, isLed, op, isOp, frame_of_write isTry inPiece⟩
    · have silent : (main transfers opened args).2 = [] := by
        rw [main]
        by_cases empty : args = []
        · rw [if_pos empty]
        · have closed : opened = false := by
            simpa [empty] using runs
          rw [if_neg empty, closed]
          rfl
      rw [silent] at member
      cases member

/-- In a run that passes, the segment of every task is part of the log. -/
theorem infix_of_allPass
    {pairs : List Pair}
    {segments : List Log}
    (allPass :
      OrderedTasks.AllPass MissedTry DoneTry 5 pairs segments)
    {pair : Pair}
    (member : pair ∈ pairs)
    (modifies : pair.2.isModification = true) :
    ∃ frame,
      pair.2.frame? pair.1.2 = some frame ∧
        [.write frame none, .readByte 0x80 (some 1)] <:+:
          segments.flatten := by
  induction allPass with
  | nil =>
      cases member
  | @cons task segment tasks segments passes _ inductionHypothesis =>
      rcases List.mem_cons.mp member with rfl | later
      · obtain ⟨misses, last, rfl, -, -, done⟩ := passes
        rw [DoneTry, if_pos modifies] at done
        obtain ⟨frame, sent, rfl⟩ := done
        refine ⟨frame, sent, misses.flatten, segments.flatten, ?_⟩
        rw [List.flatten_cons]
      · obtain ⟨frame, sent, isInfix⟩ := inductionHypothesis later
        refine ⟨frame, sent, ?_⟩
        rw [List.flatten_cons]
        exact isInfix.trans (List.suffix_append ..).isInfix

end Main

/--
Every run of the command-line tool parses first, works through the pairs in order
and passes a modification only once it is acknowledged.
-/
theorem main_orderedRun
    (transfers : Transfers)
    (opened : Bool)
    (args : List Argument) :
    OrderedRun transfers opened args where
  parsedFirst := by
    intro transfer member isWrite
    by_contra unparsed
    simp only [not_exists] at unparsed
    obtain ⟨reads, same, noWrites⟩ :=
      main_reads transfers opened args unparsed
    rw [same, List.nil_append] at member
    rw [noWrites transfer member] at isWrite
    cases isWrite
  ordered := by
    rintro nonempty rfl leds ops parsed
    exact
      ⟨parse_reads transfers [] args,
        main_ordered transfers nonempty parsed⟩
  acknowledged := by
    rintro succeeded leds ops nonempty rfl parsed led isLed op isOp
      modifies
    obtain ⟨segments, logged, ⟨-, allPass⟩ | ⟨failed, -⟩⟩ :=
      main_ordered transfers nonempty parsed
    · have member : (led, op) ∈ leds ×ˢ ops :=
        List.mem_product.mpr ⟨isLed, isOp⟩
      obtain ⟨frame, sent, isInfix⟩ :=
        infix_of_allPass allPass member modifies
      refine ⟨frame, sent, ?_⟩
      rw [logged]
      exact isInfix.trans (List.suffix_append ..).isInfix
    · rw [failed] at succeeded
      cases succeeded

end CliLeds

end UgreenLeds
