import DirectionFinding.Proofs.Monitor.Received

/-!
Sinks that are subscribed before and after the start. A monitor refuses a sink while it holds one of
the same kind, and the loop takes over what is held when it starts. From then on nothing is held, so
a sink that comes later is accepted although no loop will ever feed it. One sink of each kind is
accepted and served exactly if none of the kind is subscribed behind the start.
-/
namespace DirectionFinding

inductive SinkKind where
  | reports
  | raw
  deriving DecidableEq

def SinkKind.refusal : SinkKind → ArgumentFault
  | reports => .secondReportSink
  | raw => .secondRawSink

def ReportSink.isFile : ReportSink → Bool
  | queue _ => false
  | file _ _ => true

/-- Calls to a monitor that has not been stopped. Whoever subscribes a recording creates its file
beforehand. -/
inductive MonitorCall where
  | subscribeReports (sink : ReportSink)
  | createRecording (destination : Destination)
  | subscribeRecording
  | start (print : Bool)

namespace MonitorCall

def sinkKind : MonitorCall → Option SinkKind
  | subscribeReports _ => some .reports
  | subscribeRecording => some .raw
  | _ => none

def starts : MonitorCall → Bool
  | start _ => true
  | _ => false

private theorem exists_start {c : MonitorCall} (starts : c.starts = true) :
    ∃ print, c = .start print := by
  cases c with
  | start print => exact ⟨print, rfl⟩
  | subscribeReports sink => cases starts
  | createRecording destination => cases starts
  | subscribeRecording => cases starts

/-- No sink of a kind is subscribed behind the start. -/
def SubscribesFirst (kind : SinkKind) (calls : List MonitorCall) : Prop :=
  ∀ call ∈ calls.dropWhile (!·.starts), call.sinkKind ≠ some kind

instance (kind : SinkKind) (calls : List MonitorCall) : Decidable (SubscribesFirst kind calls) :=
  inferInstanceAs (Decidable (∀ call ∈ _, _))

theorem SubscribesFirst.behind {kind : SinkKind} {before later : List MonitorCall}
    (quiet : ∀ call ∈ before, call.starts = false)
    (first : SubscribesFirst kind (before ++ later)) :
    SubscribesFirst kind later := by
  rwa [SubscribesFirst, List.dropWhile_append_of_pos fun call member => by simp [quiet call member]]
    at first

theorem SubscribesFirst.quiet {kind : SinkKind} {before later : List MonitorCall}
    {second : MonitorCall} (first : SubscribesFirst kind (before ++ second :: later))
    (same : second.sinkKind = some kind) : ∀ call ∈ before, call.starts = false := by
  induction before with
  | nil => simp
  | cons call before ih =>
    cases starts : call.starts with
    | true =>
      have behind := first second
      simp [starts] at behind
      exact absurd same behind
    | false =>
      have rest : SubscribesFirst kind (before ++ second :: later) :=
        SubscribesFirst.behind (List.forall_mem_singleton.mpr starts) first
      simpa [starts] using ih rest

private theorem exists_late {kind : SinkKind} {calls : List MonitorCall} {late : MonitorCall}
    (member : late ∈ calls.dropWhile (!·.starts)) (same : late.sinkKind = some kind) :
    ∃ before print behind, calls = before ++ .start print :: behind ∧
      (∀ call ∈ before, call.starts = false) ∧ late ∈ behind := by
  induction calls with
  | nil => cases member
  | cons call calls ih =>
    cases starts : call.starts with
    | true =>
      obtain ⟨print, rfl⟩ := exists_start starts
      refine ⟨[], print, calls, rfl, by simp, ?_⟩
      rcases List.mem_cons.mp member with rfl | member
      · cases same
      · exact member
    | false =>
      rw [List.dropWhile_cons_of_pos (by simpa using starts)] at member
      obtain ⟨before, print, behind, split, quiet, inside⟩ := ih member
      refine ⟨call :: before, print, behind, by rw [split]; rfl, ?_, inside⟩
      exact List.forall_mem_cons.mpr ⟨starts, quiet⟩

end MonitorCall

namespace Monitor

def holds (m : Monitor) : SinkKind → Bool
  | .reports => m.reportSink.isSome
  | .raw => m.rawSink

/-- The sinks that the loop has taken over, or those that it will if it starts now. -/
def fed (m : Monitor) : LoopSinks :=
  m.loop.getD ⟨m.reportSink, m.rawSink⟩

/-- A sink that was subscribed is one that the loop feeds. If it is a file, it is the one whose
writer is waited for. -/
def Serves (m : Monitor) : MonitorCall → Prop
  | .subscribeReports sink =>
    m.fed.reports = some sink ∧ (sink.isFile = true → m.writer = some sink)
  | .subscribeRecording => m.fed.raw = true
  | _ => True

private theorem Serves.of_frame {m later : Monitor} {first : MonitorCall} {kind : SinkKind}
    (serves : m.Serves first) (same : first.sinkKind = some kind)
    (reports : kind = .reports → later.fed.reports = m.fed.reports ∧ later.writer = m.writer)
    (raw : kind = .raw → later.fed.raw = m.fed.raw) : later.Serves first := by
  cases first with
  | subscribeReports sink =>
    cases same
    obtain ⟨fed, writer⟩ := reports rfl
    rwa [Serves, fed, writer]
  | subscribeRecording =>
    cases same
    rwa [Serves, raw rfl]
  | createRecording destination => trivial
  | start print => trivial

theorem Serves.held {m earlier : Monitor} {first : MonitorCall} {kind : SinkKind}
    (serves : m.Serves first) (same : first.sinkKind = some kind)
    (taken : m.loop = some ⟨earlier.reportSink, earlier.rawSink⟩) : earlier.holds kind = true := by
  have given : m.fed = ⟨earlier.reportSink, earlier.rawSink⟩ := by rw [fed, taken]; rfl
  cases first with
  | subscribeReports sink =>
    cases same
    have reports := serves.1
    rw [given] at reports
    exact Option.isSome_of_mem reports
  | subscribeRecording =>
    cases same
    rwa [Serves, given] at serves
  | createRecording destination => cases same
  | start print => cases same

theorem openSink_frame (m : Monitor) (sink : ReportSink) :
    ∃ shown received file, m.openSink sink = { m with
      shown := shown
      received := received
      file := file
      writer := if sink.isFile then some sink else m.writer } := by
  cases sink with
  | queue receiver =>
    simp only [openSink, ReportSink.isFile]
    split
    · exact ⟨_, _, _, rfl⟩
    · exact ⟨_, _, _, rfl⟩
  | file form opened => cases opened <;> exact ⟨_, _, _, rfl⟩

theorem closeSink_frame (m : Monitor) (sink : ReportSink) (reports : List Report) :
    ∃ shown received file, m.closeSink sink reports = { m with
      shown := shown
      received := received
      file := file } := by
  unfold closeSink
  split
  · split
    · exact ⟨_, _, _, rfl⟩
    · exact ⟨_, _, _, rfl⟩
  · exact ⟨_, _, _, rfl⟩
  · split
    · exact ⟨_, _, _, rfl⟩
    · split <;> exact ⟨_, _, _, rfl⟩

section
variable [Trigonometry]

def call (m : Monitor) : MonitorCall → Located Unit × Monitor
  | .subscribeReports sink => m.subscribeReports sink
  | .createRecording destination => (.ok (), m.createRecording destination)
  | .subscribeRecording => m.subscribeRecording
  | .start print => m.start print

def after (m : Monitor) (calls : List MonitorCall) : Monitor :=
  calls.foldl (fun m call => (m.call call).2) m

theorem after_cons (m : Monitor) (call : MonitorCall) (calls : List MonitorCall) :
    m.after (call :: calls) = (m.call call).2.after calls :=
  rfl

theorem after_append (m : Monitor) (before later : List MonitorCall) :
    m.after (before ++ later) = (m.after before).after later :=
  List.foldl_append

/-- Of the sinks of a kind that are subscribed, the first is accepted at most. Every later one is
refused and changes nothing, and the accepted one is served. -/
structure OneSink (kind : SinkKind) (m : Monitor) (calls : List MonitorCall) : Prop where
  refused : ∀ before first between second later,
    calls = before ++ first :: (between ++ second :: later) →
    first.sinkKind = some kind → second.sinkKind = some kind →
    ((m.after before).call first).1 = .ok () →
    let now := m.after (before ++ first :: between)
    now.call second = (.error (.invalidArgument kind.refusal), now)
  served : ∀ before first later, calls = before ++ first :: later →
    first.sinkKind = some kind → ((m.after before).call first).1 = .ok () →
    (m.after calls).Serves first

variable {m : Monitor} {kind : SinkKind} {c : MonitorCall} {calls : List MonitorCall}

private theorem start_frame {source : BurstSource} {track : Track Phasor}
    (given : m.source = some source)
    (made : (Track.ofMode m.mode : Located (Track Phasor)) = .ok track) (print : Bool) :
    ∃ shown received file recorder, m.start print = (.ok (), { m with
      source := none
      reportSink := none
      rawSink := false
      loop := some ⟨m.reportSink, m.rawSink⟩
      shown := shown
      received := received
      file := file
      recorder := recorder }) := by
  cases sink : m.reportSink with
  | none =>
    simp only [start, given, made, sink]
    exact ⟨_, _, _, _, rfl⟩
  | some sink' =>
    simp only [start, given, made, sink]
    obtain ⟨shown, received, file, closed⟩ := closeSink_frame _ sink' _
    rw [closed]
    exact ⟨_, _, _, _, rfl⟩

private theorem start_refused (spent : m.source = none) (print : Bool) :
    m.start print = (.error (.invalidArgument .noSourceLeft), m) := by
  simp only [start, spent]

private theorem call_quiet (quiet : c.starts = false) :
    (m.call c).2.source = m.source ∧ (m.call c).2.mode = m.mode ∧ (m.call c).2.loop = m.loop := by
  cases c with
  | subscribeReports sink =>
    obtain ⟨shown, received, file, opened⟩ := openSink_frame m sink
    simp only [call, subscribeReports, opened]
    split <;> exact ⟨rfl, rfl, rfl⟩
  | createRecording destination => exact ⟨rfl, rfl, rfl⟩
  | subscribeRecording =>
    simp only [call, subscribeRecording]
    split <;> exact ⟨rfl, rfl, rfl⟩
  | start print => cases quiet

private theorem call_holds (quiet : c.starts = false) (held : m.holds kind = true) :
    (m.call c).2.holds kind = true := by
  cases c with
  | subscribeReports sink =>
    obtain ⟨shown, received, file, opened⟩ := openSink_frame m sink
    simp only [call, subscribeReports, opened]
    split
    · exact held
    · cases kind with
      | reports => rfl
      | raw => exact held
  | createRecording destination => cases kind <;> exact held
  | subscribeRecording =>
    simp only [call, subscribeRecording]
    split
    · exact held
    · cases kind with
      | reports => exact held
      | raw => rfl
  | start print => cases quiet

private theorem after_quiet (quiet : ∀ call ∈ calls, call.starts = false) :
    (m.after calls).source = m.source ∧ (m.after calls).mode = m.mode ∧
      (m.after calls).loop = m.loop := by
  induction calls generalizing m with
  | nil => exact ⟨rfl, rfl, rfl⟩
  | cons c calls ih =>
    rw [List.forall_mem_cons] at quiet
    obtain ⟨source, mode, loop⟩ := call_quiet (m := m) quiet.1
    obtain ⟨laterSource, laterMode, laterLoop⟩ := ih (m := (m.call c).2) quiet.2
    exact ⟨laterSource.trans source, laterMode.trans mode, laterLoop.trans loop⟩

private theorem after_holds (quiet : ∀ call ∈ calls, call.starts = false)
    (held : m.holds kind = true) :
    (m.after calls).holds kind = true := by
  induction calls generalizing m with
  | nil => exact held
  | cons c calls ih =>
    rw [List.forall_mem_cons] at quiet
    exact ih quiet.2 (call_holds quiet.1 held)

private theorem call_held (same : c.sinkKind = some kind) (held : m.holds kind = true) :
    m.call c = (.error (.invalidArgument kind.refusal), m) := by
  cases c with
  | subscribeReports sink =>
    cases same
    exact if_pos held
  | subscribeRecording =>
    cases same
    exact if_pos held
  | createRecording destination => cases same
  | start print => cases same

private theorem call_free (same : c.sinkKind = some kind) (free : m.holds kind = false) :
    (m.call c).1 = .ok () ∧ (m.call c).2.holds kind = true ∧
      (m.loop = none → (m.call c).2.Serves c) := by
  cases c with
  | subscribeReports sink =>
    cases same
    have accepted : m.call (.subscribeReports sink) =
        (.ok (), { m.openSink sink with reportSink := some sink }) :=
      if_neg (by simpa [holds] using free)
    obtain ⟨shown, received, file, opened⟩ := openSink_frame m sink
    rw [accepted, opened]
    refine ⟨rfl, rfl, fun unstarted => ⟨?_, fun isFile => ?_⟩⟩
    · simp only [fed, unstarted, Option.getD_none]
    · exact if_pos isFile
  | subscribeRecording =>
    cases same
    have accepted : m.call .subscribeRecording = (.ok (), { m with rawSink := true }) :=
      if_neg (by simpa [holds] using free)
    rw [accepted]
    refine ⟨rfl, rfl, fun unstarted => ?_⟩
    simp only [Serves, fed, unstarted, Option.getD_none]
  | createRecording destination => cases same
  | start print => cases same

private theorem accepted_iff (same : c.sinkKind = some kind) :
    (m.call c).1 = .ok () ↔ m.holds kind = false := by
  refine ⟨fun accepted => ?_, fun free => (call_free same free).1⟩
  cases held : m.holds kind with
  | false => rfl
  | true => cases accepted.symm.trans (congrArg Prod.fst (call_held same held))

private theorem call_other (other : c.sinkKind ≠ some kind) (free : m.holds kind = false) :
    (m.call c).2.holds kind = false := by
  cases c with
  | subscribeReports sink =>
    cases kind with
    | reports => exact absurd rfl other
    | raw =>
      obtain ⟨shown, received, file, opened⟩ := openSink_frame m sink
      simp only [call, subscribeReports, opened]
      split <;> exact free
  | createRecording destination => cases kind <;> exact free
  | subscribeRecording =>
    cases kind with
    | reports =>
      simp only [call, subscribeRecording]
      split <;> exact free
    | raw => exact absurd rfl other
  | start print =>
    simp only [call]
    cases given : m.source with
    | none => rwa [start_refused given]
    | some source =>
      match made : (Track.ofMode m.mode : Located (Track Phasor)) with
      | .ok track =>
        obtain ⟨shown, received, file, recorder, started⟩ := start_frame given made print
        rw [started]
        cases kind <;> rfl
      | .error cause => simpa only [start, given, made] using free

theorem exists_accepted (free : m.holds kind = false) (member : c ∈ calls)
    (same : c.sinkKind = some kind) :
    ∃ before first later, calls = before ++ first :: later ∧ first.sinkKind = some kind ∧
      ((m.after before).call first).1 = .ok () := by
  induction calls generalizing m with
  | nil => cases member
  | cons call calls ih =>
    by_cases subscribes : call.sinkKind = some kind
    · exact ⟨[], call, calls, rfl, subscribes, (call_free subscribes free).1⟩
    · have rest : c ∈ calls := by
        rcases List.mem_cons.mp member with rfl | rest
        · exact absurd same subscribes
        · exact rest
      obtain ⟨before, first, later, split, subscribed, accepted⟩ :=
        ih (call_other subscribes free) rest
      exact ⟨call :: before, first, later, by rw [split]; rfl, subscribed, accepted⟩

private theorem after_other (free : m.holds kind = false)
    (other : ∀ call ∈ calls, call.sinkKind ≠ some kind) :
    (m.after calls).holds kind = false := by
  induction calls generalizing m with
  | nil => exact free
  | cons call calls ih =>
    rw [List.forall_mem_cons] at other
    exact ih (call_other other.1 free) other.2

theorem start_fed (print : Bool) (unspent : m.source ≠ none → m.loop = none) :
    (m.start print).2 = m ∨
      ((m.start print).2.source = none ∧ (m.start print).2.loop = some m.fed ∧
        (m.start print).2.writer = m.writer) := by
  cases given : m.source with
  | none => exact .inl (congrArg Prod.snd (start_refused given print))
  | some source =>
    match made : (Track.ofMode m.mode : Located (Track Phasor)) with
    | .error cause =>
      left
      simp only [start, given, made]
    | .ok track =>
      right
      obtain ⟨shown, received, file, recorder, started⟩ := start_frame given made print
      have unstarted := unspent (by simp [given])
      rw [started]
      exact ⟨rfl, by simp only [fed, unstarted, Option.getD_none], rfl⟩

private theorem call_reports_kept (quiet : c.starts = false) (other : c.sinkKind ≠ some .reports) :
    (m.call c).2.fed.reports = m.fed.reports ∧ (m.call c).2.writer = m.writer := by
  cases c with
  | subscribeReports sink => exact absurd rfl other
  | createRecording destination => exact ⟨rfl, rfl⟩
  | subscribeRecording =>
    simp only [call, subscribeRecording]
    split
    · exact ⟨rfl, rfl⟩
    · refine ⟨?_, rfl⟩
      simp only [fed]
      cases m.loop <;> rfl
  | start print => cases quiet

private theorem call_raw_kept (quiet : c.starts = false) (other : c.sinkKind ≠ some .raw) :
    (m.call c).2.fed.raw = m.fed.raw := by
  cases c with
  | subscribeReports sink =>
    obtain ⟨shown, received, file, opened⟩ := openSink_frame m sink
    simp only [call, subscribeReports, opened]
    split
    · rfl
    · simp only [fed]
      cases m.loop <;> rfl
  | createRecording destination => rfl
  | subscribeRecording => exact absurd rfl other
  | start print => cases quiet

private theorem after_spent (spent : m.source = none) :
    (m.after calls).source = none ∧ (m.after calls).loop = m.loop := by
  induction calls generalizing m with
  | nil => exact ⟨spent, rfl⟩
  | cons c calls ih =>
    have kept : (m.call c).2.source = none ∧ (m.call c).2.loop = m.loop := by
      cases starts : c.starts with
      | true =>
        obtain ⟨print, rfl⟩ := MonitorCall.exists_start starts
        rw [call, start_refused spent]
        exact ⟨spent, rfl⟩
      | false =>
        obtain ⟨source, -, loop⟩ := call_quiet (m := m) starts
        exact ⟨source.trans spent, loop⟩
    exact ⟨(ih kept.1).1, (ih kept.1).2.trans kept.2⟩

structure Kept (kind : SinkKind) (first : MonitorCall) (m : Monitor) : Prop where
  serves : m.Serves first
  held : m.loop = none → m.holds kind = true
  unspent : m.source ≠ none → m.loop = none

theorem Kept.call {first : MonitorCall} (kept : m.Kept kind first)
    (same : first.sinkKind = some kind) (allowed : c.sinkKind = some kind → m.loop = none) :
    (m.call c).2.Kept kind first := by
  by_cases again : c.sinkKind = some kind
  · rw [call_held again (kept.held (allowed again))]
    exact kept
  cases starts : c.starts with
  | true =>
    obtain ⟨print, rfl⟩ := MonitorCall.exists_start starts
    rcases start_fed print kept.unspent with unchanged | ⟨spent, loop, writer⟩
    · rw [Monitor.call, unchanged]
      exact kept
    · have fed : (m.start print).2.fed = m.fed := by rw [Monitor.fed, loop]; rfl
      refine ⟨?_, fun unstarted => ?_, fun given => absurd spent given⟩
      · exact kept.serves.of_frame same (fun _ => ⟨congrArg LoopSinks.reports fed, writer⟩)
          fun _ => congrArg LoopSinks.raw fed
      · cases loop.symm.trans unstarted
  | false =>
    obtain ⟨source, -, loop⟩ := call_quiet (m := m) starts
    refine ⟨?_, fun unstarted => ?_, ?_⟩
    · refine kept.serves.of_frame same (fun is => ?_) fun is => ?_
      · exact call_reports_kept starts (is ▸ again)
      · exact call_raw_kept starts (is ▸ again)
    · exact call_holds starts (kept.held (loop.symm.trans unstarted))
    · rw [source, loop]
      exact kept.unspent

theorem Kept.after {first : MonitorCall} (kept : m.Kept kind first)
    (same : first.sinkKind = some kind)
    (allowed : m.loop = none ∧ MonitorCall.SubscribesFirst kind calls ∨
      ∀ call ∈ calls, call.sinkKind ≠ some kind) :
    (m.after calls).Kept kind first := by
  induction calls generalizing m with
  | nil => exact kept
  | cons c calls ih =>
    have next := kept.call (c := c) same fun again => by
      rcases allowed with ⟨unstarted, -⟩ | other
      · exact unstarted
      · exact absurd again (other c List.mem_cons_self)
    refine ih next ?_
    rcases allowed with ⟨unstarted, ordered⟩ | other
    · cases starts : c.starts with
      | true =>
        right
        intro call member
        simp only [MonitorCall.SubscribesFirst, List.dropWhile_cons, starts] at ordered
        exact ordered call (List.mem_cons_of_mem _ member)
      | false =>
        have loop := (call_quiet (m := m) starts).2.2
        refine .inl ⟨loop.trans unstarted, ?_⟩
        exact .behind (List.forall_mem_singleton.mpr starts) ordered
    · exact .inr fun call member => other call (List.mem_cons_of_mem _ member)

theorem ofSettings_new {source : BurstSource} {sampling : SamplingSettings} {array : AntennaArray}
    {pairs : AnglePairs} {mode : Smoothing}
    (accepted : ofSettings source sampling array pairs mode = .ok m) :
    ∃ locator, m = { locator := locator, mode := mode, source := some source } := by
  obtain ⟨locator, _, checked⟩ := Located.bind_success _ _ _ accepted
  obtain ⟨_, _, made⟩ := Located.bind_success _ _ _ checked
  cases made
  exact ⟨locator, rfl⟩

private theorem oneSink_of_subscribesFirst (unstarted : m.loop = none)
    (ordered : MonitorCall.SubscribesFirst kind calls) : OneSink kind m calls where
  refused := by
    rintro before first between second later rfl same again accepted now
    rw [← List.cons_append, ← List.append_assoc] at ordered
    have quiet := ordered.quiet again
    have held : ((m.after before).call first).2.holds kind = true :=
      (call_free same ((accepted_iff same).mp accepted)).2.1
    refine call_held again ?_
    have rest : ∀ call ∈ between, call.starts = false := fun call member =>
      quiet call (List.mem_append_right _ (List.mem_cons_of_mem _ member))
    rw [show now = (((m.after before).call first).2).after between from after_append ..]
    exact after_holds rest held
  served := by
    rintro before first later rfl same accepted
    have quiet := ordered.quiet same
    have unstarted := (after_quiet (m := m) quiet).2.2.trans unstarted
    obtain ⟨-, held, serves⟩ := call_free same ((accepted_iff same).mp accepted)
    have silent : first.starts = false := by
      cases first with
      | start print => cases same
      | _ => rfl
    have still := (call_quiet (m := m.after before) silent).2.2.trans unstarted
    have kept : ((m.after before).call first).2.Kept kind first :=
      ⟨serves unstarted, fun _ => held, fun _ => still⟩
    have behind : MonitorCall.SubscribesFirst kind later :=
      .behind (List.forall_mem_singleton.mpr silent) (.behind quiet ordered)
    rw [after_append]
    exact (kept.after same (.inl ⟨still, behind⟩)).serves

private theorem subscribesFirst_of_oneSink {source : BurstSource} {track : Track Phasor}
    (given : m.source = some source)
    (made : (Track.ofMode m.mode : Located (Track Phasor)) = .ok track)
    (free : m.holds kind = false) (one : OneSink kind m calls) :
    MonitorCall.SubscribesFirst kind calls := by
  intro late member same
  obtain ⟨before, print, behind, rfl, quiet, inside⟩ := MonitorCall.exists_late member same
  obtain ⟨source', mode, -⟩ := after_quiet (m := m) quiet
  obtain ⟨shown, received, file, recorder, started⟩ :=
    start_frame (source'.trans given) (mode ▸ made) print
  have taken : (m.after (before ++ [.start print])).loop =
      some ⟨(m.after before).reportSink, (m.after before).rawSink⟩ := by
    rw [after_append]
    exact congrArg (·.2.loop) started
  have spent : (m.after (before ++ [.start print])).source = none := by
    rw [after_append]
    exact congrArg (·.2.source) started
  have empty : (m.after (before ++ [.start print])).holds kind = false := by
    rw [after_append]
    change ((m.after before).start print).2.holds kind = false
    rw [started]
    cases kind <;> rfl
  obtain ⟨between, first, later, rfl, subscribes, accepted⟩ :=
    exists_accepted empty inside same
  have loop : (m.after (before ++ .start print :: (between ++ first :: later))).loop =
      some ⟨(m.after before).reportSink, (m.after before).rawSink⟩ := by
    rw [List.append_cons, after_append]
    exact (after_spent spent).2.trans taken
  have serves := one.served (before ++ .start print :: between) first later (by simp) subscribes (by
    rwa [List.append_cons, after_append])
  -- The loop was given such a sink at the start, so one had been accepted before.
  have held := serves.held subscribes loop
  obtain ⟨early, there, alike⟩ : ∃ call ∈ before, call.sinkKind = some kind := by
    apply Classical.byContradiction
    intro nothing
    have other : ∀ call ∈ before, call.sinkKind ≠ some kind := fun call member same =>
      nothing ⟨call, member, same⟩
    cases held.symm.trans (after_other free other)
  obtain ⟨front, one', middle, rfl, similar, earlier⟩ := exists_accepted free there alike
  have refused := one.refused front one' (middle ++ .start print :: between) first later
    (by simp) similar subscribes earlier
  have here : front ++ one' :: (middle ++ .start print :: between) =
      front ++ one' :: middle ++ [.start print] ++ between := by simp
  rw [here, after_append] at refused
  cases accepted.symm.trans (congrArg Prod.fst refused)

/-- Of the sinks of a kind that are subscribed to a new monitor, one at most is accepted and that
one is served, exactly if none of the kind is subscribed behind the start. -/
theorem oneSink_iff {source : BurstSource} {sampling : SamplingSettings} {array : AntennaArray}
    {pairs : AnglePairs} {mode : Smoothing}
    (accepted : ofSettings source sampling array pairs mode = .ok m) (kind : SinkKind)
    (calls : List MonitorCall) :
    OneSink kind m calls ↔ MonitorCall.SubscribesFirst kind calls := by
  obtain ⟨track, made⟩ := ofSettings_track accepted
  obtain ⟨locator, rfl⟩ := ofSettings_new accepted
  have free : holds { locator := locator, mode := mode, source := some source } kind = false := by
    cases kind <;> rfl
  refine ⟨fun one => ?_, fun ordered => oneSink_of_subscribesFirst rfl ordered⟩
  exact subscribesFirst_of_oneSink rfl made free one

end

/-- Two sinks before the start. -/
theorem oneSink_iff_before :
    let _ : Trigonometry := ⟨fun _ => 0, fun _ => 1, fun _ => 0, fun _ _ => 0, fun _ _ => 1⟩
    let calls : List MonitorCall :=
      [.subscribeReports (.file .text (.ok .file)), .subscribeReports (.queue none), .start false]
    ∃ m, ofSettings (.queue []) {} {} {} .none = .ok m ∧ OneSink .reports m calls := by
  intro level calls
  have accepted : ∃ m, ofSettings (.queue []) {} {} {} .none = .ok m := ⟨_, rfl⟩
  obtain ⟨m, accepted⟩ := accepted
  exact ⟨m, accepted, (oneSink_iff accepted .reports calls).mpr (by decide)⟩

/-- A sink on each side of the start: both are accepted. -/
theorem not_oneSink_behind :
    let _ : Trigonometry := ⟨fun _ => 0, fun _ => 1, fun _ => 0, fun _ _ => 0, fun _ _ => 1⟩
    let sink : MonitorCall := .subscribeReports (.queue (some 0))
    ∃ m, ofSettings (.queue []) {} {} {} .none = .ok m ∧
      ¬ OneSink .reports m [sink, .start false, sink] := by
  intro level sink
  refine ⟨_, rfl, fun one => ?_⟩
  have refused := one.refused [] sink [.start false] sink [] rfl rfl rfl rfl
  cases congrArg Prod.fst refused

end Monitor

end DirectionFinding
