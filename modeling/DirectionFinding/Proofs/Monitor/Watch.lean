import DirectionFinding.Monitor.Watch
import DirectionFinding.Proofs.Locator

/-!
Reports that the watch loop delivers. However long the loop runs and its receiver stays, they are a
beginning of the reports of the bursts located one after the other with one history; nothing is
missing if both outlast the source.
-/
namespace DirectionFinding

namespace Patience

def limit {α : Type} : Patience → List α → List α
  | none, xs => xs
  | some n, xs => xs.take n

variable {α : Type} (p : Patience)

theorem limit_nil : p.limit ([] : List α) = [] := by
  cases p with
  | none => rfl
  | some n => exact List.take_nil

theorem limit_cons (x : α) (xs : List α) :
    p.limit (x :: xs) =
      match p.spend with
      | none => []
      | some left => x :: left.limit xs := by
  match p with
  | none => rfl
  | some 0 => rfl
  | some (n + 1) => rfl

theorem limit_prefix (xs : List α) : p.limit xs <+: xs := by
  cases p with
  | none => exact List.prefix_rfl
  | some n => exact List.take_prefix n xs

end Patience

def reportsIn (answers : List (Located Report)) : List Report :=
  answers.filterMap Except.toOption

theorem reportsIn_prefix [Trigonometry] (locator : Locator) (track : Track Phasor)
    {bursts all : List (RawBurst Phasor)} (beginning : bursts <+: all) :
    reportsIn (locator.locateAll track bursts).1 <+:
      reportsIn (locator.locateAll track all).1 := by
  obtain ⟨more, rfl⟩ := beginning
  rw [Locator.locateAll_append]
  exact (List.prefix_append _ _).filterMap _

theorem WatchEvent.deliveries_append (before after : List WatchEvent) :
    deliveries (before ++ after) = deliveries before ++ deliveries after :=
  List.filterMap_append ..

namespace WatchTask

open WatchEvent (deliveries deliveries_append)

variable [Trigonometry]

theorem deliveries_examine (task : WatchTask) (forwarding : Bool) (track : Track Phasor)
    (raw : RawBurst Phasor) : deliveries (task.examine forwarding track raw).1 = [] := by
  obtain ⟨locator, record, print⟩ := task
  simp only [examine]
  rcases locator.locate raw track with ⟨_ | report, next⟩ <;>
    cases record <;> cases print <;> cases forwarding <;> rfl

private theorem examine_forwarding (task : WatchTask) (track : Track Phasor)
    (raw : RawBurst Phasor) :
    (task.examine true track raw).2 =
      ((task.locator.locate raw track).1.toOption, (task.locator.locate raw track).2) := by
  simp only [examine, Bool.not_true, Bool.false_and, Bool.false_eq_true, if_false]
  rcases task.locator.locate raw track with ⟨_ | report, next⟩ <;> rfl

section
variable (task : WatchTask)

theorem events_halted (receiver : Option Patience) (track : Track Phasor)
    (bursts : List (RawBurst Phasor)) : task.events (some 0) receiver track bursts = [] := by
  cases bursts <;> rfl

theorem events_cons {running left : Patience} (lasting : running.spend = some left)
    (receiver : Option Patience) (track : Track Phasor) (raw : RawBurst Phasor)
    (rest : List (RawBurst Phasor)) :
    task.events running receiver track (raw :: rest) =
      (task.examine receiver.isSome track raw).1 ++
        match (task.examine receiver.isSome track raw).2 with
        | (none, next) => task.events left receiver next rest
        | (some report, next) =>
          (deliver receiver report).1 ++ task.events left (deliver receiver report).2 next rest := by
  simp only [events, lasting]
  rcases task.examine receiver.isSome track raw with ⟨before, _ | report, next⟩
  · rfl
  · exact List.append_assoc ..

theorem deliveries_forgotten (running : Patience) (track : Track Phasor)
    (bursts : List (RawBurst Phasor)) :
    deliveries (task.events running none track bursts) = [] := by
  induction bursts generalizing running track with
  | nil => rfl
  | cons raw rest ih =>
    cases lasting : running.spend with
    | none => simp only [events, lasting]; rfl
    | some left =>
      rw [events_cons task lasting, deliveries_append, deliveries_examine, List.nil_append]
      split
      · exact ih left _
      · exact ih left _

/-- The reports delivered are those of the bursts taken, as many as the receiver stays for. -/
theorem deliveries_events (running receiver : Patience) (track : Track Phasor)
    (bursts : List (RawBurst Phasor)) :
    deliveries (task.events running (some receiver) track bursts) =
      receiver.limit (reportsIn (task.locator.locateAll track (running.limit bursts)).1) := by
  induction bursts generalizing running receiver track with
  | nil => rw [Patience.limit_nil]; exact receiver.limit_nil.symm
  | cons raw rest ih =>
    rw [Patience.limit_cons]
    cases lasting : running.spend with
    | none => simp only [events, lasting]; exact receiver.limit_nil.symm
    | some left =>
      rw [events_cons task lasting, deliveries_append, deliveries_examine, List.nil_append,
        Option.isSome_some, examine_forwarding]
      simp only [Locator.locateAll]
      rcases task.locator.locate raw track with ⟨cause | report, next⟩
      · exact ih left receiver next
      · change _ = receiver.limit (report :: reportsIn _)
        rw [Patience.limit_cons]
        cases staying : receiver.spend with
        | none =>
          simp only [deliver, staying, Except.toOption]
          rw [deliveries_append, deliveries_forgotten]
          rfl
        | some patience =>
          simp only [deliver, staying, Except.toOption]
          exact congrArg (report :: ·) (ih left patience next)

end

end WatchTask

end DirectionFinding
