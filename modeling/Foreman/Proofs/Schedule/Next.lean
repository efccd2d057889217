import Foreman.Schedule.Read
import Foreman.Proofs.App.CommandLine

/-!
# When a schedule read from text fires next

`Schedule.read` turns a text into an interval or a calendar schedule. What a schedule library
documents of its `Next` for them is taken here as hypotheses (`Schedule.Documented`): an
interval moves on by its delay from the whole second of the time given, and a calendar schedule
answers a firing after the time given when one falls within five years, the zero time when
none does. Under them, every schedule read answers a later time, except a calendar schedule
that does not fire within five years, which answers the zero time (`Schedule.read_next_after`).
Such schedules are read: `0 0 30 2 *` names the thirtieth of February, which no wall clock
shows. An implementation whose calendar search settles a wall time across a clock turned back
answers an earlier time still: that breaks the hypotheses, not the reading.
-/

namespace Foreman

set_option autoImplicit false

namespace Spec

/-- Whether a calendar schedule fires at an instant: a whole second whose fields, on the clock
the schedule reads, are in its sets. -/
def Fires (s : Spec) (clock : Zone) (u : Instant) : Prop :=
  let o := (s.zone.getD clock).offsetAt u
  let w := u.wall o
  u.subsecond = 0 ∧ has s.second w.second ∧ has s.minute w.minute ∧ has s.hour w.hour ∧
    dayMatches s w (u.weekday o) ∧ has s.month w.month

/-- Whether `u` falls within five calendar years of `t`, on the clock the schedule reads. -/
def Within (s : Spec) (clock : Zone) (t u : Instant) : Prop :=
  let z := s.zone.getD clock
  (u.wall (z.offsetAt u)).year ≤ (t.wall (z.offsetAt t)).year + 5

end Spec

namespace Schedule

/-- What a schedule library documents of its `Next`, for the schedules `read` builds: an
interval moves on by its delay from the whole second of the time given; a calendar schedule
answers a firing after the time given when one falls within five years, and the zero time when
none does. -/
structure Documented (next : Schedule → Zone → Instant → Instant) : Prop where
  every : ∀ delay clock t, next (.every delay) clock t = t.add (delay - t.subsecond)
  fires : ∀ s clock t, (∃ u, t < u ∧ s.Within clock t u ∧ s.Fires clock u) →
    t < next (.calendar s) clock t ∧ s.Fires clock (next (.calendar s) clock t)
  never : ∀ s clock t, (¬∃ u, t < u ∧ s.Within clock t u ∧ s.Fires clock u) →
    next (.calendar s) clock t = Instant.zero

/-- A schedule as `read` builds it: an interval is a whole number of seconds, at least one. -/
def Whole : Schedule → Prop
  | .every delay => Instant.second ≤ delay ∧ delay % Instant.second = 0
  | .calendar _ => True

theorem whole_everyDelay (d : Int) : (every (Spec.everyDelay d)).Whole := by
  simp only [Whole, Spec.everyDelay, Instant.second]
  split_ifs <;> omega

theorem parseIn_whole {zone : Option Zone} {spec : String} {sched : Schedule}
    (parsed : Spec.parseIn zone spec = .ok sched) : sched.Whole := by
  unfold Spec.parseIn at parsed
  simp only [bind, Except.bind, pure, Except.pure] at parsed
  repeat' split at parsed
  all_goals try cases parsed
  all_goals first | exact whole_everyDelay _ | exact True.intro

private theorem ok_of_mapError {ε ε' α : Type} {f : ε → ε'} {x : Except ε α} {a : α}
    (mapped : x.mapError f = .ok a) : x = .ok a := by
  cases x <;> simp_all [Except.mapError]

theorem parse_whole {spec : String} {sched : Schedule} (parsed : Spec.parse spec = .ok sched) :
    sched.Whole := by
  unfold Spec.parse at parsed
  simp only at parsed
  repeat' split at parsed
  all_goals first | exact parseIn_whole (ok_of_mapError parsed) | cases parsed

theorem read_whole {raw : String} {sched : Schedule} (accepted : read raw = .ok sched) :
    sched.Whole := by
  unfold read readCalendar at accepted
  simp only [bind, Except.bind, pure, Except.pure] at accepted
  repeat' split at accepted
  all_goals try cases accepted
  all_goals first | exact whole_everyDelay _ | exact True.intro | exact parse_whole ‹_›

/-- An interval of whole seconds, at least one, always moves a time on. -/
theorem every_after {delay : Int} (whole : (every delay).Whole) (t : Instant) :
    t < t.add (delay - t.subsecond) := by
  have below : (t.subsecond : Int) < Instant.second := by
    simp only [Instant.subsecond, Instant.second]
    omega
  simp only [Whole] at whole
  simp only [Instant.lt_iff_nanos, Instant.add_nanos]
  omega

/-- The calendar schedule a schedule is, if it is one. -/
def calendar? : Schedule → Option Spec
  | .every _ => none
  | .calendar s => some s

/-- `0 0 30 2 *` reads as midnight on the thirtieth of February, on any weekday. -/
theorem read_thirtieth_of_february : ∃ s, read "0 0 30 2 *" = .ok (.calendar s) ∧
    s.dom = 2 ^ 30 ∧ s.month = 2 ^ 2 ∧ Spec.has s.dow 63 = true := by
  have fields : ((read "0 0 30 2 *").toOption.bind calendar?).map
      (fun s => (s.dom, s.month, Spec.has s.dow 63)) = some (2 ^ 30, 2 ^ 2, true) := by
    decide +kernel
  simp only [Option.map_eq_some_iff, Option.bind_eq_some_iff, Prod.mk.injEq] at fields
  obtain ⟨s, ⟨sched, read_ok, calendar⟩, dom, month, star⟩ := fields
  cases sched with
  | every delay => cases calendar
  | calendar s' =>
    cases calendar
    refine ⟨s, ?_, dom, month, star⟩
    cases accepted : read "0 0 30 2 *" <;> simp_all [Except.toOption]

/-- A calendar schedule for the thirtieth of February, on any weekday, never fires: no February
has thirty days. -/
theorem never_fires {s : Spec} (dom : s.dom = 2 ^ 30) (month : s.month = 2 ^ 2)
    (star : Spec.has s.dow 63 = true) (clock : Zone) (u : Instant) : ¬s.Fires clock u := by
  rintro ⟨-, -, -, -, days, months⟩
  obtain ⟨-, -, -, valid, -⟩ := wall_valid u ((s.zone.getD clock).offsetAt u)
  simp only [Spec.has] at star
  simp only [Spec.dayMatches, Spec.has, dom, month, star, Nat.testBit_two_pow, Bool.or_true,
    ↓reduceIte, Bool.and_eq_true, decide_eq_true_eq] at days months
  rw [← days.1, ← months] at valid
  simp only [Calendar.daysIn] at valid
  split at valid <;> omega

/-- Where the claim that a schedule read from text always fires later fails: under the
documented semantics every schedule `read` accepts answers a later time, unless it is a
calendar schedule with no firing within five years, which answers the zero time; and
`0 0 30 2 *` is read as such a schedule, whatever the time and clock. -/
theorem read_next_after {next : Schedule → Zone → Instant → Instant} (documented : Documented next) :
    (∀ (raw : String) (sched : Schedule), read raw = .ok sched → ∀ (clock : Zone) (t : Instant),
      t < next sched clock t ∨
        ∃ s, sched = .calendar s ∧ next sched clock t = Instant.zero ∧
          ∀ u, t < u → s.Within clock t u → ¬s.Fires clock u) ∧
    ∃ s, read "0 0 30 2 *" = .ok (.calendar s) ∧ ∀ clock t, next (.calendar s) clock t = Instant.zero := by
  refine ⟨fun raw sched accepted clock t => ?_, ?_⟩
  · cases sched with
    | every delay =>
      rw [documented.every]
      exact .inl (every_after (read_whole accepted) t)
    | calendar s =>
      by_cases found : ∃ u, t < u ∧ s.Within clock t u ∧ s.Fires clock u
      · exact .inl (documented.fires s clock t found).1
      · refine .inr ⟨s, rfl, documented.never s clock t found, fun u later within fires => ?_⟩
        exact found ⟨u, later, within, fires⟩
  · obtain ⟨s, read_ok, dom, month, star⟩ := read_thirtieth_of_february
    refine ⟨s, read_ok, fun clock t => documented.never s clock t ?_⟩
    rintro ⟨u, -, -, fires⟩
    exact never_fires dom month star clock u fires

open Classical in
/-- A `Next` that keeps to the documentation: the interval step, and for a calendar schedule a
firing within five years, when there is one, else the zero time. -/
noncomputable def documentedNext (sched : Schedule) (clock : Zone) (t : Instant) : Instant :=
  match sched with
  | .every delay => t.add (delay - t.subsecond)
  | .calendar s =>
    if found : ∃ u, t < u ∧ s.Within clock t u ∧ s.Fires clock u then Classical.choose found
    else Instant.zero

theorem documentedNext_documented : Documented documentedNext where
  every _ _ _ := rfl
  fires s clock t found := by
    simp only [documentedNext, dif_pos found]
    obtain ⟨later, -, fires⟩ := Classical.choose_spec found
    exact ⟨later, fires⟩
  never s clock t none := by simp only [documentedNext, dif_neg none]

theorem documented_thirtieth_of_february : Documented documentedNext ∧
    ∃ s, read "0 0 30 2 *" = .ok (.calendar s) ∧
      ∀ clock t, documentedNext (.calendar s) clock t = Instant.zero :=
  ⟨documentedNext_documented, (read_next_after documentedNext_documented).2⟩

end Schedule

end Foreman
