import Mathlib.Algebra.Order.Floor.Div
import Worktop.Proofs.Perform

/-! # When polling checks

Where time passes in pauses only, polling is a loop that compares the clock with a deadline
(`Worktop.Poller.pollFrom_by_clock`), so all that it does is told by the times of its checks
(`Worktop.Poller.Watched`). Main statement: it is checked at the start, after every interval and at
the deadline, up to the first check that succeeds (`Worktop.Poller.poll_checks_on_time`). The unit
of time does not matter here.
-/

namespace Worktop.Poller

open Act

variable {ω : Type} {p : Poller}

/-- Where checks take no time, the time that remains is what the clock leaves to the deadline. -/
theorem pollFrom_by_clock (positive : 0 < p.interval) {check : Act ω Bool}
    (timeless : ∀ (host : Host ω) (s : Session ω), (check.perform host s).2.clock = s.clock)
    (deadline : Nat) (host : Host ω) (s : Session ω) :
    (p.pollFrom pause check (deadline - s.clock)).perform host s =
      Act.perform (do
        if ← check then pure true
        else
          let now ← Act.now
          if deadline ≤ now then pure false
          else
            pause (min p.interval (deadline - now))
            let later ← Act.now
            p.pollFrom pause check (deadline - later)) host s := by
  rw [pollFrom]
  cases checked : check.perform host s with
  | mk found s' =>
  have clock : s'.clock = s.clock := by simpa [checked] using timeless host s
  have step : p.step = p.interval := Nat.max_eq_left positive
  rw [perform_bind checked, perform_bind checked]
  cases found with
  | true => rfl
  | false =>
    have read : (Act.now : Act ω Nat).perform host s' = (s.clock, s') := by rw [← clock]; rfl
    simp only [Bool.false_eq_true, ↓reduceIte]
    rw [perform_bind read, step]
    by_cases late : deadline ≤ s.clock
    · have none : deadline - s.clock = 0 := Nat.sub_eq_zero_of_le late
      simp only [none, late, ↓reduceIte]
    · have left : ¬ deadline - s.clock = 0 := by omega
      have rest : deadline - s.clock - min p.interval (deadline - s.clock) =
          deadline - (s'.clock + min p.interval (deadline - s.clock)) := by
        rw [clock]
        omega
      simp only [left, late, ↓reduceIte, rest]
      rfl

/-! ## The schedule -/

/-- The times of the first `n` checks from a start on. -/
def checkTimes (p : Poller) (start deadline n : Nat) : List Nat :=
  (List.range n).map fun k => min (start + k * p.interval) deadline

/-- The first `n` pauses from a start on. -/
def naps (p : Poller) (start deadline n : Nat) : List Nat :=
  (List.range n).map fun k => min p.interval (deadline - (start + k * p.interval))

section Schedule

variable {start deadline duration : Nat}

theorem checkTimes_succ (nap : duration = min p.interval (deadline - start))
    (early : start < deadline) (n : Nat) :
    p.checkTimes start deadline (n + 1) =
      start :: p.checkTimes (start + duration) deadline n := by
  have later (k : Nat) : min (start + (k + 1) * p.interval) deadline =
      min (start + duration + k * p.interval) deadline := by
    rw [Nat.succ_mul]
    omega
  simp [checkTimes, List.range_succ_eq_map, later, Nat.min_eq_left early.le]

theorem checkTimes_getLast (p : Poller) (start deadline n : Nat) :
    (p.checkTimes start deadline (n + 1)).getLast? =
      some (min (start + n * p.interval) deadline) := by
  simp [checkTimes, List.range_succ]

theorem naps_succ (nap : duration = min p.interval (deadline - start)) (n : Nat) :
    p.naps start deadline (n + 1) = duration :: p.naps (start + duration) deadline n := by
  have later (k : Nat) : deadline - (start + (k + 1) * p.interval) =
      deadline - (start + duration + k * p.interval) := by
    rw [Nat.succ_mul]
    omega
  simp [naps, List.range_succ_eq_map, later, ← nap]

/-- Pauses do not last longer than to the deadline, taken together. -/
theorem sum_naps (p : Poller) (start deadline n : Nat) :
    (p.naps start deadline n).sum = min (n * p.interval) (deadline - start) := by
  induction n with
  | zero => simp [naps]
  | succ n ih =>
    have last : p.naps start deadline (n + 1) =
        p.naps start deadline n ++ [min p.interval (deadline - (start + n * p.interval))] := by
      simp [naps, List.range_succ]
    rw [last, List.sum_append, ih, Nat.succ_mul, List.sum_singleton]
    omega

/-- A pause takes one interval off the time that remains, or all of it. -/
theorem ceilDiv_eq_succ {interval remaining : Nat} (positive : 0 < interval)
    (left : 0 < remaining) :
    remaining ⌈/⌉ interval = (remaining - interval) ⌈/⌉ interval + 1 := by
  rw [Nat.ceilDiv_eq_add_pred_div, Nat.ceilDiv_eq_add_pred_div, ← Nat.add_div_right _ positive]
  by_cases short : remaining ≤ interval
  · have none : (remaining - interval + interval - 1) / interval = 0 :=
      Nat.div_eq_of_lt (by omega)
    rw [Nat.add_div_right _ positive, none]
    exact Nat.div_eq_of_lt_le (by omega) (by omega)
  · congr 1
    omega

end Schedule

/-! ## Checks that are answered by their number -/

/-- A check that is answered by its number, counted from 0. It takes no time, and the time at which
it is made is written down. -/
def answeredBy (answer : Nat → Bool) : Act (List Nat) Bool := fun _ s =>
  (answer s.outside.length, { s with outside := s.outside ++ [s.clock] })

/-- A session after a check and a pause. -/
def round (s : Session (List Nat)) (duration : Nat) : Session (List Nat) :=
  Session.note { s with outside := s.outside ++ [s.clock], clock := s.clock + duration }
    (.paused duration)

/-- What polling up to a deadline comes to, from one session to another: whether a check succeeded,
and how many there were before the last. -/
structure Watched (p : Poller) (answer : Nat → Bool) (deadline : Nat) (found : Bool)
    (s s' : Session (List Nat)) (missed : Nat) : Prop where
  within : missed ≤ (deadline - s.clock) ⌈/⌉ p.interval
  unmet : ∀ k < missed, answer (s.outside.length + k) = false
  last : answer (s.outside.length + missed) = found
  patient : found = false → missed = (deadline - s.clock) ⌈/⌉ p.interval
  checks : s'.outside = s.outside ++ p.checkTimes s.clock deadline (missed + 1)
  pauses : s'.journal = ((p.naps s.clock deadline missed).map .paused).reverse ++ s.journal

section Watched

variable {answer : Nat → Bool} {deadline missed : Nat} {found : Bool} {s s' : Session (List Nat)}

theorem watched_met (early : s.clock ≤ deadline) (met : answer s.outside.length = true) :
    Watched p answer deadline true s { s with outside := s.outside ++ [s.clock] } 0 where
  within := Nat.zero_le _
  unmet := by simp
  last := met
  patient := nofun
  checks := by simp [checkTimes, Nat.min_eq_left early]
  pauses := by simp [naps]

theorem watched_late (time : s.clock = deadline) (unmet : answer s.outside.length = false) :
    Watched p answer deadline false s { s with outside := s.outside ++ [s.clock] } 0 where
  within := Nat.zero_le _
  unmet := by simp
  last := unmet
  patient _ := by simp [time]
  checks := by simp [checkTimes, time]
  pauses := by simp [naps]

/-- A check that does not succeed, a pause, and all that comes after. -/
theorem Watched.next {duration : Nat} (positive : 0 < p.interval)
    (nap : duration = min p.interval (deadline - s.clock)) (early : s.clock < deadline)
    (unmet : answer s.outside.length = false)
    (later : Watched p answer deadline found (round s duration) s' missed) :
    Watched p answer deadline found s s' (missed + 1) := by
  have rounds : (deadline - s.clock) ⌈/⌉ p.interval =
      (deadline - (round s duration).clock) ⌈/⌉ p.interval + 1 := by
    have rest : deadline - (s.clock + duration) = deadline - s.clock - p.interval := by omega
    rw [ceilDiv_eq_succ positive (Nat.sub_pos_of_lt early), ← rest]
    rfl
  have number (k : Nat) : s.outside.length + (k + 1) = (round s duration).outside.length + k := by
    simp [round, Session.note]
    omega
  constructor
  · rw [rounds]
    exact Nat.succ_le_succ later.within
  · intro k before
    cases k with
    | zero => exact unmet
    | succ k =>
      rw [number]
      exact later.unmet k (Nat.lt_of_succ_lt_succ before)
  · rw [number]
    exact later.last
  · intro never
    rw [rounds, later.patient never]
  · rw [later.checks, checkTimes_succ nap early]
    simp [round, Session.note]
  · rw [later.pauses, naps_succ nap]
    simp [round, Session.note]

theorem watched_pollFrom (positive : 0 < p.interval) (answer : Nat → Bool) (deadline : Nat)
    (host : Host (List Nat)) (s : Session (List Nat)) (early : s.clock ≤ deadline) :
    let run := (p.pollFrom pause (answeredBy answer) (deadline - s.clock)).perform host s
    ∃ missed, Watched p answer deadline run.1 s run.2 missed := by
  induction left : deadline - s.clock using Nat.strongRecOn generalizing s with
  | ind remaining ih =>
  subst left
  have checked : (answeredBy answer).perform host s =
      (answer s.outside.length, { s with outside := s.outside ++ [s.clock] }) := rfl
  rw [pollFrom_by_clock positive (fun _ _ => rfl), perform_bind checked]
  cases met : answer s.outside.length with
  | true => exact ⟨0, watched_met early met⟩
  | false =>
    simp only [Bool.false_eq_true, ↓reduceIte]
    rw [perform_bind (a := s.clock) rfl]
    by_cases late : deadline ≤ s.clock
    · simp only [late, ↓reduceIte]
      exact ⟨0, watched_late (Nat.le_antisymm early late) met⟩
    · simp only [late, ↓reduceIte]
      have shorter : deadline - (s.clock + min p.interval (deadline - s.clock)) <
          deadline - s.clock := by omega
      have inTime : s.clock + min p.interval (deadline - s.clock) ≤ deadline := by omega
      obtain ⟨missed, later⟩ :=
        ih _ shorter (round s (min p.interval (deadline - s.clock))) inTime rfl
      exact ⟨missed + 1, later.next positive rfl (Nat.lt_of_not_le late) met⟩

theorem Watched.found_iff (watched : Watched p answer deadline found s s' missed) :
    found = true ↔ ∃ k < (deadline - s.clock) ⌈/⌉ p.interval + 1,
      answer (s.outside.length + k) = true := by
  constructor
  · intro met
    exact ⟨missed, Nat.lt_succ_of_le watched.within, watched.last.trans met⟩
  · rintro ⟨k, within, met⟩
    by_contra notFound
    have never : found = false := by simpa using notFound
    rw [← watched.patient never] at within
    rcases Nat.lt_succ_iff_lt_or_eq.mp within with earlier | rfl
    · rw [watched.unmet k earlier] at met
      cases met
    · exact notFound (watched.last.symm.trans met)

/-- Polling ends with the first check that succeeds. -/
theorem Watched.eq_first (watched : Watched p answer deadline found s s' missed) {k : Nat}
    (within : k < (deadline - s.clock) ⌈/⌉ p.interval + 1)
    (met : answer (s.outside.length + k) = true)
    (unmet : ∀ j < k, answer (s.outside.length + j) = false) : missed = k := by
  have last : answer (s.outside.length + missed) = true := by
    rw [watched.last]
    exact watched.found_iff.mpr ⟨k, within, met⟩
  rcases Nat.lt_trichotomy missed k with before | same | after
  · rw [unmet missed before] at last
    cases last
  · exact same
  · rw [watched.unmet k after] at met
    cases met

/-- Polling in vain goes on for all of the time. -/
theorem Watched.in_vain (watched : Watched p answer deadline false s s' missed)
    (positive : 0 < p.interval) : deadline - s.clock ≤ missed * p.interval := by
  rw [watched.patient rfl, Nat.mul_comm]
  exact le_smul_ceilDiv positive

/-- There is time left at every check that is not the last. -/
theorem Watched.early (watched : Watched p answer deadline found s s' missed)
    (positive : 0 < p.interval) {k : Nat} (before : k < missed) :
    s.clock + k * p.interval < deadline := by
  have left : ¬ deadline - s.clock ≤ p.interval * k := by
    rw [← smul_eq_mul, ← ceilDiv_le_iff_le_smul positive]
    exact Nat.not_le_of_lt (Nat.lt_of_lt_of_le before watched.within)
  rw [Nat.mul_comm] at left
  omega

end Watched

/-- What is told of polling is whether a check succeeded. -/
theorem watched_poll (positive : 0 < p.interval) (what : String) (answer : Nat → Bool)
    (host : Host (List Nat)) (s : Session (List Nat)) :
    let run := (p.poll what pause (answeredBy answer)).perform host s
    ∃ found missed, run.1 = (if found then .ok () else .error { what, waited := p.timeout }) ∧
      Watched p answer (s.clock + p.timeout) found s run.2 missed := by
  have watched := watched_pollFrom positive answer (s.clock + p.timeout) host s
    (Nat.le_add_right _ _)
  rw [Nat.add_sub_cancel_left] at watched
  cases polled : (p.pollFrom pause (answeredBy answer) p.timeout).perform host s with
  | mk found s' =>
  obtain ⟨missed, watched⟩ := watched
  rw [polled] at watched
  have told : (p.poll what pause (answeredBy answer)).perform host s =
      (if found then .ok () else .error { what, waited := p.timeout }, s') := by
    rw [poll, perform_bind polled]
    cases found with
    | true => rfl
    | false => rfl
  exact ⟨found, missed, by rw [told], by rwa [told]⟩

/-- **Polling checks at the start, after every interval and at the deadline.** It ends with the
first check that succeeds, or with the one at the deadline. There are `most` checks at most, and a
pause between each two of them. -/
theorem poll_checks_on_time (p : Poller) (positive : 0 < p.interval) (what : String)
    (answer : Nat → Bool) (host : Host (List Nat)) (s : Session (List Nat))
    (fresh : s.outside = []) :
    let most := p.timeout ⌈/⌉ p.interval + 1
    let deadline := s.clock + p.timeout
    let run := (p.poll what pause (answeredBy answer)).perform host s
    let checks := run.2.outside
    ∃ pauses : List Nat, run.2.journal = (pauses.map .paused).reverse ++ s.journal ∧
      checks.length = pauses.length + 1 ∧
      (run.1 = .ok () ↔ ∃ k < most, answer k = true) ∧
      (∀ k < most, answer k = true → (∀ j < k, answer j = false) → checks.length = k + 1) ∧
      ((∀ k < most, answer k = false) → run.1 = .error { what, waited := p.timeout } ∧
        checks.length = most ∧ checks.getLast? = some deadline ∧ pauses.sum = p.timeout) ∧
      checks = (List.range checks.length).map (fun k => min (s.clock + k * p.interval) deadline) ∧
      ∀ (k time duration : Nat), checks[k]? = some time → pauses[k]? = some duration →
        time < deadline ∧ duration = min p.interval (deadline - time) := by
  intro most deadline run checks
  obtain ⟨found, missed, told, watched⟩ := watched_poll positive what answer host s
  have whole : s.clock + p.timeout - s.clock = p.timeout := Nat.add_sub_cancel_left ..
  have made : checks = p.checkTimes s.clock deadline (missed + 1) := by
    rw [← List.nil_append (p.checkTimes _ _ _), ← fresh]
    exact watched.checks
  have count : checks.length = missed + 1 := by simp [made, checkTimes]
  have foundIff : found = true ↔ ∃ k < most, answer k = true := by
    have first := watched.found_iff
    simp only [whole, fresh, List.length_nil, Nat.zero_add] at first
    exact first
  refine ⟨p.naps s.clock deadline missed, watched.pauses, ?_, ?_, ?_, ?_, ?_, ?_⟩
  · simp [count, naps]
  · rw [told, ← foundIff]
    cases found with
    | true => simp
    | false => simp
  · intro k within met unmet
    rw [count, watched.eq_first (k := k) (by rwa [whole]) (by simpa [fresh] using met)
      (by simpa [fresh] using unmet)]
  · intro unmet
    have never : found = false := by
      rw [← Bool.not_eq_true, foundIff]
      rintro ⟨k, within, met⟩
      rw [unmet k within] at met
      cases met
    subst never
    have elapsed := watched.in_vain positive
    rw [whole] at elapsed
    refine ⟨told, ?_, ?_, ?_⟩
    · rw [count, watched.patient rfl, whole]
    · rw [made, checkTimes_getLast]
      congr 1
      omega
    · rw [sum_naps, whole]
      exact Nat.min_eq_right elapsed
  · rw [count]
    exact made
  · intro k time duration checkedAt pausedFor
    rw [made] at checkedAt
    obtain ⟨within, rfl⟩ := List.getElem?_eq_some_iff.mp pausedFor
    obtain ⟨-, rfl⟩ := List.getElem?_eq_some_iff.mp checkedAt
    have early : s.clock + k * p.interval < deadline :=
      watched.early positive (by simpa [naps] using within)
    simp [checkTimes, naps, Nat.min_eq_left early.le, early]

/-- Polling in vain every 20 for as long as 50, from the time 7 on. -/
theorem vain_poll_checks_on_time :
    let p : Poller := { interval := 20, timeout := 50 }
    let s : Session (List Nat) := { outside := [], clock := 7 }
    let run := (p.poll "panes" pause (answeredBy fun _ => false)).perform
      { answer := fun _ times files => (.error .notFound, times, files) } s
    0 < p.interval ∧ s.outside = [] ∧ run.1 = .error { what := "panes", waited := 50 } ∧
      run.2.outside = [7, 27, 47, 57] := by
  intro p s run
  have positive : 0 < p.interval := by decide
  obtain ⟨pauses, -, -, -, -, inVain, times, -⟩ :=
    p.poll_checks_on_time positive "panes" (fun _ => false)
      { answer := fun _ times files => (.error .notFound, times, files) } s rfl
  obtain ⟨told, count, -, -⟩ := inVain fun _ _ => rfl
  refine ⟨positive, rfl, told, ?_⟩
  have four : run.2.outside.length = 4 := count.trans (by decide)
  rw [four] at times
  exact times

end Worktop.Poller
