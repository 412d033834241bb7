import CallsPlugin.Verified.Buckets
import CallsPlugin.Verified.Calendar
import CallsPlugin.Ports.Db

/-!
# Statistics by day and by month (`server/db/stats_store.go`)

Each of the four maps comes from one query and one list of zeros.  The query
takes the rows that have ended and started within 30 days, or 12 months, of now
*to the time of day*, groups them by UTC day or month, and keeps the first 30,
or 12, groups; the zeros stand for the last 30 days, or 12 months, *by the
calendar*.  So the window also reaches into the day, or month, before the oldest
one counted, and on 29 February it starts inside the oldest month
(`statsByPeriod_exact_iff`).

Times are milliseconds since 1970.  A day is its number since then and stands
for its text `YYYY-MM-DD`; a month is its number from January of year 0 and
stands for `YYYY-MM`.
-/

namespace CallsPlugin.Ports.CallStats

open CallsPlugin.Verified
open CallsPlugin.Verified.Buckets
open CallsPlugin.Ports.Public
open CallsPlugin.Ports.Db

variable {ρ : Type}

/-! ## Times -/

/-- The UTC day of a time. -/
def day (t : Int) : Int := t / 86400000

/-- The UTC month of a time. -/
def month (t : Int) : Int := Calendar.monthOf (day t)

/-- Midnight of a day. -/
def midnight (d : Int) : Int := d * 86400000

/-- `Time.AddDate`: the date moves, the time of day stays. -/
def addDate (t years months days : Int) : Int :=
  midnight (Calendar.addDate (day t) years months days) + t % 86400000

@[simp] theorem day_midnight_add (d : Int) {c : Int} (h0 : 0 ≤ c) (h : c < 86400000) :
    day (midnight d + c) = d := by
  unfold day midnight
  omega

@[simp] theorem day_addDate (t years months days : Int) :
    day (addDate t years months days) = Calendar.addDate (day t) years months days :=
  day_midnight_add _ (by omega) (by omega)

theorem day_mono : Monotone day := by
  intro t t' h
  unfold day
  omega

theorem month_mono : Monotone month := Calendar.monthOf_mono.comp day_mono

/-! ## Queries -/

/-- What `From` and the last `Where` of a statistics query say. -/
structure Query (ρ : Type) where
  table : List ρ
  startAt : ρ → Int
  endAt : ρ → Int
  cond : ρ → Bool

/-- The rows that count: ended, and meeting the query's own condition. -/
def Query.matching (q : Query ρ) : List ρ :=
  q.table.filter fun r => q.startAt r < q.endAt r ∧ q.cond r

/-- `WHERE EndAt > StartAt AND StartAt >= since AND cond` -/
def Query.since (q : Query ρ) (t : Int) : List ρ :=
  q.table.filter fun r => (q.startAt r < q.endAt r ∧ t ≤ q.startAt r) ∧ q.cond r

/-- A map from periods to counts. -/
abbrev Counts := Table (Prod.fst : Int × Nat → Int)

/-- `getByMonthQueryBase` -/
def getByMonthQueryBase (q : Query ρ) (now : Int) : List (Int × Nat) :=
  countBy (fun r => month (q.startAt r)) (q.since (addDate now 0 (-12) 0)) 12

/-- `genLast12MonthsMap` -/
def genLast12MonthsMap (now : Int) : Counts :=
  let date := midnight (Calendar.monthStart (month now))
  (List.range 12).foldl
    (fun m (i : Nat) => m.put (month (addDate date 0 (-i) 0), 0)) Table.empty

/-- `getByMonth`, its query having succeeded. -/
def getByMonth (q : Query ρ) (now : Int) : Counts :=
  (getByMonthQueryBase q now).foldl Table.put (genLast12MonthsMap now)

/-- `getByDayQueryBase` -/
def getByDayQueryBase (q : Query ρ) (now : Int) : List (Int × Nat) :=
  countBy (fun r => day (q.startAt r)) (q.since (addDate now 0 0 (-30))) 30

/-- `getByDay`, its query having succeeded. -/
def getByDay (q : Query ρ) (now : Int) : Counts :=
  let m := (List.range 30).foldl
    (fun m (i : Nat) => m.put (day (addDate now 0 0 (-i)), 0)) Table.empty
  (getByDayQueryBase q now).foldl Table.put m

/-- The calls, `DeleteAt` being 0. -/
def callsQuery (s : Store) : Query Call :=
  ⟨s.calls.rows, Call.startAt, Call.endAt, fun c => c.deleteAt = 0⟩

/-- The jobs, `type` being recording. -/
def recordingJobsQuery (s : Store) : Query CallJob :=
  ⟨s.jobs.rows, CallJob.startAt, CallJob.endAt, fun j => j.type = .recording⟩

/-- `GetCallsByMonth` -/
def getCallsByMonth (s : Store) (now : Int) : Counts := getByMonth (callsQuery s) now

/-- `GetCallsByDay` -/
def getCallsByDay (s : Store) (now : Int) : Counts := getByDay (callsQuery s) now

/-- `GetRecordingJobsByMonth` -/
def getRecordingJobsByMonth (s : Store) (now : Int) : Counts :=
  getByMonth (recordingJobsQuery s) now

/-- `GetRecordingJobsByDay` -/
def getRecordingJobsByDay (s : Store) (now : Int) : Counts :=
  getByDay (recordingJobsQuery s) now

/-! ## The last periods -/

/-- The last `n` periods, ending with the current one. -/
def lastPeriods (n : Nat) (current : Int) : List Int :=
  (List.range n).map fun (i : Nat) => current - i

@[simp] theorem length_lastPeriods (n : Nat) (current : Int) :
    (lastPeriods n current).length = n := by
  simp [lastPeriods]

theorem lastPeriods_spans (n : Nat) (current : Int) :
    Spans (lastPeriods n current) (current - n) current where
  nodup :=
    List.nodup_range.map fun i j (h : current - (i : Int) = current - j) => by omega
  mem p := by
    simp only [lastPeriods, List.mem_map, List.mem_range]
    constructor
    · rintro ⟨i, hi, rfl⟩
      constructor <;> omega
    · rintro ⟨hlo, hhi⟩
      exact ⟨(current - p).toNat, by omega, by omega⟩

/-- The zeros of the months. -/
theorem genLast12MonthsMap_eq (now : Int) :
    genLast12MonthsMap now = zeros (lastPeriods 12 (month now)) := by
  have hday : ∀ k, day (midnight k) = k := fun k => by
    have := day_midnight_add k (le_refl 0) (by decide)
    simpa using this
  unfold genLast12MonthsMap zeros lastPeriods
  rw [List.map_map, List.foldl_map]
  simp only [month, day_addDate, hday, Calendar.addDate_monthStart,
    Calendar.monthOf_monthStart, Function.comp_apply, Int.sub_eq_add_neg]

/-- The zeros of the days. -/
theorem getByDay_eq (q : Query ρ) (now : Int) :
    getByDay q now = report (lastPeriods 30 (day now)) (getByDayQueryBase q now) := by
  unfold getByDay report zeros lastPeriods
  rw [List.map_map, List.foldl_map]
  simp only [day_addDate, Calendar.addDate_days, Function.comp_apply,
    Int.sub_eq_add_neg]

theorem getByMonth_eq (q : Query ρ) (now : Int) :
    getByMonth q now = report (lastPeriods 12 (month now))
      (getByMonthQueryBase q now) := by
  rw [getByMonth, genLast12MonthsMap_eq, report]

/-! ## When a map is exact -/

/-- A map has the last `n` periods, each with the number of matching rows that started
in it. -/
def ExactBy (period : Int → Int) (n : Nat) (q : Query ρ) (now : Int) (m : Counts) :
    Prop :=
  Exact (fun r => period (q.startAt r)) (lastPeriods n (period now)) q.matching m

/-- No matching row lies between the start of a query's window and that of the oldest
period: none of the period before started inside the window, and none of the oldest one
before it.  And if a matching row is from a period to come, the last `n` all have
one. -/
def WindowFits (period : Int → Int) (n : Nat) (q : Query ρ) (now since : Int) : Prop :=
  (∀ r ∈ q.matching,
    (period (q.startAt r) = period now - n → q.startAt r < since) ∧
      (period (q.startAt r) = period now - n + 1 → since ≤ q.startAt r)) ∧
  ((∀ r ∈ q.matching, period (q.startAt r) ≤ period now) ∨
    ∀ p ∈ lastPeriods n (period now), ∃ r ∈ q.matching, period (q.startAt r) = p)

theorem Query.since_eq (q : Query ρ) (t : Int) :
    q.since t = q.matching.filter fun r => t ≤ q.startAt r := by
  rw [Query.since, Query.matching, List.filter_filter]
  refine List.filter_congr fun r _ => ?_
  rw [← Bool.decide_and, decide_eq_decide]
  constructor
  · rintro ⟨⟨hended, hsince⟩, hcond⟩
    exact ⟨hsince, hended, hcond⟩
  · rintro ⟨hsince, hended, hcond⟩
    exact ⟨⟨hended, hsince⟩, hcond⟩

/-- A report whose window starts in the period before the oldest, or in the oldest. -/
theorem exactBy_iff {period : Int → Int} (hmono : Monotone period) {n : Nat}
    (hn : 0 < n) (q : Query ρ) {now since : Int} (hlo : period now - n ≤ period since)
    (hhi : period since ≤ period now - n + 1) :
    ExactBy period n q now (report (lastPeriods n (period now))
        (countBy (fun r => period (q.startAt r)) (q.since since) n)) ↔
      WindowFits period n q now since := by
  have hspan := lastPeriods_spans n (period now)
  have hlen := length_lastPeriods n (period now)
  have hnew : ∀ r ∈ q.matching, period now < period (q.startAt r) →
      decide (since ≤ q.startAt r) = true := by
    intro r _ hr
    by_contra hw
    have := hmono (not_le.1 (by simpa using hw)).le
    omega
  have hiff := exact_iff hspan (by omega) hnew
  rw [hlen] at hiff
  unfold ExactBy WindowFits
  rw [Query.since_eq, hiff]
  refine and_congr_left fun _ => forall₂_congr fun r _ => ?_
  simp only [decide_eq_true_eq]
  constructor
  · intro h
    constructor
    · intro hp
      by_contra hw
      have := h.1 (not_lt.1 hw)
      omega
    · intro hp
      exact h.2 (by omega)
  · rintro ⟨hbefore, holdest⟩
    constructor
    · intro hw
      have := hmono hw
      by_contra hp
      have := hbefore (by omega)
      omega
    · intro hp
      by_contra hw
      have := hmono (not_le.1 hw).le
      exact hw (holdest (by omega))

/-- The window of days starts 30 days back. -/
theorem getByDay_exact_iff (q : Query ρ) (now : Int) :
    ExactBy day 30 q now (getByDay q now) ↔
    WindowFits day 30 q now (addDate now 0 0 (-30)) := by
  have hsince : day (addDate now 0 0 (-30)) = day now - 30 := by
    rw [day_addDate, Calendar.addDate_days, Int.sub_eq_add_neg]
  rw [getByDay_eq]
  exact exactBy_iff day_mono (by decide) q hsince.ge (by omega)

/-- The window of months starts 12 months back, or on 1 March 11 months back. -/
theorem getByMonth_exact_iff (q : Query ρ) (now : Int) :
    ExactBy month 12 q now (getByMonth q now) ↔
      WindowFits month 12 q now (addDate now 0 (-12) 0) := by
  have hsince : month (addDate now 0 (-12) 0) =
      Calendar.monthOf (Calendar.addDate (day now) 0 (-12) 0) := by
    rw [month, day_addDate]
  obtain ⟨hlo, hhi⟩ := Calendar.monthOf_addDate_months (day now) (-12)
  rw [← hsince] at hlo hhi
  rw [getByMonth_eq]
  exact exactBy_iff month_mono (by decide) q hlo hhi

/-- Each map is exact when its window fits the rows it counts. -/
theorem statsByPeriod_exact_iff (s : Store) (now : Int) :
    (ExactBy day 30 (callsQuery s) now (getCallsByDay s now) ↔
      WindowFits day 30 (callsQuery s) now (addDate now 0 0 (-30))) ∧
    (ExactBy month 12 (callsQuery s) now (getCallsByMonth s now) ↔
      WindowFits month 12 (callsQuery s) now (addDate now 0 (-12) 0)) ∧
    (ExactBy day 30 (recordingJobsQuery s) now (getRecordingJobsByDay s now) ↔
      WindowFits day 30 (recordingJobsQuery s) now (addDate now 0 0 (-30))) ∧
    (ExactBy month 12 (recordingJobsQuery s) now (getRecordingJobsByMonth s now) ↔
      WindowFits month 12 (recordingJobsQuery s) now (addDate now 0 (-12) 0)) :=
  ⟨getByDay_exact_iff _ now, getByMonth_exact_iff _ now, getByDay_exact_iff _ now,
    getByMonth_exact_iff _ now⟩

/-- A call of 18:00 to 19:00 on 5 September 2024. -/
def eveningCall : Call where
  id := "call"
  channelID := "channel"
  startAt := 1725559200000
  endAt := 1725562800000
  createAt := 1725559200000
  deleteAt := 0
  title := ""
  postID := "post"
  threadID := "post"
  ownerID := "owner"
  participants := []
  stats := ⟨0⟩
  props := ⟨[], "", "", [], 0, "", [], ""⟩

/-- At noon on 5 October the maps by day have 31 keys, that of the evening of 5
September being one of them. -/
theorem getCallsByDay_not_exact :
    ¬ ∀ (s : Store) (now : Int),
      ExactBy day 30 (callsQuery s) now (getCallsByDay s now) ∧
      ExactBy month 12 (callsQuery s) now (getCallsByMonth s now) ∧
      ExactBy day 30 (recordingJobsQuery s) now (getRecordingJobsByDay s now) ∧
      ExactBy month 12 (recordingJobsQuery s) now (getRecordingJobsByMonth s now) := by
  intro h
  have hday :=
    (h ⟨⟨[eveningCall], by decide⟩, Table.empty, Table.empty⟩ 1728129600000).1 19971
  revert hday
  decide

end CallsPlugin.Ports.CallStats
