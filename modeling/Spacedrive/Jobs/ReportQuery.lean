/-
Module: Spacedrive.Jobs.ReportQuery
Purpose: The database query of the `reports` procedure (`core/src/api/jobs.rs`, lines 85-96) and
  what it leaves to the in-memory merge. The query orders the library's `job` rows by
  `date_created`, newest first, keeps the first 100 and turns each into a `JobReport`; only then
  is each persisted report replaced by the active report with its id. Every report in the output
  is the effective report of a report the query returned (`mem_reports_jobs`), so a job whose
  rows each have at least 100 newer rows in front of them is in no group, running or not
  (`reports_misses_crowded_job`), although the procedure's comment asks that the results
  "must include running jobs".
Trusted boundary: the table is the list of its rows in storage order, which also decides between
  rows of one `date_created` (the database leaves their order open); `JobReport::try_from` is
  each row's optional report; `get_active_reports_with_id` files each active report under its
  own id.
Main exports: JobRow, orderByDateCreatedDesc, queryJobReports, mem_reports_jobs,
  reports_misses_crowded_job, reports_at_most_hundred_jobs
-/
import Spacedrive.Jobs.Reports

namespace Spacedrive.Jobs

/-- A row of the library's `job` table as the query reads it: its `date_created`, and what
`JobReport::try_from` makes of it (`none` when the conversion fails). -/
structure JobRow where
  dateCreated : Nat
  report : Option JobReport

/-- `order_by(job::date_created::order(SortOrder::Desc))`. -/
def orderByDateCreatedDesc (table : List JobRow) : List JobRow :=
  table.mergeSort fun a b => decide (b.dateCreated ≤ a.dateCreated)

/-- `find_many(vec![]).order_by(..).take(100)..exec().await?.into_iter()
.flat_map(JobReport::try_from).collect()`. -/
def queryJobReports (table : List JobRow) : List JobReport :=
  ((orderByDateCreatedDesc table).take 100).filterMap (·.report)

theorem orderByDateCreatedDesc_sorted (table : List JobRow) :
    (orderByDateCreatedDesc table).Pairwise fun newer older => older.dateCreated ≤ newer.dateCreated := by
  have sorted := @List.sorted_mergeSort _ (fun a b : JobRow => decide (b.dateCreated ≤ a.dateCreated))
    (fun _ _ _ first second => by simp only [decide_eq_true_eq] at *; omega)
    (fun first second => by simpa using Nat.le_total _ _) table
  simpa using sorted

/-- A row with at least 100 strictly newer rows is cut by `take(100)`: every row after the cut is
no newer than every row before it, so the newer rows all precede it. -/
theorem not_mem_take_of_crowded {table : List JobRow} {row : JobRow}
    (crowded : 100 ≤ (table.filter fun other => row.dateCreated < other.dateCreated).length) :
    row ∉ (orderByDateCreatedDesc table).take 100 := by
  intro kept
  let newer := fun other : JobRow => decide (row.dateCreated < other.dateCreated)
  have split := orderByDateCreatedDesc_sorted table
  rw [← List.take_append_drop 100 (orderByDateCreatedDesc table), List.pairwise_append] at split
  have noneAfter : ((orderByDateCreatedDesc table).drop 100).filter newer = [] :=
    List.filter_eq_nil_iff.mpr fun other after => by
      simpa [newer] using split.2.2 row kept other after
  have count : (((orderByDateCreatedDesc table).take 100).filter newer).length =
      (table.filter newer).length := by
    rw [← ((List.mergeSort_perm table _).filter newer).length_eq, ← orderByDateCreatedDesc,
      ← List.take_append_drop 100 (orderByDateCreatedDesc table), List.filter_append, noneAfter,
      List.append_nil, List.take_append_drop]
  have fewer : (((orderByDateCreatedDesc table).take 100).filter newer).length <
      ((orderByDateCreatedDesc table).take 100).length :=
    List.length_filter_lt_length_iff_exists.mpr ⟨row, kept, by simp [newer]⟩
  have crowdedNewer : 100 ≤ (table.filter newer).length := crowded
  have := List.length_take_le 100 (orderByDateCreatedDesc table)
  omega

/-- Every report in a group is the effective report of a report the query returned. -/
theorem mem_reports_jobs {getMeta : JobReport → String × Option String}
    {active : Uuid → Option JobReport} {now : Nat} {jobReports : List JobReport}
    {group : JobGroup} (listed : group ∈ reports getMeta active now jobReports)
    {report : JobReport} (member : report ∈ group.jobs) :
    ∃ job ∈ jobReports, effectiveReport active job = report := by
  obtain ⟨entry, stored, rfl⟩ := List.mem_map.mp ((sortGroups_perm _).subset listed)
  obtain ⟨first, later, sublist, jobs, -⟩ : GroupHistory active now ([] ++ jobReports) entry.2 :=
    @groupJobs_history getMeta active now jobReports [] [] (by simp) entry stored
  rw [jobs, List.mem_reverse, List.mem_map] at member
  obtain ⟨job, mem, rfl⟩ := member
  exact ⟨job, by simpa using sublist.subset mem, rfl⟩

/-- With every active report filed under its own id, the effective report has the job's id. -/
theorem effectiveReport_id {active : Uuid → Option JobReport}
    (keyed : ∀ id found, active id = some found → found.id = id) (job : JobReport) :
    (effectiveReport active job).id = job.id := by
  unfold effectiveReport
  cases present : active job.id with
  | none => rfl
  | some found => exact keyed _ _ present

/-- For every table and every map of active reports that files each report under its own id: a
report all of whose rows have at least 100 strictly newer rows in the table is in no group of the
output, whether or not its job is running. -/
theorem reports_misses_crowded_job (getMeta : JobReport → String × Option String)
    (active : Uuid → Option JobReport) (now : Nat) (table : List JobRow) (report : JobReport)
    (keyed : ∀ id found, active id = some found → found.id = id)
    (crowded : ∀ row ∈ table, row.report.map (·.id) = some report.id →
      100 ≤ (table.filter fun other => row.dateCreated < other.dateCreated).length) :
    ∀ group ∈ reports getMeta active now (queryJobReports table), report ∉ group.jobs := by
  intro group listed member
  obtain ⟨job, queried, rfl⟩ := mem_reports_jobs listed member
  obtain ⟨row, kept, converted⟩ := List.mem_filterMap.mp queried
  have sameId : row.report.map (·.id) = some (effectiveReport active job).id := by
    rw [converted, effectiveReport_id keyed, Option.map_some']
  exact not_mem_take_of_crowded
    (crowded row ((List.mergeSort_perm table _).subset (List.mem_of_mem_take kept)) sameId) kept

/-- For every table, `get_meta` and map of active reports, the groups hold at most 100 jobs in
all: the query keeps 100 rows, and the grouping adds no job. -/
theorem reports_at_most_hundred_jobs (getMeta : JobReport → String × Option String)
    (active : Uuid → Option JobReport) (now : Nat) (table : List JobRow) :
    ((reports getMeta active now (queryJobReports table)).flatMap (·.jobs)).length ≤ 100 :=
  calc ((reports getMeta active now (queryJobReports table)).flatMap (·.jobs)).length
      ≤ ((queryJobReports table).map (effectiveReport active)).length :=
        (((sortGroups_perm _).flatMap_right _).subperm.trans
          (by simpa [List.flatMap_map] using @groupJobs_subperm getMeta active now _)).length_le
    _ = (queryJobReports table).length := List.length_map _ _
    _ ≤ ((orderByDateCreatedDesc table).take 100).length := List.length_filterMap_le _ _
    _ ≤ 100 := List.length_take_le _ _

/-- A job that has run since before 100 later jobs were created. -/
def finishedJob (index : Nat) : JobReport :=
  { id := ⟨List.replicate 15 1 ++ [index.toUInt8], by simp⟩, parentId := none, name := "indexer",
    action := none, status := .completed, createdAt := some (index + 3) }

/-- The running job's row, created at 2, under 100 rows of jobs created after it. -/
def crowdedTable : List JobRow :=
  (List.range 100).map (fun index => ⟨index + 3, some (finishedJob index)⟩) ++ [⟨2, some newerJob⟩]

/-- The running job has a row in the table and an active report, yet is in no group. -/
theorem reports_misses_crowded_job_crowdedTable :
    (∃ row ∈ crowdedTable, row.report = some newerJob) ∧ runningActive newerJob.id = some newerJob ∧
      (∀ id found, runningActive id = some found → found.id = id) ∧
      (∀ row ∈ crowdedTable, row.report.map (·.id) = some newerJob.id →
        100 ≤ (crowdedTable.filter fun other => row.dateCreated < other.dateCreated).length) ∧
      ∀ group ∈ reports locationMeta runningActive 0 (queryJobReports crowdedTable),
        newerJob ∉ group.jobs :=
  have keyed : ∀ id found, runningActive id = some found → found.id = id := fun id found present => by
    unfold runningActive at present
    split at present
    · cases present
      exact ‹id = newerJob.id›.symm
    · cases present
  have crowded : ∀ row ∈ crowdedTable, row.report.map (·.id) = some newerJob.id →
      100 ≤ (crowdedTable.filter fun other => row.dateCreated < other.dateCreated).length := by
    intro row mem sameId
    rcases List.mem_append.mp mem with finished | running
    · obtain ⟨index, -, rfl⟩ := List.mem_map.mp finished
      have firstByte := congrArg (fun id : Uuid => id.bytes.head?) (Option.some.inj sameId)
      simp [finishedJob, newerJob] at firstByte
    · obtain rfl := List.mem_singleton.mp running
      simp [crowdedTable, List.filter_map, Function.comp_def]
  ⟨⟨_, List.mem_append_right _ (List.mem_singleton_self _), rfl⟩, if_pos rfl, keyed, crowded,
    reports_misses_crowded_job _ _ _ _ _ keyed crowded⟩

end Spacedrive.Jobs
