/-
Module: Spacedrive.Jobs.Reports
Purpose: The `reports` procedure of the jobs router (`core/src/api/jobs.rs`, lines 66-158). The
  persisted reports arrive newest first; each is replaced by its in-memory report when the job is
  active, then filed in one `HashMap<String, JobGroup>`: under its `get_meta` group key (a new
  group on a vacant entry; on an occupied one the report is pushed to the front and, unless it is
  `Paused`, overwrites the group's status), or, without a group key, under its own id with an
  overwriting `insert`. The map's values are sorted by `created_at`, newest first.
  `reports_partition` shows that, when no group key collides with a report's id, the groups
  partition the reports into the classes the group keys define; `reports_group_status` gives the
  members and the status of every group for every input. Whatever the keys, the groups never hold
  a job the query did not return, nor one more often than it was returned
  (`reports_jobs_subperm`).
Trusted boundary: `get_meta` and the map of active reports are parameters; `Utc::now()` is one
  fixed instant; the database query is the input list; `HashMap` is an association list, whose
  order only the final sort sees (`Spacedrive.Jobs.ReportOrder`).
Main exports: JobStatus, JobReport, JobGroup, upsert, groupJob, groupJobs, reports,
  Partitioned, reports_partition, reports_jobs_subperm, GroupHistory, groupJobs_history,
  reports_group_status
-/
import Mathlib.Data.List.Perm.Basic
import Mathlib.Data.List.Sort
import Spacedrive.Uuid

namespace Spacedrive.Jobs

/-- Modelled from the spec: `JobStatus` (`job/report.rs`, not in the source tree). -/
inductive JobStatus where
  | queued
  | running
  | paused
  | canceled
  | completed
  | completedWithErrors
  | failed
deriving DecidableEq, Repr

/-- `JobReport`, with the fields the procedure reads; `name` and `action` are what `get_meta`
derives the action name and the group key from. -/
structure JobReport where
  id : Uuid
  parentId : Option Uuid
  name : String
  action : Option String
  status : JobStatus
  /-- `created_at`, in milliseconds since the epoch -/
  createdAt : Option Nat
deriving DecidableEq

/-- `JobGroup` of the procedure; `jobs` is the `VecDeque`, front first. -/
structure JobGroup where
  id : Uuid
  action : Option String
  status : JobStatus
  createdAt : Nat
  jobs : List JobReport
deriving DecidableEq

/-- `HashMap<String, JobGroup>`: one entry per key. -/
abbrev Groups := List (String × JobGroup)

/-- `groups.entry(key)` and the branch the loop takes: a vacant entry gets `vacant`, an occupied
one is changed in place by `occupied`. -/
def upsert (groups : Groups) (key : String) (vacant : JobGroup)
    (occupied : JobGroup → JobGroup) : Groups :=
  if key ∈ groups.map Prod.fst then
    groups.map fun entry => if entry.1 = key then (entry.1, occupied entry.2) else entry
  else groups ++ [(key, vacant)]

/-- `HashMap::insert`, which replaces the value of an occupied entry. -/
def insert (groups : Groups) (key : String) (group : JobGroup) : Groups :=
  upsert groups key group fun _ => group

section Loop

variable (getMeta : JobReport → String × Option String) (active : Uuid → Option JobReport)
  (now : Nat)

/-- `active_reports_by_id.get(&job.id).unwrap_or(&job)`. -/
def effectiveReport (job : JobReport) : JobReport :=
  (active job.id).getD job

/-- One iteration of the loop over the persisted reports. -/
def groupJob (groups : Groups) (job : JobReport) : Groups :=
  let report := effectiveReport active job
  match (getMeta job).2 with
  | some groupKey =>
      upsert groups groupKey
        { id := job.parentId.getD job.id
          action := some (getMeta job).1
          status := job.status
          jobs := [report]
          createdAt := job.createdAt.getD now }
        fun group =>
          { group with
            status := if report.status ≠ .paused then report.status else group.status
            jobs := report :: group.jobs }
  | none =>
      insert groups job.id.toString
        { id := job.id
          action := none
          status := job.status
          jobs := [report]
          createdAt := job.createdAt.getD now }

/-- The loop over the reports of the query, from an empty map. -/
def groupJobs (jobReports : List JobReport) : Groups :=
  jobReports.foldl (groupJob getMeta active now) []

/-- `groups_vec.sort_by(|a, b| b.created_at.cmp(&a.created_at))`: a stable sort, newest first. -/
def sortGroups (groups : List JobGroup) : List JobGroup :=
  groups.mergeSort fun a b => decide (b.createdAt ≤ a.createdAt)

/-- The result of the procedure, with the map's values in the association list's order. -/
def reports (jobReports : List JobReport) : List JobGroup :=
  sortGroups ((groupJobs getMeta active now jobReports).map Prod.snd)

/-- The key a report is filed under: its group key, or the string form of its id. -/
def entryKey (job : JobReport) : String :=
  (getMeta job).2.getD job.id.toString

end Loop

/-! ### The map operations -/

theorem keys_upsert (groups : Groups) (key : String) (vacant : JobGroup)
    (occupied : JobGroup → JobGroup) :
    (upsert groups key vacant occupied).map Prod.fst =
      if key ∈ groups.map Prod.fst then groups.map Prod.fst else groups.map Prod.fst ++ [key] := by
  unfold upsert
  split
  · simp only [List.map_map]
    congr 1
    funext entry
    by_cases same : entry.1 = key <;> simp [same]
  · simp

/-- Every entry after an `upsert`: the new one, the changed one, or one that was there. -/
theorem mem_upsert {groups : Groups} {key : String} {vacant : JobGroup}
    {occupied : JobGroup → JobGroup} {entry : String × JobGroup}
    (found : entry ∈ upsert groups key vacant occupied) :
    (key ∉ groups.map Prod.fst ∧ entry = (key, vacant)) ∨
      (∃ old, (key, old) ∈ groups ∧ entry = (key, occupied old)) ∨
      (entry ∈ groups ∧ entry.1 ≠ key) := by
  unfold upsert at found
  split at found
  · obtain ⟨old, present, rfl⟩ := List.mem_map.mp found
    by_cases same : old.1 = key
    · exact .inr (.inl ⟨old.2, by rw [← same]; exact present, by simp [same]⟩)
    · exact .inr (.inr ⟨by simpa [same] using present, by simp [same]⟩)
  · rcases List.mem_append.mp found with present | added
    · exact .inr (.inr ⟨present, fun same => ‹key ∉ _› (by
        rw [← same]; exact List.mem_map_of_mem _ present)⟩)
    · exact .inl ⟨‹_›, List.mem_singleton.mp added⟩

/-- With distinct keys, changing the entry of `key` in place adds `report` to the jobs of exactly
one group. -/
theorem flatMap_upsert_occupied {groups : Groups} {key : String} {vacant : JobGroup}
    {report : JobReport} {update : JobGroup → JobGroup}
    (distinct : (groups.map Prod.fst).Nodup) (present : key ∈ groups.map Prod.fst)
    (pushes : ∀ group, (update group).jobs = report :: group.jobs) :
    ((upsert groups key vacant update).flatMap (·.2.jobs)).Perm
      (report :: groups.flatMap (·.2.jobs)) := by
  rw [upsert, if_pos present]
  induction groups with
  | nil => cases present
  | cons entry rest ih =>
      obtain ⟨absent, distinct⟩ := List.nodup_cons.mp distinct
      by_cases same : entry.1 = key
      · have untouched : rest.map (fun entry => if entry.1 = key then
            (entry.1, update entry.2) else entry) = rest := by
          refine (List.map_congr_left fun other mem => if_neg fun clash => absent ?_).trans
            (List.map_id _)
          rw [same, ← clash]
          exact List.mem_map_of_mem _ mem
        simp [same, pushes, untouched]
      · have later : key ∈ rest.map Prod.fst := by
          simpa [Ne.symm same] using present
        simpa [same] using (List.Perm.append_left _ (ih distinct later)).trans List.perm_middle

/-! ### The partition -/

section Partition

variable {getMeta : JobReport → String × Option String} {active : Uuid → Option JobReport}
  {now : Nat}

/-- After the reports `done`: one entry per key filed so far, each holding, front first, the
effective reports filed under its key, newest last; together they hold every effective report
once. -/
structure Partitioned (getMeta : JobReport → String × Option String)
    (active : Uuid → Option JobReport) (done : List JobReport) (groups : Groups) : Prop where
  keys_nodup : (groups.map Prod.fst).Nodup
  mem_keys : ∀ key, key ∈ groups.map Prod.fst ↔ ∃ job ∈ done, entryKey getMeta job = key
  jobs_eq : ∀ entry ∈ groups, entry.2.jobs =
    ((done.filter (entryKey getMeta · = entry.1)).map (effectiveReport active)).reverse
  flat : (groups.flatMap (·.2.jobs)).Perm (done.map (effectiveReport active))

theorem Partitioned.empty : Partitioned getMeta active [] [] :=
  ⟨List.nodup_nil, by simp, by simp, by simp⟩

/-- A report whose key no earlier report has starts a group of its own. -/
theorem Partitioned.fresh {done : List JobReport} {groups : Groups} {job : JobReport}
    (holds : Partitioned getMeta active done groups) (group : JobGroup)
    (absent : entryKey getMeta job ∉ groups.map Prod.fst)
    (alone : group.jobs = [effectiveReport active job]) :
    Partitioned getMeta active (done ++ [job])
      (groups ++ [(entryKey getMeta job, group)]) := by
  have none : ∀ earlier ∈ done, entryKey getMeta earlier ≠ entryKey getMeta job :=
    fun earlier mem same => absent ((holds.mem_keys _).mpr ⟨earlier, mem, same⟩)
  refine ⟨?_, fun key => ?_, fun entry mem => ?_, ?_⟩
  · rw [List.map_append]
    exact List.nodup_append.mpr ⟨holds.keys_nodup, List.nodup_singleton _,
      List.disjoint_singleton.mpr absent⟩
  · rw [List.map_append, List.mem_append, holds.mem_keys]
    simp only [List.map_cons, List.map_nil, List.mem_singleton, List.mem_append, or_and_right,
      exists_or, exists_eq_left, exists_eq_left', eq_comm]
  · rcases List.mem_append.mp mem with old | added
    · have other : entry.1 ≠ entryKey getMeta job :=
        fun same => absent (same ▸ List.mem_map_of_mem _ old)
      simp [holds.jobs_eq entry old, List.filter_append, other.symm]
    · obtain rfl := List.mem_singleton.mp added
      have empty : done.filter (entryKey getMeta · = entryKey getMeta job) = [] :=
        List.filter_eq_nil_iff.mpr fun earlier mem => by simpa using none earlier mem
      simp [alone, empty]
  · simpa [alone] using holds.flat.append_right [effectiveReport active job]

/-- A report whose key is filed already joins that key's group at the front. -/
theorem Partitioned.push {done : List JobReport} {groups : Groups} {job : JobReport}
    (holds : Partitioned getMeta active done groups) (vacant : JobGroup)
    (update : JobGroup → JobGroup)
    (pushes : ∀ group, (update group).jobs = effectiveReport active job :: group.jobs)
    (present : entryKey getMeta job ∈ groups.map Prod.fst) :
    Partitioned getMeta active (done ++ [job])
      (upsert groups (entryKey getMeta job) vacant update) := by
  refine ⟨?_, fun key => ?_, fun entry mem => ?_, ?_⟩
  · simpa [keys_upsert, present] using holds.keys_nodup
  · rw [keys_upsert, if_pos present, holds.mem_keys]
    constructor
    · rintro ⟨earlier, mem, same⟩
      exact ⟨earlier, List.mem_append_left _ mem, same⟩
    · rintro ⟨earlier, mem, rfl⟩
      rcases List.mem_append.mp mem with old | added
      · exact ⟨earlier, old, rfl⟩
      · obtain rfl := List.mem_singleton.mp added
        exact (holds.mem_keys _).mp present
  · rcases mem_upsert mem with ⟨absent, -⟩ | ⟨old, stored, rfl⟩ | ⟨kept, other⟩
    · exact absurd present absent
    · have oldJobs : old.jobs = _ := holds.jobs_eq _ stored
      simp [pushes, oldJobs, List.filter_append]
    · simp [holds.jobs_eq entry kept, List.filter_append, Ne.symm other]
  · simpa using (flatMap_upsert_occupied holds.keys_nodup present pushes).trans
      ((holds.flat.cons _).trans (List.perm_append_singleton _ _).symm)

/-- One iteration keeps the partition, provided a report without a group key has a key no earlier
report has (its `insert` would otherwise replace a group). -/
theorem Partitioned.preserved {done : List JobReport} {groups : Groups} {job : JobReport}
    (holds : Partitioned getMeta active done groups)
    (fresh : (getMeta job).2 = none →
      ∀ earlier ∈ done, entryKey getMeta earlier ≠ job.id.toString) :
    Partitioned getMeta active (done ++ [job]) (groupJob getMeta active now groups job) := by
  unfold groupJob
  split
  · rename_i groupKey keyed
    have filed : entryKey getMeta job = groupKey := by simp [entryKey, keyed]
    by_cases present : groupKey ∈ groups.map Prod.fst
    · exact filed ▸ holds.push _ _ (fun _ => rfl) (filed ▸ present)
    · rw [upsert, if_neg present, ← filed]
      exact holds.fresh _ (filed ▸ present) rfl
  · rename_i unkeyed
    have filed : entryKey getMeta job = job.id.toString := by simp [entryKey, unkeyed]
    have absent : job.id.toString ∉ groups.map Prod.fst := fun present => by
      obtain ⟨earlier, mem, same⟩ := (holds.mem_keys _).mp present
      exact fresh unkeyed earlier mem same
    rw [insert, upsert, if_neg absent, ← filed]
    exact holds.fresh _ (filed ▸ absent) rfl

/-- The whole loop keeps the partition when no report without a group key shares its key with an
earlier report. -/
theorem Partitioned.foldl :
    ∀ (rest : List JobReport) {done : List JobReport} {groups : Groups},
      Partitioned getMeta active done groups →
      (done ++ rest).Pairwise (fun earlier later =>
        (getMeta later).2 = none → entryKey getMeta earlier ≠ later.id.toString) →
      Partitioned getMeta active (done ++ rest) (rest.foldl (groupJob getMeta active now) groups)
  | [], _, _, holds, _ => by simpa using holds
  | job :: rest, done, _, holds, apart => by
      have step : Partitioned getMeta active (done ++ [job]) (groupJob getMeta active now _ job) :=
        holds.preserved fun unkeyed earlier mem => (List.pairwise_append.mp apart).2.2 earlier mem job
          (List.mem_cons_self _ _) unkeyed
      simpa using Partitioned.foldl rest step (by simpa using apart)

/-- Under distinct ids and group keys apart from ids, two reports get the same key exactly when
they are the same report or both have a group key and the keys are equal. -/
theorem entryKey_eq_iff {jobReports : List JobReport}
    (distinct : (jobReports.map (·.id)).Nodup)
    (keysApart : ∀ job ∈ jobReports, ∀ other ∈ jobReports, (getMeta job).2 ≠ some other.id.toString)
    {job other : JobReport} (mem : job ∈ jobReports) (otherMem : other ∈ jobReports) :
    entryKey getMeta other = entryKey getMeta job ↔
      other.id = job.id ∨ ((getMeta other).2.isSome ∧ (getMeta other).2 = (getMeta job).2) := by
  have sameId : other.id = job.id → other = job :=
    fun same => List.inj_on_of_nodup_map distinct otherMem mem same
  cases keyed : (getMeta job).2 <;> cases otherKeyed : (getMeta other).2 <;>
    simp only [entryKey, keyed, otherKeyed, Option.getD_none, Option.getD_some, Option.isSome_some,
      Option.isSome_none, Option.some.injEq, true_and, false_and, or_false, reduceCtorEq]
  · exact ⟨fun same => Uuid.toString_injective same, fun same => by rw [same]⟩
  · have apart := keysApart other otherMem job mem
    rw [otherKeyed] at apart
    exact ⟨fun same => absurd (congrArg some same) apart,
      fun same => by simp [sameId same, keyed] at otherKeyed⟩
  · have apart := keysApart job mem other otherMem
    rw [keyed] at apart
    exact ⟨fun same => absurd (congrArg some same.symm) apart,
      fun same => by simp [sameId same, keyed] at otherKeyed⟩
  · exact ⟨fun same => .inr same, fun same => same.elim
      (fun same => by simpa [sameId same, keyed] using otherKeyed.symm) id⟩

/-- Under the same conditions the keys of a list of reports are pairwise apart from the ids of
later reports without a group key. -/
theorem pairwise_entryKey_ne {jobReports : List JobReport}
    (distinct : (jobReports.map (·.id)).Nodup)
    (keysApart : ∀ job ∈ jobReports, ∀ other ∈ jobReports, (getMeta job).2 ≠ some other.id.toString) :
    jobReports.Pairwise (fun earlier later =>
      (getMeta later).2 = none → entryKey getMeta earlier ≠ later.id.toString) := by
  have ids := List.pairwise_map.mp distinct
  refine ids.imp_of_mem fun {earlier later} earlierMem laterMem apart unkeyed same => apart ?_
  rcases (entryKey_eq_iff distinct keysApart laterMem earlierMem).mp
    (by simpa [entryKey, unkeyed] using same) with same | ⟨keyed, clash⟩
  · exact same
  · simp [clash, unkeyed] at keyed

end Partition

/-! ### Nothing invented, nothing repeated -/

section Subperm

variable {getMeta : JobReport → String × Option String} {active : Uuid → Option JobReport}
  {now : Nat}

/-- An `upsert` keeps one entry per key. -/
theorem nodup_keys_upsert {groups : Groups} (distinct : (groups.map Prod.fst).Nodup) (key : String)
    (vacant : JobGroup) (occupied : JobGroup → JobGroup) :
    ((upsert groups key vacant occupied).map Prod.fst).Nodup := by
  rw [keys_upsert]
  split
  · exact distinct
  · exact distinct.append (List.nodup_singleton key) (List.disjoint_singleton.mpr ‹_›)

/-- With one entry per key, an `upsert` whose new group holds `report` alone and whose change keeps
at most `report` and the group's jobs adds no job but `report`; `HashMap::insert` may drop the jobs
of the group it replaces. -/
theorem flatMap_upsert_subperm {groups : Groups} {key : String} {vacant : JobGroup}
    {report : JobReport} {update : JobGroup → JobGroup}
    (distinct : (groups.map Prod.fst).Nodup) (fresh : vacant.jobs = [report])
    (bounded : ∀ group, (update group).jobs.Sublist (report :: group.jobs)) :
    ((upsert groups key vacant update).flatMap (·.2.jobs)).Subperm
      (report :: groups.flatMap (·.2.jobs)) := by
  unfold upsert
  split
  · rename_i present
    induction groups with
    | nil => cases present
    | cons entry rest ih =>
        obtain ⟨absent, distinct⟩ := List.nodup_cons.mp distinct
        by_cases same : entry.1 = key
        · have untouched : rest.map (fun entry => if entry.1 = key then
              (entry.1, update entry.2) else entry) = rest := by
            refine (List.map_congr_left fun other mem => if_neg fun clash => absent ?_).trans
              (List.map_id _)
            rw [same, ← clash]
            exact List.mem_map_of_mem _ mem
          simpa [same, untouched] using ((bounded entry.2).append (List.Sublist.refl _)).subperm
        · have later : key ∈ rest.map Prod.fst := by
            simpa [Ne.symm same] using present
          simpa [same] using ((List.subperm_append_left entry.2.jobs).mpr (ih distinct later)).trans
            List.perm_middle.subperm
  · simpa [fresh] using (List.perm_append_singleton report _).subperm

/-- One iteration keeps one entry per key and adds at most the report's effective report. -/
theorem groupJob_subperm {groups : Groups} {done : List JobReport}
    (distinct : (groups.map Prod.fst).Nodup)
    (kept : (groups.flatMap (·.2.jobs)).Subperm (done.map (effectiveReport active)))
    (job : JobReport) :
    ((groupJob getMeta active now groups job).map Prod.fst).Nodup ∧
      ((groupJob getMeta active now groups job).flatMap (·.2.jobs)).Subperm
        ((done ++ [job]).map (effectiveReport active)) := by
  have grown : (effectiveReport active job :: groups.flatMap (·.2.jobs)).Subperm
      ((done ++ [job]).map (effectiveReport active)) := by
    rw [List.map_append, List.map_singleton]
    exact ((List.subperm_cons _).mpr kept).trans (List.perm_append_singleton _ _).symm.subperm
  unfold groupJob
  split
  · exact ⟨nodup_keys_upsert distinct _ _ _,
      (flatMap_upsert_subperm distinct rfl fun _ => List.Sublist.refl _).trans grown⟩
  · exact ⟨nodup_keys_upsert distinct _ _ _,
      (flatMap_upsert_subperm distinct rfl fun _ => List.cons_sublist_cons.mpr
        (List.nil_sublist _)).trans grown⟩

/-- The loop keeps one entry per key and puts each effective report in at most as many groups as
the query returned it. -/
theorem groupJobs_subperm (jobReports : List JobReport) :
    ((groupJobs getMeta active now jobReports).flatMap (·.2.jobs)).Subperm
      (jobReports.map (effectiveReport active)) := by
  suffices run : ∀ (rest done : List JobReport) (groups : Groups), (groups.map Prod.fst).Nodup →
      (groups.flatMap (·.2.jobs)).Subperm (done.map (effectiveReport active)) →
      ((rest.foldl (groupJob getMeta active now) groups).flatMap (·.2.jobs)).Subperm
        ((done ++ rest).map (effectiveReport active)) from
    run jobReports [] [] List.nodup_nil (List.nil_subperm)
  intro rest
  induction rest with
  | nil => intro done groups _ kept; simpa using kept
  | cons job rest ih =>
      intro done groups distinct kept
      obtain ⟨distinct, kept⟩ := @groupJob_subperm getMeta active now _ _ distinct kept job
      simpa using ih (done ++ [job]) _ distinct kept

end Subperm

/-- The sort only reorders the groups. -/
theorem sortGroups_perm (groups : List JobGroup) : (sortGroups groups).Perm groups :=
  List.mergeSort_perm groups _

/-- The groups come out newest first. -/
theorem sortGroups_sorted (groups : List JobGroup) :
    (sortGroups groups).Pairwise fun first second => second.createdAt ≤ first.createdAt := by
  have sorted := @List.sorted_mergeSort _ (fun a b : JobGroup => decide (b.createdAt ≤ a.createdAt))
    (fun _ _ _ first second => by simp only [decide_eq_true_eq] at *; omega)
    (fun first second => by simpa using Nat.le_total _ _) groups
  simpa using sorted

/-- For every list of reports, every `get_meta` and every map of active reports, the groups hold
effective reports of the query's reports, each at most as often as the query returned it, whatever
the keys: the grouping never invents or repeats a job, though an `insert` under a key already in
use drops the jobs it replaces. -/
theorem reports_jobs_subperm (getMeta : JobReport → String × Option String)
    (active : Uuid → Option JobReport) (now : Nat) (jobReports : List JobReport) :
    ((reports getMeta active now jobReports).flatMap (·.jobs)).Subperm
      (jobReports.map (effectiveReport active)) :=
  ((sortGroups_perm _).flatMap_right _).subperm.trans
    (by simpa [List.flatMap_map] using @groupJobs_subperm getMeta active now jobReports)

/-- For distinct ids, and group keys that are never the string form of a report's id, the groups
partition the reports: every report's effective report is in exactly one group, the groups hold
as many reports as the query returned, and each group holds, up to order, the effective reports
of one class of the relation "same report, or both have a group key and the keys are equal". -/
theorem reports_partition (getMeta : JobReport → String × Option String)
    (active : Uuid → Option JobReport) (now : Nat) (jobReports : List JobReport)
    (distinct : (jobReports.map (·.id)).Nodup)
    (keysApart : ∀ job ∈ jobReports, ∀ other ∈ jobReports, (getMeta job).2 ≠ some other.id.toString) :
    ((reports getMeta active now jobReports).flatMap (·.jobs)).Perm
        (jobReports.map fun job => (active job.id).getD job) ∧
      ((reports getMeta active now jobReports).flatMap (·.jobs)).length = jobReports.length ∧
      ∀ group ∈ reports getMeta active now jobReports, ∃ job ∈ jobReports,
        group.jobs.Perm ((jobReports.filter fun other =>
          other.id = job.id ∨ ((getMeta other).2.isSome ∧ (getMeta other).2 = (getMeta job).2)).map
            fun other => (active other.id).getD other) := by
  have holds : Partitioned getMeta active jobReports (groupJobs getMeta active now jobReports) := by
    simpa using @Partitioned.foldl getMeta active now jobReports [] [] .empty
      (by simpa using pairwise_entryKey_ne distinct keysApart)
  have flat : ((reports getMeta active now jobReports).flatMap (·.jobs)).Perm
      (jobReports.map (effectiveReport active)) := by
    refine ((sortGroups_perm _).flatMap_right _).trans ?_
    simpa [List.flatMap_map] using holds.flat
  refine ⟨flat, ?_, fun group mem => ?_⟩
  · simpa using flat.length_eq
  · obtain ⟨entry, stored, rfl⟩ := List.mem_map.mp ((sortGroups_perm _).subset mem)
    obtain ⟨job, jobMem, filed⟩ := (holds.mem_keys entry.1).mp (List.mem_map_of_mem _ stored)
    refine ⟨job, jobMem, ?_⟩
    rw [holds.jobs_eq entry stored, ← filed]
    refine (List.reverse_perm _).trans (List.Perm.of_eq (congrArg _ (List.filter_congr
      fun other otherMem => ?_)))
    rw [Bool.eq_iff_iff]
    simp only [decide_eq_true_eq, Bool.or_eq_true, Bool.and_eq_true]
    exact entryKey_eq_iff distinct keysApart jobMem otherMem

/-- Two runs of one job on one location: the newer one running, the older one completed. -/
def newerJob : JobReport :=
  { id := ⟨List.replicate 15 0 ++ [2], by decide⟩, parentId := none, name := "indexer", action := none,
    status := .running, createdAt := some 2 }

def olderJob : JobReport :=
  { id := ⟨List.replicate 15 0 ++ [1], by decide⟩, parentId := none, name := "indexer", action := none,
    status := .completed, createdAt := some 1 }

/-- A `get_meta` that gives every job the group key of one location. -/
def locationMeta (job : JobReport) : String × Option String :=
  (job.name, some "location")

/-- The newer run as its row was persisted, before it started. -/
def queuedNewer : JobReport := { newerJob with status := .queued }

/-- The active reports: the newer run, running, alone. -/
def runningActive (id : Uuid) : Option JobReport :=
  if id = newerJob.id then some newerJob else none

/-- The queued row of the newer run and the older run fall into one group, which holds the
newer run's in-memory report in place of its row. -/
theorem reports_partition_runningActive :
    ([queuedNewer, olderJob].map (·.id)).Nodup ∧
      (∀ job ∈ [queuedNewer, olderJob], ∀ other ∈ [queuedNewer, olderJob],
        (locationMeta job).2 ≠ some other.id.toString) ∧
      (((reports locationMeta runningActive 0 [queuedNewer, olderJob]).flatMap (·.jobs)).Perm
          ([queuedNewer, olderJob].map fun job => (runningActive job.id).getD job) ∧
        ((reports locationMeta runningActive 0 [queuedNewer, olderJob]).flatMap (·.jobs)).length =
          [queuedNewer, olderJob].length ∧
        ∀ group ∈ reports locationMeta runningActive 0 [queuedNewer, olderJob],
          ∃ job ∈ [queuedNewer, olderJob],
            group.jobs.Perm (([queuedNewer, olderJob].filter fun other => other.id = job.id ∨
              ((locationMeta other).2.isSome ∧ (locationMeta other).2 = (locationMeta job).2)).map
                fun other => (runningActive other.id).getD other)) :=
  ⟨by decide, by decide, reports_partition locationMeta runningActive 0 [queuedNewer, olderJob]
    (by decide) (by decide)⟩

/-! ### The status of a group -/

/-- The status of the last report that is not `Paused`, if any. -/
def lastUnpaused (reports : List JobReport) : Option JobStatus :=
  ((reports.filter fun report => report.status ≠ .paused).getLast?).map (·.status)

@[simp] theorem lastUnpaused_nil : lastUnpaused [] = none := rfl

theorem lastUnpaused_append_singleton (reports : List JobReport) (report : JobReport) :
    lastUnpaused (reports ++ [report]) =
      if report.status ≠ .paused then some report.status else lastUnpaused reports := by
  by_cases paused : report.status = .paused <;>
    simp [lastUnpaused, List.filter_append, List.getLast?_append, paused]

section History

variable {getMeta : JobReport → String × Option String} {active : Uuid → Option JobReport}
  {now : Nat}

/-- A group as the loop leaves it after the reports `done`: opened by one report and joined by
later ones, in their order in `done`; it holds their effective reports, the first one at the back;
its status is the first report's persisted status, overwritten by each later effective status
that is not `Paused`; and it keeps the `created_at` of the first report. -/
def GroupHistory (active : Uuid → Option JobReport) (now : Nat) (done : List JobReport)
    (group : JobGroup) : Prop :=
  ∃ first later, (first :: later).Sublist done ∧
    group.jobs = ((first :: later).map (effectiveReport active)).reverse ∧
    group.status = (lastUnpaused (later.map (effectiveReport active))).getD first.status ∧
    group.createdAt = first.createdAt.getD now

theorem GroupHistory.opened {done : List JobReport} {job : JobReport} {group : JobGroup}
    (jobs : group.jobs = [effectiveReport active job]) (status : group.status = job.status)
    (createdAt : group.createdAt = job.createdAt.getD now) :
    GroupHistory active now (done ++ [job]) group :=
  ⟨job, [], List.singleton_sublist.mpr (List.mem_append_right _ (List.mem_singleton_self _)),
    jobs, status, createdAt⟩

theorem GroupHistory.joined {done : List JobReport} {group : JobGroup}
    (history : GroupHistory active now done group) (job : JobReport) :
    GroupHistory active now (done ++ [job])
      { group with
        status := if (effectiveReport active job).status ≠ .paused then
          (effectiveReport active job).status else group.status
        jobs := effectiveReport active job :: group.jobs } := by
  obtain ⟨first, later, sublist, jobs, status, createdAt⟩ := history
  refine ⟨first, later ++ [job], sublist.append (List.Sublist.refl [job]), by simp [jobs], ?_,
    createdAt⟩
  rw [List.map_append, List.map_singleton, lastUnpaused_append_singleton]
  split <;> simp [status, *]

theorem GroupHistory.append {done : List JobReport} {group : JobGroup}
    (history : GroupHistory active now done group) (job : JobReport) :
    GroupHistory active now (done ++ [job]) group :=
  let ⟨first, later, sublist, rest⟩ := history
  ⟨first, later, sublist.trans (List.sublist_append_left _ _), rest⟩

/-- One iteration keeps every group's history. -/
theorem groupJob_history {done : List JobReport} {groups : Groups} {job : JobReport}
    (histories : ∀ entry ∈ groups, GroupHistory active now done entry.2) :
    ∀ entry ∈ groupJob getMeta active now groups job,
      GroupHistory active now (done ++ [job]) entry.2 := by
  intro entry mem
  unfold groupJob at mem
  split at mem
  · rcases mem_upsert mem with ⟨-, rfl⟩ | ⟨old, stored, rfl⟩ | ⟨kept, -⟩
    · exact .opened rfl rfl rfl
    · exact (histories _ stored).joined job
    · exact (histories entry kept).append job
  · rcases mem_upsert mem with ⟨-, rfl⟩ | ⟨old, stored, rfl⟩ | ⟨kept, -⟩
    · exact .opened rfl rfl rfl
    · exact .opened rfl rfl rfl
    · exact (histories entry kept).append job

theorem groupJobs_history :
    ∀ (rest : List JobReport) {done : List JobReport} {groups : Groups},
      (∀ entry ∈ groups, GroupHistory active now done entry.2) →
      ∀ entry ∈ rest.foldl (groupJob getMeta active now) groups,
        GroupHistory active now (done ++ rest) entry.2
  | [], _, _, histories => by simpa using histories
  | job :: rest, done, _, histories => by
      simpa using groupJobs_history rest (groupJob_history histories)

end History

/-- For every list of reports and every map of active reports, each group holds the effective
reports of a first report and of later ones, in the order of the query, the first at the back;
its status is the persisted status of that first report, overwritten by the effective status of
the last later report that is not `Paused`. -/
theorem reports_group_status (getMeta : JobReport → String × Option String)
    (active : Uuid → Option JobReport) (now : Nat) (jobReports : List JobReport) :
    ∀ group ∈ reports getMeta active now jobReports, ∃ first later,
      (first :: later).Sublist jobReports ∧
      group.jobs = ((first :: later).map fun job => (active job.id).getD job).reverse ∧
      group.status =
        (lastUnpaused (later.map fun job => (active job.id).getD job)).getD first.status := by
  intro group mem
  obtain ⟨entry, stored, rfl⟩ := List.mem_map.mp ((sortGroups_perm _).subset mem)
  obtain ⟨first, later, sublist, jobs, status, -⟩ : GroupHistory active now ([] ++ jobReports) entry.2 :=
    @groupJobs_history getMeta active now jobReports [] [] (by simp) entry stored
  exact ⟨first, later, by simpa only [List.nil_append] using sublist, jobs, status⟩

/-- The group the two runs of one location form. -/
def sameLocationGroup : JobGroup :=
  { id := newerJob.id, action := some "indexer", status := .completed, createdAt := 2,
    jobs := [olderJob, newerJob] }

/-- The procedure makes that one group of the two runs. -/
theorem reports_sameLocation :
    reports locationMeta (fun _ => none) 0 [newerJob, olderJob] = [sameLocationGroup] := by
  rw [reports, show (groupJobs locationMeta (fun _ => none) 0 [newerJob, olderJob]).map Prod.snd =
    [sameLocationGroup] from rfl, sortGroups, List.mergeSort_singleton]

/-- With the newer run's row still queued and its in-memory report running, the procedure makes
the same group. -/
theorem reports_runningActive :
    reports locationMeta runningActive 0 [queuedNewer, olderJob] = [sameLocationGroup] := by
  rw [reports, show (groupJobs locationMeta runningActive 0 [queuedNewer, olderJob]).map Prod.snd =
    [sameLocationGroup] from rfl, sortGroups, List.mergeSort_singleton]

/-- The group opens with the newer run's row, holds its in-memory report, and takes the older
run's status. -/
theorem reports_group_status_runningActive :
    sameLocationGroup ∈ reports locationMeta runningActive 0 [queuedNewer, olderJob] ∧
      ∃ first later, (first :: later).Sublist [queuedNewer, olderJob] ∧
        sameLocationGroup.jobs =
          ((first :: later).map fun job => (runningActive job.id).getD job).reverse ∧
        sameLocationGroup.status =
          (lastUnpaused (later.map fun job => (runningActive job.id).getD job)).getD first.status :=
  have listed : sameLocationGroup ∈ reports locationMeta runningActive 0 [queuedNewer, olderJob] := by
    rw [reports_runningActive]
    exact List.mem_singleton_self _
  ⟨listed, reports_group_status _ _ _ _ _ listed⟩

/-- The newer run is running, yet its group reports the status of the older, completed run. -/
theorem reports_status_of_older_run :
    newerJob.status = .running ∧
      (reports locationMeta (fun _ => none) 0 [newerJob, olderJob]).map (·.status) =
        [.completed] := by
  rw [reports_sameLocation]
  exact ⟨rfl, rfl⟩

end Spacedrive.Jobs
