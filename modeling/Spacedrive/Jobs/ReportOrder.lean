/-
Module: Spacedrive.Jobs.ReportOrder
Purpose: The order of the `reports` output (`core/src/api/jobs.rs`, lines 100-157). A group keeps
  the `created_at` of the report that opened it, the first of its reports in the query's order
  (`GroupHistory`), and `push_front` puts each later report before the earlier ones, so a group
  lists its reports in the reverse of the query's order: oldest first when the query is newest first
  (`reports_created_at_order`). The final `sort_by` is stable: groups whose `created_at` are equal
  stay in the order the `HashMap` yields them, so every order of the map's values gives the same
  groups with the same sequence of `created_at`, and one output only when no two groups share a
  `created_at` (`reports_order_independent`).
Trusted boundary: as in `Spacedrive.Jobs.Reports`.
Main exports: sortGroups_filter_createdAt, reports_created_at_order, reports_order_independent
-/
import Spacedrive.Jobs.Reports

namespace Spacedrive.Jobs

/-- For every list of reports whose `created_at` (`Utc::now()` for a missing one) never increases
along the list, and every map of active reports: the groups come out newest first; each group has
the `created_at` of the report that opened it, the first of its reports in the list, and none of
its reports is newer; and it lists the effective reports of its reports in the reverse of the
list's order, the opening report's last. -/
theorem reports_created_at_order (getMeta : JobReport → String × Option String)
    (active : Uuid → Option JobReport) (now : Nat) (jobReports : List JobReport)
    (newestFirst : jobReports.Pairwise fun newer older =>
      older.createdAt.getD now ≤ newer.createdAt.getD now) :
    (reports getMeta active now jobReports).Pairwise
        (fun first second => second.createdAt ≤ first.createdAt) ∧
      ∀ group ∈ reports getMeta active now jobReports, ∃ first later,
        (first :: later).Sublist jobReports ∧ group.createdAt = first.createdAt.getD now ∧
        (∀ job ∈ later, job.createdAt.getD now ≤ group.createdAt) ∧
        group.jobs = ((first :: later).map (effectiveReport active)).reverse := by
  refine ⟨sortGroups_sorted _, fun group mem => ?_⟩
  obtain ⟨entry, stored, rfl⟩ := List.mem_map.mp ((sortGroups_perm _).subset mem)
  obtain ⟨first, later, sublist, jobs, -, createdAt⟩ :
      GroupHistory active now ([] ++ jobReports) entry.2 :=
    @groupJobs_history getMeta active now jobReports [] [] (by simp) entry stored
  rw [List.nil_append] at sublist
  have opening := (List.pairwise_cons.mp (newestFirst.sublist sublist)).1
  exact ⟨first, later, sublist, createdAt, fun job mem => createdAt ▸ opening job mem, jobs⟩

/-- The two runs of one location, newest first, meet the condition. -/
theorem reports_created_at_order_sameLocation :
    [newerJob, olderJob].Pairwise (fun newer older =>
        older.createdAt.getD 0 ≤ newer.createdAt.getD 0) ∧
      (reports locationMeta (fun _ => none) 0 [newerJob, olderJob]).Pairwise
          (fun first second => second.createdAt ≤ first.createdAt) ∧
        ∀ group ∈ reports locationMeta (fun _ => none) 0 [newerJob, olderJob], ∃ first later,
          (first :: later).Sublist [newerJob, olderJob] ∧
          group.createdAt = first.createdAt.getD 0 ∧
          (∀ job ∈ later, job.createdAt.getD 0 ≤ group.createdAt) ∧
          group.jobs = ((first :: later).map (effectiveReport fun _ => none)).reverse :=
  have newestFirst : [newerJob, olderJob].Pairwise (fun newer older =>
      older.createdAt.getD 0 ≤ newer.createdAt.getD 0) := by
    decide
  ⟨newestFirst, reports_created_at_order locationMeta (fun _ => none) 0 _ newestFirst⟩

/-- Two runs of one location, newest first: their group lists the older run at the front. -/
theorem reports_lists_older_run_first :
    (reports locationMeta (fun _ => none) 0 [newerJob, olderJob]).map (·.jobs) =
        [[olderJob, newerJob]] ∧
      olderJob.createdAt = some 1 ∧ newerJob.createdAt = some 2 := by
  rw [reports_sameLocation]
  exact ⟨rfl, rfl, rfl⟩

/-! ### The sort and the map's order -/

/-- The stable sort keeps the groups of one `created_at` in the order it is given them. -/
theorem sortGroups_filter_createdAt (groups : List JobGroup) (createdAt : Nat) :
    (sortGroups groups).filter (·.createdAt = createdAt) =
      groups.filter (·.createdAt = createdAt) := by
  have tied : (groups.filter (·.createdAt = createdAt)).Pairwise
      (fun a b => decide (b.createdAt ≤ a.createdAt)) :=
    List.pairwise_of_forall_mem_list fun a first b second => by
      simp only [List.mem_filter, decide_eq_true_eq] at first second
      simp [first.2, second.2]
  have kept := List.sublist_mergeSort
    (fun _ _ _ first second => by simp only [decide_eq_true_eq] at *; omega)
    (fun first second => by simpa using Nat.le_total _ _) tied (List.filter_sublist groups)
  have inFilter := kept.filter (·.createdAt = createdAt)
  rw [List.filter_filter, List.filter_congr fun _ _ => Bool.and_self _] at inFilter
  exact (inFilter.eq_of_length ((sortGroups_perm groups).filter _).length_eq.symm).symm

/-- Any two orders of the map's values give the same groups, with the same sequence of
`created_at`, and the same output when no two groups share a `created_at`; groups whose
`created_at` are equal come out in the order the map yields them. -/
theorem reports_order_independent (getMeta : JobReport → String × Option String)
    (active : Uuid → Option JobReport) (now : Nat) (jobReports : List JobReport)
    {values values' : List JobGroup}
    (order : values.Perm ((groupJobs getMeta active now jobReports).map Prod.snd))
    (order' : values'.Perm ((groupJobs getMeta active now jobReports).map Prod.snd)) :
    (sortGroups values).Perm (sortGroups values') ∧
      (sortGroups values).map (·.createdAt) = (sortGroups values').map (·.createdAt) ∧
      (∀ createdAt, (sortGroups values).filter (·.createdAt = createdAt) =
        values.filter (·.createdAt = createdAt)) ∧
      (((groupJobs getMeta active now jobReports).map (·.2.createdAt)).Nodup →
        sortGroups values = sortGroups values') := by
  have same : (sortGroups values).Perm (sortGroups values') :=
    (sortGroups_perm values).trans (order.trans (order'.symm.trans (sortGroups_perm values').symm))
  refine ⟨same, List.eq_of_perm_of_sorted (r := (· ≥ ·)) (same.map _)
    (List.pairwise_map.mpr (sortGroups_sorted values))
    (List.pairwise_map.mpr (sortGroups_sorted values')),
    sortGroups_filter_createdAt values, fun distinct => ?_⟩
  have strict : ∀ {groups : List JobGroup},
      groups.Perm ((groupJobs getMeta active now jobReports).map Prod.snd) →
      (sortGroups groups).Pairwise (fun first second => second.createdAt < first.createdAt) :=
    fun {groups} order => by
      have apart : ((sortGroups groups).map (·.createdAt)).Nodup :=
        (((sortGroups_perm _).trans order).map _).nodup_iff.mpr (by simpa using distinct)
      exact ((sortGroups_sorted _).and (List.pairwise_map.mp apart)).imp
        fun ⟨le, ne⟩ => lt_of_le_of_ne le (Ne.symm ne)
  haveI : IsAntisymm JobGroup (fun first second => second.createdAt < first.createdAt) :=
    ⟨fun _ _ first second => absurd (first.trans second) (lt_irrefl _)⟩
  exact List.eq_of_perm_of_sorted same (strict order) (strict order')

/-- A `get_meta` that gives no job a group key. -/
def ungroupedMeta (job : JobReport) : String × Option String :=
  (job.name, none)

/-- Two jobs without a group key, created at the same instant. -/
def thumbnailerJob : JobReport :=
  { id := ⟨List.replicate 15 0 ++ [3], by decide⟩, parentId := none, name := "thumbnailer",
    action := none, status := .completed, createdAt := some 5 }

def identifierJob : JobReport :=
  { id := ⟨List.replicate 15 0 ++ [4], by decide⟩, parentId := none, name := "file_identifier",
    action := none, status := .completed, createdAt := some 5 }

/-- The group a job without a group key makes on its own. -/
def soloGroup (job : JobReport) : JobGroup :=
  { id := job.id, action := none, status := job.status, createdAt := 5, jobs := [job] }

/-- The map's values for the two tied jobs, in the association list's order. -/
def tiedValues : List JobGroup :=
  (groupJobs ungroupedMeta (fun _ => none) 0 [thumbnailerJob, identifierJob]).map Prod.snd

/-- The two orders of the tied groups: same groups, same `created_at`, each order kept. -/
theorem reports_order_independent_tiedJobs :
    tiedValues.Perm tiedValues ∧ tiedValues.reverse.Perm tiedValues ∧
      (sortGroups tiedValues).Perm (sortGroups tiedValues.reverse) ∧
      (sortGroups tiedValues).map (·.createdAt) = (sortGroups tiedValues.reverse).map (·.createdAt) ∧
      (∀ createdAt, (sortGroups tiedValues).filter (·.createdAt = createdAt) =
        tiedValues.filter (·.createdAt = createdAt)) ∧
      (((groupJobs ungroupedMeta (fun _ => none) 0 [thumbnailerJob, identifierJob]).map
          (·.2.createdAt)).Nodup → sortGroups tiedValues = sortGroups tiedValues.reverse) :=
  ⟨List.Perm.refl _, List.reverse_perm _, reports_order_independent ungroupedMeta (fun _ => none) 0
    [thumbnailerJob, identifierJob] (List.Perm.refl _) (List.reverse_perm _)⟩

/-- The map yields the two groups of the tied jobs in either order, and the output follows it. -/
theorem reports_tie_follows_map_order :
    tiedValues.reverse.Perm tiedValues ∧
      sortGroups tiedValues.reverse ≠
        reports ungroupedMeta (fun _ => none) 0 [thumbnailerJob, identifierJob] := by
  have values : tiedValues = [soloGroup thumbnailerJob, soloGroup identifierJob] := by
    decide
  refine ⟨List.reverse_perm _, ?_⟩
  show sortGroups tiedValues.reverse ≠ sortGroups tiedValues
  rw [values, sortGroups, sortGroups, List.reverse_cons, List.reverse_singleton,
    List.singleton_append, List.mergeSort_of_sorted (by decide), List.mergeSort_of_sorted (by decide)]
  decide

end Spacedrive.Jobs
