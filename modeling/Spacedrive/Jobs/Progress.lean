/-
Module: Spacedrive.Jobs.Progress
Purpose: The `progress` subscription of the jobs router (`core/src/api/jobs.rs`, lines 31-63), a
  per-job debounce over the event bus. The loop takes bus messages until one is a `JobProgress`
  event, looks up the job's instant in a `BTreeMap` (inserting `Instant::now()` when there is
  none), drops the event when at most `1/30 s` has elapsed since that instant, and otherwise yields
  it; once the consumer polls the stream again, the instant becomes `Instant::now()`. Each
  delivery carries the time the loop handles it and, for a yield, how long the consumer takes to
  resume. `DebounceInvariant` holds after every run; from it `progress_rate_cap` bounds the yields
  of a job to 30 per second, and `progress_yield_iff` gives the exact condition under which an
  event of a job that has been yielded before is yielded. The `intervals` entry of a job is
  read and written only by that job's events, so what the stream yields for a job depends only
  on the messages that carry its events (`progress_isolates_job`). The stream yields received
  events in order, none twice (`progress_yields_sublist`), and never the first event of a job
  (`progress_drops_first_event`).
Trusted boundary: the broadcast receiver is the list of its results; `Instant` is a Nat count of
  nanoseconds and `Instant::elapsed` the saturating difference; `Duration::from_secs_f64(1.0 / 30.0)`
  is 33 333 333 ns.
Main exports: Delivery, Yield, Debounce, progressStep, progress, DebounceInvariant,
  progress_rate_cap, progress_yield_iff, progress_drop_after_resume, progress_isolates_job,
  Debounced, progress_yields_sublist, progress_drops_first_event
-/
import Mathlib.Logic.Function.Basic
import Spacedrive.Jobs.EventBus

namespace Spacedrive.Jobs

/-- `Duration::from_secs_f64(1.0 / 30.0)` in nanoseconds. -/
def frameDuration : Nat := 33333333

/-- One message the loop takes from the bus: what `recv` returned, the instant the loop handles
it, and, should the event be yielded, how long the consumer takes to poll the stream again. -/
structure Delivery where
  result : RecvResult
  time : Nat
  resumeDelay : Nat

/-- A yielded event, the instant of the yield, and the instant the consumer resumed the stream. -/
structure Yield where
  event : JobProgressEvent
  time : Nat
  resumedAt : Nat
deriving DecidableEq

/-- The state of the subscription: the `intervals` map and the events yielded so far. -/
structure Debounce where
  intervals : Uuid → Option Nat
  yields : List Yield

/-- A fresh subscription. -/
def Debounce.initial : Debounce :=
  { intervals := fun _ => none, yields := [] }

/-- One bus message through the loop. -/
def progressStep (state : Debounce) (delivery : Delivery) : Debounce :=
  match delivery.result with
  | .ok (.jobProgress event) =>
      let instant := (state.intervals event.id).getD delivery.time
      if delivery.time - instant ≤ frameDuration then
        { state with intervals := Function.update state.intervals event.id (some instant) }
      else
        { intervals := Function.update state.intervals event.id
            (some (delivery.time + delivery.resumeDelay))
          yields := state.yields ++
            [⟨event, delivery.time, delivery.time + delivery.resumeDelay⟩] }
  | _ => state

/-- The subscription after a sequence of bus messages. -/
def progress (deliveries : List Delivery) : Debounce :=
  deliveries.foldl progressStep .initial

/-- The instants at which events of `job` were yielded, in order. -/
def yieldTimes (job : Uuid) (yields : List Yield) : List Nat :=
  (yields.filter (·.event.id = job)).map (·.time)

/-- The instant the consumer resumed the stream after the last yield of an event of `job`. -/
def lastResume (job : Uuid) (yields : List Yield) : Option Nat :=
  ((yields.filter (·.event.id = job)).getLast?).map (·.resumedAt)

/-! ### One step -/

/-- What one message does: nothing, a drop that keeps or inserts the job's instant, or a yield
more than a frame after that instant. -/
theorem progressStep_cases (state : Debounce) (delivery : Delivery) :
    progressStep state delivery = state ∨
      ∃ event, delivery.result = .ok (.jobProgress event) ∧
        ((delivery.time - (state.intervals event.id).getD delivery.time ≤ frameDuration ∧
          progressStep state delivery =
            { state with intervals := (Function.update state.intervals event.id
                (some ((state.intervals event.id).getD delivery.time))) }) ∨
         ((state.intervals event.id).getD delivery.time + frameDuration < delivery.time ∧
          progressStep state delivery =
            { intervals := Function.update state.intervals event.id
                (some (delivery.time + delivery.resumeDelay))
              yields := state.yields ++
                [⟨event, delivery.time, delivery.time + delivery.resumeDelay⟩] })) := by
  unfold progressStep
  split
  · rename_i event taken
    refine .inr ⟨event, taken, ?_⟩
    dsimp only
    split
    · exact .inl ⟨‹_›, rfl⟩
    · exact .inr ⟨by omega, rfl⟩
  · exact .inl rfl

@[simp] theorem lastResume_append_other {job : Uuid} {yields : List Yield} {yield : Yield}
    (other : yield.event.id ≠ job) : lastResume job (yields ++ [yield]) = lastResume job yields := by
  simp [lastResume, List.filter_append, other]

@[simp] theorem lastResume_append_self (yields : List Yield) (yield : Yield) :
    lastResume yield.event.id (yields ++ [yield]) = some yield.resumedAt := by
  simp [lastResume, List.filter_append]

/-- After every run: each yield's instant is at most its job's stored instant, yields of one job
are more than a frame apart, the stored instant of a job that has been yielded is the consumer's
last resume, and a consumer never resumes before the yield. -/
structure DebounceInvariant (state : Debounce) : Prop where
  yield_le : ∀ yield ∈ state.yields, ∃ instant,
    state.intervals yield.event.id = some instant ∧ yield.time ≤ instant
  spaced : state.yields.Pairwise fun first second =>
    first.event.id = second.event.id → first.time + frameDuration < second.time
  last_resume : ∀ job resumedAt, lastResume job state.yields = some resumedAt →
    state.intervals job = some resumedAt
  resumed_after : ∀ yield ∈ state.yields, yield.time ≤ yield.resumedAt

theorem DebounceInvariant.initial : DebounceInvariant .initial :=
  ⟨by simp [Debounce.initial], List.Pairwise.nil, by simp [Debounce.initial, lastResume],
    by simp [Debounce.initial]⟩

theorem DebounceInvariant.preserved {state : Debounce} (holds : DebounceInvariant state)
    (delivery : Delivery) : DebounceInvariant (progressStep state delivery) := by
  rcases progressStep_cases state delivery with same | ⟨event, -, ⟨_, dropped⟩ | ⟨later, yielded⟩⟩
  · rwa [same]
  · -- a drop keeps every stored instant and the yields
    have kept : ∀ {job instant}, state.intervals job = some instant →
        Function.update state.intervals event.id
          (some ((state.intervals event.id).getD delivery.time)) job = some instant := by
      intro job instant present
      by_cases same : job = event.id
      · subst same; simp [present]
      · simp [same, present]
    rw [dropped]
    refine ⟨fun yield mem => ?_, holds.spaced, fun job resumedAt last =>
      kept (holds.last_resume job resumedAt last), holds.resumed_after⟩
    obtain ⟨instant, present, le⟩ := holds.yield_le yield mem
    exact ⟨instant, kept present, le⟩
  · -- a yield: the job's instant becomes the resume instant
    rw [yielded]
    have before : ∀ yield ∈ state.yields, yield.event.id = event.id →
        yield.time + frameDuration < delivery.time := fun yield mem same => by
      obtain ⟨instant, present, le⟩ := holds.yield_le yield mem
      rw [same] at present
      rw [present, Option.getD_some] at later
      omega
    refine ⟨fun yield mem => ?_, ?_, fun job resumedAt last => ?_, fun yield mem => ?_⟩
    · rcases List.mem_append.mp mem with old | added
      · obtain ⟨instant, present, le⟩ := holds.yield_le yield old
        by_cases same : yield.event.id = event.id
        · refine ⟨delivery.time + delivery.resumeDelay, by simp only [Function.update_apply, if_pos same], ?_⟩
          have := before yield old same
          omega
        · exact ⟨instant, by simp [same, present], le⟩
      · obtain rfl := List.mem_singleton.mp added
        exact ⟨delivery.time + delivery.resumeDelay, Function.update_same _ _ _,
          Nat.le_add_right _ _⟩
    · exact List.pairwise_append.mpr ⟨holds.spaced, List.pairwise_singleton _ _,
        fun yield mem new added same => by
          obtain rfl := List.mem_singleton.mp added
          exact before yield mem same⟩
    · by_cases same : job = event.id
      · subst same
        have := lastResume_append_self state.yields ⟨event, delivery.time,
          delivery.time + delivery.resumeDelay⟩
        simp_all
      · rw [lastResume_append_other (Ne.symm same)] at last
        simp [same, holds.last_resume job resumedAt last]
    · rcases List.mem_append.mp mem with old | added
      · exact holds.resumed_after yield old
      · obtain rfl := List.mem_singleton.mp added
        exact Nat.le_add_right _ _

theorem DebounceInvariant.foldl :
    ∀ (deliveries : List Delivery) {state : Debounce}, DebounceInvariant state →
      DebounceInvariant (deliveries.foldl progressStep state)
  | [], _, holds => holds
  | delivery :: deliveries, _, holds => DebounceInvariant.foldl deliveries (holds.preserved delivery)

theorem progress_invariant (deliveries : List Delivery) : DebounceInvariant (progress deliveries) :=
  DebounceInvariant.foldl deliveries .initial

/-! ### The rate cap -/

/-- Instants more than a frame apart fit at most `k` to a window of `(k - 1)` frames and a bit:
`n` of them between `lo` and `hi` need `hi - lo ≥ (n - 1) * (frameDuration + 1)`. -/
theorem length_mul_le_of_spaced :
    ∀ (times : List Nat), times.Pairwise (fun first second => first + frameDuration < second) →
      ∀ lo hi, (∀ time ∈ times, lo ≤ time ∧ time ≤ hi) →
        times.length * (frameDuration + 1) ≤ hi - lo + (frameDuration + 1)
  | [], _, _, _, _ => by simp
  | first :: rest, spaced, lo, hi, within => by
      obtain ⟨after, spaced⟩ := List.pairwise_cons.mp spaced
      have bounds := within first (List.mem_cons_self _ _)
      have tail := length_mul_le_of_spaced rest spaced (first + frameDuration + 1) hi
        fun time mem => ⟨after time mem, (within time (List.mem_cons_of_mem _ mem)).2⟩
      cases rest with
      | nil => simp only [List.length_singleton]; omega
      | cons second rest =>
          have := after second (List.mem_cons_self _ _)
          have := (within second (List.mem_cons_of_mem _ (List.mem_cons_self _ _))).2
          simp only [List.length_cons, frameDuration] at *
          omega

/-- For every sequence of bus messages and every job, any two yields of the job's events are more
than `1/30 s` apart, and at most 30 of them fall in any closed interval of one second. -/
theorem progress_rate_cap (deliveries : List Delivery) (job : Uuid) :
    (yieldTimes job (progress deliveries).yields).Pairwise
        (fun first second => 1000000000 < 30 * (second - first)) ∧
      ∀ start, ((yieldTimes job (progress deliveries).yields).filter
        fun time => start ≤ time ∧ time ≤ start + 1000000000).length ≤ 30 := by
  have spaced : (yieldTimes job (progress deliveries).yields).Pairwise
      (fun first second => first + frameDuration < second) :=
    List.pairwise_map.mpr (((progress_invariant deliveries).spaced.filter _).imp_of_mem
      fun firstMem secondMem apart => apart <| by
        rw [(List.of_mem_filter firstMem : _ = true) |> of_decide_eq_true,
          (List.of_mem_filter secondMem : _ = true) |> of_decide_eq_true])
  refine ⟨spaced.imp fun apart => by unfold frameDuration at apart; omega, fun start => ?_⟩
  have count := length_mul_le_of_spaced ((yieldTimes job (progress deliveries).yields).filter
    fun time => start ≤ time ∧ time ≤ start + 1000000000) (spaced.sublist (List.filter_sublist _)) start
    (start + 1000000000) fun time mem => by simpa using (List.mem_filter.mp mem).2
  simp only [frameDuration] at count
  omega

/-! ### Which events are yielded -/

/-- The message that carries an event of a job the stream has yielded before is yielded exactly
when it is handled more than a frame after the consumer resumed from that job's last yield. -/
theorem progress_yield_iff (deliveries : List Delivery) (delivery : Delivery)
    {event : JobProgressEvent} (taken : delivery.result = .ok (.jobProgress event))
    {resumedAt : Nat} (resumed : lastResume event.id (progress deliveries).yields = some resumedAt) :
    (progress (deliveries ++ [delivery])).yields =
        (progress deliveries).yields ++
          [⟨event, delivery.time, delivery.time + delivery.resumeDelay⟩] ↔
      resumedAt + frameDuration < delivery.time := by
  have stored := (progress_invariant deliveries).last_resume _ _ resumed
  rw [progress, List.foldl_append, List.foldl_cons, List.foldl_nil, ← progress]
  unfold progressStep
  simp only [taken, stored, Option.getD_some]
  split
  · simp only [List.self_eq_append_right, List.cons_ne_nil, false_iff]
    omega
  · simp only [true_iff]
    omega

/-- An event of the indexer job, numbered by its completed task count. -/
def indexerProgress (count : Nat) : JobProgressEvent :=
  { id := ⟨List.replicate 16 7, by decide⟩, completedTaskCount := count, message := "" }

/-- The bus message carrying `indexerProgress count`, handled at `time` (in nanoseconds). -/
def progressAt (count time resumeDelay : Nat) : Delivery :=
  { result := .ok (.jobProgress (indexerProgress count)), time := time, resumeDelay := resumeDelay }

/-- The third update, 10 ms after the consumer resumed from the yield of the second, is dropped. -/
theorem progress_yield_iff_thirdUpdate :
    (progressAt 3 50000000 0).result = .ok (.jobProgress (indexerProgress 3)) ∧
      lastResume (indexerProgress 3).id
        (progress [progressAt 1 0 0, progressAt 2 40000000 0]).yields = some 40000000 ∧
      ((progress ([progressAt 1 0 0, progressAt 2 40000000 0] ++ [progressAt 3 50000000 0])).yields =
          (progress [progressAt 1 0 0, progressAt 2 40000000 0]).yields ++
            [⟨indexerProgress 3, (progressAt 3 50000000 0).time,
              (progressAt 3 50000000 0).time + (progressAt 3 50000000 0).resumeDelay⟩] ↔
        40000000 + frameDuration < (progressAt 3 50000000 0).time) :=
  ⟨rfl, by decide, progress_yield_iff _ _ rfl (by decide)⟩

/-- Three updates of one job at 0, 40 and 50 ms: the last one, 10 ms after the yield of the
second, is not yielded. -/
theorem progress_drops_last_update :
    (progress [progressAt 1 0 0, progressAt 2 40000000 0, progressAt 3 50000000 0]).yields.map
      (·.event.completedTaskCount) = [2] := by
  decide

/-- A message that carries an event of a job the stream has yielded before is dropped only if
the consumer resumed from one of the job's yields, no earlier than that yield, at most a frame
before the message is handled. -/
theorem progress_drop_after_resume (deliveries : List Delivery) (delivery : Delivery)
    {event : JobProgressEvent} (taken : delivery.result = .ok (.jobProgress event))
    (yieldedBefore : ∃ yield ∈ (progress deliveries).yields, yield.event.id = event.id)
    (dropped : (progress (deliveries ++ [delivery])).yields = (progress deliveries).yields) :
    ∃ yield ∈ (progress deliveries).yields, yield.event.id = event.id ∧
      yield.time ≤ yield.resumedAt ∧ delivery.time ≤ yield.resumedAt + frameDuration := by
  have holds := progress_invariant deliveries
  obtain ⟨yield, mem, same⟩ := yieldedBefore
  cases lastMem : ((progress deliveries).yields.filter (·.event.id = event.id)).getLast? with
  | none =>
      rw [List.getLast?_eq_none_iff] at lastMem
      exact absurd (List.mem_filter.mpr ⟨mem, by simpa using same⟩) (lastMem ▸ List.not_mem_nil _)
  | some last =>
  have filtered := List.mem_filter.mp (List.mem_of_getLast?_eq_some lastMem)
  have resumed : lastResume event.id (progress deliveries).yields = some last.resumedAt := by
    simp [lastResume, lastMem]
  refine ⟨last, filtered.1, by simpa using filtered.2, holds.resumed_after last filtered.1, ?_⟩
  have := mt (progress_yield_iff deliveries delivery taken resumed).mpr
  simp only [dropped, List.self_eq_append_right, List.cons_ne_nil, not_false_eq_true,
    forall_const] at this
  omega

/-- The third update, handled 10 ms after the consumer resumed from the second one's yield,
is dropped. -/
theorem progress_drop_after_resume_slowConsumer :
    (progressAt 3 110000000 0).result = .ok (.jobProgress (indexerProgress 3)) ∧
      (∃ yield ∈ (progress [progressAt 1 0 0, progressAt 2 50000000 50000000]).yields,
        yield.event.id = (indexerProgress 3).id) ∧
      (progress ([progressAt 1 0 0, progressAt 2 50000000 50000000] ++
          [progressAt 3 110000000 0])).yields =
        (progress [progressAt 1 0 0, progressAt 2 50000000 50000000]).yields ∧
      ∃ yield ∈ (progress [progressAt 1 0 0, progressAt 2 50000000 50000000]).yields,
        yield.event.id = (indexerProgress 3).id ∧ yield.time ≤ yield.resumedAt ∧
          (progressAt 3 110000000 0).time ≤ yield.resumedAt + frameDuration :=
  have yielded : ∃ yield ∈ (progress [progressAt 1 0 0, progressAt 2 50000000 50000000]).yields,
      yield.event.id = (indexerProgress 3).id := by decide
  have dropped : (progress ([progressAt 1 0 0, progressAt 2 50000000 50000000] ++
      [progressAt 3 110000000 0])).yields =
      (progress [progressAt 1 0 0, progressAt 2 50000000 50000000]).yields := by decide
  ⟨rfl, yielded, dropped, progress_drop_after_resume _ _ rfl yielded dropped⟩

/-- An update at 110 ms is dropped although the only yield of its job, at 50 ms, lies more than
a frame before it: the consumer resumed only at 100 ms. -/
theorem progress_drops_update_after_slow_resume :
    (progress [progressAt 1 0 0, progressAt 2 50000000 50000000, progressAt 3 110000000 0]).yields.map
        (fun yield => (yield.event.completedTaskCount, yield.time)) = [(2, 50000000)] ∧
      50000000 + frameDuration < 110000000 := by
  decide

/-! ### The debounce of one job -/

/-- Whether a bus message carries an event of `job`. -/
def Delivery.concerns (job : Uuid) (delivery : Delivery) : Bool :=
  match delivery.result with
  | .ok (.jobProgress event) => event.id == job
  | _ => false

/-- What the subscription holds for `job`: its stored instant and the yields of its events. -/
def Debounce.view (job : Uuid) (state : Debounce) : Option Nat × List Yield :=
  (state.intervals job, state.yields.filter (·.event.id = job))

/-- A message that carries no event of `job` leaves the job's view as it is. -/
theorem progressStep_view_of_not_concerns (job : Uuid) (state : Debounce) (delivery : Delivery)
    (other : delivery.concerns job = false) :
    (progressStep state delivery).view job = state.view job := by
  rcases progressStep_cases state delivery with same | ⟨event, taken, ⟨_, dropped⟩ | ⟨_, yielded⟩⟩
  · rw [same]
  · have apart : event.id ≠ job := by simpa [Delivery.concerns, taken] using other
    simp [dropped, Debounce.view, Ne.symm apart]
  · have apart : event.id ≠ job := by simpa [Delivery.concerns, taken] using other
    simp [yielded, Debounce.view, apart, List.filter_append, Ne.symm apart]

/-- After a message that carries an event of `job`, the job's view depends only on its view
before. -/
theorem progressStep_view_congr (job : Uuid) {state state' : Debounce}
    (same : state.view job = state'.view job) (delivery : Delivery)
    (concerns : delivery.concerns job = true) :
    (progressStep state delivery).view job = (progressStep state' delivery).view job := by
  obtain ⟨event, taken, rfl⟩ :
      ∃ event, delivery.result = .ok (.jobProgress event) ∧ event.id = job := by
    unfold Delivery.concerns at concerns
    split at concerns
    · exact ⟨_, ‹_›, by simpa using concerns⟩
    · cases concerns
  have stored : state.intervals event.id = state'.intervals event.id := congrArg Prod.fst same
  have yielded : state.yields.filter (·.event.id = event.id) =
      state'.yields.filter (·.event.id = event.id) := congrArg Prod.snd same
  simp only [progressStep, taken, stored]
  split <;> simp [Debounce.view, List.filter_append, yielded]

/-- Over a run, the view of `job` is what the messages carrying its events alone make of it. -/
theorem view_foldl_filter (job : Uuid) :
    ∀ (deliveries : List Delivery) {state state' : Debounce}, state.view job = state'.view job →
      (deliveries.foldl progressStep state).view job =
        ((deliveries.filter (·.concerns job)).foldl progressStep state').view job
  | [], _, _, same => same
  | delivery :: deliveries, state, _, same => by
      by_cases concerns : delivery.concerns job
      · rw [List.filter_cons_of_pos concerns, List.foldl_cons, List.foldl_cons]
        exact view_foldl_filter job deliveries (progressStep_view_congr job same delivery concerns)
      · rw [List.filter_cons_of_neg concerns, List.foldl_cons]
        exact view_foldl_filter job deliveries
          ((progressStep_view_of_not_concerns job state delivery (by simpa using concerns)).trans same)

/-- For every job and any two sequences of bus messages that carry the same events of the job,
handled at the same instants and resumed from after the same delays, the stream yields the same
events of the job at the same instants: the messages of other jobs do not touch its debounce. -/
theorem progress_isolates_job (job : Uuid) (deliveries deliveries' : List Delivery)
    (same : deliveries.filter (·.concerns job) = deliveries'.filter (·.concerns job)) :
    (progress deliveries).yields.filter (·.event.id = job) =
      (progress deliveries').yields.filter (·.event.id = job) := by
  have first := @view_foldl_filter job deliveries .initial .initial rfl
  have second := @view_foldl_filter job deliveries' .initial .initial rfl
  rw [same] at first
  exact congrArg Prod.snd (first.trans second.symm)

/-- An event of another job, the file identifier. -/
def identifierProgress : JobProgressEvent :=
  { id := ⟨List.replicate 16 9, by decide⟩, completedTaskCount := 1, message := "" }

/-- The bus message carrying `identifierProgress`, handled at `time`. -/
def identifierProgressAt (time : Nat) : Delivery :=
  { result := .ok (.jobProgress identifierProgress), time := time, resumeDelay := 0 }

/-- Messages of the file identifier between the indexer's updates change nothing of what the
indexer's updates yield. -/
theorem progress_isolates_job_identifierTraffic :
    [progressAt 1 0 0, progressAt 2 40000000 0].filter (·.concerns (indexerProgress 0).id) =
        [identifierProgressAt 10000000, progressAt 1 0 0, identifierProgressAt 20000000,
          progressAt 2 40000000 0].filter (·.concerns (indexerProgress 0).id) ∧
      (progress [progressAt 1 0 0, progressAt 2 40000000 0]).yields.filter
          (·.event.id = (indexerProgress 0).id) =
        (progress [identifierProgressAt 10000000, progressAt 1 0 0, identifierProgressAt 20000000,
          progressAt 2 40000000 0]).yields.filter (·.event.id = (indexerProgress 0).id) :=
  have same : [progressAt 1 0 0, progressAt 2 40000000 0].filter (·.concerns (indexerProgress 0).id) =
      [identifierProgressAt 10000000, progressAt 1 0 0, identifierProgressAt 20000000,
        progressAt 2 40000000 0].filter (·.concerns (indexerProgress 0).id) := by
    have other : ∀ time, (identifierProgressAt time).concerns (indexerProgress 0).id = false :=
      fun _ => show (identifierProgress.id == (indexerProgress 0).id) = false by decide
    simp only [List.filter_cons, other]
    rfl
  ⟨same, progress_isolates_job _ _ _ same⟩

/-! ### What the stream yields -/

/-- The progress event a bus message carries, if any. -/
def Delivery.progressEvent (delivery : Delivery) : Option JobProgressEvent :=
  match delivery.result with
  | .ok (.jobProgress event) => some event
  | _ => none

theorem Delivery.progressEvent_eq_some {delivery : Delivery} {event : JobProgressEvent} :
    delivery.progressEvent = some event ↔ delivery.result = .ok (.jobProgress event) := by
  unfold Delivery.progressEvent
  split <;> simp_all

/-- A message that carries no progress event goes round the inner loop and changes nothing. -/
theorem progressStep_of_progressEvent_none {state : Debounce} {delivery : Delivery}
    (carried : delivery.progressEvent = none) : progressStep state delivery = state := by
  unfold progressStep
  unfold Delivery.progressEvent at carried
  split <;> simp_all

/-- The progress events among bus messages, in the order the loop takes them. -/
def progressEvents (deliveries : List Delivery) : List JobProgressEvent :=
  deliveries.filterMap (·.progressEvent)

theorem progressEvents_append_singleton (deliveries : List Delivery) (delivery : Delivery) :
    progressEvents (deliveries ++ [delivery]) =
      progressEvents deliveries ++ delivery.progressEvent.toList := by
  cases carried : delivery.progressEvent <;> simp [progressEvents, List.filterMap_append, carried]

/-- What the subscription holds once the progress events `events` have arrived: a job has a
stored instant exactly when one of its events has arrived; the yields are arrived events, in
order, each once; and for each job they leave out its first event. -/
structure Debounced (events : List JobProgressEvent) (state : Debounce) : Prop where
  unstored_iff : ∀ job, state.intervals job = none ↔ ∀ event ∈ events, event.id ≠ job
  yields_sublist : (state.yields.map (·.event)).Sublist events
  job_yields_sublist : ∀ job, ((state.yields.map (·.event)).filter (·.id = job)).Sublist
    (events.filter (·.id = job)).tail

theorem Debounced.initial : Debounced [] .initial :=
  ⟨fun _ => by simp [Debounce.initial], by simp [Debounce.initial], fun _ => by simp [Debounce.initial]⟩

/-- Storing an instant for the job of an arrived event. -/
theorem unstored_iff_update {intervals : Uuid → Option Nat} {events : List JobProgressEvent}
    (unstored : ∀ job, intervals job = none ↔ ∀ event ∈ events, event.id ≠ job)
    (event : JobProgressEvent) (instant : Nat) (job : Uuid) :
    Function.update intervals event.id (some instant) job = none ↔
      ∀ other ∈ events ++ [event], other.id ≠ job := by
  by_cases same : job = event.id
  · subst same
    simpa using ⟨event, .inr rfl, rfl⟩
  · simp [Function.update_noteq same, unstored job, Ne.symm same, or_imp, forall_and]

theorem Debounced.preserved {events : List JobProgressEvent} {state : Debounce}
    (holds : Debounced events state) (delivery : Delivery) :
    Debounced (events ++ delivery.progressEvent.toList) (progressStep state delivery) := by
  cases carried : delivery.progressEvent with
  | none => simpa [progressStep_of_progressEvent_none carried] using holds
  | some event =>
      simp only [Option.toList_some, progressStep, Delivery.progressEvent_eq_some.mp carried]
      split
      · -- the event is dropped: only the job's instant may be stored
        refine ⟨unstored_iff_update holds.unstored_iff event _, holds.yields_sublist.trans
          (List.sublist_append_left _ _), fun job => (holds.job_yields_sublist job).trans ?_⟩
        exact ((List.sublist_append_left _ [event]).filter _).tail
      · -- the event is yielded: its job has had an event before
        rename_i late
        have arrived : events.filter (·.id = event.id) ≠ [] := by
          intro none
          have fresh := (holds.unstored_iff event.id).mpr fun other mem same =>
            List.filter_eq_nil_iff.mp none other mem (by simpa using same)
          simp [fresh] at late
        refine ⟨unstored_iff_update holds.unstored_iff event _, by
          simpa using holds.yields_sublist.append (List.Sublist.refl [event]), fun job => ?_⟩
        by_cases same : event.id = job
        · subst same
          simpa [List.filter_append, List.tail_append_of_ne_nil arrived] using
            (holds.job_yields_sublist event.id).append (List.Sublist.refl [event])
        · simpa [List.filter_append, same] using holds.job_yields_sublist job

theorem progress_debounced (deliveries : List Delivery) :
    Debounced (progressEvents deliveries) (progress deliveries) := by
  induction deliveries using List.reverseRecOn with
  | nil => exact .initial
  | append_singleton deliveries delivery ih =>
      rw [progress, List.foldl_append, List.foldl_cons, List.foldl_nil, ← progress,
        progressEvents_append_singleton]
      exact ih.preserved delivery

/-- For every sequence of bus messages, the stream yields progress events it received, in the
order it received them, none twice. -/
theorem progress_yields_sublist (deliveries : List Delivery) :
    ((progress deliveries).yields.map (·.event)).Sublist (progressEvents deliveries) :=
  (progress_debounced deliveries).yields_sublist

/-- For every sequence of bus messages and every job, the first event of the job the stream
receives is never yielded: the `BTreeMap` entry is created with `Instant::now()` and nothing has
elapsed when it is compared. What is yielded of the job is among its later events. -/
theorem progress_drops_first_event (deliveries : List Delivery) (job : Uuid) :
    (((progress deliveries).yields.map (·.event)).filter (·.id = job)).Sublist
      ((progressEvents deliveries).filter (·.id = job)).tail :=
  (progress_debounced deliveries).job_yields_sublist job

end Spacedrive.Jobs
