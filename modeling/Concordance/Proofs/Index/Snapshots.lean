import Concordance.Index.Shared
import Concordance.Proofs.Index.Merging
import Concordance.Proofs.Pool.Changes
import Concordance.Proofs.Pool.Gathering

/-!
# Snapshots of a shared index

While the tasks of a pool add parts to a shared index, the index is at every moment the one that is built
from what it held at first and from certain parts as a whole: those of the tasks that have made their
change. A snapshot is what the index was at some moment. When all workers were waited for, the index is
the one that is built from all parts, in any order.

## Main definitions

* `Index.IsMerged`: what a shared index holds in a state of its pool
* `Index.IsShared`: what those see who share an index

## Main results

* `mem_foldl_absorb`: the occurrences of an index after parts were added
* `isShared_of_reached`: snapshots are built from whole parts, and the last one from all
* `absorbAll_eq_build`: a live crew adds all parts
-/

namespace Concordance.Index

/-! ## Adding parts -/

theorem reachable_foldl_absorb {parts : List Index} {index : Index} (hindex : index.Reachable)
    (hparts : ∀ part ∈ parts, part.Reachable) : (parts.foldl absorb index).Reachable := by
  induction parts generalizing index with
  | nil => exact hindex
  | cons part rest ih =>
    refine ih (hindex.absorb (hparts part List.mem_cons_self)) fun other hother => ?_
    exact hparts other (List.mem_cons_of_mem part hother)

/-- The occurrences of an index after parts were added. -/
theorem mem_foldl_absorb {parts : List Index} {index : Index} {occurrence : Occurrence} :
    occurrence ∈ parts.foldl absorb index ↔
      occurrence ∈ index ∨ ∃ part ∈ parts, occurrence ∈ part := by
  induction parts generalizing index with
  | nil => simp
  | cons part rest ih =>
    rw [List.foldl_cons, ih, mem_absorb, or_assoc, List.exists_mem_cons_iff]

/-- Parts that were added one after the other come to what is built from all of them, in any order. -/
theorem foldl_absorb_eq_build {parts : List Index} {index : Index} (hindex : index.Reachable)
    (hparts : ∀ part ∈ parts, part.Reachable) {occurrences : List Occurrence}
    (hmem : ∀ occurrence, occurrence ∈ occurrences ↔
      occurrence ∈ index ∨ ∃ part ∈ parts, occurrence ∈ part) :
    parts.foldl absorb index = build occurrences := by
  refine (reachable_foldl_absorb hindex hparts).ext (reachable_build _) fun occurrence => ?_
  rw [mem_foldl_absorb, mem_build, hmem]

/-! ## The states of a pool -/

variable {α : Type} {initial : Index} {parts : List Index}

/-- What a shared index holds in a state of its pool: what it held at first, and all of certain parts. -/
structure IsMerged (initial : Index) (pool : Pool Index Index α) : Prop where
  /-- A part is added once at most, and after its task was accepted. -/
  committed_nodup : pool.committed.Nodup
  committed_lt : ∀ ticket ∈ pool.committed, ticket < pool.accepted.length
  /-- An event adds one part as a whole, or nothing. -/
  merges : ∀ event next, pool.step absorbTask event = some next →
    next.memory = pool.memory ∧ next.committed.Perm pool.committed ∨
      ∃ ticket part, pool.accepted[ticket]? = some part ∧ ticket ∉ pool.committed ∧
        next.memory = pool.memory.absorb part ∧ next.committed.Perm (pool.committed ++ [ticket])
  memory_eq : pool.memory =
    build (initial.occurrences ++ pool.committedTasks.flatMap occurrences)
  isConsistent : pool.memory.IsConsistent

/-- What those see who share an index: one client has parts added to it and waits for the workers, and
others take snapshots. -/
structure IsShared (initial : Index) (parts : List Index) (start pool : Pool Index Index Index) :
    Prop where
  isMerged : IsMerged initial pool
  isPrefix_accepted : pool.accepted <+: parts
  /-- A snapshot is what the index was at some moment. -/
  snapshot : ∀ i snapshot, i ≠ 0 → pool.result? i = some snapshot →
    ∃ earlier before after, Pool.Reached (· = absorbTask) start earlier before ∧
      Pool.Reached (· = absorbTask) earlier pool after ∧ IsMerged initial earlier ∧
        snapshot = earlier.memory
  /-- When the workers were waited for, all parts are added. -/
  joined : ∀ value, pool.result? 0 = some value →
    value = pool.memory ∧ pool.committed.Perm (List.range parts.length) ∧
      ∀ occurrences : List Occurrence, (∀ occurrence, occurrence ∈ occurrences ↔
        occurrence ∈ initial ∨ ∃ part ∈ parts, occurrence ∈ part) → value = build occurrences
  /-- The workers were waited for when nothing can happen any more. -/
  exists_result : pool.IsStuck absorbTask → ∃ value, pool.result? 0 = some value

theorem isMerged_of_outcome {pool : Pool Index Index α} (hinitial : initial.Reachable)
    (hparts : ∀ part ∈ pool.accepted, part.Reachable) (horderly : pool.history.IsOrderly)
    (hcommitting : pool.IsCommitting fun part index => index.absorb part)
    (houtcome : pool.IsOutcome (fun part index => index.absorb part) initial) :
    IsMerged initial pool := by
  obtain ⟨order, horder, hmemory⟩ := houtcome
  have hadded : ∀ part ∈ order.filterMap (pool.accepted[·]?), part.Reachable := by
    intro part hpart
    obtain ⟨ticket, -, hticket⟩ := List.mem_filterMap.mp hpart
    exact hparts part (List.mem_of_getElem? hticket)
  constructor
  case committed_nodup => exact Pool.committed_nodup horderly
  case committed_lt => exact fun ticket => Pool.lt_of_mem_committed horderly
  case merges =>
    intro event next hstep
    have hmoves := Pool.moves_of_step hstep
    rcases hmoves.commits (fun _ => rfl) hcommitting with
      hsame | ⟨ticket, part, hpart, hchange, hcommitted⟩
    · exact .inl hsame
    · refine .inr ⟨ticket, part, hpart, ?_, hchange, hcommitted⟩
      -- no task is committed twice
      have hnodup := Pool.committed_nodup (horderly.next hmoves.history)
      rw [hcommitted.nodup_iff, List.nodup_append] at hnodup
      intro hmem
      exact hnodup.2.2 ticket hmem ticket (List.mem_singleton_self _) rfl
  case memory_eq =>
    rw [hmemory]
    apply foldl_absorb_eq_build hinitial hadded
    intro occurrence
    have hperm : (order.filterMap (pool.accepted[·]?)).Perm pool.committedTasks := horder.filterMap _
    simp only [List.mem_append, List.mem_flatMap, mem_occurrences, hperm.mem_iff]
  case isConsistent =>
    rw [hmemory]
    exact (reachable_foldl_absorb hinitial hadded).isConsistent

section Sharing

variable {size snapshots : Nat} {pool : Pool Index Index Index} {refused : List Index}

theorem looks_of_mem_replicate {job : Job Index Index Index}
    (hjob : job ∈ List.replicate snapshots (.look id)) : job.Looks := by
  rw [List.eq_of_mem_replicate hjob]
  exact Job.looks_look id

/-- Of those who share an index, only the tasks change it. -/
theorem changesOnly_of_mem {job : Job Index Index Index}
    (hjob : job ∈ (.gather parts id :: List.replicate snapshots (.look id) : List (Job Index Index Index))) :
    job.ChangesOnly (· = id) := by
  rcases List.mem_cons.mp hjob with rfl | hjob
  · exact Job.gather_changesOnly parts id
  · exact (looks_of_mem_replicate hjob).changesOnly

theorem isOutcome_of_reached (h : Pool.Reached (· = absorbTask) (Pool.start size initial
      (.gather parts id :: List.replicate snapshots (.look id))) pool refused) :
    pool.IsCommitting (fun part index => index.absorb part) ∧
      pool.IsOutcome (fun part index => index.absorb part) initial :=
  h.isOutcome (fun _ => rfl) (Pool.isUnused_start size initial _) fun _ hjob => changesOnly_of_mem hjob

theorem isGathering_of_reached (h : Pool.Reached (· = absorbTask) (Pool.start size initial
      (.gather parts id :: List.replicate snapshots (.look id))) pool refused) :
    pool.IsGathering parts id := by
  have hstart := Pool.isUnused_start size initial
    (.gather parts id :: List.replicate snapshots (.look id) : List (Job Index Index Index))
  have hcommitting : (Pool.start size initial (.gather parts id :: List.replicate snapshots (.look id)) :
      Pool Index Index Index).IsCommitting fun part index => index.absorb part :=
    hstart.isCommitting fun _ hjob => changesOnly_of_mem hjob
  exact h.isGathering (fun _ => rfl) hstart.isOrderly hstart.isCounted hcommitting
    (Pool.isGathering_start fun _ hjob => looks_of_mem_replicate hjob)

/-- What a shared index holds in all that is reached. -/
theorem isMerged_of_reached (hinitial : initial.Reachable) (hparts : ∀ part ∈ parts, part.Reachable)
    (h : Pool.Reached (· = absorbTask) (Pool.start size initial
      (.gather parts id :: List.replicate snapshots (.look id))) pool refused) : IsMerged initial pool := by
  obtain ⟨hcommitting, houtcome⟩ := isOutcome_of_reached h
  have hsubset := (isGathering_of_reached h).isPrefix_accepted.subset
  exact isMerged_of_outcome hinitial (fun part hpart => hparts part (hsubset hpart))
    (h.isOrderly (Pool.isUnused_start size initial _)) hcommitting houtcome

/-- When all tasks have ended, a shared index is built from all parts, in any order. -/
theorem memory_eq_build (hinitial : initial.Reachable) (hparts : ∀ part ∈ parts, part.Reachable)
    (h : Pool.Reached (· = absorbTask) (Pool.start size initial
      (.gather parts id :: List.replicate snapshots (.look id))) pool refused)
    (haccepted : pool.accepted = parts) (hended : pool.AllEnded) {occurrences : List Occurrence}
    (hmem : ∀ occurrence, occurrence ∈ occurrences ↔
      occurrence ∈ initial ∨ ∃ part ∈ parts, occurrence ∈ part) : pool.memory = build occurrences := by
  obtain ⟨-, order, horder, hmemory⟩ := isOutcome_of_reached h
  have hall : (order.filterMap (pool.accepted[·]?)).Perm parts := by
    rw [← haccepted]
    exact (horder.filterMap _).trans hended.committedTasks_perm
  rw [hmemory]
  refine foldl_absorb_eq_build hinitial (fun part hpart => hparts part (hall.mem_iff.mp hpart)) ?_
  intro occurrence
  simp only [hmem, hall.mem_iff]

end Sharing

/-- **Snapshots of a shared index are built from whole parts**, whatever the schedule; and when the
workers were waited for, the index is built from all parts. -/
theorem isShared_of_reached (hinitial : initial.Reachable) (hparts : ∀ part ∈ parts, part.Reachable)
    {size snapshots : Nat} {pool : Pool Index Index Index} {refused : List Index}
    (h : Pool.Reached (· = absorbTask) (Pool.start size initial
      (.gather parts id :: List.replicate snapshots (.look id))) pool refused) :
    IsShared initial parts (Pool.start size initial
      (.gather parts id :: List.replicate snapshots (.look id))) pool := by
  have hstart := Pool.isUnused_start size initial
    (.gather parts id :: List.replicate snapshots (.look id) : List (Job Index Index Index))
  have hgathering := isGathering_of_reached h
  have hcounted := h.isCounted hstart.isCounted
  constructor
  case isMerged => exact isMerged_of_reached hinitial hparts h
  case isPrefix_accepted => exact hgathering.isPrefix_accepted
  case snapshot =>
    intro i snapshot hi hresult
    have hlooks : ∀ activity, (Pool.start size initial
        (.gather parts id :: List.replicate snapshots (.look id))).clients[i]? = some activity →
        activity = .running (.look id) := by
      intro activity hactivity
      obtain ⟨j, rfl⟩ := Nat.exists_eq_succ_of_ne_zero hi
      change ((List.replicate snapshots (Job.look id)).map Activity.running)[j]? = _ at hactivity
      rw [List.map_replicate] at hactivity
      exact List.eq_of_mem_replicate (List.mem_of_getElem? hactivity)
    obtain ⟨earlier, before, after, hbefore, hafter, rfl⟩ := h.exists_earlier hlooks hresult
    exact ⟨earlier, before, after, hbefore, hafter, isMerged_of_reached hinitial hparts hbefore, rfl⟩
  case joined =>
    intro value hresult
    obtain ⟨haccepted, hpending, rfl⟩ := hgathering.of_result hresult
    have hended := Pool.allEnded_of_pending_eq_zero hcounted (h.isOrderly hstart) hpending
    refine ⟨rfl, haccepted ▸ hended.committed_perm, fun occurrences hmem => ?_⟩
    exact memory_eq_build hinitial hparts h haccepted hended hmem
  case exists_result =>
    intro hstuck
    have hworkers : pool.workers ≠ [] := by
      have hsize := h.size_eq
      rw [Pool.size_start] at hsize
      rw [← List.length_pos_iff]
      exact Nat.lt_of_lt_of_eq (by omega) hsize.symm
    exact ⟨_, hgathering.result_of_isStuck hstuck (isOutcome_of_reached h).1 hcounted
      (h.isAttended hstart.isAttended) (h.isVacated hstart.isVacated) hworkers⟩

/-- Two workers add two parts that overlap and an empty one. A snapshot is taken when only the first part
was added. -/
theorem isShared_of_overlapping :
    let first := build [⟨"a", "x", 1⟩, ⟨"b", "x", 2⟩]
    let second := build [⟨"a", "x", 1⟩, ⟨"a", "y", 1⟩]
    let start : Pool Index Index Index :=
      Pool.start 2 empty [.gather [first, empty, second] id, .look id]
    ∃ (pool : Pool Index Index Index) (events : List Event),
      start.run absorbTask events = some pool ∧ pool.result? 1 = some first ∧
      pool.result? 0 = some (build [⟨"a", "y", 1⟩, ⟨"b", "x", 2⟩, ⟨"a", "x", 1⟩]) ∧
      IsShared empty [first, empty, second] start pool := by
  intro first second start
  -- the first part is submitted, taken and added before the snapshot
  let schedule : List Event := [.client 0 none, .client 0 none, .worker 0 none, .worker 0 none,
    .client 1 none, .client 1 none]
  obtain ⟨pool, events, hrun, hsnapshot, hdone⟩ : ∃ pool events,
      start.run absorbTask events = some pool ∧ pool.result? 1 = some first ∧
      (pool.result? 0).isSome = true := by
    obtain ⟨before, hbefore⟩ := Pool.exists_run_follow absorbTask start schedule
    obtain ⟨after, hafter⟩ := Pool.exists_run_settle absorbTask (start.follow absorbTask schedule) 60
    refine ⟨(start.follow absorbTask schedule).settle absorbTask 60, before ++ after, ?_,
      by decide +kernel, by decide +kernel⟩
    rw [Pool.run_append, hbefore]
    exact hafter
  have hparts : ∀ part ∈ [first, empty, second], part.Reachable := by
    intro part hpart
    simp only [List.mem_cons, List.not_mem_nil, or_false] at hpart
    rcases hpart with rfl | rfl | rfl
    · exact reachable_build _
    · exact Reachable.empty
    · exact reachable_build _
  have hreached : Pool.Reached (· = absorbTask) (Pool.start 2 empty
      (.gather [first, empty, second] id :: List.replicate 1 (.look id))) pool _ :=
    .of_run (by rfl) hrun
  have hshared := isShared_of_reached Reachable.empty hparts hreached
  obtain ⟨value, hvalue⟩ := Option.isSome_iff_exists.mp hdone
  obtain ⟨-, -, hbuild⟩ := hshared.joined value hvalue
  have hall : value = build [⟨"a", "y", 1⟩, ⟨"b", "x", 2⟩, ⟨"a", "x", 1⟩] := by
    apply hbuild
    intro occurrence
    simp only [first, second, List.mem_cons, List.not_mem_nil, or_false, exists_eq_or_imp,
      exists_eq_left, mem_build, not_mem_empty, false_or]
    tauto
  exact ⟨pool, events, hrun, hsnapshot, hall ▸ hvalue, hshared⟩

/-- **A live crew adds all parts**, and comes to what is built from them in any order. -/
theorem absorbAll_eq_build (hinitial : initial.Reachable) (hparts : ∀ part ∈ parts, part.Reachable)
    {crew : Crew} (hlive : crew.isLive = true) {occurrences : List Occurrence}
    (hmem : ∀ occurrence, occurrence ∈ occurrences ↔
      occurrence ∈ initial ∨ ∃ part ∈ parts, occurrence ∈ part) :
    initial.absorbAll crew parts = build occurrences := by
  have hbody : ∀ part, absorbTask part = .modify fun index => index.absorb part := fun _ => rfl
  have hreads : ∀ index, (Job.finish true : Job Index Index Bool).Reads index true := fun _ => rfl
  have hlasts : ∀ accepted, (Job.finish accepted : Job Index Index Bool).Lasts true false 1 :=
    fun _ => Nat.le_refl 1
  have hwork : ∃ done : List Index, done.Perm parts ∧
      initial.absorbAll crew parts = done.foldl absorb initial := by
    rw [absorbAll, ← Job.bind_finish (Job.runAll parts)]
    exact (Crew.exists_perm_of_isLive hlive initial hbody hreads hlasts (fun _ => trivial)
      (by omega)).2
  obtain ⟨done, hdone, hmemory⟩ := hwork
  rw [hmemory]
  refine foldl_absorb_eq_build hinitial (fun part hpart => hparts part (hdone.mem_iff.mp hpart)) ?_
  intro occurrence
  simp only [hmem, hdone.mem_iff]

end Concordance.Index
