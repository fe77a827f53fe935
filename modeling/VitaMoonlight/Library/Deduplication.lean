import Mathlib.Data.List.Flatten
import Mathlib.Data.List.Induction
import Mathlib.Data.List.Perm.Basic
import Mathlib.Tactic.Cases

/-! Removing duplicates in one pass: each record is joined into the first kept record it is
the same as, or kept itself. Being the same need not be transitive, and a joined record may
be the same as a record that was kept apart before.
-/

namespace Library.Deduplication

variable {α : Type*} (same : α → α → Bool) (join : α → α → α)

-----------------------------------------------------------------------------------------
-- The pass
-----------------------------------------------------------------------------------------

/-- The kept records take in the next one. -/
def absorb (kept : List α) (source : α) : List α :=
  match kept.findIdx? (same · source) with
  | none => kept ++ [source]
  | some idx => kept.modify idx (join source)

/-- The records kept of a list. -/
def deduplicate (sources : List α) : List α := sources.foldl (absorb same join) []

/-- Records joined one after the other into the first. -/
def joined : List α → Option α
  | [] => none
  | first :: rest => some (rest.foldl (fun current source => join source current) first)

/-- Records that were joined into one, and that one. -/
structure Cluster (α : Type*) where
  members : List α
  survivor : α

/-- The cluster with one more record joined into its survivor. -/
def Cluster.add (source : α) (cluster : Cluster α) : Cluster α where
  members := cluster.members ++ [source]
  survivor := join source cluster.survivor

/-- `absorb`, remembering which records each kept one stands for. -/
def assign (clusters : List (Cluster α)) (source : α) : List (Cluster α) :=
  match clusters.findIdx? (fun cluster => same cluster.survivor source) with
  | none => clusters ++ [{ members := [source], survivor := source }]
  | some idx => clusters.modify idx (Cluster.add join source)

/-- The clusters the pass makes of a list. -/
def clustersOf (sources : List α) : List (Cluster α) := sources.foldl (assign same join) []

variable {same join}

theorem map_survivor_assign (clusters : List (Cluster α)) (source : α)
    : (assign same join clusters source).map Cluster.survivor
      = absorb same join (clusters.map Cluster.survivor) source := by
  have search
      : (clusters.map Cluster.survivor).findIdx? (same · source)
        = clusters.findIdx? fun cluster => same cluster.survivor source := by
    rw [List.findIdx?_map]
    rfl
  simp only [assign, absorb, search]
  split
  · simp
  · rename_i idx found
    refine List.ext_getElem? fun place => ?_
    simp only [List.getElem?_map, List.getElem?_modify, Option.map_eq_map, Option.map_map]
    refine congrArg (Option.map · clusters[place]?) (funext fun cluster => ?_)
    simp only [Function.comp_apply]
    split <;> rfl

/-- The survivors of the clusters are the records the pass keeps. -/
theorem map_survivor_clustersOf (sources : List α)
    : (clustersOf same join sources).map Cluster.survivor = deduplicate same join sources := by
  have survivors
      : ∀ clusters : List (Cluster α),
          (sources.foldl (assign same join) clusters).map Cluster.survivor
          = sources.foldl (absorb same join) (clusters.map Cluster.survivor) := by
    induction sources with
    | nil => exact fun clusters => rfl
    | cons source rest ih =>
        intro clusters
        rw [List.foldl_cons, List.foldl_cons, ih, map_survivor_assign]
  exact survivors []

theorem members_assign_perm (clusters : List (Cluster α)) (source : α)
    : ((assign same join clusters source).flatMap Cluster.members).Perm
        (clusters.flatMap Cluster.members ++ [source]) := by
  simp only [assign]
  split
  · simp
  · rename_i idx search
    have inside := (List.findIdx?_eq_some_iff_getElem.mp search).1
    have split : clusters.take idx ++ clusters[idx] :: clusters.drop (idx + 1) = clusters := by simp
    rw [List.modify_eq_take_cons_drop inside]
    have members := congrArg (List.flatMap Cluster.members) split
    rw [← members]
    simp only [List.flatMap_append, List.flatMap_cons, Cluster.add, List.append_assoc]
    exact (List.perm_append_comm.append_left _).append_left _

/-- The clusters' members are the records given, each once. -/
theorem members_clustersOf_perm (sources : List α)
    : ((clustersOf same join sources).flatMap Cluster.members).Perm sources := by
  have members
      : ∀ clusters : List (Cluster α),
          ((sources.foldl (assign same join) clusters).flatMap Cluster.members).Perm
            (clusters.flatMap Cluster.members ++ sources) := by
    induction sources with
    | nil => exact fun clusters => by simp
    | cons source rest ih =>
        intro clusters
        have later := (ih (assign same join clusters source)).trans
          ((members_assign_perm clusters source).append_right rest)
        simpa using later
  simpa [clustersOf] using members []

/-- What holds of a record alone, and of a cluster with one more record joined in if it held
before, holds of every cluster, by induction on the records.
-/
theorem forall_mem_clustersOf {sources : List α} {motive : Cluster α → Prop}
    (alone : ∀ source ∈ sources, motive { members := [source], survivor := source })
    (joined
      : ∀ cluster, ∀ source ∈ sources, same cluster.survivor source = true
        → motive cluster → motive (cluster.add join source))
    : ∀ cluster ∈ clustersOf same join sources, motive cluster := by
  have kept
      : ∀ taken : List α, taken.Sublist sources
        → ∀ clusters : List (Cluster α), (∀ cluster ∈ clusters, motive cluster)
        → ∀ cluster ∈ taken.foldl (assign same join) clusters, motive cluster := by
    intro taken
    induction taken with
    | nil => exact fun _ clusters holds => holds
    | cons source rest ih =>
        intro included clusters holds
        have given := included.subset (List.mem_cons_self ..)
        refine ih ((List.sublist_cons_self _ _).trans included) _ fun cluster member => ?_
        simp only [assign] at member
        split at member
        · rcases List.mem_append.mp member with old | new
          · exact holds cluster old
          · obtain rfl := List.mem_singleton.mp new
            exact alone source given
        · rename_i idx search
          obtain ⟨inside, alike, -⟩ := List.findIdx?_eq_some_iff_getElem.mp search
          rw [List.modify_eq_take_cons_drop inside, List.mem_append, List.mem_cons] at member
          rcases member with before | rfl | after
          · exact holds cluster (List.mem_of_mem_take before)
          · exact joined _ source given alike (holds _ (List.getElem_mem inside))
          · exact holds cluster (List.mem_of_mem_drop after)
  exact kept sources (List.Sublist.refl _) [] (by simp)

end Library.Deduplication
