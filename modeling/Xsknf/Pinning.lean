import Mathlib.Data.List.Sort

/-!
# Pinning the workers to CPUs

`xsknf_start_workers` reads the process's affinity mask, counts its CPUs with `CPU_COUNT`
and, when there are at least `workers` of them, collects them with

    for (int i = 0; curr_cpu < num_cpus; i++)
        if (CPU_ISSET(i, &cpu_set))
            cpus[curr_cpu++] = i;

then pins worker `k` to `cpus[k]`.  The loop is bounded by the number of CPUs found, not by
`CPU_SETSIZE`: it stops in time, and tests no bit past the set, because `num_cpus` is the
number of set bits.  `startWorkers_pins` is the result: the loop ends within `CPU_SETSIZE`
iterations with exactly the CPUs of the mask in ascending order, and the workers are pinned
to the first `workers` of them, pairwise distinct.
-/

namespace Xsknf

/-- `CPU_SETSIZE` of glibc: the bits of a `cpu_set_t`. -/
def cpuSetsize : Nat := 1024

/-- A `cpu_set_t`. -/
abbrev CpuSet := BitVec cpuSetsize

/-- `CPU_ISSET(i, set)`; glibc answers `0` for an index past the set. -/
def cpuIsset (i : Nat) (set : CpuSet) : Bool := decide (i < cpuSetsize) && set.getLsbD i

/-- `CPU_COUNT(set)`. -/
def cpuCount (set : CpuSet) : Nat := (List.range cpuSetsize).countP (cpuIsset · set)

/-- The collection loop of `xsknf_start_workers` at index `i`, `cpus` holding the
`curr_cpu` entries written so far and `fuel` bounding the iterations left.  It returns the
entries written and the first index it did not test, or `none` when the fuel runs out. -/
def collectCpus (set : CpuSet) (numCpus : Nat) : (fuel i : Nat) → List Nat → Option (List Nat × Nat)
  | 0, i, cpus => if cpus.length < numCpus then none else some (cpus, i)
  | fuel + 1, i, cpus =>
    if cpus.length < numCpus then
      collectCpus set numCpus fuel (i + 1) (if cpuIsset i set then cpus ++ [i] else cpus)
    else some (cpus, i)

/-- The spawn loop: worker `k` is pinned to `cpus[curr_cpu++]`, that is `cpus[k]`; `none`
if that read were past the entries of `cpus`. -/
def pinWorkers (cpus : List Nat) : (workers : Nat) → Option (List Nat)
  | 0 => some []
  | k + 1 => do
    let pins ← pinWorkers cpus k
    let cpu ← cpus.get? k
    pure (pins ++ [cpu])

/-- The CPU part of `xsknf_start_workers` in AF_XDP mode: `none` is the "not enough CPUs"
exit (or a read past `cpus`), otherwise the CPU each worker is pinned to. -/
def startWorkers (set : CpuSet) (workers : Nat) : Option (List Nat) :=
  if cpuCount set < workers then none
  else do
    let (cpus, _) ← collectCpus set (cpuCount set) cpuSetsize 0 []
    pinWorkers cpus workers

/-- The CPUs of a mask, in ascending order. -/
def maskCpus (set : CpuSet) : List Nat := (List.range cpuSetsize).filter (cpuIsset · set)

lemma maskCpus_sorted (set : CpuSet) : (maskCpus set).Sorted (· < ·) :=
  (List.pairwise_lt_range _).filter _

lemma cpuCount_eq (set : CpuSet) : cpuCount set = (maskCpus set).length :=
  List.countP_eq_length_filter _ _

/-- The CPUs the loop has found below `i` are a prefix of the mask's CPUs. -/
lemma filter_range_initial (set : CpuSet) {i : Nat} (hi : i ≤ cpuSetsize) :
    (List.range i).filter (cpuIsset · set) <+: maskCpus set := by
  obtain ⟨k, hk⟩ : ∃ k, cpuSetsize = i + k := ⟨cpuSetsize - i, by omega⟩
  rw [maskCpus, hk, List.range_add]
  exact (List.prefix_append _ _).filter _

/-- The loop invariant: at index `i` the entries written are the CPUs below `i`; with fuel
to reach `CPU_SETSIZE` the loop ends with all the mask's CPUs, at an index inside the set. -/
lemma collectCpus_eq (set : CpuSet) :
    ∀ (fuel i : Nat), i ≤ cpuSetsize → cpuSetsize ≤ i + fuel →
      ∃ j ≤ cpuSetsize, collectCpus set (cpuCount set) fuel i ((List.range i).filter (cpuIsset · set))
        = some (maskCpus set, j)
  | 0, i, hi, hf => by
    have hi' : i = cpuSetsize := by omega
    subst hi'
    exact ⟨cpuSetsize, le_rfl, by simp [collectCpus, cpuCount_eq, maskCpus]⟩
  | fuel + 1, i, hi, hf => by
    rw [collectCpus]
    split
    · rename_i hlt
      have hi' : i < cpuSetsize := by
        by_contra hge
        rw [show i = cpuSetsize by omega, cpuCount_eq] at hlt
        exact lt_irrefl _ hlt
      have step : (if cpuIsset i set then (List.range i).filter (cpuIsset · set) ++ [i]
          else (List.range i).filter (cpuIsset · set)) =
          (List.range (i + 1)).filter (cpuIsset · set) := by
        rw [List.range_succ, List.filter_append]
        split <;> simp_all
      rw [step]
      exact collectCpus_eq set fuel (i + 1) hi' (by omega)
    · rename_i hge
      have hle := (filter_range_initial set hi).length_le
      rw [cpuCount_eq] at hge
      exact ⟨i, hi, by rw [(filter_range_initial set hi).eq_of_length (by omega)]⟩

lemma pinWorkers_eq (cpus : List Nat) : ∀ k, k ≤ cpus.length → pinWorkers cpus k = some (cpus.take k)
  | 0, _ => rfl
  | k + 1, hk => by
    have hk' : k < cpus.length := by omega
    rw [pinWorkers, pinWorkers_eq cpus k (by omega), List.get?_eq_getElem?,
      List.getElem?_eq_getElem hk', List.take_succ, List.getElem?_eq_getElem hk']
    rfl

/-- Worker pinning: for every mask with at least `workers` CPUs the collection loop ends
within `CPU_SETSIZE` iterations, testing no bit past the set, having written exactly the
CPUs of the mask in ascending order; worker `k` is pinned to the `k`-th of them, so distinct
workers get distinct CPUs of the mask. -/
theorem startWorkers_pins (set : CpuSet) (workers : Nat) (h : workers ≤ cpuCount set) :
    (∃ j ≤ cpuSetsize, collectCpus set (cpuCount set) cpuSetsize 0 [] = some (maskCpus set, j)) ∧
      startWorkers set workers = some ((maskCpus set).take workers) ∧
      (maskCpus set).Sorted (· < ·) ∧ ((maskCpus set).take workers).Nodup := by
  obtain ⟨j, hj, hc⟩ := collectCpus_eq set cpuSetsize 0 (Nat.zero_le _) le_rfl
  rw [List.range_zero, List.filter_nil] at hc
  refine ⟨⟨j, hj, hc⟩, ?_, maskCpus_sorted set, ((maskCpus_sorted set).nodup).sublist
    (List.take_sublist _ _)⟩
  rw [startWorkers, if_neg (by omega), hc]
  exact pinWorkers_eq _ _ (by rw [← cpuCount_eq]; exact h)

theorem startWorkers_pins_all_cpus :
    2 ≤ cpuCount (BitVec.allOnes cpuSetsize) ∧
      startWorkers (BitVec.allOnes cpuSetsize) 2 = some [0, 1] := by
  have hmask : maskCpus (BitVec.allOnes cpuSetsize) = List.range cpuSetsize :=
    List.filter_eq_self.2 fun c hc => by
      simp [cpuIsset, BitVec.getLsbD_allOnes, List.mem_range.1 hc]
  have hcount : 2 ≤ cpuCount (BitVec.allOnes cpuSetsize) := by
    rw [cpuCount_eq, hmask, List.length_range]; decide
  refine ⟨hcount, ?_⟩
  rw [(startWorkers_pins _ 2 hcount).2.1, hmask, List.take_range]
  rfl

end Xsknf
