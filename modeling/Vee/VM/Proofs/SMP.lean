import Vee.Build.Proofs.ScratchDisk
import Vee.Misc.Sequential
import Vee.VM.Resources

/-!
# Sockets, cores and threads

A config that asks for two threads a core keeps its sockets and cores: `SetCPUs` changes only the
number of vCPUs, and the override of `vee create` makes it the number of cores as well. Every
other config is split anew at each start.
-/

namespace Vee

/-- The factors of a config are positive and multiply to its vCPUs. -/
structure Multiplies (smt : Bool) (cfg : VMConfig) : Prop where
  product : (cfg.smp smt).sockets * (cfg.smp smt).cores * (cfg.smp smt).threads = cfg.cpus
  sockets : 1 ≤ (cfg.smp smt).sockets
  cores : 1 ≤ (cfg.smp smt).cores
  threads : 1 ≤ (cfg.smp smt).threads

/-- All three are then written behind `-smp`. -/
theorem Multiplies.smpArg_eq {smt : Bool} {cfg : VMConfig} (fits : Multiplies smt cfg) :
    smpArg cfg.cpus (cfg.smp smt) = ",".intercalate [toString cfg.cpus,
      "sockets=" ++ toString (cfg.smp smt).sockets, "cores=" ++ toString (cfg.smp smt).cores,
      "threads=" ++ toString (cfg.smp smt).threads] := by
  unfold smpArg
  rw [if_pos (Int.lt_of_lt_of_le (by decide) fits.sockets),
    if_pos (Int.lt_of_lt_of_le (by decide) fits.cores),
    if_pos (Int.lt_of_lt_of_le (by decide) fits.threads)]
  rfl

/-- The number of vCPUs that was asked for last: by `SetCPUs`, by the override, or by the
template. -/
def lastCount (template : VMConfig) (opts : Opts) (counts : List Int) : Int :=
  counts.getLast?.getD (clampMacOSMinimums (overrideMachine opts template)).cpus

/-- The number asked for last is positive, and for a template with two threads a core it is twice
the sockets times the cores, which are those of the template or the number of the override. -/
structure Fits (template : VMConfig) (opts : Opts) (counts : List Int) : Prop where
  positive : 1 ≤ lastCount template opts counts
  pinned : template.threads = 2 → 0 ≤ template.sockets ∧
    1 ≤ (if opts.cpus > 0 then opts.cpus else template.cores) ∧
    lastCount template opts counts =
      2 * (max template.sockets 1 * if opts.cpus > 0 then opts.cpus else template.cores)

namespace SMP

variable {host : BuildHost} {conf : ProviderConfig} {opts : Opts} {template cfg : VMConfig}

structure Alike (cfg cfg' : VMConfig) : Prop where
  sockets : cfg'.sockets = cfg.sockets
  cores : cfg'.cores = cfg.cores
  threads : cfg'.threads = cfg.threads

theorem Alike.trans {a b c : VMConfig} (first : Alike a b) (second : Alike b c) : Alike a c :=
  ⟨second.sockets.trans first.sockets, second.cores.trans first.cores,
    second.threads.trans first.threads⟩

theorem clampMacOSMinimums_alike (cfg : VMConfig) : Alike cfg (clampMacOSMinimums cfg) := by
  unfold clampMacOSMinimums
  split <;> exact ⟨rfl, rfl, rfl⟩

theorem clampMacOSMinimums_cpus {cfg cfg' : VMConfig} (cpus : cfg'.cpus = cfg.cpus)
    (mac : cfg'.macOS = cfg.macOS) :
    (clampMacOSMinimums cfg').cpus = (clampMacOSMinimums cfg).cpus := by
  unfold clampMacOSMinimums
  rw [mac]
  split <;> simp only [cpus]

/-- The overrides behind the machine's do not touch the processors. -/
theorem applyOverrides_cpus (applied : applyOverrides host conf opts template = .ok cfg) :
    cfg.cpus = (clampMacOSMinimums (overrideMachine opts template)).cpus ∧
      Alike (overrideMachine opts template) cfg := by
  obtain ⟨cfg₁, env, applied⟩ := exists_of_bind_eq_ok applied
  obtain ⟨cfg₂, attached, applied⟩ := exists_of_bind_eq_ok applied
  obtain ⟨_, -, applied⟩ := exists_of_bind_eq_ok applied
  cases applied
  obtain ⟨_, _, _, _, _, shape⟩ := beforeDisks_shape host env
  rw [shape] at attached
  obtain ⟨_, relocated⟩ := disks_shape conf attached
  rw [relocated]
  constructor
  · exact clampMacOSMinimums_cpus rfl rfl
  · refine Alike.trans ?_ (clampMacOSMinimums_alike _)
    exact ⟨rfl, rfl, rfl⟩

/-- `SetCPUs` changes the number of vCPUs only; a call that fails changes nothing. -/
theorem setCPUs_meets (w : World) (n : Int) : Meets vmHost (· = w) (setCPUs n)
      (Either (fun w' => w'.config.cpus = n ∧ Alike w.config w'.config) (· = w)) := by
  unfold setCPUs
  split
  · exact Meets.done fun _ => id
  refine Meets.call (fun res w' => w' = w ∧ ∀ cfg, res = .ok cfg → cfg = w.config) ?_ ?_
  · rintro _ ans res w' rfl ran
    obtain ⟨rfl, rfl⟩ := Prod.mk.inj (Option.some.inj ran)
    refine ⟨rfl, fun cfg loaded => ?_⟩
    unfold Answer.orFail at loaded
    split at loaded <;> cases loaded
    rfl
  · intro res
    cases res with
    | error text => exact Meets.done fun w' now => now.1
    | ok cfg =>
      refine Meets.call (fun res w' => Either (fun w' => w'.config.cpus = n ∧
        Alike w.config w'.config) (· = w) res w') ?_ fun res => ?_
      · rintro _ ans res w' ⟨rfl, loaded⟩ ran
        obtain rfl := loaded cfg rfl
        simp only [vmHost, Call.exec] at ran
        split at ran <;> cases ran
        · rfl
        · exact ⟨rfl, rfl, rfl, rfl⟩
      · cases res with
        | error text => exact Meets.done fun _ => id
        | ok _ => exact Meets.done fun _ => id

theorem setCPUs_sequence (counts : List Int) {w w' : World} {results : List Unit}
    (ran : Ran vmHost (Prog.forEach setCPUs counts) w (.ok results) w') :
    w'.config.cpus = counts.getLast?.getD w.config.cpus ∧ Alike w.config w'.config := by
  have each := Meets.forEach (M := vmHost) (f := setCPUs)
    (fun front _ w' => w'.config.cpus = front.getLast?.getD w.config.cpus ∧
      Alike w.config w'.config)
    (fun _ => True) counts fun front n rest out split => ?_
  · exact each ⟨rfl, rfl, rfl, rfl⟩ ran
  · rintro between result after ⟨-, alike⟩ ran
    have met := setCPUs_meets between n rfl ran
    cases result with
    | error text => trivial
    | ok _ =>
      refine ⟨?_, alike.trans met.2⟩
      rw [List.getLast?_concat]
      exact met.1

theorem two_threads_iff (cpus sockets cores : Int) :
    ((if sockets = 0 then 1 else sockets) * (if cores = 0 then cpus else cores) * 2 = cpus ∧
        1 ≤ (if sockets = 0 then 1 else sockets) ∧ 1 ≤ (if cores = 0 then cpus else cores)) ↔
      1 ≤ cpus ∧ 0 ≤ sockets ∧ 1 ≤ cores ∧ cpus = 2 * (max sockets 1 * cores) := by
  have given : 1 ≤ (if sockets = 0 then 1 else sockets) ↔ 0 ≤ sockets := by
    split <;> omega
  have atLeast : 0 ≤ sockets → (if sockets = 0 then 1 else sockets) = max sockets 1 := by
    split <;> omega
  rw [given]
  constructor
  · rintro ⟨product, fine, positive⟩
    rw [atLeast fine] at product
    have one : 1 ≤ max sockets 1 := Int.le_max_right _ _
    generalize max sockets 1 = s at product one
    split at product
    · -- as many cores as vCPUs are too many
      rename_i none
      have more : 1 * cpus ≤ s * cpus := Int.mul_le_mul_of_nonneg_right one (by omega)
      omega
    · rename_i some
      have more : 1 * cores ≤ s * cores := Int.mul_le_mul_of_nonneg_right one (by omega)
      omega
  · rintro ⟨-, fine, positive, product⟩
    rw [atLeast fine, if_neg (by omega)]
    exact ⟨by omega, fine, positive⟩

theorem multiplies_iff (smt : Bool) (cfg : VMConfig) :
    Multiplies smt cfg ↔ 1 ≤ cfg.cpus ∧ (cfg.threads = 2 → 0 ≤ cfg.sockets ∧ 1 ≤ cfg.cores ∧
      cfg.cpus = 2 * (max cfg.sockets 1 * cfg.cores)) := by
  by_cases two : cfg.threads = 2
  · have split : cfg.smp smt = ⟨if cfg.sockets = 0 then 1 else cfg.sockets,
        if cfg.cores = 0 then cfg.cpus else cfg.cores, 2⟩ := if_pos two
    have pinned := two_threads_iff cfg.cpus cfg.sockets cfg.cores
    constructor
    · rintro ⟨product, sockets, cores, -⟩
      rw [split] at product sockets cores
      obtain ⟨positive, rest⟩ := pinned.mp ⟨product, sockets, cores⟩
      exact ⟨positive, fun _ => rest⟩
    · rintro ⟨positive, rest⟩
      obtain ⟨product, sockets, cores⟩ := pinned.mpr ⟨positive, rest two⟩
      constructor <;> rw [split]
      · exact product
      · exact sockets
      · exact cores
      · exact (by decide : (1 : Int) ≤ 2)
  · have split : cfg.smp smt =
        if smt ∧ cfg.cpus.tmod 2 = 0 then ⟨1, cfg.cpus.tdiv 2, 2⟩ else ⟨1, cfg.cpus, 1⟩ :=
      if_neg two
    have parts := Int.tmod_add_mul_tdiv cfg.cpus 2
    constructor
    · rintro ⟨product, -, cores, -⟩
      rw [split] at product cores
      refine ⟨?_, fun isTwo => absurd isTwo two⟩
      split at cores
      · dsimp only at cores
        omega
      · exact cores
    · rintro ⟨positive, -⟩
      constructor <;> rw [split] <;> split <;> dsimp only <;> omega

end SMP

/-- After `vee create` and a sequence of `SetCPUs`, the factors that `AdjustSMP` gives multiply to
the number of vCPUs exactly if the number asked for last is positive and, for a template with two
threads a core, twice the sockets times the cores. -/
theorem smp_multiplies_iff (host : BuildHost) (conf : ProviderConfig) (opts : Opts)
    (template : VMConfig) {cfg : VMConfig}
    (created : applyOverrides host conf opts template = .ok cfg)
    (counts : List Int) {w w' : World} (stored : w.config = cfg.persisted) {results : List Unit}
    (ran : Ran vmHost (Prog.forEach setCPUs counts) w (.ok results) w') (smt : Bool) :
    Multiplies smt w'.config ↔ Fits template opts counts := by
  obtain ⟨cpus, alike⟩ := SMP.applyOverrides_cpus created
  obtain ⟨last, same⟩ := SMP.setCPUs_sequence counts ran
  rw [stored] at last same
  have count : w'.config.cpus = lastCount template opts counts := by
    rw [last, lastCount, ← cpus]
    rfl
  have kept : SMP.Alike cfg cfg.persisted := ⟨rfl, rfl, rfl⟩
  have both := alike.trans (kept.trans same)
  rw [SMP.multiplies_iff, count, both.sockets, both.cores, both.threads]
  exact ⟨fun ⟨positive, pinned⟩ => ⟨positive, pinned⟩, fun fits => ⟨fits.positive, fits.pinned⟩⟩

def sixVCPUs : VMConfig :=
  { name := "vm", template := "passthrough", memory := "8G", cpus := 6, sockets := 1, cores := 3,
    threads := 2 }

/-- A count that was changed and changed back multiplies. -/
theorem six_vcpus_again : ∃ cfg w',
    applyOverrides deviceHost somePaths { name := "vm" } sixVCPUs = .ok cfg ∧
      Ran vmHost (Prog.forEach setCPUs [4, 6]) { config := cfg.persisted, state := {} }
        (.ok [(), ()]) w' ∧ Multiplies true w'.config := by
  refine ⟨_, _, rfl, Ran.of_play (M := vmHost) [{}, {}, {}, {}] rfl, ?_⟩
  refine (smp_multiplies_iff deviceHost somePaths { name := "vm" } sixVCPUs rfl [4, 6] rfl
    (Ran.of_play (M := vmHost) [{}, {}, {}, {}] rfl) true).mpr ?_
  exact ⟨by decide, fun _ => by decide⟩

/-- With `--cpus 4` the passthrough template gets four cores of two threads. -/
theorem overridden_vcpus_doubled :
    ∃ cfg, applyOverrides deviceHost somePaths { name := "vm", cpus := 4 } sixVCPUs = .ok cfg ∧
      ¬ Multiplies true cfg.persisted := by
  refine ⟨_, rfl, fun fits => ?_⟩
  have product := fits.product
  revert product
  decide

end Vee
