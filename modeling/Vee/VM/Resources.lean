import Vee.VM.Manager

/-!
# The processors of a VM

`SetCPUs` (`internal/vm/resources.go`), `AdjustSMP` (`internal/cpu/topology.go`), with which
`buildMachine` splits the vCPUs into sockets, cores and threads, and the `-smp` argument
(`internal/qemu/cpu.go`).
-/

namespace Vee

def setCPUs (cpus : Int) : VM Unit := do
  if cpus ≤ 0 then
    throw ("cpus must be positive, got " ++ toString cpus)
  else
    let cfg ← loadConfig
    saveConfig "" { cfg with cpus := cpus }

/-- Sockets, cores and threads. -/
structure SMP where
  sockets : Int
  cores : Int
  threads : Int

/-- `AdjustSMP`; `smt` says whether `ThreadsPerCore` is 2. -/
def adjustSMP (smt : Bool) (cpus sockets cores threads : Int) : SMP :=
  if threads = 2 then
    ⟨if sockets = 0 then 1 else sockets, if cores = 0 then cpus else cores, 2⟩
  else if smt ∧ cpus.tmod 2 = 0 then ⟨1, cpus.tdiv 2, 2⟩
  else ⟨1, cpus, 1⟩

/-- What `buildMachine` makes of a config. -/
def VMConfig.smp (cfg : VMConfig) (smt : Bool) : SMP :=
  adjustSMP smt cfg.cpus cfg.sockets cfg.cores cfg.threads

/-- The value of `-smp` in `CPU.Args`: the factors that are positive are written out. -/
def smpArg (cpus : Int) (smp : SMP) : String :=
  let factors :=
    (if smp.sockets > 0 then ["sockets=" ++ toString smp.sockets] else []) ++
      (if smp.cores > 0 then ["cores=" ++ toString smp.cores] else []) ++
      (if smp.threads > 0 then ["threads=" ++ toString smp.threads] else [])
  ",".intercalate (toString cpus :: factors)

end Vee
