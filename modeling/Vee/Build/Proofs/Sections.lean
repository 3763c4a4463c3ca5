import Vee.Build.Overrides
import Vee.Misc.Results

/-!
# What the sections of `applyOverrides` change

Each section of `applyOverrides` changes a few fields of the config and leaves the others alone.
-/

namespace Vee

variable {host : BuildHost} {conf : ProviderConfig} {opts : Opts} {cfg cfg' : VMConfig}

theorem overrideQemuEnv_shape (done : overrideQemuEnv opts cfg = .ok cfg') :
    ∃ env, cfg' = { cfg with qemuEnv := env } := by
  unfold overrideQemuEnv at done
  split at done
  · cases done
    exact ⟨cfg.qemuEnv, rfl⟩
  · obtain ⟨_, -, done⟩ := exists_of_bind_eq_ok done
    cases done
    exact ⟨opts.qemuEnv, rfl⟩

theorem overrideSPICE_shape (opts : Opts) (cfg : VMConfig) :
    ∃ spice, overrideSPICE opts cfg = { cfg with spice := spice } := by
  unfold overrideSPICE
  split
  · exact ⟨cfg.spice, rfl⟩
  · split <;> exact ⟨_, rfl⟩

theorem overrideVirtiofs_shape (opts : Opts) (cfg : VMConfig) :
    ∃ mounts, overrideVirtiofs opts cfg = { cfg with virtiofsMounts := mounts } := by
  unfold overrideVirtiofs
  split
  · exact ⟨cfg.virtiofsMounts, rfl⟩
  · split <;> exact ⟨_, rfl⟩

theorem beforeDisks_shape (host : BuildHost) (checked : overrideQemuEnv opts cfg = .ok cfg') :
    ∃ env gpu nested spice mounts,
      overrideVirtiofs opts (overrideSPICE opts (overrideGPU host opts cfg')) = { cfg with
          qemuEnv := env, gpu := gpu, nested := nested, spice := spice,
          virtiofsMounts := mounts } := by
  obtain ⟨env, rfl⟩ := overrideQemuEnv_shape checked
  obtain ⟨spice, withSPICE⟩ :=
    overrideSPICE_shape opts (overrideGPU host opts { cfg with qemuEnv := env })
  obtain ⟨mounts, shared⟩ :=
    overrideVirtiofs_shape opts
      (overrideSPICE opts (overrideGPU host opts { cfg with qemuEnv := env }))
  rw [shared, withSPICE]
  exact ⟨env, _, _, spice, mounts, rfl⟩

theorem addDisk_shape (conf : ProviderConfig) (opts : Opts) (cfg : VMConfig) :
    ∃ disks, addDisk conf opts cfg = { cfg with disks := disks } := by
  unfold addDisk
  split
  · exact ⟨_, rfl⟩
  · exact ⟨cfg.disks, rfl⟩

theorem stripManaged_shape (opts : Opts) (cfg : VMConfig) :
    ∃ disks, stripManaged opts cfg = { cfg with disks := disks } := by
  unfold stripManaged
  split
  · exact ⟨_, rfl⟩
  · exact ⟨cfg.disks, rfl⟩

theorem attachDisks_shape (done : attachDisks host opts cfg = .ok cfg') :
    ∃ disks, cfg' = { cfg with disks := disks } := by
  unfold attachDisks at done
  split at done
  · cases done
    exact ⟨cfg.disks, rfl⟩
  · obtain ⟨_, -, done⟩ := exists_of_bind_eq_ok done
    cases done
    exact ⟨_, rfl⟩

theorem relocateBootDisk_shape (opts : Opts) (cfg : VMConfig) :
    ∃ disks, relocateBootDisk opts cfg = { cfg with disks := disks } := by
  unfold relocateBootDisk
  split
  · exact ⟨_, rfl⟩
  · exact ⟨cfg.disks, rfl⟩

theorem disks_shape (conf : ProviderConfig)
    (done : attachDisks host opts (stripManaged opts (addDisk conf opts cfg)) = .ok cfg') :
    ∃ disks, relocateBootDisk opts cfg' = { cfg with disks := disks } := by
  obtain ⟨added, withExtra⟩ := addDisk_shape conf opts cfg
  obtain ⟨kept, stripped⟩ := stripManaged_shape opts (addDisk conf opts cfg)
  obtain ⟨disks, rfl⟩ := attachDisks_shape done
  obtain ⟨moved, relocated⟩ :=
    relocateBootDisk_shape opts { stripManaged opts (addDisk conf opts cfg) with disks := disks }
  rw [relocated, stripped, withExtra]
  exact ⟨moved, rfl⟩

end Vee
