import Vee.VM.Proofs.InstallOnce
import Vee.VM.Proofs.UserStop
import Vee.VM.Proofs.HostStop
import Vee.VM.Proofs.GuestPoweroff
import Vee.VM.Proofs.RunningRecorded
import Vee.VM.Proofs.Foreground
import Vee.Blockdev.Proofs.InUse
import Vee.QMP.Proofs.OwnReplies
import Vee.QMP.Proofs.ClientReplies
import Vee.Templates.Proofs.KillSwitch
import Vee.Templates.Proofs.EndpointHoles
import Vee.Templates.Proofs.CrawlerRule
import Vee.Media.Proofs.ReadOnly
import Vee.Media.Proofs.Serials
import Vee.VM.Proofs.Delete
import Vee.Tunnel.Proofs.Converges
import Vee.Tunnel.Proofs.Pass
import Vee.VM.Proofs.BuildCall
import Vee.VM.Proofs.VZDisks
import Vee.Runner.Proofs.Escape
import Vee.Backup.Proofs.Confined
import Vee.Runner.Proofs.Decryptable
import Vee.Firstboot.Proofs.Unpatched
import Vee.VM.Proofs.NextRun
import Vee.VM.Proofs.Intent
import Vee.VM.Proofs.DeletedRow
import Vee.VM.Proofs.SSHProxy
import Vee.VM.Proofs.AtomicWrite
import Vee.Build.Proofs.RequestedDisks
import Vee.VM.Proofs.DiskCheck
import Vee.VM.Proofs.ResizeTarget
import Vee.Images.Proofs.Mirrored
import Vee.Images.Proofs.Newest
import Vee.QEMU.Proofs.VFIO
import Vee.VM.Proofs.SMP
import Vee.QEMU.Proofs.DiskArgs
import Vee.VM.Proofs.LeaseReady
import Vee.QMP.Proofs.SSHPort
import Vee.Tunnel.Proofs.PortRange
import Vee.Tunnel.Proofs.RegistryMap
import Vee.Tunnel.Proofs.Published
import Vee.QMP.Proofs.Handshake
import Vee.VM.Proofs.NewestOwner
import Vee.VM.Proofs.SSHTunnel
import Vee.Build.Proofs.MemorySizes
import Vee.Media.Proofs.UnitName
import Vee.Firstboot.Proofs.Grants
import Vee.Firstboot.Proofs.Scraped
import Vee.VM.CPUPinning
import Vee.VM.Proofs.CPUPinning
import Vee.Cmd.Proofs.RemoteArgv
import Vee.Boot.Proofs.Phases
