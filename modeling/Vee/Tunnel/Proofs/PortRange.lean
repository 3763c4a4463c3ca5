import Mathlib.Order.Bounds.Defs
import Vee.Tunnel.Proofs.Stable

/-!
# Allocated ports

`availablePort` tries the preferred port first. For a tunnel without a port that is 0, which every
probe finds free: the kernel then picks the port, from outside the range.
-/

namespace Vee.Tunnel

def InRange (port : Int) : Prop := tunnelPortMin ≤ port ∧ port ≤ tunnelPortMax
deriving Decidable

/-- What a pass has bound and recorded under a key is in the range. -/
structure Allocated (d d' : Daemon) (key : Text) : Prop where
  bound : ∀ t, d'.active.lookup key = some t → InRange t.proxy.port
  recorded : ∀ s ∈ entriesOf key d'.registry, s ∈ entriesOf key d.registry ∨ InRange s.port

section

variable {ports : Ports} {preferred min max p : Int} {n : Nat}

theorem scanPorts_eq_some : scanPorts ports preferred min n = some p ↔
    (min ≤ p ∧ p < min + n) ∧ (p ≠ preferred ∧ isPortFree ports p) ∧
      ∀ q, min ≤ q → q < p → q = preferred ∨ isPortFree ports q = false := by
  induction n generalizing min with
  | zero => simp [scanPorts]
  | succ n ih =>
    unfold scanPorts
    split
    · grind
    rename_i taken
    rw [ih]
    constructor
    · rintro ⟨bounds, free, least⟩
      refine ⟨by omega, free, fun q low high => ?_⟩
      by_cases first : q = min
      · grind
      · exact least q (by omega) high
    · rintro ⟨bounds, free, least⟩
      have later : p ≠ min := by grind
      exact ⟨by omega, free, fun q low high => least q (by omega) high⟩

theorem scanPorts_ne_none (min : Int) (n : Nat) (free : isPortFree ports p = true)
    (other : p ≠ preferred) (low : min ≤ p) (high : p < min + n) :
    scanPorts ports preferred min n ≠ none := by
  induction n generalizing min with
  | zero => omega
  | succ n ih =>
    unfold scanPorts
    split
    · simp
    · exact ih _ (by grind) (by omega)

theorem availablePort_eq (range : min ≤ max) :
    (isPortFree ports preferred = true → availablePort ports preferred min max = preferred) ∧
      (isPortFree ports preferred = false →
        ∀ p, IsLeast {p | min ≤ p ∧ p ≤ max ∧ isPortFree ports p = true} p →
          availablePort ports preferred min max = p) := by
  refine ⟨fun free => by simp [availablePort, free], ?_⟩
  rintro taken p ⟨⟨low, high, free⟩, least⟩
  have found : scanPorts ports preferred min (max + 1 - min).toNat = some p := by
    refine scanPorts_eq_some.mpr ⟨by omega, ⟨by grind, free⟩, fun q above below => .inr ?_⟩
    by_contra isFree
    have := least ⟨above, by omega, by simpa using isFree⟩
    omega
  simp [availablePort, taken, found]

/-- The port of a tunnel that has none: the kernel's, or one of the range. -/
theorem listen_portless {want : Want} (unset : want.spec.port ≤ 0)
    (room : ∃ p, InRange p ∧ isPortFree ports p = true) :
    ∃ bound : Nat, ports.listen want = .ok bound ∧
      (InRange bound ↔ ∀ p ∈ ports.ephemeral, InRange p) := by
  obtain ⟨p, range, free⟩ := room
  unfold InRange tunnelPortMin tunnelPortMax at range
  cases kernel : ports.ephemeral with
  | some bound =>
    have zero : availablePort ports 0 tunnelPortMin tunnelPortMax = 0 := by
      simp [availablePort, isPortFree, Ports.bind, kernel]
    exact ⟨bound, by simp [Ports.listen, unset, zero, Ports.bind, kernel], by simp⟩
  | none =>
    have taken : isPortFree ports 0 = false := by simp [isPortFree, Ports.bind, kernel]
    have finds : scanPorts ports 0 2300 100 ≠ none :=
      scanPorts_ne_none 2300 100 free (by omega) (by omega) (by omega)
    obtain ⟨first, found⟩ := Option.ne_none_iff_exists'.mp finds
    obtain ⟨bounds, ⟨-, isFree⟩, -⟩ := scanPorts_eq_some.mp found
    have port : availablePort ports 0 tunnelPortMin tunnelPortMax = first := by
      simp [availablePort, taken, tunnelPortMin, tunnelPortMax, found]
    have bound : ports.bind first = some first.toNat := by grind [isPortFree, Ports.bind]
    refine ⟨first.toNat, by simp [Ports.listen, unset, port, bound], ?_⟩
    simp only [Option.mem_def, reduceCtorEq, false_imp_iff, implies_true, iff_true]
    unfold InRange tunnelPortMin tunnelPortMax
    omega

end

/-- If the range has a free port, a tunnel that is started without one gets and records a port of
the range exactly if the kernel does not hand out another one for port 0; and `availablePort`
keeps to its range for every port that can be preferred. -/
theorem allocated_in_range_iff (ports : Text → Ports) {tick : Tick} {order : List Text}
    {d : Daemon} (ranged : order.Perm (wantedKeys tick d))
    (asked : ∀ key want, Starts tick d key want → tick.listen key = (ports key).listen want)
    {key : Text} {want : Want} (starts : Starts tick d key want) (unset : want.spec.port ≤ 0)
    (room : ∃ p, InRange p ∧ isPortFree (ports key) p = true) :
    (Allocated d (reconcileTunnels tick order d) key ↔
        ∀ p ∈ (ports key).ephemeral, InRange p) ∧
      ∀ (ports : Ports) (preferred min max : Int), 0 < preferred → min ≤ max →
        (isPortFree ports preferred = true → availablePort ports preferred min max = preferred) ∧
          (isPortFree ports preferred = false →
            ∀ p, IsLeast {p | min ≤ p ∧ p ≤ max ∧ isPortFree ports p = true} p →
              availablePort ports preferred min max = p) := by
  refine ⟨?_, fun _ _ _ _ _ => availablePort_eq⟩
  obtain ⟨bound, listened, inRange⟩ := listen_portless unset room
  rw [← inRange]
  have port : want.portOf bound = bound := if_pos unset
  have isWanted := starts.1
  unfold wantedTunnels at isWanted
  split at isWanted
  · rename_i entries readable listed
    obtain ⟨live, registry⟩ := (reconcile_passed readable listed ranged).started key want bound
      isWanted starts.2 ((asked key want starts).trans listened)
    constructor
    · intro allocated
      have := allocated.bound _ live
      rwa [Want.started, port] at this
    · intro inside
      refine ⟨fun t found => ?_, fun s member => ?_⟩
      · cases live.symm.trans found
        simpa [Want.started, port] using inside
      · rw [registry] at member
        split at member
        · rw [List.mem_singleton.mp member]
          exact .inr (by simpa [Want.updated, port] using inside)
        · exact .inl member
  · cases isWanted

/-! ### A kernel without a port, and one with -/

variable (ephemeral : Option Nat)

def quietPorts : Ports := ⟨fun _ => false, ephemeral⟩

/-- The tunnel of `webDaemon 0`. -/
def webWant : Want where
  spec :=
    { vm := "web", service := "http", bind := bindLoopback, hostname := "http", protocol := .http }
  guestPort := 80
  protocol := .http

/-- A pass on that host that finds the VM running. -/
def portTick : Tick where
  entries := .ok [webEntry]
  listen _ := (quietPorts ephemeral).listen webWant

theorem portTick_starts : Starts (portTick ephemeral) (webDaemon 0) "web/http".toList webWant := by
  have wanted : wantedTunnels (portTick ephemeral) (webDaemon 0) =
      wantedTunnels webTick (webDaemon 0) := rfl
  exact ⟨by rw [wanted]; rfl, nofun⟩

theorem portTick_asked (key : Text) (want : Want)
    (starts : Starts (portTick ephemeral) (webDaemon 0) key want) :
    (portTick ephemeral).listen key = (quietPorts ephemeral).listen want := by
  have spec : want.spec = webWant.spec := List.mem_singleton.mp starts.mem_registry
  simp [portTick, Ports.listen, spec]

/-- Without a port of the kernel, the tunnel gets 2300. -/
theorem exhausted_kernel_in_range :
    Allocated (webDaemon 0) (reconcileTunnels (portTick none) webOrder (webDaemon 0))
      "web/http".toList := by
  refine (allocated_in_range_iff (fun _ => quietPorts none) ?_ (portTick_asked none)
    (portTick_starts none) (by decide) ⟨2300, by decide, by decide⟩).1.mpr (by decide)
  decide

/-- With one, it gets that. -/
theorem kernel_port_out_of_range :
    ¬ ∀ (ports : Text → Ports) (tick : Tick) (order : List Text) (d : Daemon)
      (key : Text) (want : Want), order.Perm (wantedKeys tick d) →
      (∀ key want, Starts tick d key want → tick.listen key = (ports key).listen want) →
      Starts tick d key want → want.spec.port ≤ 0 →
      (∃ p, InRange p ∧ isPortFree (ports key) p = true) →
      Allocated d (reconcileTunnels tick order d) key := by
  intro all
  have allocated := all (fun _ => quietPorts (some 40000)) (portTick (some 40000)) webOrder
    (webDaemon 0) _ _ (by decide) (portTick_asked _) (portTick_starts _) (by decide)
    ⟨2300, by decide, by decide⟩
  exact absurd (allocated.bound (webWant.started 40000) (by decide)) (by decide)

end Vee.Tunnel
