import Vee.Templates.EndpointRefresh

/-!
# The holes that refresh runs leave

A run adds a rule for every address of the new answer, also for those that have one, and
deletes one copy for each address that is gone. So it counts how many copies of a rule OUTPUT
holds. The endpoint's name is taken to be plain (`build_plain`, `refreshIn_plain`).
-/

namespace Vee.Templates

open Guest List

namespace Filter

def copies (port : Nat) (g : Filter) (ip : IPv4) : Nat :=
  g.v4.output.rules.countP (Entry.is (endpointRule port ip))

def Pinned (port : Nat) (g : Filter) (ip : IPv4) : Prop :=
  .rule (endpointRule port ip) ∈ g.v4.output.rules

theorem pinned_iff {port : Nat} {g : Filter} {ip : IPv4} :
    g.Pinned port ip ↔ 0 < g.copies port ip := by
  simp only [Pinned, copies, countP_pos_iff, Entry.is_iff]
  simp

instance (port : Nat) (g : Filter) (ip : IPv4) : Decidable (g.Pinned port ip) :=
  decidable_of_iff _ pinned_iff.symm

end Filter

/-- After each run the holes are those for the addresses of the file, a run that changes
the file leaves none for what it withdrew, and at no point of a run are all pinned
addresses without a rule. -/
def CurrentHoles (port : Nat) : Filter → List Refresh → Prop
  | _, [] => True
  | g, run :: runs =>
    let after := g.refresh port run
    (∀ between ∈ (g.refreshSteps port run).scanl Step.exec g,
      ∃ ip ∈ between.addrs, between.Pinned port ip) ∧
    (∀ ip, after.Pinned port ip ↔ ip ∈ after.addrs) ∧
    (after.addrs ≠ g.addrs → ∀ ip ∈ g.addrs, ip ∉ after.addrs → ¬ after.Pinned port ip) ∧
    CurrentHoles port after runs

/-- The answers that make a run change the file, behind the file's first content. -/
def rotations : List IPv4 → List Refresh → List (List IPv4)
  | current, [] => [current]
  | current, run :: runs =>
    if run.new = [] ∨ run.new = current then rotations current runs
    else current :: rotations run.new runs

/-- An address that stays over one change stays for good. -/
def DoubledStay : List (List IPv4) → Prop
  | old :: new :: later => (∀ answer ∈ later, ∀ ip ∈ old, ip ∈ new → ip ∈ answer) ∧
      DoubledStay (new :: later)
  | _ => True

/-- The templates with an iptables base. -/
inductive Base where
  | torrent (mounts : List NFSMount)
  | bitmagnet

variable (base : Base) (cfg : WireGuardConfig) (hosts : String → List Net)

def Base.killSwitchCmds : List Command :=
  match base with
  | .torrent mounts => torrentAlpineKillSwitchCmds (some cfg) mounts
  | .bitmagnet => bitmagnetKillSwitchCmds (some cfg)

def Base.tunnelCmds : List Command :=
  match base with
  | .torrent mounts => torrentTunnelCmds cfg mounts
  | .bitmagnet => bitmagnetTunnelCmds cfg

/-! ## Copies -/

namespace Filter

variable {port : Nat} {g : Filter} {ip : IPv4}

theorem copies_behind (rules : List Entry) : (g.output (·.behind rules)).copies port ip =
      g.copies port ip + rules.countP (Entry.is (endpointRule port ip)) := by
  simp [copies]

variable {new old : List IPv4} {steps : List Step}

/-- In a list of addresses with a rule each, an address has one copy or none. -/
theorem countP_endpointRules (nodup : new.Nodup) :
    (new.map fun ip => Entry.rule (endpointRule port ip)).countP (Entry.is (endpointRule port ip)) =
      if ip ∈ new then 1 else 0 := by
  have same : (Entry.is (endpointRule port ip) ∘ fun ip => Entry.rule (endpointRule port ip)) =
      (· == ip) := by
    funext other
    rw [Bool.eq_iff_iff, beq_iff_eq]
    simp [Entry.is, (endpointRule_injective port).eq_iff]
  rw [countP_map, same]
  exact nodup.count

theorem copies_delete (other : IPv4) :
    (Step.exec g (.delete (endpointRule port other))).copies port ip =
      g.copies port ip - if ip = other then 1 else 0 := by
  simp only [Step.exec, copies, output_chain, RuleChain.delete_rules]
  by_cases same : ip = other
  · subst same
    rw [if_pos rfl, countP_eraseP_self]
  · rw [if_neg same, Nat.sub_zero]
    apply countP_eraseP_other
    intro e is
    rw [Entry.is_iff] at is
    simp [is, Entry.is, (endpointRule_injective port).eq_iff, Ne.symm same]

/-- Deleting a rule for each address of a list takes one copy for each. -/
theorem copies_deletes {gone : List IPv4} (nodup : gone.Nodup) :
    ((gone.map (alpineFirewallCmds port).denyEndpoint).foldl Step.exec g).copies port ip =
      g.copies port ip - if ip ∈ gone then 1 else 0 := by
  induction gone generalizing g with
  | nil => simp
  | cons other gone ih =>
    obtain ⟨fresh, nodup⟩ := nodup_cons.mp nodup
    rw [map_cons, foldl_cons, ih nodup]
    simp only [alpineFirewallCmds, copies_delete, mem_cons]
    by_cases same : ip = other
    · subst same
      simp [fresh]
    · simp [same]

theorem copies_repin (oldNodup : old.Nodup) (newNodup : new.Nodup) :
    ((repinSteps (alpineFirewallCmds port) old new).foldl Step.exec g).copies port ip =
      g.copies port ip + (if ip ∈ new then 1 else 0) - if ip ∈ old ∧ ip ∉ new then 1 else 0 := by
  unfold repinSteps
  rw [withdrawn_eq, List.foldl_append, List.foldl_append, List.foldl_append, allowEndpoint_all]
  -- Writing the file and restarting the tunnel do not touch the chain.
  show (foldl Step.exec (Step.exec _ (.writeAddrs new)) _).copies port ip = _
  rw [copies_deletes (oldNodup.filter (· ∉ new))]
  show (g.output (·.behind (new.map fun ip => .rule (endpointRule port ip)))).copies port ip - _ = _
  rw [copies_behind, countP_endpointRules newNodup]
  simp [mem_filter]

theorem repin_addrs (port : Nat) (old new : List IPv4) (g : Filter) :
    ((repinSteps (alpineFirewallCmds port) old new).foldl Step.exec g).addrs = new := by
  unfold repinSteps
  rw [List.foldl_append, List.foldl_append, List.foldl_append]
  apply foldlRecOn (motive := fun g' : Filter => g'.addrs = new)
  · apply foldlRecOn (motive := fun g' : Filter => g'.addrs = new)
    · rfl
    · intro g' same s mem
      obtain ⟨ip, -, rfl⟩ := mem_map.mp mem
      exact same
  · intro g' same s mem
    obtain rfl := mem_singleton.mp mem
    exact same

/-! ## Between the steps -/

theorem mem_scanl_append {steps' : List Step} {between : Filter} :
    between ∈ (steps ++ steps').scanl Step.exec g ↔
      between ∈ steps.scanl Step.exec g ∨
        between ∈ steps'.scanl Step.exec (steps.foldl Step.exec g) := by
  induction steps generalizing g with
  | nil =>
    cases steps' <;> simp
  | cons s steps ih =>
    rw [cons_append, scanl_cons, scanl_cons, foldl_cons, mem_cons, mem_cons, ih, or_assoc]

theorem start_mem_scanl : g ∈ steps.scanl Step.exec g := by
  cases steps <;> simp

theorem foldl_mem_scanl : steps.foldl Step.exec g ∈ steps.scanl Step.exec g := by
  induction steps generalizing g with
  | nil => simp
  | cons s steps ih =>
    rw [scanl_cons]
    exact mem_cons_of_mem _ ih

theorem scanl_keeps {P : Filter → Prop} (start : P g)
    (keep : ∀ s ∈ steps, ∀ g', P g' → P (s.exec g')) :
    ∀ between ∈ steps.scanl Step.exec g, P between := by
  induction steps generalizing g with
  | nil => simpa using start
  | cons s steps ih =>
    rw [scanl_cons]
    intro between mem
    rcases mem_cons.mp mem with rfl | later
    · exact start
    · exact ih (keep s mem_cons_self g start)
        (fun s' mem => keep s' (mem_cons_of_mem s mem)) between later

def WayOut (port : Nat) (g : Filter) : Prop := ∃ ip ∈ g.addrs, g.Pinned port ip

theorem WayOut.before (h : g.WayOut port) (rules : List Entry) :
    (g.output (·.before rules)).WayOut port := by
  obtain ⟨ip, mem, pinned⟩ := h
  exact ⟨ip, mem, mem_append_right rules pinned⟩

theorem WayOut.behind (h : g.WayOut port) (rules : List Entry) :
    (g.output (·.behind rules)).WayOut port := by
  obtain ⟨ip, mem, pinned⟩ := h
  exact ⟨ip, mem, mem_append_left rules pinned⟩

theorem WayOut.deletes {ns : List IPv4} (nodup : ns.Nodup) (h : g.WayOut port) :
    ∀ between ∈ (ns.map (alpineFirewallCmds port).denyDNS).scanl Step.exec
      (g.output (·.before (ns.reverse.map fun n => .rule (endpointRule 53 n)))),
      between.WayOut port := by
  induction ns with
  | nil => simpa using h
  | cons n ns ih =>
    rw [map_cons, scanl_cons]
    intro between mem
    rcases mem_cons.mp mem with rfl | later
    · exact h.before _
    · apply ih nodup.of_cons between
      rw [← delete_first_inserted (endpointRule_injective 53) nodup]
      exact later

theorem WayOut.lookup (h : g.WayOut port) (run : Refresh) :
    ∀ between ∈ (run.ns.map (alpineFirewallCmds port).allowDNS ++ [Step.lookup] ++
      run.ns.map (alpineFirewallCmds port).denyDNS).scanl Step.exec g, between.WayOut port := by
  intro between mem
  rcases mem_scanl_append.mp mem with early | late
  · refine scanl_keeps h ?_ between early
    intro s listed g' out
    rcases mem_append.mp listed with insert | look
    · obtain ⟨n, -, rfl⟩ := mem_map.mp insert
      exact out.before [.rule (endpointRule 53 n)]
    · obtain rfl := mem_singleton.mp look
      exact out
  · rw [List.foldl_append] at late
    simp only [alpineFirewallCmds, insert_all, foldl_cons, foldl_nil, Step.exec] at late
    exact h.deletes (nodup_sortUnique _) between late

theorem WayOut.repin (h : g.WayOut port) (some' : new ≠ []) :
    ∀ between ∈ (repinSteps (alpineFirewallCmds port) old new).scanl Step.exec g,
      between.WayOut port := by
  intro between mem
  unfold repinSteps at mem
  rw [append_assoc, append_assoc] at mem
  rcases mem_scanl_append.mp mem with early | late
  · refine scanl_keeps h ?_ between early
    intro s listed g' out
    obtain ⟨ip, -, rfl⟩ := mem_map.mp listed
    exact out.behind [.rule (endpointRule port ip)]
  · rw [allowEndpoint_all] at late
    -- From here on all new addresses have their rule; the deleted ones are others.
    obtain ⟨ip, fresh⟩ := exists_mem_of_ne_nil new some'
    rw [singleton_append, scanl_cons] at late
    rcases mem_cons.mp late with rfl | later
    · exact h.behind _
    have kept : between.addrs = new ∧ between.Pinned port ip := by
      refine scanl_keeps (P := fun g' => g'.addrs = new ∧ g'.Pinned port ip) ?_ ?_ between later
      · constructor
        · rfl
        · exact mem_append_right _ (mem_map_of_mem fresh)
      · rintro s listed g' ⟨written, pinned⟩
        rcases mem_append.mp listed with delete | restart
        · rw [withdrawn_eq] at delete
          obtain ⟨gone, withdrawn, rfl⟩ := mem_map.mp delete
          refine ⟨written, ?_⟩
          have other : ip ≠ gone := by
            rintro rfl
            simp [fresh] at withdrawn
          rw [pinned_iff] at pinned ⊢
          simpa [alpineFirewallCmds, copies_delete, other] using pinned
        · obtain rfl := mem_singleton.mp restart
          exact ⟨written, pinned⟩
    exact ⟨ip, kept.1 ▸ fresh, kept.2⟩

theorem WayOut.refresh (h : g.WayOut port) (run : Refresh) :
    ∀ between ∈ (g.refreshSteps port run).scanl Step.exec g, between.WayOut port := by
  intro between mem
  rcases mem_scanl_append.mp mem with early | late
  · exact h.lookup run between early
  rw [← lookupSteps, lookup_phase] at late
  split at late
  · simp only [scanl_nil, mem_singleton] at late
    rw [late]
    exact h
  · rename_i changed
    exact h.repin (fun empty => changed (.inl empty)) between late

/-! ## Whole sequences of runs -/

/-- The holes are those for the addresses of the file; those of `doubled` have more than one
copy of their rule. -/
structure Pins (port : Nat) (doubled : List IPv4) (g : Filter) : Prop where
  nodup : g.addrs.Nodup
  absent : ∀ ip, ip ∉ g.addrs → g.copies port ip = 0
  single : ∀ ip ∈ g.addrs, ip ∉ doubled → g.copies port ip = 1
  double : ∀ ip ∈ doubled, 2 ≤ g.copies port ip

variable {doubled : List IPv4}

section

variable (h : g.Pins port doubled)

include h

theorem Pins.pinned : g.Pinned port ip ↔ ip ∈ g.addrs := by
  rw [pinned_iff]
  by_cases mem : ip ∈ g.addrs
  · by_cases twice : ip ∈ doubled
    · have := h.double ip twice
      simp only [mem, iff_true]
      omega
    · simp [mem, h.single ip mem twice]
  · simp [mem, h.absent ip mem]

theorem Pins.subset : ∀ ip ∈ doubled, ip ∈ g.addrs := by
  intro ip twice
  by_contra absent
  have := h.double ip twice
  have := h.absent ip absent
  omega

theorem Pins.wayOut (pinned : g.addrs ≠ []) : g.WayOut port := by
  obtain ⟨ip, mem⟩ := exists_mem_of_ne_nil g.addrs pinned
  exact ⟨ip, mem, h.pinned.mpr mem⟩

/-- Pinning the hole again doubles the rules of the addresses that stay. -/
theorem Pins.repin (nodup : new.Nodup) (stay : ∀ ip ∈ doubled, ip ∈ new) :
    ((repinSteps (alpineFirewallCmds port) g.addrs new).foldl Step.exec g).Pins port
      (g.addrs.filter (· ∈ new)) where
  nodup := by rwa [repin_addrs]
  absent ip gone := by
    rw [repin_addrs] at gone
    rw [copies_repin h.nodup nodup]
    by_cases mem : ip ∈ g.addrs
    · have once := h.single ip mem fun twice => gone (stay ip twice)
      simp [gone, mem, once]
    · simp [gone, mem, h.absent ip mem]
  single ip mem alone := by
    rw [repin_addrs] at mem
    have fresh : ip ∉ g.addrs := by simpa [mem] using alone
    rw [copies_repin h.nodup nodup]
    simp [mem, fresh, h.absent ip fresh]
  double ip kept := by
    obtain ⟨old, new'⟩ : ip ∈ g.addrs ∧ ip ∈ new := by simpa using kept
    have pinned := pinned_iff.mp (h.pinned.mpr old)
    rw [copies_repin h.nodup nodup]
    simp only [new', if_true, not_true, and_false, if_false]
    omega

theorem Pins.left_over (nodup : new.Nodup) (twice : ip ∈ doubled) (gone : ip ∉ new) :
    ((repinSteps (alpineFirewallCmds port) g.addrs new).foldl Step.exec g).Pinned port ip := by
  have double := h.double ip twice
  rw [pinned_iff, copies_repin h.nodup nodup]
  simp only [gone, if_false, not_false_eq_true, and_true]
  split <;> omega

end

end Filter

theorem rotations_cons (current : List IPv4) (runs : List Refresh) :
    ∃ later, rotations current runs = current :: later := by
  induction runs with
  | nil => exact ⟨[], rfl⟩
  | cons run runs ih =>
    unfold rotations
    split
    · exact ih
    · exact ⟨_, rfl⟩

variable {port : Nat} {doubled : List IPv4} {g : Filter}

/-- The runs leave the current holes exactly if the doubled addresses stay, now and later. -/
theorem Filter.Pins.currentHoles_iff (h : g.Pins port doubled) (pinned : g.addrs ≠ [])
    (runs : List Refresh) :
    CurrentHoles port g runs ↔
      (∀ res ∈ rotations g.addrs runs, ∀ ip ∈ doubled, ip ∈ res) ∧
        DoubledStay (rotations g.addrs runs) := by
  induction runs generalizing g doubled with
  | nil => simpa [CurrentHoles, rotations, DoubledStay] using h.subset
  | cons run runs ih =>
    have trace := (h.wayOut pinned).refresh run
    simp only [CurrentHoles, rotations, Filter.refresh_eq]
    by_cases idle : run.new = [] ∨ run.new = g.addrs
    · simp only [idle, if_true, ne_eq, not_true, false_implies, true_and]
      rw [ih h pinned]
      constructor
      · exact fun holes => holes.2.2
      · exact fun stay => ⟨trace, fun ip => h.pinned, stay⟩
    · have nodup : run.new.Nodup := nodup_sortUnique _
      have addrs := Filter.repin_addrs port g.addrs run.new g
      obtain ⟨later, answers⟩ := rotations_cons run.new runs
      simp only [idle, if_false, addrs]
      by_cases stay : ∀ ip ∈ doubled, ip ∈ run.new
      · have pins := h.repin nodup stay
        have rest := ih pins (by rw [addrs]; exact fun empty => idle (.inl empty))
        rw [addrs] at rest
        rw [rest, answers]
        constructor
        · rintro ⟨-, -, -, kept, doubledStay⟩
          have kept' : ∀ res ∈ run.new :: later, ∀ ip ∈ doubled, ip ∈ res := by
            intro res mem ip twice
            apply kept res mem ip
            simp [stay ip twice, h.subset ip twice]
          refine ⟨forall_mem_cons.mpr ⟨h.subset, kept'⟩, ?_, doubledStay⟩
          intro res mem ip old new
          apply kept res (mem_cons_of_mem _ mem)
          simp [old, new]
        · rintro ⟨-, kept, doubledStay⟩
          refine ⟨trace, ?_, ?_, ?_, doubledStay⟩
          · intro ip
            rw [pins.pinned, addrs]
          · intro _ ip _ gone left
            rw [pins.pinned, addrs] at left
            exact gone left
          · intro res mem ip both
            obtain ⟨old, new⟩ : ip ∈ g.addrs ∧ ip ∈ run.new := by simpa using both
            rcases mem_cons.mp mem with rfl | behind
            · exact new
            · exact kept res behind ip old new
      · obtain ⟨ip, twice, gone⟩ : ∃ ip ∈ doubled, ip ∉ run.new := by simpa using stay
        constructor
        · rintro ⟨-, holes, -⟩
          exact absurd ((holes ip).mp (h.left_over nodup twice gone)) gone
        · rintro ⟨kept, -⟩
          have listed : run.new ∈ g.addrs :: rotations run.new runs := by
            rw [answers]
            simp
          exact absurd (kept run.new listed ip twice) gone

/-! ## The build -/

/-- The command adds no rule of a handshake hole and leaves the address file alone. -/
def Command.Neutral (port : Nat) : Command → Prop
  | .append .v4 .output rule => ∀ ip, rule ≠ endpointRule port ip
  | .flush .v4 => False
  | .resolveEndpoint _ => False
  | .pinEndpoint _ => False
  | _ => True

theorem countP_is_of_ne {ip : IPv4} {rules : List Entry}
    (other : ∀ e ∈ rules, e ≠ .rule (endpointRule port ip)) :
    rules.countP (Entry.is (endpointRule port ip)) = 0 := by
  rw [countP_eq_zero]
  intro e mem is
  exact other e mem (Entry.is_iff.mp is)

theorem Command.Neutral.exec {c : Command} (neutral : c.Neutral port) (hosts : String → List Net)
    (resolved : List IPv4) (g : Filter) (ip : IPv4) :
    (c.exec hosts resolved g).copies port ip = g.copies port ip ∧
      (c.exec hosts resolved g).addrs = g.addrs := by
  cases c with
  | policy family hook => cases family <;> cases hook <;> exact ⟨rfl, rfl⟩
  | append family hook rule =>
    cases family with
    | v6 => exact ⟨rfl, rfl⟩
    | v4 =>
      cases hook with
      | input => exact ⟨rfl, rfl⟩
      | forward => exact ⟨rfl, rfl⟩
      | output =>
        refine ⟨?_, rfl⟩
        show (g.output (·.behind [.rule rule])).copies port ip = _
        rw [Filter.copies_behind, countP_is_of_ne, Nat.add_zero]
        simpa using neutral ip
  | flush family =>
    cases family with
    | v4 => exact neutral.elim
    | v6 => exact ⟨rfl, rfl⟩
  | resolveEndpoint host => exact neutral.elim
  | pinEndpoint port' => exact neutral.elim
  | acceptServer server =>
    simp only [Command.exec, Filter.accept, Filter.foldl_append]
    refine ⟨?_, rfl⟩
    rw [Filter.copies_behind, countP_is_of_ne, Nat.add_zero]
    simp [endpointRule]
  | other text => exact ⟨rfl, rfl⟩

theorem build_neutral {cmds : List Command} (neutral : ∀ c ∈ cmds, c.Neutral port)
    (hosts : String → List Net) (resolved : List IPv4) (g : Filter) :
    (build hosts resolved cmds g).addrs = g.addrs ∧
      ∀ ip, (build hosts resolved cmds g).copies port ip = g.copies port ip := by
  apply foldlRecOn (motive := fun g' : Filter => g'.addrs = g.addrs ∧
    ∀ ip, g'.copies port ip = g.copies port ip)
  · exact ⟨rfl, fun _ => rfl⟩
  · rintro g' ⟨addrs, copies⟩ c mem
    constructor
    · rw [((neutral c mem).exec hosts resolved g' ⟨0, 0, 0, 0⟩).2, addrs]
    · intro ip
      rw [((neutral c mem).exec hosts resolved g' ip).1, copies]

theorem Filter.Pins.congr {g' : Filter} (h : g.Pins port doubled) (addrs : g'.addrs = g.addrs)
    (copies : ∀ ip, g'.copies port ip = g.copies port ip) : g'.Pins port doubled where
  nodup := by rw [addrs]; exact h.nodup
  absent ip := by rw [addrs, copies]; exact h.absent ip
  single ip := by rw [addrs, copies]; exact h.single ip
  double ip := by rw [copies]; exact h.double ip

theorem pinEndpoint_pins (resolved : List IPv4)
    (nodup : g.addrs.Nodup) (none : ∀ ip, g.copies port ip = 0) :
    ((Command.pinEndpoint port).exec hosts resolved g).Pins port [] := by
  have copies : ∀ ip, ((Command.pinEndpoint port).exec hosts resolved g).copies port ip =
      if ip ∈ g.addrs then 1 else 0 := by
    intro ip
    simp only [Command.exec, Filter.foldl_append]
    rw [Filter.copies_behind, Filter.countP_endpointRules nodup, none ip, Nat.zero_add]
  have addrs : ((Command.pinEndpoint port).exec hosts resolved g).addrs = g.addrs := by
    simp only [Command.exec, Filter.foldl_append]
    rfl
  constructor
  · rwa [addrs]
  · intro ip gone
    rw [addrs] at gone
    simp [copies, gone]
  · intro ip mem _
    rw [addrs] at mem
    simp [copies, mem]
  · simp

/-- A build that looks the endpoint up and then pins it, with nothing else about the holes,
pins each address of the answer once. -/
theorem build_pins {ahead opening behind : List Command}
    (neutral : ∀ c ∈ ahead ++ opening ++ behind, c.Neutral port) (host : Text)
    (hosts : String → List Net) (resolved : List IPv4) (none : ∀ ip, g.copies port ip = 0) :
    let built := build hosts resolved
      (ahead ++ .resolveEndpoint host :: (opening ++ .pinEndpoint port :: behind)) g
    built.addrs = sortUnique resolved ∧ built.Pins port [] := by
  have first : ∀ c ∈ ahead, c.Neutral port := fun c mem => neutral c (by simp [mem])
  have second : ∀ c ∈ opening, c.Neutral port := fun c mem => neutral c (by simp [mem])
  have third : ∀ c ∈ behind, c.Neutral port := fun c mem => neutral c (by simp [mem])
  let g₁ := build hosts resolved ahead g
  let g₂ := build hosts resolved opening { g₁ with addrs := sortUnique resolved }
  let g₃ := (Command.pinEndpoint port).exec hosts resolved g₂
  have built : build hosts resolved
      (ahead ++ .resolveEndpoint host :: (opening ++ .pinEndpoint port :: behind)) g =
        build hosts resolved behind g₃ := by
    simp only [build, foldl_append, foldl_cons]
    rfl
  have addrs₂ : g₂.addrs = sortUnique resolved := (build_neutral second hosts resolved _).1
  have copies₂ : ∀ ip, g₂.copies port ip = 0 := by
    intro ip
    rw [(build_neutral second hosts resolved _).2 ip]
    exact ((build_neutral first hosts resolved g).2 ip).trans (none ip)
  have addrs₃ : g₃.addrs = sortUnique resolved := by
    show ((Command.pinEndpoint port).exec hosts resolved g₂).addrs = _
    simp only [Command.exec, Filter.foldl_append]
    exact addrs₂
  have pins₃ : g₃.Pins port [] := by
    apply pinEndpoint_pins hosts resolved _ copies₂
    rw [addrs₂]
    exact nodup_sortUnique resolved
  obtain ⟨addrs, copies⟩ := build_neutral third hosts resolved g₃
  rw [built]
  exact ⟨addrs.trans addrs₃, pins₃.congr addrs copies⟩

/-- Behind the holes, neither template does anything about the handshake. -/
theorem tunnel_neutral (port : Nat) : ∀ c ∈ base.tunnelCmds cfg, c.Neutral port := by
  have wiring : ∀ c ∈ alpineWGEndpointRefreshCmds cfg, c.Neutral port := by
    unfold alpineWGEndpointRefreshCmds
    split <;> simp [Command.Neutral]
  have hook : ∀ c ∈ bootHookCmds, c.Neutral port := by simp [bootHookCmds, Command.Neutral]
  intro c mem
  cases base with
  | torrent mounts =>
    simp only [Base.tunnelCmds, torrentTunnelCmds, mem_append, mem_map, mem_singleton] at mem
    rcases mem with (((⟨server, -, rfl⟩ | rfl) | boot) | rfl) | refresh
    · trivial
    · trivial
    · exact hook c boot
    · trivial
    · exact wiring c refresh
  | bitmagnet =>
    simp only [Base.tunnelCmds, bitmagnetTunnelCmds, mem_append, mem_cons,
      not_mem_nil, or_false] at mem
    rcases mem with (((rfl | rfl | rfl) | refresh) | boot) | rfl
    · simp [Command.Neutral, crawlerRule, endpointRule]
    · trivial
    · trivial
    · exact wiring c refresh
    · split at boot
      · exact hook c boot
      · cases boot
    · trivial

/-- The build of either template leaves each address of the answer pinned once. -/
theorem base_pins (resolved : List IPv4) (input forward : Chain) (v6 : Table) :
    let built := build hosts resolved (base.killSwitchCmds cfg) (.image input forward v6)
    built.addrs = sortUnique resolved ∧ built.Pins (wireGuardEndpointPort cfg) [] := by
  have ahead : ∀ c ∈ inboundCmds ++ wgDropIPv6Cmds ++ [.policy .v4 .output .drop,
      .append .v4 .output ⟨[.outIface "lo"], .accept⟩,
      .append .v4 .output ⟨[.outIface "wg0"], .accept⟩],
      c.Neutral (wireGuardEndpointPort cfg) := by
    simp [inboundCmds, wgDropIPv6Cmds, Command.Neutral, endpointRule]
  have holes : ∀ c ∈ [Command.append .v4 .output sshRule, .append .v4 .output dhcpRule],
      c.Neutral (wireGuardEndpointPort cfg) := by
    simp [Command.Neutral, endpointRule, sshRule, dhcpRule]
  have persist : ∀ c ∈ persistCmds, c.Neutral (wireGuardEndpointPort cfg) := by
    simp [persistCmds, wgPersistIPv6Cmds, Command.Neutral]
  have tunnel := tunnel_neutral base cfg (wireGuardEndpointPort cfg)
  have all := forall_mem_append.mpr
    ⟨ahead, forall_mem_append.mpr ⟨holes, forall_mem_append.mpr ⟨tunnel, persist⟩⟩⟩
  have built := build_pins all (wireGuardEndpointHost cfg) hosts resolved
    (g := .image input forward v6) (fun ip => rfl)
  cases base <;> exact built

/-- With a plain endpoint, runs of the refresh script leave exactly the current holes if and only
if the build pinned something, unless there is no run, and every address that stays over one
change of the answer stays for good. -/
theorem refresh_leaves_current_holes_iff (base : Base) (cfg : WireGuardConfig)
    (hosts : String → List Net) (resolved : List IPv4) (input forward : Chain) (v6 : Table)
    (runs : List Refresh) :
    CurrentHoles (wireGuardEndpointPort cfg)
        (build hosts resolved (base.killSwitchCmds cfg) (.image input forward v6)) runs ↔
      (runs = [] ∨ resolved ≠ []) ∧ DoubledStay (rotations (sortUnique resolved) runs) := by
  obtain ⟨addrs, pins⟩ := base_pins base cfg hosts resolved input forward v6
  by_cases empty : resolved = []
  · cases runs with
    | nil => simp [CurrentHoles, rotations, DoubledStay]
    | cons run runs =>
      simp only [reduceCtorEq, empty, ne_eq, not_true, or_self, false_and, iff_false]
      intro holes
      obtain ⟨ip, pinned, -⟩ := holes.1 _ Filter.start_mem_scanl
      rw [← empty, addrs, empty] at pinned
      simp at pinned
  · rw [pins.currentHoles_iff (by rw [addrs]; simpa using empty), addrs]
    simp [empty]

/-- The endpoint moves from one address to another, with both in between: the rule of the
first address has two copies then, and one of them stays. -/
theorem withdrawn_address_stays_open : ¬ CurrentHoles 51820 (build (fun _ => []) [⟨198, 51, 100, 7⟩]
          (Base.killSwitchCmds (.torrent []) someEndpoint) openImage)
        [{ answer := [⟨198, 51, 100, 7⟩, ⟨198, 51, 100, 8⟩] },
          { answer := [⟨198, 51, 100, 8⟩] }] := by
  rintro ⟨-, -, -, -, holes, -, -⟩
  exact absurd ((holes ⟨198, 51, 100, 7⟩).mp (by decide)) (by decide)

/-- If the endpoint is plain, the build found an address and the `iptables` calls succeed, then
after any runs, and at every point of the next one, some address of the file has its rule: the
handshake always has a way out. -/
theorem handshake_never_cut (base : Base) (cfg : WireGuardConfig) (hosts : String → List Net)
    {resolved : List IPv4} (found : resolved ≠ []) (input forward : Chain) (v6 : Table)
    (runs : List Refresh) (run : Refresh) :
    let port := wireGuardEndpointPort cfg
    let g := runs.foldl (Filter.refresh port)
      (build hosts resolved (base.killSwitchCmds cfg) (.image input forward v6))
    ∀ between ∈ (g.refreshSteps port run).scanl Step.exec g,
      ∃ ip ∈ between.addrs, between.Pinned port ip := by
  obtain ⟨addrs, pins⟩ := base_pins base cfg hosts resolved input forward v6
  have built := pins.wayOut (by rw [addrs]; simpa using found)
  refine Filter.WayOut.refresh ?_ run
  refine foldlRecOn (motive := Filter.WayOut _) runs _ built ?_
  intro g out run _
  exact out.refresh run _ Filter.foldl_mem_scanl

/-- The endpoint moves, and then the lookup fails. -/
theorem moved_endpoint_never_cut :
    let g := [{ answer := [⟨198, 51, 100, 8⟩] }].foldl (Filter.refresh 51820)
      (build (fun _ => []) [⟨198, 51, 100, 7⟩]
        (Base.bitmagnet.killSwitchCmds someEndpoint) openImage)
    ∀ between ∈ (g.refreshSteps 51820 { answer := [] }).scanl Step.exec g,
      ∃ ip ∈ between.addrs, between.Pinned 51820 ip :=
  handshake_never_cut .bitmagnet someEndpoint _ (cons_ne_nil _ _) _ _ _ _ _

/-! ## No answer, or the old one -/

theorem foldl_execText {steps : List Step} (unwritten : ∀ ips, .writeAddrs ips ∉ steps)
    (g : Filter) (file : Option Text) :
    steps.foldl Step.execText (g, file) = (steps.foldl Step.exec g, file) := by
  induction steps generalizing g with
  | nil => rfl
  | cons s steps ih =>
    have kept : Step.execText (g, file) s = (s.exec g, file) := by
      cases s with
      | writeAddrs ips => exact absurd mem_cons_self (unwritten ips)
      | _ => rfl
    rw [foldl_cons, foldl_cons, kept]
    exact ih (fun ips later => unwritten ips (mem_cons_of_mem s later)) _

/-- A run without an answer, or with the addresses that the file lists, leaves the tables, the
file and the tunnel alone. In every run the lookup comes first, its rules are gone behind
it, and nothing is inserted any more. -/
theorem refresh_fails_closed (port : Nat) (words : Words) (g : Filter)
    (file : Option Text) (run : Refresh) :
    let steps := wgRefreshEndpointText (alpineFirewallCmds port) words file run
    let lookup := lookupSteps (alpineFirewallCmds port) run
    (run.answer = [] ∨ run.newText = oldText file →
      steps.foldl Step.execText (g, file) = (g, file) ∧ .restartTunnel ∉ steps) ∧
    ∃ repin, steps = lookup ++ repin ∧ lookup.foldl Step.execText (g, file) = (g, file) ∧
      ∀ rule, .insert rule ∉ repin := by
  have closed : (lookupSteps (alpineFirewallCmds port) run).foldl Step.execText (g, file) =
      (g, file) := by
    rw [foldl_execText, Filter.lookup_phase]
    simp [lookupSteps, alpineFirewallCmds]
  refine ⟨fun quiet => ?_, _, rfl, closed, fun rule => ?_⟩
  · have quiet : run.new = [] ∨ run.newText = oldText file := quiet.imp_left sortUnique_eq_nil.mpr
    simp only [wgRefreshEndpointText, quiet, if_true, append_nil]
    exact ⟨closed, by simp [lookupSteps, alpineFirewallCmds]⟩
  · split <;> simp [alpineFirewallCmds]

/-- The address that the file lists is answered again. -/
theorem known_address_keeps_tunnel :
    let file := some "198.51.100.7\n".toList
    let run : Refresh := { nameservers := [⟨192, 0, 2, 1⟩], answer := [⟨198, 51, 100, 7⟩] }
    .restartTunnel ∉ wgRefreshEndpointText (alpineFirewallCmds 51820)
      ⟨fun old => [old], grepLine, fun _ => []⟩ file run :=
  ((refresh_fails_closed 51820 _ (.image { policy := .accept } { policy := .accept }
    ⟨{ policy := .accept }, { policy := .accept }, { policy := .accept }⟩) _ _).1
    (.inr (by decide))).2

end Vee.Templates
