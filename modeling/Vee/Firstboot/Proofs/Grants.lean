import Vee.Firstboot.Proofs.Released

/-!
# Taking the privacy grants back

A patch that is rolled back deletes every row of the access table that is about the screen sharing
agent and one of its services, whether it has made it or not.
-/

namespace Vee.Firstboot

structure AccessRow where
  service : String
  client : String
  clientType : Nat := 0
  authValue : Nat := 2
  /-- The other columns. -/
  others : List String := []

def AccessRow.OfAgent (row : AccessRow) : Prop :=
  row.service ∈ screenSharingServices ∧ row.client = screenSharingClient
deriving Decidable

structure Schema where
  /-- The columns that an insert for a service leaves to the defaults, or to the clock. -/
  filled : String → List String
  /-- The primary key, of which the service and the client are a part, is the same. -/
  sameKey : AccessRow → AccessRow → Bool
  sameClient : ∀ row row', sameKey row row' →
    row.service = row'.service ∧ row.client = row'.client

def Schema.grant (schema : Schema) (service : String) : AccessRow :=
  { service, client := screenSharingClient, others := schema.filled service }

/-- What a statement does to the table. One that fails does nothing. -/
def Schema.note (schema : Schema) :
    (op : DiskOp) → op.Res → DiskWorld → DiskWorld → List AccessRow → List AccessRow
  | .statement _ (.insert service), .ok _, _, _, table =>
    table.filter (!schema.sameKey · (schema.grant service)) ++ [schema.grant service]
  | .statement _ (.delete service), .ok _, _, _, table =>
    table.filter fun row => ¬(row.service = service ∧ row.client = screenSharingClient)
  | _, _, _, _, table => table

def accessHost (schema : Schema) : Machine DiskOp DiskOp.Res (DiskWorld × List AccessRow) :=
  diskHost.observe schema.note

def DiskOp.OfAgent : DiskOp → Prop
  | .statement _ (.insert service) | .statement _ (.delete service) =>
    service ∈ screenSharingServices
  | _ => True

/-- The rows of others are these, and the agent has rows for some services only. -/
structure Pending (others : List AccessRow) (services : List String)
    (w : DiskWorld × List AccessRow) : Prop where
  others : w.2.filter (¬·.OfAgent) = others
  services : ∀ row ∈ w.2, row.OfAgent → row.service ∈ services

section Steps

variable {schema : Schema} {others : List AccessRow} {op : DiskOp} {ans : Answer} {res : op.Res}
  {w w' : DiskWorld × List AccessRow} {service : String} {services : List String}

theorem others_filter {keep : AccessRow → Bool} (table : List AccessRow)
    (keeps : ∀ row, ¬row.OfAgent → keep row) :
    (table.filter keep).filter (¬·.OfAgent) = table.filter (¬·.OfAgent) := by
  rw [List.filter_filter]
  refine List.filter_congr fun row _ => ?_
  by_cases agent : row.OfAgent
  · simp [agent]
  · simp [agent, keeps row agent]

theorem others_step (agent : op.OfAgent)
    (ran : (accessHost schema).exec 0 op ans w = some (res, w')) :
    w'.2.filter (¬·.OfAgent) = w.2.filter (¬·.OfAgent) := by
  obtain ⟨world, -, rfl⟩ := Machine.observe_exec ran
  unfold Schema.note
  split
  · rename_i service count
    have granted : (schema.grant service).OfAgent := ⟨agent, rfl⟩
    rw [List.filter_append, others_filter]
    · simp [granted]
    · intro row other
      cases same : schema.sameKey row (schema.grant service) with
      | false => rfl
      | true =>
        obtain ⟨service, client⟩ := schema.sameClient _ _ same
        exact absurd ⟨service ▸ granted.1, client⟩ other
  · refine others_filter _ fun row other => decide_eq_true fun deleted => ?_
    exact other ⟨deleted.1 ▸ agent, deleted.2⟩
  · rfl

theorem delete_step {ctx : Context} {count : Nat} (first : service ∈ screenSharingServices)
    (pending : Pending others (service :: services) w)
    (ran : (accessHost schema).exec 0 (.statement ctx (.delete service)) ans w =
      some (.ok count, w')) : Pending others services w' := by
  have agent : (DiskOp.statement ctx (.delete service)).OfAgent := first
  refine ⟨(others_step agent ran).trans pending.others, ?_⟩
  obtain ⟨world, -, rfl⟩ := Machine.observe_exec ran
  intro row mem agent
  obtain ⟨mem, other⟩ := List.mem_filter.mp mem
  have left := pending.services row mem agent
  have distinct : row.service ≠ service := fun same => by simp [same, agent.2] at other
  exact (List.mem_cons.mp left).resolve_left distinct

/-- Such statements, and the calls around them, leave the rows of others. -/
theorem others_meets {p : DiskProg (Except Err Unit)}
    {ends : Except String (Except Err Unit) → Prop} (does : p.Does DiskOp.OfAgent ends) :
    Meets (accessHost schema) (Pending others screenSharingServices) p fun _ =>
      Pending others screenSharingServices := by
  refine (Meets.of_does ?_ does).weaken (fun _ => id) fun _ _ ended => ended.2
  intro op agent w ans res w' pending ran
  exact ⟨(others_step agent ran).trans pending.others, fun row _ agent => agent.1⟩

theorem forServices_deletes (ctx : Context) (before behind : String)
    (sub : services ⊆ screenSharingServices) : Meets (accessHost schema) (Pending others services)
      (forServices ctx .delete before behind services) fun result w =>
        result = .ok (.ok ()) → Pending others [] w := by
  induction services with
  | nil => exact .done fun w pending _ => pending
  | cons service services ih =>
    obtain ⟨first, rest⟩ := List.cons_subset.mp sub
    refine .call (fun res w => (∃ count, res = .ok count) → Pending others services w) ?_ ?_
    · rintro w ans _ w' pending ran ⟨count, rfl⟩
      exact delete_step first pending ran
    · refine .either (fun text => .done nofun) fun count => ?_
      exact (ih rest).pre fun w pending => pending ⟨count, rfl⟩

theorem revokeScreenSharing_meets (part : Part) (ctx : Context) (mnt : String) :
    Meets (accessHost schema) (Pending others screenSharingServices)
      (revokeScreenSharing part ctx mnt) fun result w =>
        result = .ok (.ok ()) → Pending others [] w := by
  refine .bind (others_meets (openTCC_does trivial trivial trivial trivial)) nofun fun opened => ?_
  cases opened with
  | error err => exact .done nofun
  | ok _ =>
    refine .bind (forServices_deletes ctx _ _ fun _ => id) nofun fun result => ?_
    refine .call (fun _ w => result = .ok () → Pending others [] w) ?_ fun _ => ?_
    · intro w ans res w' pending ran done
      obtain ⟨world, -, rfl⟩ := Machine.observe_exec ran
      have pending := pending (congrArg _ done)
      exact ⟨pending.others, pending.services⟩
    · exact .done fun w pending done => pending (Except.ok.inj done)

end Steps

/-- Taking back what a run of `grantScreenSharing` has granted, however far it came, leaves the
table as it was exactly if the agent had no row for the services before. -/
theorem revokeScreenSharing_restores_iff (schema : Schema) (mnt : String)
    {part part' : Part} {ctx ctx' : Context} {w w' w'' : DiskWorld}
    {table table' table'' : List AccessRow} {result : Except String (Except Err Unit)}
    (grants : Ran (accessHost schema) (grantScreenSharing part ctx mnt) (w, table) result
      (w', table'))
    (revokes : Ran (accessHost schema) (revokeScreenSharing part' ctx' mnt) (w', table')
      (.ok (.ok ())) (w'', table'')) :
    table'' = table ↔ ∀ row ∈ table, ¬row.OfAgent := by
  have begins : Pending (table.filter (¬·.OfAgent)) screenSharingServices (w, table) :=
    ⟨rfl, fun row _ agent => agent.1⟩
  have granted := others_meets
    (withTCC_does trivial trivial trivial trivial _ _ fun _ => id) begins grants
  have ended := revokeScreenSharing_meets _ _ _ granted revokes rfl
  have none : ∀ row ∈ table'', ¬row.OfAgent := fun row mem agent => by
    simpa using ended.services row mem agent
  have same : table'' = table.filter (¬·.OfAgent) := by
    rw [← ended.others, List.filter_eq_self.mpr]
    simpa using none
  rw [same, List.filter_eq_self]
  simp

/-- A table whose key is the service, the client and the type of the client. -/
def plainSchema : Schema where
  filled _ := []
  sameKey row row' := (row.service, row.client, row.clientType) =
    (row'.service, row'.client, row'.clientType)
  sameClient row row' same := by
    simp only [Prod.mk.injEq, decide_eq_true_eq] at same
    exact ⟨same.1, same.2.1⟩

def captureRow (client : String) (authValue : Nat) : AccessRow :=
  { service := "kTCCServiceScreenCapture", client, authValue }

/-- The row of another client is kept. -/
theorem recorder_row_kept : ∃ table' table'',
    Ran (accessHost plainSchema) (grantScreenSharing .patch .caller "/mnt")
      ({}, [captureRow "org.recorder" 2]) (.ok (.ok ())) ({}, table') ∧
    Ran (accessHost plainSchema) (revokeScreenSharing .rollbackPayload .withoutCancel "/mnt")
      ({}, table') (.ok (.ok ())) ({}, table'') ∧ table'' = [captureRow "org.recorder" 2] := by
  have grants := Ran.of_play (M := accessHost plainSchema)
    (p := grantScreenSharing .patch .caller "/mnt") (w := ({}, [captureRow "org.recorder" 2]))
    (List.replicate 7 {}) rfl
  have revokes := Ran.of_play (M := accessHost plainSchema)
    (p := revokeScreenSharing .rollbackPayload .withoutCancel "/mnt")
    (w := ({}, captureRow "org.recorder" 2 :: screenSharingServices.map plainSchema.grant))
    (List.replicate 7 {}) rfl
  exact ⟨_, _, grants, revokes,
    (revokeScreenSharing_restores_iff plainSchema "/mnt" grants revokes).mpr (by decide)⟩

/-- The agent had been denied access. A patch that is rolled back forgets it. -/
theorem denied_row_forgotten :
    Ran (accessHost plainSchema) (grantScreenSharing .patch .caller "/mnt")
      ({}, [captureRow screenSharingClient 0]) (.ok (.ok ()))
      ({}, screenSharingServices.map plainSchema.grant) ∧
    Ran (accessHost plainSchema) (revokeScreenSharing .rollbackPayload .withoutCancel "/mnt")
      ({}, screenSharingServices.map plainSchema.grant) (.ok (.ok ())) ({}, []) :=
  ⟨.of_play (M := accessHost plainSchema) (List.replicate 7 {}) rfl,
    .of_play (M := accessHost plainSchema) (List.replicate 7 {}) rfl⟩

end Vee.Firstboot
