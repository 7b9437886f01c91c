/-
# The program without its gateway

A run of the program builds a table from its settings, registers it, starts the
process-wide gateway over the registry and asks the gateway's client. None of this can be
told from the answers. The registry holds the table alone, so the gateway selects it or
does not start; a table decides at once, so no limit is too strict for it, and what is not
limited the gateway passes on.

* `GrantTable.ask_behind` : a table decides through a gateway as without it;
* `Command.run_behind` : commands are answered through a gateway as without it, if
  decisions are;
* `StaticPlugin.value_start`, `ProcessWide.value_start_of_vendor_eq` : the two steps of
  starting up;
* `Host.wiring_changes_no_answer` : what starting comes to, and that the answers are
  those of the table.
-/
import AccessGate.Host
import AccessGate.Proofs.Coverage
import AccessGate.Proofs.Derived
import AccessGate.Proofs.Forwarding
import AccessGate.Proofs.PluginStart

namespace AccessGate

/-! ## Tables decide at once -/

/-- How long the source takes that a decision is given, if it is given one. -/
def Decision.sourceTime : Decision → Nat
  | permittedDags source _ _ => source.elapsed
  | _ => 0

namespace GrantTable

variable (t : GrantTable)

@[simp]
theorem elapsed_check (i : Inquiry) : (t.manager.check i).elapsed = 0 := by
  have hcheck : t.manager.check i = do Run.log (t.denials i); return t.permits i := rfl
  simp [hcheck]

/-- A table takes no longer than the source it is given. -/
theorem elapsed_ask (q : Decision) : (q.ask t.manager).elapsed = q.sourceTime := by
  cases q with
  | check i => exact t.elapsed_check i
  | @batch k rs =>
      have hbatch : Decision.ask (.batch rs) t.manager = t.batch rs := rfl
      rw [hbatch, batch]
      cases (rs.map Request.inquiry).find? fun i => !t.permits i with
      | none => rfl
      | some i => simp [Decision.sourceTime]
  | filterDags ids methods subject =>
      exact Derived.elapsed_filterDags t.elapsed_check ids methods subject
  | permittedDags source methods subject =>
      have hask : Decision.ask (.permittedDags source methods subject) t.manager =
          Derived.permittedDags t.manager.filterDags source methods subject := rfl
      rw [hask, Derived.elapsed_permittedDags, Decision.sourceTime]
      cases source.value with
      | error f => rfl
      | ok ids => exact congrArg _ (Derived.elapsed_filterDags t.elapsed_check ids methods subject)
  | filterMenu items subject =>
      exact Derived.elapsed_filterMenu t.elapsed_check subject items

/-- **A table decides through a gateway as without it**, if the source it is given keeps
within the limit. -/
theorem ask_behind {limit : Option Nat} {q : Decision} (h : InTime limit q.sourceTime) :
    q.ask (t.manager.behind limit) = q.ask t.manager := by
  rw [Decision.ask_behind, Decision.decided_of_inTime]
  rwa [elapsed_ask]

end GrantTable

/-! ## Commands through a gateway -/

/-- Who is signed in is asked for without a limit. -/
@[simp]
theorem Who.resolve_behind (who : Who) (limit : Option Nat) (m : Manager) :
    who.resolve (m.behind limit) = who.resolve m := by
  cases who <;> rfl

/-- **A command is answered through a gateway as without it**, if the decisions are whose
source takes no longer than the command's. -/
theorem Command.run_behind {limit : Option Nat} {m : Manager} {dags : DagSource}
    (h : ∀ q : Decision, q.sourceTime ≤ dags.elapsed → q.ask (m.behind limit) = q.ask m)
    (c : Command) : c.run (m.behind limit) dags = c.run m dags := by
  cases c with
  | whoami => rfl
  | check a who =>
      have hcheck : (m.behind limit).check = m.check :=
        funext fun i => h (.check i) (Nat.zero_le _)
      simp only [run, Who.resolve_behind, decide, hcheck]
  | permittedDags methods who =>
      have hdags : (m.behind limit).permittedDags dags = m.permittedDags dags :=
        funext fun methods => funext fun s => h (.permittedDags dags methods s) (Nat.le_refl _)
      simp only [run, Who.resolve_behind, hdags]
  | menu items who =>
      have hmenu : (m.behind limit).filterMenu = m.filterMenu :=
        funext fun items => funext fun s => h (.filterMenu items s) (Nat.zero_le _)
      simp only [run, Who.resolve_behind, hmenu]
  | added name arguments => rfl

/-! ## Starting up -/

namespace Deployment

/-- A deployment whose registry holds one instance, and no service has selected it. -/
def holding (i : Instance) (services : Nat) : Deployment :=
  { registries := [⟨[i]⟩], services }

/-- The same deployment when the first service has selected the instance. -/
def serving (i : Instance) : Deployment :=
  { holding i 1 with selections := [(0, i.api)] }

variable {i : Instance} {s : Service}

@[simp]
theorem registry_holding (n : Nat) : (holding i n).registry 0 = ⟨[i]⟩ :=
  rfl

@[simp]
theorem selected?_holding (n : Nat) : (holding i n).selected? s = none :=
  rfl

/-- The first instance is registered. -/
theorem run_register_first (i : Instance) :
    (register 0 i).run {} = do
      Run.log [.instanceRegistered i.id i.vendor i.priority]
      return (.ok (), holding i 0) := by
  have hregister : Registry.empty.register i = .ok ⟨[i]⟩ := by
    simp [Registry.register, Registry.empty]
  simp [register, registry, hregister, holding]

/-- The first service gets the number 0. -/
theorem run_newService_holding (i : Instance) (g : GatewaySettings) :
    (newService 0 g).run (holding i 0) = pure (⟨0, 0, g.vendor, g.timeout⟩, holding i 1) := by
  simp [newService, holding]

/-- A service for another vendor selects nothing. -/
theorem run_select_of_vendor_ne (hs : s.registry = 0) (h : s.vendor ≠ i.vendor) (n : Nat) :
    (select s).run (holding i n) = pure (none, holding i n) := by
  have hselect : (⟨[i]⟩ : Registry).select? s.vendor = none := by
    simp [Registry.select?, Registry.preferred?, h.symm]
  simp [select, hs, hselect]

/-- A service for the vendor of the instance selects it. -/
theorem value_select_of_vendor_eq (hs : s.registry = 0) (hnumber : s.number = 0)
    (h : s.vendor = i.vendor) :
    ((select s).run (holding i 1)).value = (some i.api, serving i) := by
  have hselect : (⟨[i]⟩ : Registry).select? i.vendor = some i := by
    simp [Registry.select?, Registry.preferred?]
  simp [select, hs, h, hselect, hnumber, serving]
  rfl

/-- Operations on the client of the service that has selected are those of the manager it
has selected, through its gateway. -/
theorem run_perform_serving {m : Manager} (hi : i.api = .direct m) (hs : s.number = 0)
    {α : Type} (operation : Manager → Run α) :
    (perform (.client s) operation).run (serving i) =
      (·, serving i) <$> operation (m.behind s.limit) := by
  have hselected : (serving i).selected? s = some (.direct m) := by
    simp [serving, selected?, hs, hi]
  have hmanager : (manager (.client s)).run (serving i) = pure (m.behind s.limit, serving i) :=
    run_managerWithin (.client hselected (.direct m)) (Nat.le_refl 1)
  rw [perform, StateT.run_bind, hmanager, pure_bind]
  simp

end Deployment

/-- Starting the static plugin first registers its table, or fails with the fault of the
settings. -/
theorem StaticPlugin.value_start (s : StaticSettings) :
    (((StaticPlugin.start 0 s).run {}).run {}).value =
      match GrantTable.ofSettings s with
      | .error fault => ((.error (.fault fault.fault), {}), {})
      | .ok t => ((.ok t, ⟨some t⟩), .holding (instanceOf s t) 0) := by
  cases h : GrantTable.ofSettings s with
  | error fault => simp [start, h]
  | ok t =>
      simp [start, h, Deployment.run_register_first, instanceOf]

namespace ProcessWide

variable {i : Instance} {g : GatewaySettings}

/-- Starting the process-wide gateway over an instance for another vendor fails. -/
theorem value_start_of_vendor_ne (h : g.vendor ≠ i.vendor) :
    (((start 0 g).run {}).run (.holding i 0)).value.1.1 =
      .error (.fault (.noPluginAvailable g.vendor)) := by
  have hselect := Deployment.run_select_of_vendor_ne (s := ⟨0, 0, g.vendor, g.timeout⟩) rfl h 1
  simp [start, Gateway.start, Launch.begin, Launch.complete, Deployment.run_newService_holding,
    hselect]

/-- Starting it over a table for its vendor sets it to a service that has selected the
table. -/
theorem value_start_of_vendor_eq {t : GrantTable} (hi : i.api = .direct t.manager)
    (h : g.vendor = i.vendor) :
    (((start 0 g).run {}).run (.holding i 0)).value =
      ((.ok ⟨0, 0, g.vendor, g.timeout⟩, ⟨some ⟨0, 0, g.vendor, g.timeout⟩⟩), .serving i) := by
  have hselect := Deployment.value_select_of_vendor_eq (s := ⟨0, 0, g.vendor, g.timeout⟩) rfl rfl h
  have hmanager : ∀ d, (Deployment.manager (.direct t.manager)).run d = pure (t.manager, d) :=
    fun d => Deployment.run_managerWithin (.direct t.manager) (Nat.zero_le d.services)
  have hready : t.manager.start = ⟨[.log (.staticReady t.mode)], .ok ()⟩ := rfl
  simp [start, Gateway.start, Launch.begin, Launch.proceed, Launch.finish, Launch.complete,
    Deployment.run_newService_holding, hselect, hi, hmanager, hready]
  rfl

end ProcessWide

namespace Host

variable {s : AppSettings}

/-- Settings that are no table stop the start. -/
theorem value_start_of_error {f : SetupFault} (h : GrantTable.ofSettings s.static = .error f) :
    ((start s).run {}).value.1 = .error (.fault f.fault) := by
  have hplugin := StaticPlugin.value_start s.static
  rw [h] at hplugin
  simp [start, hplugin]

/-- A table for another vendor than the gateway's stops it too. -/
theorem value_start_of_vendor_ne {t : GrantTable} (h : GrantTable.ofSettings s.static = .ok t)
    (hvendor : s.gateway.vendor ≠ s.static.vendor) :
    ((start s).run {}).value.1 = .error (.fault (.noPluginAvailable s.gateway.vendor)) := by
  have hplugin := StaticPlugin.value_start s.static
  have hgateway := ProcessWide.value_start_of_vendor_ne
    (i := StaticPlugin.instanceOf s.static t) hvendor
  rw [h] at hplugin
  simp [start, hplugin, hgateway]

/-- A table for the gateway's vendor is selected. -/
theorem value_start_of_vendor_eq {t : GrantTable} (h : GrantTable.ofSettings s.static = .ok t)
    (hvendor : s.gateway.vendor = s.static.vendor) :
    ((start s).run {}).value = (.ok ⟨0, 0, s.gateway.vendor, s.gateway.timeout⟩,
      .serving (StaticPlugin.instanceOf s.static t)) := by
  have hplugin := StaticPlugin.value_start s.static
  have hgateway := ProcessWide.value_start_of_vendor_eq
    (i := StaticPlugin.instanceOf s.static t) rfl hvendor
  rw [h] at hplugin
  simp [start, hplugin, hgateway]

/-! ## Answering -/

/-- What a manager answers to a command line. -/
def reply (m : Manager) (dags : DagSource) (args : List String) :
    Run (Except HostFault String) := do
  match CommandLine.parse m.commands args with
  | .error fault => return .error (.usage fault)
  | .ok line =>
      match ← line.command.run m dags with
      | .error fault => return .error (.command fault)
      | .ok output => return .ok output.print

/-- A command line is answered through a gateway as without it, if commands are. -/
theorem reply_behind {limit : Option Nat} {m : Manager} {dags : DagSource}
    (h : ∀ c : Command, c.run (m.behind limit) dags = c.run m dags) (args : List String) :
    reply (m.behind limit) dags args = reply m dags args := by
  have hcommands : (m.behind limit).commands = m.commands := rfl
  simp only [reply, hcommands, h]

/-- Without a service there is no answer. -/
theorem value_answer_of_error {fault : StartupFault}
    (h : ((start s).run {}).value.1 = .error fault) (args : List String) :
    ((answer s args).run {}).value.1 = .error (.startup fault) := by
  simp [answer, h]

/-- With a service its client answers. -/
theorem value_answer_of_ok {service : Service} {d : Deployment}
    (h : ((start s).run {}).value = (.ok service, d)) (args : List String) :
    ((answer s args).run {}).value.1 =
      ((Deployment.perform (.client service)
        (reply · (StaticPlugin.dagSource s.static) args)).run d).value.1 := by
  simp only [answer, Deployment.perform, reply, StateT.run_bind, Run.value_bind, h]
  cases CommandLine.parse ((Deployment.manager (.client service)).run d).value.1.commands args with
  | error fault => rfl
  | ok line =>
      simp only [StateT.run_bind, Run.value_bind]
      generalize (Deployment.manager (.client service)).run d = a
      cases hline : (line.command.run a.value.1 (StaticPlugin.dagSource s.static)).value with
      | error fault => simp [hline]
      | ok output => simp [hline]

/-- **The wiring of the program changes no answer.** Starting fails if the settings of the
plugin are refused, and if the gateway is for another vendor. Otherwise every command and
every command line comes to what the table of the settings makes of it, whatever the limit
of the gateway. What it makes of a listing are the ids of the settings that are allowed one by
one, printed in ascending order, each once and on a line of its own. -/
theorem wiring_changes_no_answer (s : AppSettings) :
    let started := ((start s).run {}).value
    let answered := fun args => ((answer s args).run {}).value.1
    let dags := StaticPlugin.dagSource s.static
    match GrantTable.ofSettings s.static with
    | .error f =>
        started.1 = .error (.fault (.invalidConfiguration f.message)) ∧
          ∀ args, answered args = .error (.startup (.fault (.invalidConfiguration f.message)))
    | .ok t =>
        if s.gateway.vendor = s.static.vendor then
          ∃ service, started.1 = .ok service ∧
            (∀ c : Command, (Deployment.perform (.client service) (c.run · dags)).run started.2 =
              (·, started.2) <$> c.run t.manager dags) ∧
            (∀ args, answered args = (reply t.manager dags args).value) ∧
            ∀ methods who,
              let caller := (who.resolve t.manager).value
              ∃ ids : DagIds,
                (t.manager.permittedDags dags methods caller).value = .ok ids ∧
                (∀ id, id ∈ ids.toList ↔
                  id ∈ s.static.dagIds ∧ ∃ w ∈ Derived.wanted methods,
                    (t.manager.check ⟨.record .dag w (some (.ofId id)), caller⟩).value = true) ∧
                (Command.run t.manager dags (.permittedDags methods who)).value =
                  .ok (.names ids.toList) ∧
                (Output.names ids.toList).print = String.join (ids.toList.map (· ++ "\n")) ∧
                ids.toList.Pairwise (· < ·)
        else
          started.1 = .error (.fault (.noPluginAvailable s.gateway.vendor)) ∧
            ∀ args, answered args =
              .error (.startup (.fault (.noPluginAvailable s.gateway.vendor))) := by
  intro started answered dags
  cases h : GrantTable.ofSettings s.static with
  | error f =>
      have hstart := value_start_of_error h
      exact ⟨hstart, value_answer_of_error hstart⟩
  | ok t =>
      by_cases hvendor : s.gateway.vendor = s.static.vendor
      · have hstart : started = _ := value_start_of_vendor_eq h hvendor
        -- the listing takes no time, so no decision does, and even a limit of 0 is kept
        have hcommand : ∀ c : Command,
            c.run (t.manager.behind s.gateway.timeout) dags = c.run t.manager dags :=
          Command.run_behind fun q hq => t.ask_behind fun l _ => Nat.le_trans hq (Nat.zero_le l)
        simp only [if_pos hvendor]
        refine ⟨_, congrArg Prod.fst hstart, ?_, ?_, ?_⟩
        · intro c
          rw [hstart, Deployment.run_perform_serving rfl rfl, hcommand]
        · intro args
          have hanswer : answered args = _ := value_answer_of_ok hstart args
          rw [hanswer, Deployment.run_perform_serving rfl rfl, reply_behind hcommand]
          rfl
        · intro methods who
          let caller := (who.resolve t.manager).value
          let ids := (t.manager.filterDags (.ofList s.static.dagIds) methods caller).value
          have hlisted : (t.manager.permittedDags dags methods caller).value = .ok ids :=
            Derived.value_permittedDags _ dags methods caller
          -- the ids are shown in the order of their set
          refine ⟨ids, hlisted, ?_, rfl, rfl, ids.ascending⟩
          intro id
          rw [t.mem_filterDags, DagIds.mem_ofList]
      · have hstart := value_start_of_vendor_ne h hvendor
        simp only [if_neg hvendor]
        exact ⟨hstart, value_answer_of_error hstart⟩

/-- With a limit of 0 ms the listing is complete, in order, and without repetitions. -/
example :
    let s : AppSettings :=
      { gateway := { timeout := some 0 }, static := { dagIds := ["etl", "audit", "etl"] } }
    ((answer s ["permitted-dags"]).run {}).value.1 = .ok "audit\netl\n" := by
  rfl

end Host

end AccessGate
