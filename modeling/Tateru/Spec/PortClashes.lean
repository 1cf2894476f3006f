import Tateru.Native.Ports
import Tateru.Spec.DeviceNames
import Tateru.Spec.LaunchRefines
import Tateru.Spec.Lifecycle

/-!
# Bridges that ask for the same port

A bridge task binds its port on its own, after the launch may have returned; if the bind fails,
the task logs it and ends. Nobody has looked at the requests together, so what decides is whether
one of them can come to a port that another one asks for.

## Key results

- `noClash_iff`: the ports clash when one request can take the port of another
- `PortsInv.run`: without a clash, nothing is in the way of a bind that has still to come
- `served_iff_noClash`: the bridges of a launch are served in every run exactly when their ports
  do not clash
-/

namespace Tateru.Spec

/-! ## Clashes -/

/-- The ports that are asked for are different, and none of them is handed out for a request for
    port 0. -/
def NoClash (ephemeral : UInt16 → Bool) (hostPorts : List UInt16) : Prop :=
  (hostPorts.filter (· ≠ 0)).Nodup ∧
    (0 ∈ hostPorts → ∀ p ∈ hostPorts, p ≠ 0 → ephemeral p = false)

/-- The ports clash when one request can come to the port that another one asks for. -/
theorem noClash_iff {ephemeral : UInt16 → Bool} {hostPorts : List UInt16} :
    NoClash ephemeral hostPorts ↔ ∀ (i j : Nat) (p q : UInt16), i ≠ j →
      hostPorts[i]? = some p → hostPorts[j]? = some q → q ≠ 0 →
      mayTake ephemeral p q = false := by
  rw [NoClash, List.Nodup, List.pairwise_filter, List.pairwise_iff_getElem]
  constructor
  · intro ⟨hnodup, hzero⟩ i j p q hij hp hq hq0
    by_cases hp0 : p = 0
    · subst hp0
      have hmem := hzero (List.mem_of_getElem? hp) q (List.mem_of_getElem? hq) hq0
      simp [mayTake, hmem]
    · obtain ⟨hi, rfl⟩ := List.getElem?_eq_some_iff.mp hp
      obtain ⟨hj, rfl⟩ := List.getElem?_eq_some_iff.mp hq
      have hne : hostPorts[j] ≠ hostPorts[i] := by
        rcases Nat.lt_or_gt_of_ne hij with hlt | hlt
        · exact (hnodup i j hi hj hlt (by simpa using hp0) (by simpa using hq0)).symm
        · exact hnodup j i hj hi hlt (by simpa using hq0) (by simpa using hp0)
      simpa [mayTake, hp0] using hne
  · intro h
    constructor
    · intro i j hi hj hlt hp0 hq0 heq
      have hp0 : hostPorts[i] ≠ 0 := by simpa using hp0
      have hq0 : hostPorts[j] ≠ 0 := by simpa using hq0
      have hfree := h i j _ _ (Nat.ne_of_lt hlt) (List.getElem?_eq_getElem hi)
        (List.getElem?_eq_getElem hj) hq0
      rw [mayTake, if_neg hp0, heq] at hfree
      simp at hfree
    · intro hzero q hq hq0
      obtain ⟨i, hi⟩ := List.mem_iff_getElem?.mp hzero
      obtain ⟨j, hj⟩ := List.mem_iff_getElem?.mp hq
      have hij : i ≠ j := by
        intro hij
        subst hij
        exact hq0 (Option.some.inj (hj.symm.trans hi))
      simpa [mayTake, hq0] using h i j 0 q hij hi hj hq0

/-! ## Steps -/

/-- A step keeps the configuration of its task. -/
theorem BridgeStep.config_eq {chan : Watch Bool} {t t' : BridgeTask} {a : BridgeAction}
    (h : BridgeStep chan t a t') : t'.config = t.config := by
  cases h <;> rfl

/-- The bridges that a launch has still to spawn. -/
def toSpawn : Owner → List BridgeConfig
  | .launching todo => todo
  | _ => []

/-- The configurations of the bridge tasks, and of those to come, stay the same. -/
theorem Step.configs {s s' : VmSystem} {a : VmAction} (h : Step s a s') :
    s'.bridges.map (·.config) ++ toSpawn s'.owner =
      s.bridges.map (·.config) ++ toSpawn s.owner := by
  have hset : ∀ {i : Nat} {t t' : BridgeTask} {b : BridgeAction}, s.bridges[i]? = some t →
      t.step s.chan b = some t' →
      (s.bridges.set i t').map (·.config) = s.bridges.map (·.config) := by
    intro i t t' b ht hstep
    obtain ⟨hi, rfl⟩ := List.getElem?_eq_some_iff.mp ht
    have hi' : i < (s.bridges.map (·.config)).length := by simpa using hi
    rw [List.map_set, (BridgeStep.of_step hstep).config_eq]
    convert List.set_getElem_self hi' using 2
    simp
  cases h with
  | spawnBridge howner => simp [howner, toSpawn, BridgeTask.spawn]
  | bridge ht _ hstep | spawnConn ht hstep => simp only [hset ht hstep]
  | leave | panic | storeStopped | terminate | isRunning | conn => rfl
  | spawnThread howner | spawnThreadFails howner | stop howner | stopNotRunning howner
  | trigger howner | triggerFails howner | dropTrigger howner | signal howner | dropSignal howner
  | take howner | takeNothing howner | join howner | joinPanicked howner | cleanup howner
  | dropCleanup howner | finish howner | drop howner | dropStopped howner | dropFields howner =>
    rw [howner]
    rfl

/-- Where a bridge task comes from: it was there before, or is new, or has taken a step of its
    own. -/
theorem Step.bridge_before {s s' : VmSystem} {a : VmAction} (h : Step s a s') {i : Nat}
    {t' : BridgeTask} (ht' : s'.bridges[i]? = some t') :
    s.bridges[i]? = some t' ∨ t'.phase = .binding ∨
      ∃ t b, s.bridges[i]? = some t ∧ BridgeStep s.chan t b t' ∧
        ∀ ok, b = .bind ok → a = .bridge i (.bind ok) := by
  have hset : ∀ {j : Nat} {u u' : BridgeTask}, s.bridges[j]? = some u →
      (s.bridges.set j u')[i]? = some t' → s.bridges[i]? = some t' ∨ (j = i ∧ u' = t') := by
    intro j u u' hu hmem
    by_cases hj : j = i
    · subst hj
      rw [List.getElem?_set_self (List.getElem?_eq_some_iff.mp hu).1] at hmem
      exact Or.inr ⟨rfl, Option.some.inj hmem⟩
    · exact Or.inl ((List.getElem?_set_ne hj).symm.trans hmem)
  cases h with
  | spawnBridge =>
    rcases Nat.lt_or_ge i s.bridges.length with hlt | hge
    · exact Or.inl ((List.getElem?_append_left hlt).symm.trans ht')
    · have hnew := List.mem_of_getElem? ((List.getElem?_append_right hge).symm.trans ht')
      exact Or.inr (Or.inl (List.mem_singleton.mp hnew ▸ rfl))
  | bridge hu _ hstep =>
    rcases hset hu ht' with hold | ⟨rfl, rfl⟩
    · exact Or.inl hold
    · exact Or.inr (Or.inr ⟨_, _, hu, .of_step hstep, fun ok hok => by rw [hok]⟩)
  | spawnConn hu hstep =>
    rcases hset hu ht' with hold | ⟨rfl, rfl⟩
    · exact Or.inl hold
    · exact Or.inr (Or.inr ⟨_, _, hu, .of_step hstep, nofun⟩)
  | _ => exact Or.inl ht'

/-- The transitions of a VM with its ports. -/
inductive PortStep (ephemeral : UInt16 → Bool) (s : PortSystem) :
    PortAction → PortSystem → Prop where
  | bound {i : Nat} {port : UInt16} {t : BridgeTask} {vm : VmSystem}
      (ht : s.vm.bridges[i]? = some t) (hport : mayTake ephemeral t.config.hostPort port = true)
      (hfree : s.free port = true) (hstep : Step s.vm (.bridge i (.bind true)) vm) :
      PortStep ephemeral s (.bind i (some port))
        { vm, ports := Function.update s.ports i (some port) }
  | refused {i : Nat} {t : BridgeTask} {vm : VmSystem} (ht : s.vm.bridges[i]? = some t)
      (hwhy : t.config.hostPort = 0 ∨ ¬ s.free t.config.hostPort = true)
      (hstep : Step s.vm (.bridge i (.bind false)) vm) :
      PortStep ephemeral s (.bind i none) { s with vm }
  | other {a : VmAction} {vm : VmSystem} (ha : ∀ i ok, a ≠ .bridge i (.bind ok))
      (hstep : Step s.vm a vm) : PortStep ephemeral s (.vm a) { s with vm }

variable {ephemeral : UInt16 → Bool}

theorem PortStep.of_step {s s' : PortSystem} {a : PortAction}
    (h : s.step ephemeral a = some s') : PortStep ephemeral s a s' := by
  cases a with
  | bind i port =>
    cases port with
    | some port =>
      simp only [PortSystem.step] at h
      split at h
      · rename_i t ht
        obtain ⟨⟨hport, hfree⟩, h⟩ := Option.ite_none_right_eq_some.mp h
        obtain ⟨vm, hvm, rfl⟩ := Option.map_eq_some_iff.mp h
        exact .bound ht hport hfree (.of_step hvm)
      · cases h
    | none =>
      simp only [PortSystem.step] at h
      split at h
      · rename_i t ht
        obtain ⟨hwhy, h⟩ := Option.ite_none_right_eq_some.mp h
        obtain ⟨vm, hvm, rfl⟩ := Option.map_eq_some_iff.mp h
        exact .refused ht hwhy (.of_step hvm)
      · cases h
  | vm a =>
    unfold PortSystem.step at h
    split at h
    · rename_i hbind
      cases hbind
    · rename_i hbind
      cases hbind
    · cases h
    · rename_i hnot heq
      cases heq
      obtain ⟨vm, hvm, rfl⟩ := Option.map_eq_some_iff.mp h
      exact .other (fun i ok hok => hnot i ok (by rw [hok])) (.of_step hvm)

/-- Any step but a bind is a step of the VM with its ports. -/
theorem step_vm {s : VmSystem} {ports : Nat → Option UInt16} {a : VmAction} {s' : VmSystem}
    (ha : ∀ i ok, a ≠ .bridge i (.bind ok)) (h : s.step a = some s') :
    PortSystem.step ephemeral ⟨s, ports⟩ (.vm a) = some ⟨s', ports⟩ := by
  unfold PortSystem.step
  split
  · rename_i hbind
    cases hbind
  · rename_i hbind
    cases hbind
  · rename_i hbind
    exact absurd (PortAction.vm.inj hbind) (ha _ _)
  · rename_i heq
    cases heq
    rw [h]
    rfl

/-! ## Without a clash -/

/-- Every bridge task belongs to its request, its listener is on a port that the request can come
    to, and it has returned only after the shutdown signal, if it asks for a port. -/
structure PortsInv (ephemeral : UInt16 → Bool) (configs : List BridgeConfig) (s : PortSystem) :
    Prop where
  configs : s.vm.bridges.map (·.config) ++ toSpawn s.vm.owner = configs
  ports : ∀ (i : Nat) t, s.vm.bridges[i]? = some t → t.listening = true →
    ∃ port, s.ports i = some port ∧ mayTake ephemeral t.config.hostPort port = true
  returned : ∀ (i : Nat) t, s.vm.bridges[i]? = some t → t.phase = .returned →
    t.config.hostPort ≠ 0 → s.vm.chan.value = true

namespace PortsInv

variable {configs : List BridgeConfig} {s s' : PortSystem} {a : PortAction}

theorem launch (configs : List BridgeConfig) :
    PortsInv ephemeral configs (.launch configs) where
  configs := rfl
  ports i t ht := by simp [PortSystem.launch, VmSystem.launch] at ht
  returned i t ht := by simp [PortSystem.launch, VmSystem.launch] at ht

/-- A task stands where its request does. -/
theorem config_at (hinv : PortsInv ephemeral configs s) {i : Nat} {t : BridgeTask}
    (ht : s.vm.bridges[i]? = some t) : configs[i]? = some t.config := by
  have hlt : i < (s.vm.bridges.map (·.config)).length := by
    simpa using (List.getElem?_eq_some_iff.mp ht).1
  rw [← hinv.configs, List.getElem?_append_left hlt, List.getElem?_map, ht, Option.map_some]

/-- Nothing is in the way of a bind that has still to come. -/
theorem free_of_binding (hinv : PortsInv ephemeral configs s)
    (hclash : NoClash ephemeral (configs.map (·.hostPort))) {i : Nat} {t : BridgeTask}
    (ht : s.vm.bridges[i]? = some t) (hphase : t.phase = .binding)
    (hport : t.config.hostPort ≠ 0) : s.free t.config.hostPort = true := by
  apply PortSystem.free_iff.mpr
  intro j u hu hlistening hheld
  obtain ⟨port, hports, htakes⟩ := hinv.ports j u hu hlistening
  obtain rfl : port = t.config.hostPort := Option.some.inj (hports.symm.trans hheld)
  -- The listener is of another task, whose request can then come to this port
  have hji : j ≠ i := by
    intro hji
    subst hji
    obtain rfl := Option.some.inj (hu.symm.trans ht)
    simp [BridgeTask.listening, hphase] at hlistening
  have hfalse := noClash_iff.mp hclash j i u.config.hostPort t.config.hostPort hji
    (by rw [List.getElem?_map, hinv.config_at hu, Option.map_some])
    (by rw [List.getElem?_map, hinv.config_at ht, Option.map_some]) hport
  exact nomatch htakes.symm.trans hfalse

theorem configs_of_step (hinv : PortsInv ephemeral configs s) (h : PortStep ephemeral s a s') :
    s'.vm.bridges.map (·.config) ++ toSpawn s'.vm.owner = configs := by
  cases h with
  | bound _ _ _ hstep | refused _ _ hstep | other _ hstep => exact hstep.configs.trans hinv.configs

/-- A listener that was not bound in this step was there before it. -/
theorem ports_of_old (hinv : PortsInv ephemeral configs s) {b : VmAction} {vm : VmSystem}
    (hstep : Step s.vm b vm) {i : Nat} {t' : BridgeTask} (ht' : vm.bridges[i]? = some t')
    (hlistening : t'.listening = true) (hnot : b ≠ .bridge i (.bind true)) :
    ∃ port, s.ports i = some port ∧ mayTake ephemeral t'.config.hostPort port = true := by
  rcases hstep.bridge_before ht' with hold | hnew | ⟨t, c, ht, htstep, hbind⟩
  · exact hinv.ports i t' hold hlistening
  · simp [BridgeTask.listening, hnew] at hlistening
  · rw [htstep.config_eq]
    apply hinv.ports i t ht
    cases htstep with
    | @bind ok =>
      cases ok with
      | true => exact absurd (hbind true rfl) hnot
      | false => simp [BridgeTask.listening] at hlistening
    | accept hphase | spawn hphase | changed hphase | react hphase | reactReturns hphase =>
      simp [BridgeTask.listening, hphase]

theorem ports_of_step (hinv : PortsInv ephemeral configs s) (h : PortStep ephemeral s a s')
    (i : Nat) (t' : BridgeTask) (ht' : s'.vm.bridges[i]? = some t')
    (hlistening : t'.listening = true) :
    ∃ port, s'.ports i = some port ∧ mayTake ephemeral t'.config.hostPort port = true := by
  cases h with
  | @bound j port t vm ht hport _ hstep =>
    by_cases hij : i = j
    · subst hij
      -- The task that has bound is of the same request after the step
      have hconfig : t'.config = t.config := by
        cases hstep with
        | bridge hu _ hstep =>
          have hlt := (List.getElem?_eq_some_iff.mp hu).1
          obtain rfl := Option.some.inj ((List.getElem?_set_self hlt).symm.trans ht')
          obtain rfl := Option.some.inj (hu.symm.trans ht)
          exact (BridgeStep.of_step hstep).config_eq
      exact ⟨port, Function.update_self _ _ _, hconfig ▸ hport⟩
    · obtain ⟨port', hport', htakes⟩ := hinv.ports_of_old hstep ht' hlistening
        (fun heq => hij (VmAction.bridge.inj heq).1.symm)
      exact ⟨port', (Function.update_of_ne hij _ _).trans hport', htakes⟩
  | refused _ _ hstep => exact hinv.ports_of_old hstep ht' hlistening (by simp)
  | other ha hstep => exact hinv.ports_of_old hstep ht' hlistening (ha i true)

/-- A task that returns in this step has looked at the value `true`, or its bind has failed. -/
theorem returned_of_old (hinv : PortsInv ephemeral configs s) {b : VmAction} {vm : VmSystem}
    (hstep : Step s.vm b vm) {i : Nat} {t' : BridgeTask} (ht' : vm.bridges[i]? = some t')
    (hreturned : t'.phase = .returned) (hport : t'.config.hostPort ≠ 0) :
    vm.chan.value = true ∨ b = .bridge i (.bind false) ∧ ∃ t, s.vm.bridges[i]? = some t ∧
      t.phase = .binding ∧ t.config.hostPort ≠ 0 := by
  rcases hstep.bridge_before ht' with hold | hnew | ⟨t, c, ht, htstep, hbind⟩
  · exact Or.inl (hstep.value (hinv.returned i t' hold hreturned hport))
  · exact nomatch hnew.symm.trans hreturned
  · rw [htstep.config_eq] at hport
    cases htstep with
    | @bind ok hphase =>
      cases ok with
      | true => cases hreturned
      | false => exact Or.inr ⟨hbind false rfl, t, ht, hphase, hport⟩
    | @accept ok => cases ok <;> cases hreturned
    | spawn | changed | react => cases hreturned
    | reactReturns _ hvalue => exact Or.inl (hstep.value hvalue)

theorem returned_of_step (hinv : PortsInv ephemeral configs s)
    (hclash : NoClash ephemeral (configs.map (·.hostPort))) (h : PortStep ephemeral s a s')
    (i : Nat) (t' : BridgeTask) (ht' : s'.vm.bridges[i]? = some t')
    (hreturned : t'.phase = .returned) (hport : t'.config.hostPort ≠ 0) :
    s'.vm.chan.value = true := by
  cases h with
  | bound _ _ _ hstep =>
    exact (hinv.returned_of_old hstep ht' hreturned hport).resolve_right (by simp)
  | @refused j t vm ht hwhy hstep =>
    rcases hinv.returned_of_old hstep ht' hreturned hport with hvalue | ⟨hbind, u, hu, hphase, hu0⟩
    · exact hvalue
    -- The port is free, so the bind has not failed
    · obtain rfl := (VmAction.bridge.inj hbind).1
      obtain rfl := Option.some.inj (hu.symm.trans ht)
      exact absurd (hinv.free_of_binding hclash hu hphase hu0) (hwhy.resolve_left hu0)
  | other ha hstep =>
    apply (hinv.returned_of_old hstep ht' hreturned hport).resolve_right
    exact fun h => ha i false h.1

theorem step (hinv : PortsInv ephemeral configs s)
    (hclash : NoClash ephemeral (configs.map (·.hostPort))) (h : PortStep ephemeral s a s') :
    PortsInv ephemeral configs s' where
  configs := hinv.configs_of_step h
  ports := hinv.ports_of_step h
  returned := hinv.returned_of_step hclash h

theorem run (hclash : NoClash ephemeral (configs.map (·.hostPort))) {as : List PortAction}
    (hrun : Run (PortSystem.step ephemeral) (.launch configs) as s) :
    PortsInv ephemeral configs s :=
  Run.invariant (fun _ _ _ hinv h => hinv.step hclash (.of_step h)) hrun (.launch configs)

end PortsInv

/-! ## Served bridges -/

/-- The requests of a run are served: no bind for a port that is asked for has failed, and once
    there is a handle, each of these requests has a task that listens on its port until the
    shutdown signal, or has not come to its bind, and finds the port free. -/
structure Served (configs : List BridgeConfig) (as : List PortAction) (s : PortSystem) : Prop where
  bound : ∀ (i : Nat) config, configs[i]? = some config → config.hostPort ≠ 0 →
    .bind i none ∉ as
  listening : IsLaunched s.vm.owner → ∀ (i : Nat) config, configs[i]? = some config →
    config.hostPort ≠ 0 → ∃ t, s.vm.bridges[i]? = some t ∧ t.config = config ∧
      (t.phase = .binding ∧ s.free config.hostPort = true ∨
        t.listening = true ∧ s.ports i = some config.hostPort ∨
        t.phase = .returned ∧ s.vm.chan.value = true)

theorem served_of_noClash {configs : List BridgeConfig}
    (hclash : NoClash ephemeral (configs.map (·.hostPort))) {as : List PortAction} {s : PortSystem}
    (hrun : Run (PortSystem.step ephemeral) (.launch configs) as s) : Served configs as s := by
  constructor
  · intro i config hconfig hport hmem
    obtain ⟨pre, post, rfl⟩ := List.append_of_mem hmem
    obtain ⟨u, hpre, hrest⟩ := Run.append_iff.mp hrun
    obtain ⟨v, hv, -⟩ := Run.cons_iff.mp hrest
    have hinv := PortsInv.run hclash hpre
    cases PortStep.of_step hv with
    | refused ht hwhy hstep =>
      obtain rfl := Option.some.inj (hconfig.symm.trans (hinv.config_at ht))
      cases hstep with
      | bridge hu _ htstep =>
        obtain rfl := Option.some.inj (hu.symm.trans ht)
        cases BridgeStep.of_step htstep with
        | bind hphase =>
          exact hwhy.resolve_left hport (hinv.free_of_binding hclash ht hphase hport)
  · intro hlaunched i config hconfig hport
    have hinv := PortsInv.run hclash hrun
    have hall : s.vm.bridges.map (·.config) = configs := by
      have hconfigs := hinv.configs
      cases howner : s.vm.owner with
      | launching => exact (howner ▸ hlaunched : IsLaunched (.launching _)).elim
      | _ => simpa [howner, toSpawn] using hconfigs
    rw [← hall, List.getElem?_map] at hconfig
    obtain ⟨t, ht, rfl⟩ := Option.map_eq_some_iff.mp hconfig
    refine ⟨t, ht, rfl, ?_⟩
    cases hphase : t.phase with
    | binding => exact Or.inl ⟨rfl, hinv.free_of_binding hclash ht hphase hport⟩
    | returned => exact Or.inr (Or.inr ⟨rfl, hinv.returned i t ht hphase hport⟩)
    | accepting | accepted | woken =>
      have hlistening : t.listening = true := by simp [BridgeTask.listening, hphase]
      obtain ⟨port, hports, htakes⟩ := hinv.ports i t ht hlistening
      obtain rfl : port = t.config.hostPort := by simpa [mayTake, hport] using htakes
      exact Or.inr (Or.inl ⟨hlistening, hports⟩)

/-! ## With a clash -/

theorem run_vm {s s' : VmSystem} {ports : Nat → Option UInt16} {as : List VmAction}
    (has : ∀ a ∈ as, ∀ i ok, a ≠ .bridge i (.bind ok)) (hrun : Run VmSystem.step s as s') :
    Run (PortSystem.step ephemeral) ⟨s, ports⟩ (as.map .vm) ⟨s', ports⟩ := by
  induction as generalizing s with
  | nil => exact Run.nil_iff.mpr (by rw [Run.nil_iff.mp hrun])
  | cons a as ih =>
    obtain ⟨u, hu, hrest⟩ := Run.cons_iff.mp hrun
    exact Run.cons_iff.mpr ⟨_, step_vm (has a List.mem_cons_self) hu,
      ih (fun b hb => has b (List.mem_cons_of_mem _ hb)) hrest⟩

variable {s : PortSystem} {i : Nat} {t : BridgeTask}

/-- A bind to a free port is possible, and the port is not free after it. -/
theorem exists_bound (ht : s.vm.bridges[i]? = some t) (hphase : t.phase = .binding) {port : UInt16}
    (hport : mayTake ephemeral t.config.hostPort port = true) (hfree : s.free port = true) :
    ∃ s', s.step ephemeral (.bind i (some port)) = some s' ∧ ¬ s'.free port = true ∧
      ∀ j, i ≠ j → s'.vm.bridges[j]? = s.vm.bridges[j]? := by
  have hbind : t.step s.vm.chan (.bind true) = some { t with phase := .accepting } := by
    simp [BridgeTask.step, hphase]
  have hlt := (List.getElem?_eq_some_iff.mp ht).1
  refine ⟨⟨{ s.vm with bridges := s.vm.bridges.set i { t with phase := .accepting } },
    Function.update s.ports i (some port)⟩, ?_, fun hfree' => ?_, fun j hij => ?_⟩
  · simp only [PortSystem.step, ht, step_bridge ht (by simp) hbind, Option.map_some]
    exact if_pos ⟨hport, hfree⟩
  · exact PortSystem.free_iff.mp hfree' i _ (List.getElem?_set_self hlt) rfl
      (Function.update_self _ _ _)
  · exact List.getElem?_set_ne hij

/-- A bind to a port that is held can only fail. -/
theorem exists_refused (ht : s.vm.bridges[i]? = some t) (hphase : t.phase = .binding)
    (hfree : ¬ s.free t.config.hostPort = true) :
    ∃ s', s.step ephemeral (.bind i none) = some s' := by
  have hbind : t.step s.vm.chan (.bind false) = some { t with phase := .returned } := by
    simp [BridgeTask.step, hphase]
  simp only [PortSystem.step, ht, step_bridge ht (by simp) hbind, Option.map_some]
  exact ⟨_, if_pos (Or.inr hfree)⟩

/-- When the ports clash, there is a run in which the request that comes second is refused. -/
theorem not_served_of_clash {configs : List BridgeConfig}
    (hclash : ¬ NoClash ephemeral (configs.map (·.hostPort))) :
    ∃ as s, Run (PortSystem.step ephemeral) (.launch configs) as s ∧ ¬ Served configs as s := by
  rw [noClash_iff] at hclash
  push Not at hclash
  obtain ⟨i, j, p, q, hij, hp, hq, hq0, htakes⟩ := hclash
  rw [List.getElem?_map] at hp hq
  obtain ⟨first, hfirst, rfl⟩ := Option.map_eq_some_iff.mp hp
  obtain ⟨second, hsecond, rfl⟩ := Option.map_eq_some_iff.mp hq
  -- All tasks are spawned, and none has come to its bind
  obtain ⟨started, hstart, hbridges⟩ : ∃ started, Run VmSystem.step (.launch configs)
      (List.replicate configs.length .spawnBridge ++ [.spawnThread true]) started ∧
      started.bridges = configs.map (BridgeTask.spawn · (Watch.channel false).2) :=
    ⟨_, Run.snoc_iff.mpr ⟨_, spawnBridges_steps (.launch configs) configs rfl, rfl⟩, rfl⟩
  have hspawned : ∀ {k : Nat} {config}, configs[k]? = some config →
      started.bridges[k]? = some (BridgeTask.spawn config (Watch.channel false).2) := by
    intro k config hconfig
    rw [hbridges, List.getElem?_map, hconfig, Option.map_some]
  have hlaunching : ∀ a ∈ List.replicate configs.length VmAction.spawnBridge ++
      [.spawnThread true], ∀ i ok, a ≠ .bridge i (.bind ok) := by
    intro a ha
    rcases List.mem_append.mp ha with ha | ha
    · rw [List.eq_of_mem_replicate ha]
      simp
    · rw [List.mem_singleton.mp ha]
      simp
  -- The first request takes the port of the second
  obtain ⟨s₁, hbound, hheld, hsame⟩ := exists_bound (s := ⟨started, fun _ => none⟩)
    (hspawned hfirst) rfl ((Bool.not_eq_false _).mp htakes)
    (PortSystem.free_iff.mpr fun _ _ _ _ => nofun)
  obtain ⟨s₂, hrefused⟩ : ∃ s₂, s₁.step ephemeral (.bind j none) = some s₂ :=
    exists_refused ((hsame j hij).trans (hspawned hsecond)) rfl hheld
  refine ⟨_, s₂, (run_vm hlaunching hstart).append (Run.cons_iff.mpr ⟨s₁, hbound,
    Run.cons_iff.mpr ⟨s₂, hrefused, Run.nil_iff.mpr rfl⟩⟩), fun hserved => ?_⟩
  exact hserved.bound j second hsecond hq0 (by simp)

/-! ## The bridges of a launch -/

/-- When a launch returns a handle, it has spawned a task for every request, on a socket that is
    registered for the guest port of the request; and the requests are served in every run exactly
    when their host ports do not clash. -/
theorem served_iff_noClash {σ : Type} {b : VmBuilder (VmEngine σ)} {env : Env} {w w' : World σ}
    {handle : VmHandle} (h : b.launch env w = .ok handle w') (ephemeral : UInt16 → Bool) :
    ∃ configs : List BridgeConfig,
      configs = b.bridges.map
        (fun br => ⟨br.hostPort, handle.workdir.bridgeSocket br.guestPort⟩) ∧
      w'.bridges = w.bridges ++ configs.map (BridgeTask.spawn · (Watch.channel false).2) ∧
      (∀ br ∈ b.bridges, ∃ ctx, (.engine (.addVsockPort ctx
        ⟨br.guestPort, handle.workdir.bridgeSocket br.guestPort⟩), none) ∈ w'.trace) ∧
      ((∀ as s, Run (PortSystem.step ephemeral) (.launch configs) as s → Served configs as s) ↔
        NoClash ephemeral (b.bridges.map (·.hostPort))) := by
  obtain ⟨ctx, host, -, hworkdir, -, -, hbridges, hregistered⟩ := launch_ok h
  have hports : (b.bridges.map (bridgeConfig env ctx)).map (·.hostPort) =
      b.bridges.map (·.hostPort) := by
    rw [List.map_map]
    rfl
  refine ⟨b.bridges.map (bridgeConfig env ctx), ?_, hbridges, fun br hbr => ⟨ctx, ?_⟩, ?_⟩
  · rw [hworkdir]
    rfl
  · rw [hworkdir]
    exact hregistered br hbr
  · rw [← hports]
    constructor
    · intro hserved
      by_contra hclash
      obtain ⟨as, s, hrun, hnot⟩ := not_served_of_clash hclash
      exact hnot (hserved as s hrun)
    · exact fun hclash as s hrun => served_of_noClash hclash hrun

/-- A builder on the mock engine with a disk and the bridges `requests`. -/
def bridgedBuilder (requests : List BridgeRequest) : VmBuilder (VmEngine MockEngine) :=
  { VmBuilder.new MockEngine.engine with
    vcpus := some ⟨2⟩
    memory := some ⟨1024⟩
    disks := [⟨.ofString "/vm.qcow2", .qcow2, false⟩]
    bridges := requests }

/-- A host on which nothing was launched yet. -/
def mockWorld : World MockEngine :=
  .new ⟨{}, .ofDirs [[], [(PathBuf.ofString "tmp").bytes]]⟩

/-- The ports that are handed out for port 0 by default. -/
def defaultEphemeral (port : UInt16) : Bool :=
  32768 ≤ port && port ≤ 60999

/-- Two bridges on different ports. -/
theorem served_iff_noClash_two :
    ∃ handle w' configs,
      (bridgedBuilder [⟨31122, ⟨22⟩⟩, ⟨31123, ⟨80⟩⟩]).launch ⟨.ofString "/tmp", none⟩ mockWorld =
        .ok handle w' ∧
      w'.bridges = configs.map (BridgeTask.spawn · (Watch.channel false).2) ∧
      ∀ as s, Run (PortSystem.step defaultEphemeral) (.launch configs) as s →
        Served configs as s := by
  obtain ⟨handle, h⟩ := EStateM.Result.exists_ok (show ((bridgedBuilder
    [⟨31122, ⟨22⟩⟩, ⟨31123, ⟨80⟩⟩]).launch ⟨.ofString "/tmp", none⟩ mockWorld).error? = none
    by decide +kernel)
  obtain ⟨configs, -, hbridges, -, hserved⟩ := served_iff_noClash h defaultEphemeral
  exact ⟨handle, _, configs, h, hbridges, hserved.mpr ⟨by decide, by simp [bridgedBuilder]⟩⟩

/-- Two bridges on the same port: the launch returns a handle, and then one of the binds fails,
    while the VM runs. -/
theorem clash_not_served :
    let first : BridgeConfig := ⟨31122, .ofString "/tmp/tateru-0/vsock-22.sock"⟩
    let second : BridgeConfig := ⟨31122, .ofString "/tmp/tateru-0/vsock-80.sock"⟩
    let actions : List PortAction := [.vm .spawnBridge, .vm .spawnBridge, .vm (.spawnThread true),
      .bind 0 (some 31122), .bind 1 none]
    (∃ handle w', (bridgedBuilder [⟨31122, ⟨22⟩⟩, ⟨31122, ⟨80⟩⟩]).launch
        ⟨.ofString "/tmp", none⟩ mockWorld = .ok handle w' ∧
      w'.bridges = [first, second].map (BridgeTask.spawn · (Watch.channel false).2)) ∧
    ∃ s, Run (PortSystem.step defaultEphemeral) (.launch [first, second]) actions s ∧
      s.vm.owner = .idle ∧ s.vm.running = true ∧ s.vm.chan.value = false ∧
      s.vm.bridges.map (·.phase) = [.accepting, .returned] ∧
      ¬ Served [first, second] actions s := by
  intro first second actions
  constructor
  · obtain ⟨handle, h⟩ := EStateM.Result.exists_ok (show ((bridgedBuilder
      [⟨31122, ⟨22⟩⟩, ⟨31122, ⟨80⟩⟩]).launch ⟨.ofString "/tmp", none⟩ mockWorld).error? = none
      by decide +kernel)
    exact ⟨handle, _, h, by decide +kernel⟩
  · have hrun : (actions.foldlM (PortSystem.step defaultEphemeral) (.launch [first, second])).map
        (fun s => (s.vm.owner, s.vm.running, s.vm.chan.value, s.vm.bridges.map (·.phase))) =
        some (.idle, true, false, [.accepting, .returned]) := by decide +kernel
    obtain ⟨s, hs, hend⟩ := Option.map_eq_some_iff.mp hrun
    simp only [Prod.mk.injEq] at hend
    obtain ⟨howner, hrunning, hvalue, hphases⟩ := hend
    refine ⟨s, hs, howner, hrunning, hvalue, hphases, fun hserved => ?_⟩
    exact hserved.bound 1 second rfl (by decide) (by decide)

end Tateru.Spec
