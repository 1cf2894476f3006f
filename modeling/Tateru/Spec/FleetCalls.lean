import Tateru.Spec.Fleet
import Tateru.Spec.KrunLaunch

/-!
# What libkrun is asked by many VMs

VMs of one process share the C library, and their launches overlap. Each call names the context
it is about, so the calls of one VM can be told from those of the others.

## Key results

- `perform_asks`: what one step of a launch asks
- `fleet_asks_in_order`: what has been asked about the context of each VM
-/

namespace Tateru.Spec

/-- The context that a call is about. -/
def ctxId? : KrunCall → Option UInt32
  | .createCtx | .setLogLevel _ | .checkNestedVirt => none
  | .setVmConfig ctxId .. | .addDisk2 ctxId .. | .addVirtiofs ctxId .. | .addVsockPort2 ctxId ..
  | .setConsoleOutput ctxId _ | .startEnter ctxId | .getShutdownEventfd ctxId
  | .setSmbiosOemStrings ctxId _ | .setNestedVirt ctxId _ => some ctxId

/-- The context that an engine call is about. -/
def engineCtx? : EngineCall → Option CtxId
  | .createCtx | .setLogLevel _ | .checkNestedVirt => none
  | .setVmConfig ctx .. | .addDisk ctx .. | .addVirtiofs ctx _ | .addVsockPort ctx _
  | .setConsoleOutput ctx _ | .getShutdownEventfd ctx | .startEnter ctx | .setNestedVirt ctx _
  | .setSmbiosOemStrings ctx _ => some ctx

/-- The calls that were made about a context, in their order. -/
def callsFor {κ : Type} (l : Libkrun κ) (ctx : CtxId) : List KrunCall :=
  l.calls.filter fun k => ctxId? k = some ctx.raw

/-- `krun_create_ctx` hands out no id twice: those that it has handed out are below `issued`, and
    those to come are not. -/
structure IssuesIds {κ : Type} (K : Krun κ) (issued : κ → Nat) : Prop where
  mono : ∀ k h, issued h.engine ≤ issued (K k h).2.engine
  fresh : ∀ h, 0 ≤ (K .createCtx h).1 →
    issued h.engine ≤ (K .createCtx h).1.toUInt32.toNat ∧
      (K .createCtx h).1.toUInt32.toNat < issued (K .createCtx h).2.engine

/-! ## One step -/

section Steps

variable {κ : Type} {K : Krun κ} {issued : κ → Nat}

/-- A call of the C library is about the context of the engine call. -/
theorem ctxId_of_krunCall {c : EngineCall} {k : KrunCall} (hk : krunCall c = .ok k) :
    ctxId? k = (engineCtx? c).map CtxId.raw := by
  cases c with
  | addDisk ctx disk index =>
    obtain ⟨cBlockId, -, hrest⟩ := Except.bind_eq_ok_iff.mp hk
    obtain ⟨cPath, -, hcall⟩ := Except.bind_eq_ok_iff.mp hrest
    cases hcall
    rfl
  | addVirtiofs ctx mount =>
    obtain ⟨cTag, -, hrest⟩ := Except.bind_eq_ok_iff.mp hk
    obtain ⟨cPath, -, hcall⟩ := Except.bind_eq_ok_iff.mp hrest
    cases hcall
    rfl
  | addVsockPort ctx port | setConsoleOutput ctx console | setSmbiosOemStrings ctx strings =>
    obtain ⟨arg, -, hcall⟩ := Except.bind_eq_ok_iff.mp hk
    cases hcall
    rfl
  | _ =>
    cases hk
    rfl

/-- The engine calls of a launch are about its context. -/
theorem engineCtx_of_mem_preparePlan {E : Type} {b : VmBuilder E} {env : Env} {vcpus : VcpuCount}
    {memory : MemoryMib} {ctx : CtxId} {c : EngineCall}
    (hc : .engine c ∈ preparePlan b env vcpus memory ctx) : engineCtx? c = some ctx := by
  have hplan : c ∈ configurePlan b ctx vcpus memory ∨ c ∈ laterPlan b env ctx := by
    simpa [preparePlan] using hc
  rcases hplan with hplan | hplan
  · simp only [configurePlan, List.mem_cons, List.mem_append, List.mem_map] at hplan
    rcases hplan with rfl | ⟨_, _, rfl⟩ | ⟨_, _, rfl⟩ | ⟨_, _, rfl⟩ <;> rfl
  · simp only [laterPlan, bridgesPlan, optionsPlan, List.mem_cons, List.mem_append, List.mem_map,
      List.not_mem_nil, or_false] at hplan
    rcases hplan with ⟨_, _, rfl⟩ | (⟨_, _, rfl⟩ | ⟨_, _, rfl⟩ | ⟨_, _, rfl⟩) | rfl <;> rfl

/-- What was asked for an engine call is its call. -/
theorem krunCall_of_askedFor {c : EngineCall} {o : Option TateruError} {k : KrunCall}
    (h : askedFor c o = some k) : krunCall c = .ok k := by
  have hcall : (krunCall c).toOption = some k := by
    unfold askedFor at h
    split at h
    · exact h
    · exact h
    · cases h
  cases hk : krunCall c with
  | ok k' =>
    rw [hk] at hcall
    exact congrArg _ (Option.some.inj hcall)
  | error e =>
    rw [hk] at hcall
    cases hcall

/-- What one step of a launch asks libkrun: nothing but the call of its engine call, and just that
    if it succeeds. -/
theorem perform_asks (K : Krun κ) (h : Host (Libkrun κ)) (step : LaunchStep) :
    ∃ asked, (perform (LibkrunEngine.engine K) h step).2.engine.calls = h.engine.calls ++ asked ∧
      (∀ k ∈ asked, ∃ c, step = .engine c ∧ krunCall c = .ok k) ∧
      ((perform (LibkrunEngine.engine K) h step).1 = true →
        (engineCall? step).toList.mapM krunCall = .ok asked) := by
  cases step with
  | engine c =>
    obtain ⟨htells, hcalls⟩ := run_tells K c h
    refine ⟨_, hcalls, fun k hk => ⟨c, rfl, ?_⟩, fun hok => ?_⟩
    · exact krunCall_of_askedFor (Option.mem_toList.mp hk)
    · have hnone := Option.isNone_iff_eq_none.mp hok
      rw [hnone] at htells ⊢
      obtain ⟨k, hk, hasked⟩ := htells.exists_asked (Or.inl rfl)
      rw [hasked]
      show [c].mapM krunCall = .ok [k]
      rw [List.mapM_cons, hk]
      rfl
  | createDirAll path =>
    refine ⟨[], ?_, by simp, fun _ => rfl⟩
    rw [List.append_nil, perform_engine _ _ (by simp)]
  | spawnBridge | spawnThread => exact ⟨[], (List.append_nil _).symm, by simp, fun _ => rfl⟩

/-- No engine call brings the ids back. -/
theorem issued_le_run (hids : IssuesIds K issued) (c : EngineCall) (h : Host (Libkrun κ)) :
    issued h.engine.lib ≤ issued ((LibkrunEngine.engine K).run c h).state.engine.lib := by
  have hunlink := unlinkFor_engine c h
  rcases libkrun_run_state K c h with hstate | ⟨k, h', hok, -, hstate⟩
  · rw [hstate, hunlink]
  · rw [hok, EStateM.Result.state_ok] at hunlink
    rw [hstate, ← hunlink]
    exact hids.mono k ⟨h'.engine.lib, h'.fs⟩

/-- No step of a launch does. -/
theorem issued_le_perform (hids : IssuesIds K issued) (h : Host (Libkrun κ)) (step : LaunchStep) :
    issued h.engine.lib ≤ issued (perform (LibkrunEngine.engine K) h step).2.engine.lib := by
  cases step with
  | engine c => exact issued_le_run hids c h
  | createDirAll path => rw [perform_engine _ _ (by simp)]
  | spawnBridge | spawnThread => exact Nat.le_refl _

/-- The creation of a context is about no context. -/
theorem createCtx_asks (K : Krun κ) (h : Host (Libkrun κ)) :
    ∃ asked, ((LibkrunEngine.engine K).createCtx h).state.engine.calls =
        h.engine.calls ++ asked ∧ ∀ k ∈ asked, ctxId? k = none :=
  ⟨_, (run_tells K .createCtx h).2, fun _ hk =>
    ctxId_of_krunCall (krunCall_of_askedFor (Option.mem_toList.mp hk))⟩

/-- A context that is created has a new id. -/
theorem createCtx_issues (hids : IssuesIds K issued) {h h' : Host (Libkrun κ)} {ctx : CtxId}
    (hcreate : (LibkrunEngine.engine K).createCtx h = .ok ctx h') :
    issued h.engine.lib ≤ ctx.raw.toNat ∧ ctx.raw.toNat < issued h'.engine.lib := by
  replace hcreate : (LibkrunEngine.engine K).run .createCtx h = .ok ctx h' := hcreate
  rw [libkrun_run_eq] at hcreate
  obtain ⟨_, h₁, hunlink, hrest⟩ := EStateM.bind_eq_ok_iff.mp hcreate
  obtain ⟨k, h₂, hk, hrest⟩ := EStateM.bind_eq_ok_iff.mp hrest
  obtain ⟨ret, h₃, hcall, hresult⟩ := EStateM.bind_eq_ok_iff.mp hrest
  cases hunlink
  cases hk
  cases hcall
  have hfresh := hids.fresh ⟨h.engine.lib, h.fs⟩
  generalize K .createCtx ⟨h.engine.lib, h.fs⟩ = answer at hfresh hresult
  rcases check_cases "krun_create_ctx" answer.1 with ⟨hret, -, hok⟩ | ⟨-, -, herror⟩
  · have hid : krunResult .createCtx answer.1 = .ok ⟨answer.1.toUInt32⟩ :=
      congrArg (· >>= _) hok
    rw [hid] at hresult
    cases hresult
    exact hfresh hret
  · have hrefused : krunResult .createCtx answer.1 = .error _ := congrArg (· >>= _) herror
    rw [hrefused] at hresult
    cases hresult

end Steps

/-! ## The VMs of a fleet -/

/-- The steps that the launch of a VM has left. -/
def FleetVm.todo {ε : Type} (vm : FleetVm ε) : List LaunchStep :=
  match vm.phase with
  | .preparing _ todo => todo
  | _ => []

section Fleets

variable {ε : Type} [DecidableEq ε] {κ : ε → Type} {K : ∀ e, Krun (κ e)}
  {issued : ∀ e, κ e → Nat} {env : Env} {s s' : Fleet fun e => Libkrun (κ e)}
  {a : FleetAction ε}

/-- About the context of a VM just the calls of the steps that its launch has taken were made, in
    their order. -/
def AskedInOrder (env : Env) (engines : ∀ e, Libkrun (κ e)) (vm : FleetVm ε) : Prop :=
  ∀ ctx, vm.ctx? = some ctx → ∃ vcpus memory done,
    vm.builder.vcpus = some vcpus ∧ vm.builder.memory = some memory ∧
    preparePlan vm.builder env vcpus memory ctx = done ++ vm.todo ∧
    (done.filterMap engineCall?).mapM krunCall =
      .ok (callsFor (engines vm.builder.engine) ctx)

/-- Calls and VMs name contexts that were handed out, no two VMs of an engine the same one. -/
structure AskedInv (issued : ∀ e, κ e → Nat) (env : Env) (s : Fleet fun e => Libkrun (κ e)) :
    Prop where
  below : ∀ e k id, k ∈ (s.engines e).calls → ctxId? k = some id →
    id.toNat < issued e (s.engines e).lib
  given : ∀ (i : Nat) (vm : FleetVm ε) (ctx : CtxId), s.vms[i]? = some vm → vm.ctx? = some ctx →
    ctx.raw.toNat < issued vm.builder.engine (s.engines vm.builder.engine).lib
  distinct : ∀ (i j : Nat) (vm vm' : FleetVm ε) (ctx : CtxId), s.vms[i]? = some vm →
    s.vms[j]? = some vm' → vm.ctx? = some ctx → vm'.ctx? = some ctx →
    vm.builder.engine = vm'.builder.engine → i = j
  settings : ∀ (i : Nat) (vm : FleetVm ε) (vcpus : VcpuCount) (memory : MemoryMib),
    s.vms[i]? = some vm → vm.phase = .creating vcpus memory →
    vm.builder.vcpus = some vcpus ∧ vm.builder.memory = some memory
  asked : ∀ (i : Nat) (vm : FleetVm ε), s.vms[i]? = some vm → AskedInOrder env s.engines vm

/-- The engines have gone on, and were asked about no context but that of the VM. -/
def AskAbout (issued : ∀ e, κ e → Nat) (vm : FleetVm ε) (engines engines' : ∀ e, Libkrun (κ e)) :
    Prop :=
  ∀ e, issued e (engines e).lib ≤ issued e (engines' e).lib ∧
    ∃ asked, (engines' e).calls = (engines e).calls ++ asked ∧
      ∀ k ∈ asked, ∀ id, ctxId? k = some id →
        vm.builder.engine = e ∧ ∃ ctx, vm.ctx? = some ctx ∧ ctx.raw = id

namespace AskAbout

variable {vm : FleetVm ε} {engines engines' : ∀ e, Libkrun (κ e)}

omit [DecidableEq ε] in
theorem refl (vm : FleetVm ε) (engines : ∀ e, Libkrun (κ e)) :
    AskAbout issued vm engines engines :=
  fun _ => ⟨Nat.le_refl _, [], (List.append_nil _).symm, by simp⟩

/-- The engine of the VM is asked. -/
theorem update {l : Libkrun (κ vm.builder.engine)} {asked : List KrunCall}
    (hissued : issued _ (engines vm.builder.engine).lib ≤ issued _ l.lib)
    (hcalls : l.calls = (engines vm.builder.engine).calls ++ asked)
    (hasked : ∀ k ∈ asked, ∀ id, ctxId? k = some id → ∃ ctx, vm.ctx? = some ctx ∧ ctx.raw = id) :
    AskAbout issued vm engines (Function.update engines vm.builder.engine l) := by
  intro e
  by_cases he : e = vm.builder.engine
  · subst he
    rw [Function.update_self]
    exact ⟨hissued, asked, hcalls, fun k hk id hid => ⟨rfl, hasked k hk id hid⟩⟩
  · rw [Function.update_of_ne he]
    exact ⟨Nat.le_refl _, [], (List.append_nil _).symm, by simp⟩

/-- A context is created. -/
theorem create (hids : ∀ e, IssuesIds (K e) (issued e)) (s : Fleet fun e => Libkrun (κ e))
    (vm : FleetVm ε) :
    AskAbout issued vm s.engines (Function.update s.engines vm.builder.engine
      ((LibkrunEngine.engine (K vm.builder.engine)).createCtx
        (s.host vm.builder.engine)).state.engine) := by
  obtain ⟨asked, hcalls, hnone⟩ :=
    createCtx_asks (K vm.builder.engine) (s.host vm.builder.engine)
  refine update ?_ hcalls fun k hk id hid => ?_
  · exact issued_le_run (hids vm.builder.engine) .createCtx (s.host vm.builder.engine)
  · cases (hnone k hk).symm.trans hid

omit [DecidableEq ε] in
/-- Nothing is asked about other contexts. -/
theorem callsFor_eq (h : AskAbout issued vm engines engines') {e : ε} {ctx : CtxId}
    (hother : vm.builder.engine = e → vm.ctx? ≠ some ctx) :
    callsFor (engines' e) ctx = callsFor (engines e) ctx := by
  obtain ⟨-, asked, hcalls, hasked⟩ := h e
  have hnone : asked.filter (fun k => ctxId? k = some ctx.raw) = [] := by
    rw [List.filter_eq_nil_iff]
    intro k hk hid
    obtain ⟨he, ctx', hctx', hraw⟩ := hasked k hk ctx.raw (of_decide_eq_true hid)
    obtain rfl : ctx' = ctx := by
      cases ctx'
      cases hraw
      rfl
    exact hother he hctx'
  rw [callsFor, callsFor, hcalls, List.filter_append, hnone, List.append_nil]

end AskAbout

namespace AskedInv

omit [DecidableEq ε] in
/-- One VM moves on: it keeps its context, or is given a new one. -/
theorem set (hinv : AskedInv issued env s) {i : Nat} {vm vm' : FleetVm ε}
    (hvm : s.vms[i]? = some vm) (hvms : s'.vms = s.vms.set i vm')
    (hbuilder : vm'.builder = vm.builder) (hask : AskAbout issued vm s.engines s'.engines)
    (hctx : ∀ ctx, vm'.ctx? = some ctx → vm.ctx? = some ctx ∨
      issued vm.builder.engine (s.engines vm.builder.engine).lib ≤ ctx.raw.toNat ∧
        ctx.raw.toNat < issued vm.builder.engine (s'.engines vm.builder.engine).lib)
    (hphase : ∀ vcpus memory, vm'.phase ≠ .creating vcpus memory)
    (hasked : AskedInOrder env s'.engines vm') : AskedInv issued env s' := by
  have hat : ∀ {j : Nat} {u : FleetVm ε}, s'.vms[j]? = some u →
      (i = j ∧ u = vm') ∨ (i ≠ j ∧ s.vms[j]? = some u) := by
    intro j u hu
    rw [hvms] at hu
    by_cases hj : i = j
    · subst hj
      rw [List.getElem?_set_self (List.getElem?_eq_some_iff.mp hvm).1] at hu
      exact Or.inl ⟨rfl, (Option.some.inj hu).symm⟩
    · rw [List.getElem?_set_ne hj] at hu
      exact Or.inr ⟨hj, hu⟩
  -- Nobody else on the engine has the context of the VM
  have halone : ∀ {j : Nat} {u : FleetVm ε} {ctx : CtxId}, i ≠ j → s.vms[j]? = some u →
      vm'.ctx? = some ctx → u.ctx? = some ctx → vm.builder.engine ≠ u.builder.engine := by
    intro j u ctx hj hu hvm' huctx hengine
    rcases hctx ctx hvm' with hold | ⟨hle, -⟩
    · exact hj (hinv.distinct i j vm u ctx hvm hu hold huctx hengine)
    · have hlt := hinv.given j u ctx hu huctx
      rw [← hengine] at hlt
      omega
  constructor
  case below =>
    intro e k id hk hid
    obtain ⟨hle, asked, hcalls, hasked⟩ := hask e
    rw [hcalls] at hk
    rcases List.mem_append.mp hk with hk | hk
    · exact Nat.lt_of_lt_of_le (hinv.below e k id hk hid) hle
    · obtain ⟨rfl, ctx, hctx, rfl⟩ := hasked k hk id hid
      exact Nat.lt_of_lt_of_le (hinv.given i vm ctx hvm hctx) hle
  case given =>
    intro j u ctx hu huctx
    rcases hat hu with ⟨-, rfl⟩ | ⟨-, hu⟩
    · rw [hbuilder]
      rcases hctx ctx huctx with hold | ⟨-, hlt⟩
      · exact Nat.lt_of_lt_of_le (hinv.given i vm ctx hvm hold) (hask _).1
      · exact hlt
    · exact Nat.lt_of_lt_of_le (hinv.given j u ctx hu huctx) (hask _).1
  case distinct =>
    intro j k u v ctx hu hv huctx hvctx hengine
    rcases hat hu with ⟨rfl, rfl⟩ | ⟨hj, hu⟩ <;> rcases hat hv with ⟨rfl, rfl⟩ | ⟨hk, hv⟩
    · rfl
    · rw [hbuilder] at hengine
      exact absurd hengine (halone hk hv huctx hvctx)
    · rw [hbuilder] at hengine
      exact absurd hengine.symm (halone hj hu hvctx huctx)
    · exact hinv.distinct j k u v ctx hu hv huctx hvctx hengine
  case settings =>
    intro j u vcpus memory hu hcreating
    rcases hat hu with ⟨-, rfl⟩ | ⟨-, hu⟩
    · exact absurd hcreating (hphase vcpus memory)
    · exact hinv.settings j u vcpus memory hu hcreating
  case asked =>
    intro j u hu
    rcases hat hu with ⟨-, rfl⟩ | ⟨hj, hu⟩
    · exact hasked
    · intro ctx huctx
      rw [hask.callsFor_eq fun hengine hvmctx =>
        hj (hinv.distinct i j vm u ctx hvm hu hvmctx huctx hengine)]
      exact hinv.asked j u hu ctx huctx

/-- A step of the launch of a VM. -/
theorem prepare (hids : ∀ e, IssuesIds (K e) (issued e)) (hinv : AskedInv issued env s) {i : Nat}
    {b : VmBuilder ε} {ctx : CtxId} {step : LaunchStep} {todo : List LaunchStep}
    (hvm : s.vms[i]? = some ⟨b, .preparing ctx (step :: todo)⟩) {h : Host (Libkrun (κ b.engine))}
    {ok : Bool} (hperform : perform (LibkrunEngine.engine (K b.engine)) (s.host b.engine) step =
      (ok, h)) :
    AskedInv issued env (s.advance b.engine h i ⟨b, .preparing ctx (step :: todo)⟩
      (if ok then .preparing ctx todo else .failed)) := by
  obtain ⟨vcpus, memory, done, hvcpus, hmemory, hplan, hdone⟩ := hinv.asked i _ hvm ctx rfl
  obtain ⟨asked, hcalls, hcalled, hall⟩ :=
    perform_asks (K b.engine) (s.host b.engine) step
  have hissued := issued_le_perform (hids b.engine) (s.host b.engine) step
  rw [hperform] at hcalls hall hissued
  have habout : ∀ k ∈ asked, ctxId? k = some ctx.raw := by
    intro k hk
    obtain ⟨c, rfl, hc⟩ := hcalled k hk
    have hmem : LaunchStep.engine c ∈ preparePlan b env vcpus memory ctx := by
      rw [hplan]
      exact List.mem_append_right _ List.mem_cons_self
    rw [ctxId_of_krunCall hc, engineCtx_of_mem_preparePlan hmem]
    rfl
  refine hinv.set hvm rfl rfl ?ask ?ctx ?phase ?asked
  case ask =>
    refine AskAbout.update hissued hcalls fun k hk id hid => ⟨ctx, rfl, ?_⟩
    exact Option.some.inj ((habout k hk).symm.trans hid)
  case ctx =>
    intro ctx' hctx'
    cases ok with
    | true => exact Or.inl hctx'
    | false => cases hctx'
  case phase => cases ok <;> simp
  case asked =>
    intro ctx' hctx'
    cases ok with
    | false => cases hctx'
    | true =>
      cases hctx'
      refine ⟨vcpus, memory, done ++ [step], hvcpus, hmemory, ?_, ?_⟩
      · rw [List.append_assoc]
        exact hplan
      · have hfilter : asked.filter (fun k => ctxId? k = some ctx.raw) = asked := by
          rw [List.filter_eq_self]
          exact fun k hk => decide_eq_true (habout k hk)
        have hnew : callsFor (Function.update s.engines b.engine h.engine b.engine) ctx =
            callsFor (s.engines b.engine) ctx ++ asked := by
          rw [Function.update_self, callsFor, hcalls, List.filter_append, hfilter]
          rfl
        rw [List.filterMap_snoc, List.mapM_append, hdone, hall rfl]
        exact congrArg Except.ok hnew.symm

omit [DecidableEq ε] in
/-- A step whose VM keeps its context and the steps it has left, and that asks nothing. -/
theorem keep (hinv : AskedInv issued env s) {i : Nat} {b : VmBuilder ε} {phase phase' : FleetPhase}
    (hvm : s.vms[i]? = some ⟨b, phase⟩) (hvms : s'.vms = s.vms.set i ⟨b, phase'⟩)
    (hengines : s'.engines = s.engines) {ctx : CtxId} {sys : VmSystem} (hup : phase' = .up ctx sys)
    (hctx : (FleetVm.mk b phase).ctx? = some ctx) (htodo : (FleetVm.mk b phase).todo = []) :
    AskedInv issued env s' := by
  subst hup
  refine hinv.set hvm hvms rfl ?_ (fun ctx' hctx' => Or.inl (hctx.trans hctx')) (by simp) ?_
  · rw [hengines]
    exact .refl _ _
  · intro ctx' hctx'
    rw [hengines]
    obtain ⟨vcpus, memory, done, hvcpus, hmemory, hplan, hdone⟩ :=
      hinv.asked i _ hvm ctx' (hctx.trans hctx')
    rw [htodo] at hplan
    exact ⟨vcpus, memory, done, hvcpus, hmemory, hplan, hdone⟩

omit [DecidableEq ε] in
/-- A launch begins. -/
theorem launch (hinv : AskedInv issued env s) {b : VmBuilder ε} {vcpus : VcpuCount}
    {memory : MemoryMib} (hvcpus : b.vcpus = some vcpus) (hmemory : b.memory = some memory) :
    AskedInv issued env { s with vms := s.vms ++ [⟨b, .creating vcpus memory⟩] } := by
  have hat : ∀ {j : Nat} {u : FleetVm ε}, (s.vms ++ [⟨b, .creating vcpus memory⟩])[j]? = some u →
      s.vms[j]? = some u ∨ u = ⟨b, .creating vcpus memory⟩ := by
    intro j u hu
    rw [List.getElem?_append] at hu
    split at hu
    · exact Or.inl hu
    · exact Or.inr (List.mem_singleton.mp (List.mem_of_getElem? hu))
  -- It has no context yet
  constructor
  case below => exact hinv.below
  case given =>
    intro j u ctx hu huctx
    rcases hat hu with hu | rfl
    · exact hinv.given j u ctx hu huctx
    · cases huctx
  case distinct =>
    intro j k u v ctx hu hv huctx hvctx hengine
    rcases hat hu with hu | rfl
    · rcases hat hv with hv | rfl
      · exact hinv.distinct j k u v ctx hu hv huctx hvctx hengine
      · cases hvctx
    · cases huctx
  case settings =>
    intro j u vcpus' memory' hu hcreating
    rcases hat hu with hu | rfl
    · exact hinv.settings j u vcpus' memory' hu hcreating
    · cases hcreating
      exact ⟨hvcpus, hmemory⟩
  case asked =>
    intro j u hu
    rcases hat hu with hu | rfl
    · exact hinv.asked j u hu
    · intro ctx huctx
      cases huctx

/-- A VM is given its context, which nothing has been asked about. -/
theorem create (hids : ∀ e, IssuesIds (K e) (issued e)) (hinv : AskedInv issued env s) {i : Nat}
    {b : VmBuilder ε} {vcpus : VcpuCount} {memory : MemoryMib} {ctx : CtxId}
    {h : Host (Libkrun (κ b.engine))} (hvm : s.vms[i]? = some ⟨b, .creating vcpus memory⟩)
    (hcreate : (LibkrunEngine.engine (K b.engine)).createCtx (s.host b.engine) = .ok ctx h) :
    AskedInv issued env (s.advance b.engine h i ⟨b, .creating vcpus memory⟩
      (.preparing ctx (preparePlan b env vcpus memory ctx))) := by
  obtain ⟨hle, hlt⟩ := createCtx_issues (hids b.engine) hcreate
  have hask := AskAbout.create hids s ⟨b, .creating vcpus memory⟩
  rw [hcreate, EStateM.Result.state_ok] at hask
  refine hinv.set hvm rfl rfl hask ?ctx (by simp) ?asked
  case ctx =>
    intro ctx' hctx'
    cases hctx'
    refine Or.inr ⟨hle, ?_⟩
    show ctx.raw.toNat < issued b.engine (Function.update s.engines b.engine h.engine b.engine).lib
    rw [Function.update_self]
    exact hlt
  case asked =>
    intro ctx' hctx'
    cases hctx'
    obtain ⟨hvcpus, hmemory⟩ := hinv.settings i _ vcpus memory hvm rfl
    refine ⟨vcpus, memory, [], hvcpus, hmemory, rfl, ?_⟩
    have hnone : callsFor (s.engines b.engine) ctx = [] := by
      rw [callsFor, List.filter_eq_nil_iff]
      intro k hk hid
      have hbelow := hinv.below b.engine k ctx.raw hk (of_decide_eq_true hid)
      exact absurd hbelow (Nat.not_lt.mpr hle)
    have hsame : callsFor (Function.update s.engines b.engine h.engine b.engine) ctx =
        callsFor (s.engines b.engine) ctx := hask.callsFor_eq fun _ => by simp [FleetVm.ctx?]
    exact congrArg Except.ok (hsame.trans hnone).symm

theorem step (hids : ∀ e, IssuesIds (K e) (issued e)) (hinv : AskedInv issued env s)
    (hstep : Fleet.step (fun e => LibkrunEngine.engine (K e)) env s a = some s') :
    AskedInv issued env s' := by
  cases FleetStep.of_step hstep with
  | @launch b vcpus memory =>
    simp only [Fleet.step] at hstep
    split at hstep
    · rename_i vcpus' memory' _ _ hvcpus hmemory _
      have hvms := congrArg Fleet.vms (Option.some.inj hstep)
      simp at hvms
      obtain ⟨rfl, rfl⟩ := hvms
      exact hinv.launch hvcpus hmemory
    · cases hstep
  | create hvm hcreate => exact hinv.create hids hvm hcreate
  | @createFails i b vcpus memory e h hvm hcreate =>
    have hask := AskAbout.create hids s ⟨b, .creating vcpus memory⟩
    rw [hcreate, EStateM.Result.state_error] at hask
    exact hinv.set hvm rfl rfl hask (by simp [FleetVm.ctx?]) (by simp)
      (by simp [AskedInOrder, FleetVm.ctx?])
  | prepare hvm => exact hinv.prepare hids hvm rfl
  | start hvm => exact hinv.keep hvm rfl (Function.update_eq_self _ _) rfl rfl rfl
  | serve => exact ⟨hinv.below, hinv.given, hinv.distinct, hinv.settings, hinv.asked⟩
  | vm hvm => exact hinv.keep hvm rfl rfl rfl rfl rfl

end AskedInv

/-- **Every VM is configured by its own calls, in order.** Whatever VMs are launched on however many
    libkruns, however their launches overlap, and whatever else happens to them: no two VMs of a
    libkrun get the same context, and about the context of each VM exactly the calls of the steps
    that its launch has taken were made, in the order of its plan, up to the entry of the VM. No
    other launch, failed or not, adds, drops or moves one. -/
theorem fleet_asks_in_order (hids : ∀ e, IssuesIds (K e) (issued e)) {libs : ∀ e, κ e}
    {fs : FileSys} {as : List (FleetAction ε)}
    (hrun : Run (Fleet.step (fun e => LibkrunEngine.engine (K e)) env)
      (.new (fun e => ⟨libs e, []⟩) fs) as s) :
    (∀ (i j : Nat) (vm vm' : FleetVm ε) (ctx : CtxId), s.vms[i]? = some vm →
      s.vms[j]? = some vm' → vm.ctx? = some ctx → vm'.ctx? = some ctx →
      vm.builder.engine = vm'.builder.engine → i = j) ∧
    ∀ vm ∈ s.vms, ∀ ctx, vm.ctx? = some ctx → ∃ vcpus memory done,
      vm.builder.vcpus = some vcpus ∧ vm.builder.memory = some memory ∧
      preparePlan vm.builder env vcpus memory ctx = done ++ vm.todo ∧
      (done.filterMap engineCall?).mapM krunCall =
        .ok (callsFor (s.engines vm.builder.engine) ctx) := by
  have hstart : AskedInv issued env (.new (fun e => (⟨libs e, []⟩ : Libkrun (κ e))) fs) := by
    constructor <;> simp [Fleet.new]
  have hinv : AskedInv issued env s :=
    Run.invariant (fun _ _ _ hinv h => hinv.step hids h) hrun hstart
  refine ⟨hinv.distinct, fun vm hvm => ?_⟩
  obtain ⟨i, hi⟩ := List.mem_iff_getElem?.mp hvm
  exact hinv.asked i vm hi

end Fleets

/-- A libkrun that hands out the context ids from 0, as long as there are any. -/
def finiteKrun : Krun Nat
  | .createCtx, h =>
    if h.engine < 2 ^ 31 then (Int32.ofNat h.engine, { h with engine := h.engine + 1 }) else (-1, h)
  | .getShutdownEventfd _, h => (3, h)
  | _, h => (0, h)

theorem finiteKrun_issuesIds : IssuesIds finiteKrun id where
  mono k h := by
    cases k with
    | createCtx =>
      simp only [finiteKrun]
      split
      · exact Nat.le_succ _
      · exact Nat.le_refl _
    | _ => exact Nat.le_refl _
  fresh h hret := by
    simp only [finiteKrun] at hret ⊢
    by_cases hleft : h.engine < 2 ^ 31
    · rw [if_pos hleft]
      have hid : (Int32.ofNat h.engine).toUInt32.toNat = h.engine := by
        show h.engine % 2 ^ 32 = h.engine
        omega
      exact ⟨Nat.le_of_eq hid.symm, Nat.lt_succ_of_le (Nat.le_of_eq hid)⟩
    · rw [if_neg hleft] at hret
      exact absurd hret (show ¬ (0 : Int32) ≤ -1 by decide)

/-- Two launches that overlap. -/
theorem fleet_asks_in_order_two :
    let E : Unit → VmEngine (Libkrun Nat) := fun _ => LibkrunEngine.engine finiteKrun
    let env : Env := ⟨.ofString "/tmp", none⟩
    let fs := FileSys.ofDirs [[], [(PathBuf.ofString "tmp").bytes]]
    let builder (mib : UInt32) : VmBuilder Unit :=
      { VmBuilder.new () with
        vcpus := some ⟨1⟩, memory := some ⟨mib⟩, disks := [⟨.ofString "/vm.raw", .raw, false⟩] }
    let actions : List (FleetAction Unit) :=
      [.launch (builder 1024), .launch (builder 2048), .prepare 0, .prepare 1, .prepare 1,
        .prepare 0, .prepare 0, .prepare 1]
    ∃ s, Run (Fleet.step E env) (.new (fun _ => ⟨0, []⟩) fs) actions s ∧
      s.vms.map FleetVm.ctx? = [some ⟨0⟩, some ⟨1⟩] ∧
      ∀ vm ∈ s.vms, ∀ ctx, vm.ctx? = some ctx → ∃ vcpus memory done,
        vm.builder.vcpus = some vcpus ∧ vm.builder.memory = some memory ∧
        preparePlan vm.builder env vcpus memory ctx = done ++ vm.todo ∧
        (done.filterMap engineCall?).mapM krunCall = .ok (callsFor (s.engines ()) ctx) := by
  intro E env fs builder actions
  have hrun := Run.get (Fleet.step E env) (.new (fun _ => ⟨0, []⟩) fs) actions (by decide +kernel)
  have hids : ∀ e : Unit, IssuesIds finiteKrun ((fun _ => id : Unit → Nat → Nat) e) :=
    fun _ => finiteKrun_issuesIds
  exact ⟨_, hrun, by decide +kernel, (fleet_asks_in_order hids hrun).2⟩

end Tateru.Spec
