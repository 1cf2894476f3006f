import Tateru.Spec.DeviceNames
import Tateru.Spec.LibkrunCalls

/-!
# A launch on libkrun, as the C library sees it

A launch asks the C library for what the plan of its builder says, call by call. What the
library is asked can be read off the engine calls and their outcomes: every outcome says
whether libkrun was called, and with which code it answered.

## Key results

- `run_tells`: the outcome of one engine call, on the host that it was made from
- `launch_asks_libkrun`: the calls of a launch, and how it ends
-/

namespace Tateru.Spec

open EStateM (Keeps)

/-- What libkrun was asked for an engine call with this outcome: its call, if the outcome is a
    return code of libkrun. -/
def askedFor (c : EngineCall) : Option TateruError → Option KrunCall
  | none | some (.ffi ..) => (krunCall c).toOption
  | some _ => none

/-- What libkrun was asked for a step of a launch. -/
def askedForStep : LaunchStep × Option TateruError → Option KrunCall
  | (.engine c, o) => askedFor c o
  | _ => none

/-- The function of libkrun that an engine call is for. -/
def krunFunction : EngineCall → String
  | .createCtx => "krun_create_ctx"
  | .setVmConfig .. => "krun_set_vm_config"
  | .addDisk .. => "krun_add_disk2"
  | .addVirtiofs .. => "krun_add_virtiofs"
  | .addVsockPort .. => "krun_add_vsock_port2"
  | .setConsoleOutput .. => "krun_set_console_output"
  | .startEnter .. => "krun_start_enter"
  | .getShutdownEventfd .. => "krun_get_shutdown_eventfd"
  | .setLogLevel .. => "krun_set_log_level"
  | .setSmbiosOemStrings .. => "krun_set_smbios_oem_strings"
  | .setNestedVirt .. => "krun_set_nested_virt"
  | .checkNestedVirt => "krun_check_nested_virt"

/-- The engine call of a step of a launch. -/
def engineCall? : LaunchStep → Option EngineCall
  | .engine c => some c
  | _ => none

section

variable {κ : Type} {K : Krun κ}

/-- The code with which libkrun answers a call that is made from a host. -/
def krunCode (K : Krun κ) (k : KrunCall) (h : Host (Libkrun κ)) : Int32 :=
  (K k ⟨h.engine.lib, h.fs⟩).1

/-- The outcome of an engine call that was made from the host `h` is a true account of what libkrun
    did. It is called from the host that the unlink leaves. -/
inductive Tells (K : Krun κ) (h : Host (Libkrun κ)) : EngineCall → Option TateruError → Prop where
  /-- it was called, and did not answer with a negative code -/
  | returned {c : EngineCall} {k : KrunCall} {h' : Host (Libkrun κ)} :
      unlinkFor c h = .ok () h' → krunCall c = .ok k → 0 ≤ krunCode K k h' →
      (∀ ctx, c ≠ .startEnter ctx) → Tells K h c none
  /-- it was called, and this is the code -/
  | refused {c : EngineCall} {k : KrunCall} {h' : Host (Libkrun κ)} :
      unlinkFor c h = .ok () h' → krunCall c = .ok k →
      (krunCode K k h' < 0 ∨ ∃ ctx, c = .startEnter ctx) →
      Tells K h c (some (.ffi k.function (krunCode K k h')))
  /-- a string could not be passed, so it was not called -/
  | unpassable {c : EngineCall} {h' : Host (Libkrun κ)} {e : TateruError} :
      unlinkFor c h = .ok () h' → krunCall c = .error e →
      (∀ function code, e ≠ .ffi function code) → Tells K h c (some e)
  /-- a socket could not be unlinked, so it was not called -/
  | notUnlinked {ctx : CtxId} {port : VsockPort} {h' : Host (Libkrun κ)} {e : IoError} :
      Ffi.unlinkStale port.hostSocket h = .error (.bridgeIo e) h' →
      Tells K h (.addVsockPort ctx port) (some (.bridgeIo e))

/-- The outcome of a step that was taken from the host `h` tells so, if the step is a call. -/
def TellsStep (K : Krun κ) (h : Host (Libkrun κ)) : LaunchStep → Option TateruError → Prop
  | .engine c, o => Tells K h c o
  | _, _ => True

/-- The host after a step of a launch. -/
def afterStep (K : Krun κ) (h : Host (Libkrun κ)) (s : LaunchStep) : Host (Libkrun κ) :=
  (perform (LibkrunEngine.engine K) h s).2

/-! ## One engine call -/

/-- A string that cannot be passed is not reported as an error of libkrun. -/
theorem krunCall_errorsIn (c : EngineCall) :
    (krunCall c).ErrorsIn fun e => ∀ function code, e ≠ .ffi function code := by
  have hstr : ∀ s, (Ffi.strToCstring s).ErrorsIn fun e => ∀ function code,
      e ≠ .ffi function code := by
    intro s e hs
    rw [Option.eq_of_okOr_eq_error hs]
    simp
  have hpath : ∀ p, (Ffi.pathToCstring p).ErrorsIn fun e => ∀ function code,
      e ≠ .ffi function code := by
    intro p e hp
    rcases pathToCstring_cases p with ⟨-, herror⟩ | ⟨-, s, hok, -⟩
    · rw [Except.error.inj (hp.symm.trans herror)]
      simp
    · exact nomatch hp.symm.trans hok
  cases c with
  | addDisk ctx disk index =>
    exact .bind (hstr _) fun _ => .bind (hpath _) fun _ => .ok _
  | addVirtiofs ctx mount =>
    exact .bind (hstr _) fun _ => .bind (hpath _) fun _ => .ok _
  | addVsockPort ctx port => exact .bind (hpath _) fun _ => .ok _
  | setConsoleOutput ctx console => exact .bind (hpath _) fun _ => .ok _
  | setSmbiosOemStrings ctx strings => exact .bind (.mapM hstr strings) fun _ => .ok _
  | _ => exact .ok _

/-- Only the socket of a port is unlinked, and an error of that is an I/O error. -/
theorem unlinkFor_eq_error {c : EngineCall} {h h' : Host (Libkrun κ)} {e : TateruError}
    (hc : unlinkFor c h = .error e h') :
    (∃ ctx port, c = .addVsockPort ctx port) ∧ ∃ io, e = .bridgeIo io := by
  cases c with
  | addVsockPort ctx port =>
    refine ⟨⟨ctx, port, rfl⟩, ?_⟩
    replace hc : Ffi.unlinkStale port.hostSocket h = .error e h' := hc
    rcases unlinkStale_cases port.hostSocket h with ⟨-, -, hok⟩ | ⟨-, hok⟩ | ⟨-, io, herror⟩
    · exact nomatch hok.symm.trans hc
    · exact nomatch hok.symm.trans hc
    · rw [herror] at hc
      exact ⟨io, (EStateM.Result.error.inj hc).1.symm⟩
  | _ => cases hc

/-- What a checked return code says about the call. -/
theorem check_cases (function : String) (ret : Int32) :
    (0 ≤ ret ∧ Ffi.check function ret = .ok () ∧ Ffi.checkValue function ret = .ok ret) ∨
    (ret < 0 ∧ Ffi.check function ret = .error (.ffi function ret) ∧
      Ffi.checkValue function ret = .error (.ffi function ret)) := by
  unfold Ffi.check Ffi.checkValue
  by_cases hneg : ret < 0
  · simp [hneg]
  · simp [hneg, Int32.not_lt.mp hneg]

/-- The function that an engine call is for is the one that it calls. -/
theorem function_of_krunCall {c : EngineCall} {k : KrunCall} (hk : krunCall c = .ok k) :
    k.function = krunFunction c := by
  cases c with
  | addDisk ctx disk index =>
    obtain ⟨cBlockId, -, hrest⟩ := Except.bind_eq_ok_iff.mp hk
    obtain ⟨cPath, -, hcall⟩ := Except.bind_eq_ok_iff.mp hrest
    cases hcall
    rfl
  | addVirtiofs ctx mount =>
    obtain ⟨cTag, -, hrest⟩ := Except.bind_eq_ok_iff.mp hk
    obtain ⟨cPath, -, hcall⟩ := Except.bind_eq_ok_iff.mp hrest
    cases hcall
    rfl
  | addVsockPort ctx port | setConsoleOutput ctx console | setSmbiosOemStrings ctx strings =>
    obtain ⟨arg, -, hcall⟩ := Except.bind_eq_ok_iff.mp hk
    cases hcall
    rfl
  | _ =>
    cases hk
    rfl

/-- What is made of a return code: the error of the function that was called, or a result. -/
theorem krunResult_cases (c : EngineCall) (ret : Int32) :
    (0 ≤ ret ∧ (∀ ctx, c ≠ .startEnter ctx) ∧ ∃ r, krunResult c ret = .ok r) ∨
    ((ret < 0 ∨ ∃ ctx, c = .startEnter ctx) ∧
      krunResult c ret = .error (.ffi (krunFunction c) ret)) := by
  have hcode := check_cases (krunFunction c) ret
  cases c with
  | startEnter ctx => exact Or.inr ⟨Or.inr ⟨ctx, rfl⟩, rfl⟩
  | createCtx | checkNestedVirt =>
    rcases hcode with ⟨hret, -, hok⟩ | ⟨hret, -, herror⟩
    · exact Or.inl ⟨hret, by simp, _, congrArg (· >>= _) hok⟩
    · exact Or.inr ⟨Or.inl hret, congrArg (· >>= _) herror⟩
  | getShutdownEventfd ctx =>
    rcases hcode with ⟨hret, -, hok⟩ | ⟨hret, -, herror⟩
    · exact Or.inl ⟨hret, by simp, _, hok⟩
    · exact Or.inr ⟨Or.inl hret, herror⟩
  | _ =>
    rcases hcode with ⟨hret, hok, -⟩ | ⟨hret, herror, -⟩
    · exact Or.inl ⟨hret, by simp, _, hok⟩
    · exact Or.inr ⟨Or.inl hret, herror⟩

/-- An error that is no return code stands for no call. -/
theorem askedFor_of_ne_ffi {c : EngineCall} {e : TateruError}
    (he : ∀ function code, e ≠ .ffi function code) : askedFor c (some e) = none := by
  cases e with
  | ffi function code => exact absurd rfl (he function code)
  | _ => rfl

/-- The outcome of an engine call tells what libkrun was asked and what it answered. -/
theorem run_tells (K : Krun κ) (c : EngineCall) (h : Host (Libkrun κ)) :
    Tells K h c ((LibkrunEngine.engine K).run c h).error? ∧
      ((LibkrunEngine.engine K).run c h).state.engine.calls = h.engine.calls ++
        (askedFor c ((LibkrunEngine.engine K).run c h).error?).toList := by
  rw [libkrun_run_eq]
  have hunlinked := unlinkFor_engine c h
  cases hunlink : unlinkFor c h with
  | error e h' =>
    rw [hunlink, EStateM.Result.state_error] at hunlinked
    obtain ⟨⟨ctx, port, rfl⟩, io, rfl⟩ := unlinkFor_eq_error hunlink
    rw [EStateM.bind_error hunlink, EStateM.Result.error?_error, EStateM.Result.state_error,
      askedFor_of_ne_ffi (by simp), hunlinked]
    exact ⟨.notUnlinked hunlink, (List.append_nil _).symm⟩
  | ok u h' =>
    rw [hunlink, EStateM.Result.state_ok] at hunlinked
    rw [EStateM.bind_ok hunlink]
    cases hk : krunCall c with
    | error e =>
      have hne := krunCall_errorsIn c e hk
      have hrefused : (ofExcept (.error e) : EngineM (Libkrun κ) KrunCall) h' = .error e h' := rfl
      rw [EStateM.bind_error hrefused, EStateM.Result.error?_error, EStateM.Result.state_error,
        askedFor_of_ne_ffi hne, hunlinked]
      exact ⟨.unpassable hunlink hk hne, (List.append_nil _).symm⟩
    | ok k =>
      have hgiven : (ofExcept (.ok k) : EngineM (Libkrun κ) KrunCall) h' = .ok k h' := rfl
      have hcall : Ffi.krun K k h' = .ok (krunCode K k h') _ := rfl
      rw [EStateM.bind_ok hgiven, EStateM.bind_ok hcall, ← hunlinked]
      rcases krunResult_cases c (krunCode K k h') with ⟨hret, henter, r, hr⟩ | ⟨hret, hr⟩
      · rw [hr]
        refine ⟨.returned hunlink hk hret henter, ?_⟩
        show _ ++ [k] = _ ++ (krunCall c).toOption.toList
        rw [hk]
        rfl
      · rw [hr, ← function_of_krunCall hk]
        refine ⟨.refused hunlink hk hret, ?_⟩
        show _ ++ [k] = _ ++ (krunCall c).toOption.toList
        rw [hk]
        rfl

/-! ## A whole launch -/

/-- The steps that were recorded led to the host, libkrun was asked for them, and their outcomes
    tell so, each of the host that the steps before it had led to. -/
def Asks (K : Krun κ) (w w' : World (Libkrun κ)) : Prop :=
  ∃ t, w'.trace = w.trace ++ t ∧ w'.host = afterSteps (afterStep K) w.host t ∧
    w'.host.engine.calls = w.host.engine.calls ++ t.filterMap askedForStep ∧
    Along (afterStep K) (TellsStep K) w.host t

namespace Asks

theorem of_same {w w' : World (Libkrun κ)} (hhost : w'.host = w.host)
    (htrace : w'.trace = w.trace) : Asks K w w' :=
  ⟨[], by rw [htrace, List.append_nil], hhost, by rw [hhost]; simp, trivial⟩

theorem refl (w : World (Libkrun κ)) : Asks K w w :=
  of_same rfl rfl

theorem trans (w w' w'' : World (Libkrun κ)) (h : Asks K w w') (h' : Asks K w' w'') :
    Asks K w w'' := by
  obtain ⟨t, ht, hhost, hcalls, htells⟩ := h
  obtain ⟨t', ht', hhost', hcalls', htells'⟩ := h'
  refine ⟨t ++ t', by rw [ht', ht, List.append_assoc], ?_, ?_, ?_⟩
  · rw [hhost', hhost, afterSteps_append]
  · rw [hcalls', hcalls, List.filterMap_append, List.append_assoc]
  · rw [hhost] at htells'
    exact Along.append_iff.mpr ⟨htells, htells'⟩

theorem call {E : VmEngine (Libkrun κ)} (hE : E = LibkrunEngine.engine K) (c : EngineCall) :
    Keeps (Asks K) (LaunchM.call E c) := by
  intro w
  subst hE
  obtain ⟨htells, hcalls⟩ := run_tells K c w.host
  rw [LaunchM.call_state]
  refine ⟨[(.engine c, ((LibkrunEngine.engine K).run c w.host).error?)], rfl, rfl, ?_,
    htells, trivial⟩
  rw [List.filterMap_cons_toList, List.filterMap_nil, List.append_nil]
  exact hcalls

end Asks

/-- A launch asks libkrun for the steps that it records. -/
theorem launch_asks {b : VmBuilder (VmEngine (Libkrun κ))} (hb : b.engine = LibkrunEngine.engine K)
    (env : Env) (spawner : BridgeSpawner) : Keeps (Asks K) (b.launchWithSpawner env spawner) := by
  refine launch_keeps_steps .refl .trans (Asks.call hb) ?_ ?_ env spawner
  · exact fun w w' hhost htrace => .of_same hhost htrace
  · intro w w' s o hs hhost htrace
    have hengine := (congrArg Host.engine hhost).trans (perform_engine b.engine _ hs)
    rw [hb] at hhost
    -- Libkrun is not asked for a step that is no call
    cases s with
    | engine c => exact absurd rfl (hs c)
    | _ =>
      refine ⟨[(_, o)], htrace, hhost, ?_, trivial, trivial⟩
      rw [hengine]
      exact (List.append_nil _).symm

theorem launchAndEnter_asks {b : VmBuilder (VmEngine (Libkrun κ))}
    (hb : b.engine = LibkrunEngine.engine K) (env : Env) (spawner : BridgeSpawner) :
    Keeps (Asks K) (b.launchAndEnter env spawner) :=
  .bind .trans (launch_asks hb env spawner) fun _ => .forM .refl .trans _ fun _ => .call hb _

/-- Of steps that all made their call, libkrun was asked for every one, in order. -/
theorem mapM_krunCall {t : List (LaunchStep × Option TateruError)}
    (h : ∀ c o, (.engine c, o) ∈ t → ∃ k, krunCall c = .ok k ∧ askedFor c o = some k) :
    ((t.map Prod.fst).filterMap engineCall?).mapM krunCall = .ok (t.filterMap askedForStep) := by
  induction t with
  | nil => rfl
  | cons x t ih =>
    obtain ⟨s, o⟩ := x
    have hrest := ih fun c o' hmem => h c o' (List.mem_cons_of_mem _ hmem)
    cases s with
    | engine c =>
      obtain ⟨k, hk, hasked⟩ := h c o List.mem_cons_self
      have hcall : engineCall? (.engine c) = some c := rfl
      have hstep : askedForStep (.engine c, o) = some k := hasked
      rw [List.map_cons, List.filterMap_cons_some hcall, List.filterMap_cons_some hstep,
        List.mapM_cons, hk, hrest]
      rfl
    | _ =>
      rw [List.map_cons, List.filterMap_cons_none rfl, List.filterMap_cons_none rfl]
      exact hrest

/-- The plan of a launch that enters its VM. -/
def enterPlan (E : VmEngine (Libkrun κ)) (host : Host (Libkrun κ))
    (plan : CtxId → List LaunchStep) : List LaunchStep :=
  afterCreateCtx E host fun ctx => plan ctx ++ [.engine (.startEnter ctx)]

/-- A launch that enters its VM takes the steps of its plan up to the first one that fails. -/
theorem launchAndEnter_stopsAtFirst {b : VmBuilder (VmEngine (Libkrun κ))} {vcpus : VcpuCount}
    {memory : MemoryMib} (hvcpus : b.vcpus = some vcpus) (hmemory : b.memory = some memory)
    (hdisks : b.disks ≠ []) (env : Env) (spawner : BridgeSpawner) (w : World (Libkrun κ)) :
    ∃ t, (b.launchAndEnter env spawner w).state.trace = w.trace ++ t ∧
      StopsAtFirst (enterPlan b.engine w.host (launchPlan b env vcpus memory)) t
        (b.launchAndEnter env spawner w).error? := by
  rw [VmBuilder.launchAndEnter, VmBuilder.launchWithSpawner_of_some hvcpus hmemory hdisks,
    VmBuilder.launchValidated, bind_assoc]
  exact stopsAtFirst_afterCreateCtx b.engine (enter_traced b env spawner vcpus memory) w

/-- A VM is entered at the end of the plan. -/
theorem startEnter_of_enterPlan {E : VmEngine (Libkrun κ)} {host : Host (Libkrun κ)}
    {b : VmBuilder (VmEngine (Libkrun κ))} {env : Env} {vcpus : VcpuCount} {memory : MemoryMib}
    {before after : List LaunchStep} {ctx : CtxId}
    (h : enterPlan E host (launchPlan b env vcpus memory) =
      before ++ .engine (.startEnter ctx) :: after) : after = [] := by
  unfold enterPlan afterCreateCtx at h
  cases hcreate : E.createCtx host with
  | error e host' =>
    rw [hcreate] at h
    have hmem : LaunchStep.engine (.startEnter ctx) ∈ [LaunchStep.engine .createCtx] := by
      rw [h]
      simp
    simp at hmem
  | ok id host' =>
    rw [hcreate] at h
    replace h : (LaunchStep.engine .createCtx :: launchPlan b env vcpus memory id) ++
        [.engine (.startEnter id)] = before ++ .engine (.startEnter ctx) :: after := h
    rcases List.snoc_eq_append_cons_iff.mp h with ⟨-, -, hafter⟩ | ⟨after', hplan, -⟩
    · exact hafter
    -- No step before the last one enters a VM
    · have hmem : LaunchStep.engine (.startEnter ctx) ∈
          LaunchStep.engine .createCtx :: launchPlan b env vcpus memory id := by
        rw [hplan]
        simp
      simp [launchPlan, configurePlan, bridgesPlan, optionsPlan, startPlan] at hmem

/-- An entry of a VM is never recorded as a success, and its failure names it. -/
theorem Tells.of_startEnter {ctx : CtxId} {h : Host (Libkrun κ)} {o : Option TateruError}
    (htells : Tells K h (.startEnter ctx) o) :
    ∃ code, o = some (.ffi "krun_start_enter" code) := by
  generalize hc : EngineCall.startEnter ctx = c at htells
  cases htells with
  | returned hunlink hk hret henter => exact absurd hc.symm (henter ctx)
  | @refused c k h' hunlink hk hret =>
    subst hc
    exact ⟨_, by rw [function_of_krunCall hk]; rfl⟩
  | unpassable hunlink hk hne =>
    subst hc
    cases hk
  | notUnlinked => cases hc

/-- What libkrun was asked for a step that its outcome says it was asked for. -/
theorem Tells.exists_asked {c : EngineCall} {h : Host (Libkrun κ)} {o : Option TateruError}
    (htells : Tells K h c o) (ho : o = none ∨ ∃ function code, o = some (.ffi function code)) :
    ∃ k, krunCall c = .ok k ∧ askedFor c o = some k := by
  cases htells with
  | @returned c k h' hunlink hk hret henter => exact ⟨k, hk, by rw [askedFor, hk]; rfl⟩
  | @refused c k h' hunlink hk hret => exact ⟨k, hk, by rw [askedFor, hk]; rfl⟩
  | unpassable hunlink hk hne =>
    rcases ho with ho | ⟨function, code, ho⟩
    · cases ho
    · exact absurd (Option.some.inj ho) (hne function code)
  | notUnlinked =>
    rcases ho with ho | ⟨function, code, ho⟩
    · cases ho
    · cases ho

/-- Whatever is launched and entered on libkrun ends with an error. -/
theorem error_of_launchAndEnter {b : VmBuilder (VmEngine (Libkrun κ))}
    (hb : b.engine = LibkrunEngine.engine K) (env : Env) (spawner : BridgeSpawner)
    (w : World (Libkrun κ)) : ∃ e, (b.launchAndEnter env spawner w).error? = some e := by
  unfold VmBuilder.launchAndEnter
  cases hlaunch : b.launchWithSpawner env spawner w with
  | error e w' =>
    rw [EStateM.bind_error hlaunch]
    exact ⟨e, rfl⟩
  | ok handle w' =>
    rw [EStateM.bind_ok hlaunch]
    -- The handle holds the thread, which enters
    obtain ⟨ctx, hthread⟩ : ∃ ctx, handle.vmThread = some ⟨ctx⟩ := by
      rcases b.launchWithSpawner_cases env spawner with
        ⟨e, hrefused⟩ | ⟨-, vcpus, memory, -, -, heq⟩
      · rw [hrefused] at hlaunch
        cases hlaunch
      · rw [heq] at hlaunch
        obtain ⟨ctx, w₁, -, hctx⟩ := EStateM.bind_eq_ok_iff.mp hlaunch
        have htraced := launchCtx_traced b env spawner vcpus memory ctx w₁
        rw [hctx] at htraced
        exact ⟨ctx, htraced.1⟩
    rw [hthread]
    change ∃ e, ((LaunchM.call b.engine (.startEnter ctx) >>= fun _ => pure ()) w').error? = some e
    rw [hb]
    obtain ⟨code, hcode⟩ := Tells.of_startEnter (run_tells K (.startEnter ctx) w'.host).1
    cases hrun : (LibkrunEngine.engine K).run (.startEnter ctx) w'.host with
    | ok r host =>
      rw [hrun] at hcode
      cases hcode
    | error e host =>
      rw [EStateM.bind_error (LaunchM.call_error hrun)]
      exact ⟨e, rfl⟩

/-- **A launch on libkrun asks the C library for the plan of its builder, and its errors are
    true.** The steps of the plan are taken in order up to the first one that fails, which there
    always is, since `krun_start_enter` never returns a success. The C functions that were called
    are those of the engine calls taken, each with the arguments of its call, and the outcome of
    each call says what happened on the host that the steps before it had led to: no error is a
    code that is not negative, a libkrun error names the function that was called and carries the
    code that it returned there, and any other error means that it was not called. Once the VM is
    entered, every C call of the plan has been made, in the order of the plan. -/
theorem launch_asks_libkrun [Str.CaseContext] (K : Krun κ) {calls : List BuilderCall}
    {b : VmBuilder (VmEngine (Libkrun κ))}
    (hb : (VmBuilder.new (LibkrunEngine.engine K)).build calls = .ok b) {vcpus : VcpuCount}
    {memory : MemoryMib} (hvcpus : lastOf vcpus? calls = some vcpus)
    (hmemory : lastOf memory? calls = some memory) (hdisks : calls.filterMap disk? ≠ [])
    (env : Env) (spawner : BridgeSpawner) (w : World (Libkrun κ)) :
    let plan := enterPlan (LibkrunEngine.engine K) w.host
      (launchPlan (ofCalls (LibkrunEngine.engine K) calls) env vcpus memory)
    let w' := (b.launchAndEnter env spawner w).state
    ∃ t e, (b.launchAndEnter env spawner w).error? = some e ∧
      w'.trace = w.trace ++ t ∧ StopsAtFirst plan t (some e) ∧
      w'.host = afterSteps (afterStep K) w.host t ∧
      w'.host.engine.calls = w.host.engine.calls ++ t.filterMap askedForStep ∧
      Along (afterStep K) (TellsStep K) w.host t ∧
      ∀ ctx o, (.engine (.startEnter ctx), o) ∈ t →
        (∃ code, e = .ffi "krun_start_enter" code) ∧
        (plan.filterMap engineCall?).mapM krunCall = .ok (t.filterMap askedForStep) := by
  intro plan w'
  obtain ⟨-, rfl⟩ := build_eq_ok_iff.mp hb
  have hengine : (ofCalls (LibkrunEngine.engine K) calls).engine = LibkrunEngine.engine K := rfl
  obtain ⟨t, htrace, hstops⟩ := launchAndEnter_stopsAtFirst
    (b := ofCalls (LibkrunEngine.engine K) calls) hvcpus hmemory hdisks env spawner w
  obtain ⟨e, he⟩ := error_of_launchAndEnter hengine env spawner w
  obtain ⟨t', htrace', hhost, hcalls, htells⟩ := launchAndEnter_asks hengine env spawner w
  obtain rfl := List.append_cancel_left (htrace'.symm.trans htrace)
  rw [he] at hstops
  refine ⟨t', e, he, htrace, hstops, hhost, hcalls, htells, ?_⟩
  intro ctx o hmem
  obtain ⟨h, hentered⟩ := htells.exists_of_mem hmem
  obtain ⟨code, rfl⟩ := Tells.of_startEnter hentered
  -- A step with an error is the last one that was taken
  obtain ⟨before, s, after, hplan, ht⟩ := hstops.exists_failed
  have hlast : s = .engine (.startEnter ctx) ∧ e = .ffi "krun_start_enter" code := by
    rw [ht, List.mem_append, List.mem_singleton] at hmem
    rcases hmem with hmem | hmem
    · simp at hmem
    · obtain ⟨hs, he'⟩ := Prod.mk.inj hmem
      exact ⟨hs.symm, (Option.some.inj he').symm⟩
  obtain ⟨rfl, rfl⟩ := hlast
  obtain rfl := startEnter_of_enterPlan hplan
  refine ⟨⟨code, rfl⟩, ?_⟩
  have hall : plan = t'.map Prod.fst := by
    refine Eq.trans hplan ?_
    rw [ht]
    simp [Function.comp_def]
  rw [hall]
  apply mapM_krunCall
  intro c o hmem'
  obtain ⟨h', hcalled⟩ := htells.exists_of_mem hmem'
  apply Tells.exists_asked hcalled
  rw [ht, List.mem_append, List.mem_singleton] at hmem'
  rcases hmem' with hmem' | hmem'
  · simp at hmem'
    exact Or.inl hmem'.2.symm
  · exact Or.inr ⟨_, code, (Prod.mk.inj hmem').2⟩

end

/-- A VM with a disk and a bridge on a libkrun that refuses nothing but its entry. -/
theorem launch_asks_libkrun_entered :
    letI : Str.CaseContext := ⟨fun _ _ => false⟩
    let K : Krun Unit := fun c h => (if c = .startEnter 0 then -22 else 0, h)
    let calls : List BuilderCall :=
      [.cpus 2, .memoryMib ⟨1024⟩, .disk ⟨.ofString "/vm.raw", .raw, false⟩, .vsockBridge 31122 22]
    let env : Env := ⟨.ofString "/tmp", none⟩
    let w : World (Libkrun Unit) :=
      .new ⟨⟨(), []⟩, .ofDirs [[], [(PathBuf.ofString "tmp").bytes]]⟩
    let b := ofCalls (LibkrunEngine.engine K) calls
    (VmBuilder.new (LibkrunEngine.engine K)).build calls = .ok b ∧
    (b.launchAndEnter env tokioBridgeSpawner w).error? = some (.ffi "krun_start_enter" (-22)) ∧
    ((enterPlan (LibkrunEngine.engine K) w.host
      (launchPlan b env ⟨2⟩ ⟨1024⟩)).filterMap engineCall?).mapM krunCall =
        .ok (b.launchAndEnter env tokioBridgeSpawner w).state.host.engine.calls := by
  intro K calls env w b
  let context : Str.CaseContext := ⟨fun _ _ => false⟩
  have hbuild : (VmBuilder.new (LibkrunEngine.engine K)).build calls = .ok b := rfl
  have herror : (b.launchAndEnter env tokioBridgeSpawner w).error? =
      some (.ffi "krun_start_enter" (-22)) := by
    decide +kernel
  obtain ⟨t, e, he, htrace, hstops, -, hcalls, -, hentered⟩ :=
    launch_asks_libkrun K hbuild (show _ = some ⟨2⟩ from rfl) (show _ = some ⟨1024⟩ from rfl)
      (by simp [calls, disk?]) env tokioBridgeSpawner w
  have hmem : (LaunchStep.engine (.startEnter ⟨0⟩), some (.ffi "krun_start_enter" (-22))) ∈ t := by
    have hlast : (LaunchStep.engine (.startEnter ⟨0⟩), some (.ffi "krun_start_enter" (-22))) ∈
        (b.launchAndEnter env tokioBridgeSpawner w).state.trace := by
      decide +kernel
    rw [htrace] at hlast
    simpa [w, World.new] using hlast
  refine ⟨hbuild, herror, ?_⟩
  rw [hcalls]
  exact (hentered _ _ hmem).2

end Tateru.Spec
