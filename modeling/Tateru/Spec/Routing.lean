import Tateru.Spec.Connections
import Tateru.Spec.KrunLaunch
import Tateru.Spec.LaunchRefines

/-!
# From a host port to a guest port

What a client sends to the host port of a bridge goes through the socket of its working directory
into the guest. Three parts have to agree on that socket: the call that registers it with
libkrun, the bridge task that is spawned, and the connections that the task spawns later.

## Key results

- `registered_of_launch`: what libkrun was asked for a bridge
- `clients_reach_guests`: every connection of every run after a launch
-/

namespace Tateru.Spec

variable {κ : Type} {K : Krun κ}

/-- A launch that returns a handle has asked libkrun to listen on the socket of each bridge. -/
theorem registered_of_launch {b : VmBuilder (VmEngine (Libkrun κ))}
    (hb : b.engine = LibkrunEngine.engine K) {env : Env} {host : Host (Libkrun κ)}
    {w' : World (Libkrun κ)} {handle : VmHandle} (h : b.launch env (.new host) = .ok handle w')
    {ctx : CtxId} {br : BridgeRequest}
    (hregistered : (.engine (.addVsockPort ctx (bridgePort env ctx br)), none) ∈ w'.trace) :
    ∃ filepath, Ffi.pathToCstring (bridgeConfig env ctx br).socketPath = .ok filepath ∧
      .addVsockPort2 ctx.raw br.guestPort.raw filepath true ∈ w'.host.engine.calls := by
  obtain ⟨t, htrace, -, hcalls, htells⟩ := launch_asks hb env tokioBridgeSpawner (.new host)
  rw [show b.launchWithSpawner env tokioBridgeSpawner (.new host) = .ok handle w' from h,
    EStateM.Result.state_ok] at htrace hcalls
  rw [show (World.new host).trace = [] from rfl, List.nil_append] at htrace
  rw [htrace] at hregistered
  obtain ⟨h', hcalled⟩ := htells.exists_of_mem hregistered
  obtain ⟨k, hk, hasked⟩ := Tells.exists_asked hcalled (Or.inl rfl)
  obtain ⟨filepath, hpath, hcall⟩ := Except.bind_eq_ok_iff.mp hk
  cases hcall
  refine ⟨filepath, hpath, ?_⟩
  rw [hcalls]
  exact List.mem_append_right _ (List.mem_filterMap.mpr ⟨_, hregistered, hasked⟩)

/-- **Clients reach the guest port of their bridge.** After a launch on libkrun, whatever the VM and
    its owner do, and whatever connects: each connection that the bridge at a place of the builder
    accepts goes to a socket on which libkrun was asked to listen for the guest port of that
    bridge, and what the client and the guest get of each other is a first part of what the
    other one sends. -/
theorem clients_reach_guests {b : VmBuilder (VmEngine (Libkrun κ))}
    (hb : b.engine = LibkrunEngine.engine K) {env : Env} {host : Host (Libkrun κ)}
    {w' : World (Libkrun κ)} {handle : VmHandle}
    (h : b.launch env (.new host) = .ok handle w') :
    ∃ ctx, handle.workdir = env.workdir ctx ∧
      (∃ s, Run VmSystem.step (.launch (b.bridges.map (bridgeConfig env ctx)))
          (List.replicate b.bridges.length .spawnBridge ++ [.spawnThread true]) s ∧
        w'.channel = some s.chan ∧ w'.bridges = s.bridges) ∧
      ∀ as s, Run VmSystem.step (.launch (b.bridges.map (bridgeConfig env ctx))) as s →
        List.Forall₂ (fun spawned c => ∃ br filepath, b.bridges[spawned.1]? = some br ∧
            Ffi.pathToCstring c.socketPath = .ok filepath ∧
            .addVsockPort2 ctx.raw br.guestPort.raw filepath true ∈ w'.host.engine.calls ∧
            c.tcpToUnix.written <+: spawned.2.1 ∧ c.unixToTcp.written <+: spawned.2.2)
          (as.filterMap spawned?) s.conns := by
  obtain ⟨ctx, host', -, hworkdir, -, hchannel, hbridges, hregistered⟩ := launch_ok h
  refine ⟨ctx, hworkdir, ?_, ?_⟩
  · have hspawn := spawnBridges_steps (.launch (b.bridges.map (bridgeConfig env ctx))) _ rfl
    rw [List.length_map] at hspawn
    exact ⟨_, Run.snoc_iff.mpr ⟨_, hspawn, rfl⟩, hchannel, hbridges⟩
  · intro as s hrun
    refine (serves_of_run hrun).imp fun spawned c hserves => ?_
    obtain ⟨config, hconfig, hsocket⟩ := Option.map_eq_some_iff.mp hserves.socket
    rw [List.getElem?_map] at hconfig
    obtain ⟨br, hbr, rfl⟩ := Option.map_eq_some_iff.mp hconfig
    obtain ⟨filepath, hpath, hcall⟩ :=
      registered_of_launch hb h (hregistered br (List.mem_of_getElem? hbr))
    rw [hsocket] at hpath
    exact ⟨br, filepath, hbr, hpath, hcall, hserves.written_prefix .tcpToUnix,
      hserves.written_prefix .unixToTcp⟩

/-- A client that has sent a byte over the bridge to the guest port 22. -/
theorem clients_reach_guests_byte :
    let K : Krun Unit := fun _ h => (0, h)
    let b : VmBuilder (VmEngine (Libkrun Unit)) :=
      { VmBuilder.new (LibkrunEngine.engine K) with
        vcpus := some ⟨1⟩, memory := some ⟨1024⟩, bridges := [⟨31122, ⟨22⟩⟩]
        disks := [⟨.ofString "/vm.raw", .raw, false⟩] }
    let env : Env := ⟨.ofString "/tmp", none⟩
    let host : Host (Libkrun Unit) :=
      ⟨⟨(), []⟩, .ofDirs [[], [(PathBuf.ofString "tmp").bytes]]⟩
    let actions : List VmAction := [.spawnBridge, .spawnThread true, .bridge 0 (.bind true),
      .bridge 0 (.accept true), .spawnConn 0 [1, 2] [3], .conn 0 (.connect true),
      .conn 0 (.send .tcpToUnix 2), .conn 0 (.read .tcpToUnix 2), .conn 0 (.write .tcpToUnix 1)]
    ∃ handle w', b.launch env (.new host) = .ok handle w' ∧ ∃ ctx s c filepath,
      Run VmSystem.step (.launch (b.bridges.map (bridgeConfig env ctx))) actions s ∧
      s.conns = [c] ∧ c.tcpToUnix.written = [1] ∧ Ffi.pathToCstring c.socketPath = .ok filepath ∧
      .addVsockPort2 ctx.raw 22 filepath true ∈ w'.host.engine.calls := by
  intro K b env host actions
  have hlaunch : (b.launch env (.new host)).error? = none := by decide +kernel
  cases h : b.launch env (.new host) with
  | error e w' =>
    rw [h] at hlaunch
    cases hlaunch
  | ok handle w' =>
    obtain ⟨ctx, -, -, hall⟩ := clients_reach_guests (K := K) rfl h
    have hrun := Run.get VmSystem.step (.launch (b.bridges.map (bridgeConfig env ctx))) actions rfl
    obtain ⟨⟨br, filepath, hbr, hpath, hcall, -⟩, -⟩ := List.forall₂_cons.mp (hall actions _ hrun)
    obtain rfl : _ = br := Option.some.inj hbr
    exact ⟨handle, w', rfl, ctx, _, _, filepath, hrun, rfl, rfl, hpath, hcall⟩

end Tateru.Spec
