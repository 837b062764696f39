/-
The shutdown of a script is one life of a service among others: what it waits for is around
the agent, and what it does in between are moves.
-/
import CapabilityMesh.Proofs.Simulation.Farewell
import CapabilityMesh.Proofs.Simulation.Waiting

namespace CapabilityMesh

namespace Simulation

namespace Service

/-- Whether moves lead from one service to another. -/
def Leads (s next : Service) : Prop :=
  ∃ moves : List ServiceMove, next = moves.foldl step s

theorem Leads.trans {s mid next : Service} (hfirst : Leads s mid) (hsecond : Leads mid next) :
    Leads s next := by
  obtain ⟨moves, rfl⟩ := hfirst
  obtain ⟨more, rfl⟩ := hsecond
  exact ⟨moves ++ more, by rw [List.foldl_append]⟩

theorem Leads.move (s : Service) (move : ServiceMove) : Leads s (s.step move) :=
  ⟨[move], rfl⟩

theorem Leads.around (s : Service) {next : World} (hnext : World.Follows s.world next) :
    Leads s { s with world := next } := by
  obtain ⟨choices, hchoices, rfl⟩ := hnext
  induction choices generalizing s with
  | nil => exact ⟨[], rfl⟩
  | cons choice choices ih =>
      have hstep : s.step (.goOn choice) = { s with world := s.world.choose choice } := by
        rw [step, if_pos (hchoices choice List.mem_cons_self)]
      have hfirst : Leads s { s with world := s.world.choose choice } := hstep ▸ Leads.move s _
      exact hfirst.trans (ih { s with world := s.world.choose choice }
        fun other hother => hchoices other (List.mem_cons_of_mem choice hother))

/-- A script that shuts an agent down makes moves of a service only. -/
theorem leads_shutDown (s : Service) (hw : s.world.Orderly) (hstage : s.stage = .running)
    {slot : AgentSlot} (hslot : s.world.slot? s.agent = some slot)
    (hloop : slot.loop = some s.loop) :
    ∃ next, Leads s next ∧ next.world = s.world.shutDown slot s.loop := by
  obtain ⟨world, agent, loop, stage⟩ := s
  obtain rfl : stage = .running := hstage
  obtain ⟨hmem, rfl⟩ := World.slot?_mem hslot
  let dropped := world.putSlot { slot with loop := none }
  have hdropped : dropped.Orderly := hw.putSlot hmem rfl
  have hasked : step ⟨world, slot.id, loop, .running⟩ .shutDown =
      ⟨dropped.askToStop loop, slot.id, loop, .stopping⟩ := by
    rw [step, World.choose, World.withSlot, hslot]
    simp only [World.dropLoop, hloop]
    rfl
  obtain ⟨waited, hwaited, hstopped⟩ :=
    World.stopLoop_follows hdropped loop slot.agent.policy.shutdownGrace
  have hgone : (waited.cancel loop).Orderly :=
    (hwaited.orderly (hdropped.askToStop loop)).cancel loop
  have hceased : Leads ⟨world, slot.id, loop, .running⟩
      ⟨(waited.cancel loop).choose (.deregister slot.id), slot.id, loop,
        .leaving (waited.cancel loop).nextId⟩ := by
    have hstopping := hasked ▸ Leads.move ⟨world, slot.id, loop, .running⟩ .shutDown
    have hwaiting := hstopping.trans (Leads.around _ hwaited)
    exact hwaiting.trans (Leads.move _ .cease)
  rw [World.shutDown, hstopped]
  split
  · rename_i there hthere
    obtain ⟨-, hid⟩ := World.slot?_mem hthere
    have hown : (waited.cancel loop).slot? there.id = some there := by
      rw [hid]
      exact hthere
    obtain ⟨answered, hanswered, hleft⟩ :=
      World.leave_follows hgone hown slot.agent.policy.shutdownGrace
    rw [hid] at hanswered
    have hanswering := hceased.trans (Leads.around _ hanswered)
    have hquit := hanswering.trans (Leads.move _ .quit)
    exact ⟨_, hquit.trans (Leads.around _ hleft), rfl⟩
  · rename_i hthere
    refine ⟨_, hceased, ?_⟩
    simp only [World.choose, World.withSlot, hthere]

end Service

end Simulation

end CapabilityMesh
