/-
Scripts at work: what every step does, and what it answers.
-/
import CapabilityMesh.Simulation.Shutdown

namespace CapabilityMesh

namespace Simulation

namespace World

def valueOf? (w : World) : ScriptValue → Option Value
  | .given value => some value
  | .saved name => w.saved.lookup name

/-- The overrides that a script means.  What was not saved counts as no
value. -/
def overridesOf (w : World) (overrides : ScriptOverrides) : CallOverrides :=
  overrides.foldl
    (fun set (parameter, value) => set.set parameter (value.bind w.valueOf?)) []

/-- Put a handle under a name; an older one is dropped. -/
def nameHandle (w : World) (name : String) (key : FunctionKey) : World :=
  let old := w.handles.lookup name
  let w := { w with handles := setNamed w.handles name key }
  match old with
  | some old => { w with heap := w.heap.dropHandle old }
  | none => w

/-- Put a value under a name; an older one is dropped. -/
def nameValue (w : World) (name : String) (value : Value) : World :=
  let old := w.saved.lookup name
  let w := { w with saved := setNamed w.saved name value, heap := w.heap.holdValue value }
  match old with
  | some old => { w with heap := w.heap.dropValue old }
  | none => w

def wrap (w : World) (handle : String) (tool : Tool) (mode : CallMode)
    (takes : ArgumentKind) (behaviour : Behaviour) (owned : List String) :
    World × StepResult :=
  let keys := owned.filterMap fun name => w.handles.lookup name
  let (heap, key) := w.heap.wrap tool mode takes keys
  let w := { w with heap := heap, behaviours := w.behaviours ++ [(key, behaviour)] }
  (w.nameHandle handle key, .key key)

/-- Begin the call of a function.  A call that is not to be waited for is over at
once. -/
def beginCall (w : World) (code : FunctionCode) (argument : Argument)
    (overrides : ScriptOverrides) : World × Work :=
  let overrides := w.overridesOf overrides
  match code.mode, code.takes with
  | .awaitable, .text =>
      let (w, frame) := w.openFrame code argument.asText overrides
      (w, .call [frame])
  | _, _ =>
      (w, .finished (.report (reportBlocking w.heap w.behaviours code
        (w.heap.dependencies code overrides) argument)))

def call (w : World) (code : FunctionCode) (argument : Argument)
    (overrides : ScriptOverrides) : World × StepResult :=
  let (w, work) := w.beginCall code argument overrides
  let (w, task) := w.addTask work
  w.await task

/-- Call a saved value as a function of a mode that takes an argument of a
kind.  The call needs a handle of its own. -/
def callSaved (w : World) (name : String) (argument : Argument) (mode : CallMode)
    (takes : ArgumentKind) (overrides : ScriptOverrides) : World × StepResult :=
  match w.saved.lookup name with
  | some (.inProcess l) =>
      match w.heap.code? l.key with
      | some code =>
          if w.heap.fits l mode takes then
            let (w, result) :=
              { w with heap := w.heap.holdHandle l.key }.call code argument overrides
            ({ w with heap := w.heap.dropHandle l.key }, result)
          else (w, .nothing)
      | none => (w, .nothing)
  | _ => (w, .word "not local")

/-- What a task has come to.  A result is told once. -/
def report (w : World) (job : String) : World × StepResult :=
  match w.jobs.lookup job with
  | none => (w, .word "unknown")
  | some task =>
      match w.result? task with
      | some result =>
          ({ w.eraseTask task with jobs := eraseNamed w.jobs job }, .done result)
      | none => (w, .word "pending")

def nameTask (w : World) (job : String) (task : Nat) : World × StepResult :=
  { w with jobs := setNamed w.jobs job task }.settle.report job

/-- Break a task off that is not over yet. -/
def cancelJob (w : World) (job : String) : World × StepResult :=
  match w.jobs.lookup job with
  | none => (w, .word "unknown")
  | some task =>
      if (w.result? task).isSome then w.report job
      else ({ w.cancel task with jobs := eraseNamed w.jobs job }, .word "cancelled")

def withCode (w : World) (handle : String)
    (act : FunctionCode → World × StepResult) : World × StepResult :=
  match (w.handles.lookup handle).bind w.heap.code? with
  | some code => act code
  | none => (w, .nothing)

def withValue (w : World) (value : ScriptValue) (act : Value → World × StepResult) :
    World × StepResult :=
  match w.valueOf? value with
  | some value => act value
  | none => (w, .word "no value")

/-- Create an agent under a name.  An older one of that name is let go. -/
def create (w : World) (name : String) (identity : AgentIdentity)
    (policy : HeartbeatPolicy) (answers : Answers) : World × StepResult :=
  let w := match w.slotNamed? name with
    | some old => (w.putSlot { old with isHeld := false }).dropLoop { old with isHeld := false }
    | none => w
  let slot : AgentSlot := { id := w.nextId, name, agent := .create identity policy, answers }
  ({ w with
      slots := w.slots ++ [slot]
      agents := setNamed w.agents name w.nextId
      nextId := w.nextId + 1 },
    .agent identity policy w.heap.injector.functions.length)

def actOnAgent (w : World) (slot : AgentSlot) : AgentAction → World × StepResult
  | .register =>
      let (w, task) := w.beginTask slot.id fun w task => w.beginRegister slot task
      w.await task
  | .tick =>
      let (w, task) := w.beginTask slot.id fun w task => w.beginTick slot task
      w.await task
  | .deregister =>
      let (w, task) := w.beginTask slot.id fun w _ => w.beginDeregister slot
      w.await task
  | .build =>
      let (agent, heap, request) := slot.agent.buildRequest w.heap w.timestamp
      ({ w with heap := heap }.putSlot { slot with agent := agent }, .request request)
  | .changed => (w, .flag (slot.agent.declarationsChanged w.heap))
  | .unresolved => (w, .slots (Agent.unresolvedRequired w.heap))
  | .look => (w, .itself)
  | .drop => (w.putSlot { slot with isHeld := false }, .nothing)
  | .start => (w.startLoop slot, .flag true)
  | .beginRegister job =>
      let (w, task) := w.beginTask slot.id fun w task => w.beginRegister slot task
      w.nameTask job task
  | .beginTick job =>
      let (w, task) := w.beginTask slot.id fun w task => w.beginTick slot task
      w.nameTask job task
  | .beginDeregister job =>
      let (w, task) := w.beginTask slot.id fun w _ => w.beginDeregister slot
      w.nameTask job task
  | .prepare | .isFinished | .shutdown | .dropLoop => (w, .nothing)

def actOnLoop (w : World) (slot : AgentSlot) (action : AgentAction) : World × StepResult :=
  match action, slot.loop with
  | .isFinished, some loop => (w, .flag (w.loopEnd? loop).isSome)
  | .shutdown, some loop => (w.shutDown slot loop, .flag true)
  | .dropLoop, some _ => (w.dropLoop slot, .flag true)
  | .dropLoop, none => (w, .flag false)
  | _, _ => (w, .nothing)

/-- Act on an agent, after answers were prepared for it. -/
def onAgent (w : World) (name : String) (answers : Answers) (action : AgentAction) :
    World × StepResult :=
  match w.slotNamed? name with
  | none => (w, .nothing)
  | some slot =>
      let slot := { slot with answers := slot.answers.add answers }
      let w := w.putSlot slot
      match action with
      | .isFinished | .shutdown | .dropLoop => w.actOnLoop slot action
      | _ => if slot.isHeld then w.actOnAgent slot action else (w, .nothing)

def needsInjector : Step → Bool
  | .wrap .. | .register .. | .unregister .. | .registerFor .. | .unregisterFor ..
  | .get .. | .lookUp .. | .dependents .. | .tools | .describe | .store .. | .take ..
  | .look .. | .clearOwn .. | .keys | .findLocal .. | .create .. => true
  | _ => false

/-- What a step does, with an injector if it needs one. -/
def perform (w : World) : Step → World × StepResult
  | .wrap handle tool mode takes behaviour owned =>
      w.wrap handle tool mode takes behaviour owned
  | .clone handle copy =>
      match w.handles.lookup handle with
      | some key => ({ w with heap := w.heap.holdHandle key }.nameHandle copy key, .nothing)
      | none => (w, .nothing)
  | .drop handle =>
      match w.handles.lookup handle with
      | some key =>
          ({ w with
              handles := eraseNamed w.handles handle
              heap := w.heap.dropHandle key },
            .flag true)
      | none => (w, .flag false)
  | .call handle argument overrides =>
      w.withCode handle fun code => w.call code argument overrides
  | .resolve handle overrides =>
      w.withCode handle fun code =>
        let set := w.overridesOf overrides
        (w, .resolved (showDependencies w.heap (w.heap.dependencies code set)) set.isEmpty)
  | .inspect handle => w.withCode handle fun code => (w, .function code)
  | .register capability value =>
      w.withValue value fun value =>
        ({ w with heap := w.heap.register capability value }, .nothing)
  | .unregister capability =>
      let (heap, found) := w.heap.unregister capability
      ({ w with heap := heap }, .flag found)
  | .registerFor function capability value =>
      w.withValue value fun value =>
        ({ w with heap := w.heap.registerFor function capability value }, .nothing)
  | .unregisterFor function capability =>
      let (heap, found) := w.heap.unregisterFor function capability
      ({ w with heap := heap }, .flag found)
  | .get capability =>
      (w, .value ((w.heap.injector.table.get? (.shared capability)).map (showValue w.heap)))
  | .lookUp function capability =>
      (w, .value ((w.heap.injector.resolve function capability).map (showValue w.heap)))
  | .dependents capability => (w, .names (w.heap.injector.functionsNeeding capability))
  | .tools => (w, .tools w.heap.injector.declaredTools)
  | .describe => (w, .word w.heap.injector.describe)
  | .store key value =>
      w.withValue value fun value =>
        let (heap, old) := w.heap.store key value
        ({ w with heap := heap.dropValues old.toList }, .value (old.map (showValue heap)))
  | .take key =>
      let (heap, old) := w.heap.take key
      ({ w with heap := heap.dropValues old.toList }, .value (old.map (showValue heap)))
  | .look key =>
      (w, .entry key.capability ((w.heap.injector.table.get? key).map (showValue w.heap)))
  | .clearOwn function =>
      let (heap, count) := w.heap.clearOwn function
      ({ w with heap := heap }, .count count)
  | .keys => (w, .keys w.heap.injector.table.keys)
  | .findLocal capability function name =>
      match w.heap.injector.localCapability? capability function with
      | some l =>
          let shown := StepResult.value (some (showValue w.heap (.inProcess l)))
          match name with
          | some name => (w.nameValue name (.inProcess l), shown)
          | none => (w, shown)
      | none => (w, .value none)
  | .showSaved name => (w, .value ((w.saved.lookup name).map (showValue w.heap)))
  | .dropSaved name =>
      match w.saved.lookup name with
      | some value =>
          ({ w with saved := eraseNamed w.saved name, heap := w.heap.dropValue value },
            .flag true)
      | none => (w, .flag false)
  | .callSaved name argument mode takes overrides =>
      w.callSaved name argument mode takes overrides
  | .dropInjector => ({ w with hasInjector := false }, .nothing)
  | .create name identity policy answers => w.create name identity policy answers
  | .onAgent name answers action => w.onAgent name answers action
  | .beginCall handle argument overrides job =>
      w.withCode handle fun code =>
        let (w, work) := w.beginCall code argument overrides
        let (w, task) := w.addTask work
        w.nameTask job task
  | .poll job => w.settle.report job
  | .cancel job => w.cancelJob job
  | .closeGate name => ({ w with gates := name :: w.gates.erase name }, .nothing)
  | .openGate name => ({ w with gates := w.gates.erase name }, .nothing)
  | .sleep milliseconds => (w.sleep milliseconds, .nothing)

/-- The injector in figures, while the application has it. -/
def standing? (w : World) : Option Standing :=
  if w.hasInjector then
    let i := w.heap.injector
    some ⟨i.functions.length, i.generation, i.table.length⟩
  else none

/-- Show the state of an agent.  Payloads are numbered as they come up. -/
def showAgent (w : World) (name : String) : World × Option (AgentState × Option Nat) :=
  match w.slotNamed? name with
  | none => (w, none)
  | some slot =>
      if slot.isHeld then
        match slot.agent.state.lastPayload with
        | none => (w, some (slot.agent.state, none))
        | some payload =>
            let w :=
              if w.payloads.contains payload then w
              else { w with payloads := w.payloads ++ [payload] }
            (w, some (slot.agent.state, w.payloads.idxOf? payload))
      else (w, none)

def agentOf? : Step → Option String
  | .onAgent name _ _ => some name
  | _ => none

/-- Take a step.  Then every task runs until it waits. -/
def step (w : World) (s : Step) : World × StepAnswer :=
  let (w, result) :=
    if needsInjector s && !w.hasInjector then (w, .word "no injector") else w.perform s
  let w := w.settle.releaseInjector
  let (w, agent) := match agentOf? s with
    | some name =>
        let (w, shown) := w.showAgent name
        (w, some shown)
    | none => (w, none)
  ({ w with events := [] },
    { result, standing := w.standing?, agent, time := w.now
      events := w.events.reverse.mergeSort Event.notAfter })

/-- The end of a script.  The application lets go of everything: first of the
injector, then of its handles and values in the order of their names, and last
of its agents and tasks. -/
def finish (w : World) : World :=
  let w := { w with hasInjector := false }.releaseInjector
  let handles := w.handles.mergeSort fun a b => a.1 ≤ b.1
  let w := handles.foldl
    (fun w entry => { w with heap := w.heap.dropHandle entry.2 }) w
  let saved := w.saved.mergeSort fun a b => a.1 ≤ b.1
  let w := saved.foldl (fun w entry => { w with heap := w.heap.dropValue entry.2 }) w
  let slots := w.slots.map fun slot => { slot with isHeld := false, loop := none }
  let w := { w with slots := slots }
  (w.tasks.foldl (fun w task => w.cancel task.id) w).releaseInjector

/-- Take steps, one after the other. -/
def steps : World → List Step → World × List StepAnswer
  | w, [] => (w, [])
  | w, s :: rest =>
      let (w, answer) := w.step s
      let (w, answers) := w.steps rest
      (w, answer :: answers)

end World

/-- Play a script from its beginning to its end.  The result is the answers of
its steps and the lines logged.  There is none if a step never ends. -/
def play (script : List Step) : Option (List StepAnswer × Log) :=
  let (w, answers) := World.steps {} script
  let heap := w.finish.heap
  if heap.isStuck then none else some (answers, heap.log)

end Simulation

end CapabilityMesh
