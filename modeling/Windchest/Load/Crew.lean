/-
# Windchest.Load.Crew -- loading from sample files on several threads

A crew is a driver and any number of workers.  All of them fetch objects and load
them; they share the distributor, the arena and a channel.  Workers send what
became of an object down the channel; the driver alone talks to the reporter, for
its own objects and for those of the workers, and it alone hears of a cancellation.

Each worker has a sender of the channel, and so has the driver, which made the others from
its own.  A thread drops its sender when nothing is left to fetch.  From then on the driver
receives; the channel tells it that it is closed once it is empty and no sender is left.
Nobody looks at what the other threads do.

What the threads share is a workbench.  `Crew.step` is one atomic step of one thread: a look
at the abort flag, the locked advance of the cursor, a single reservation, commit or return
of a buffer, a single event, the drop of a sender.  A thread that cannot move now has no
step.  Any order of steps is a run; `Crew.run` takes the threads in turn.

Every step does some of the `work` that is left, which bounds the length of a run.
-/
import Windchest.Load.Distributor
import Windchest.Load.Report
import Windchest.Object.Loadable

namespace Windchest

set_option autoImplicit false

/-- What became of an object. -/
inductive LoadEvent where
  | loaded (title : String)
  | failed (failure : LoadFailure) (outOfMemory : Bool)
deriving DecidableEq, Repr

namespace LoadEvent

/-- The title of the object. -/
def title : LoadEvent → String
  | loaded title => title
  | failed failure _ => failure.title

/-- The failure, if it is one. -/
def failure? : LoadEvent → Option LoadFailure
  | loaded _ => none
  | failed failure _ => some failure

/-- Whether the arena had no room for the object. -/
def isOutOfMemory : LoadEvent → Bool
  | loaded _ => false
  | failed _ outOfMemory => outOfMemory

end LoadEvent

namespace Setback

/-- What the user reads about an object that was not loaded from its files. -/
def message : Setback LoadError → String
  | outOfMemory why => why.message
  | error e => e.message
  | fault f => "panicked while loading: " ++ f.text.getD "unknown panic"

/-- Whether the arena had no room. -/
def isOutOfMemory {ε : Type} : Setback ε → Bool
  | outOfMemory _ => true
  | _ => false

end Setback

/-- What a thread is about to do. -/
inductive Task (α : Type) where
  /-- Look whether the load was aborted. -/
  | checking
  /-- Take an index from the cursor, as soon as nobody else holds the lock on it. -/
  | claiming
  /-- Count the object as handed out and let go of the lock. -/
  | publishing (index : Nat) (plan : Plan α LoadError)
  /-- Reserve the next block of the object's plan. -/
  | reserving (index : Nat) (plan : Plan α LoadError) (held : List Buffer) (demands : List Demand)
  /-- Commit the next buffer, behind those that are blocks already. -/
  | committing (index : Nat) (install : List BlockId → α) (blocks : List BlockId) (held : List Buffer)
  /-- Give back the next buffer of an object that is not loaded. -/
  | dropping (index : Nat) (object : α) (why : Setback LoadError) (held : List Buffer)
  /-- Tell the distributor what became of the object. -/
  | recording (event : LoadEvent)
  /-- Tell the driver. -/
  | sending (event : LoadEvent)
  /-- Drop the sender, since nothing is left to fetch. -/
  | stopped
  /-- Nothing any more. -/
  | gone

/-- What the driver is about to do. -/
inductive Driver (α : Type) where
  /-- Load objects as a worker does.  Only behind the `pending` object it does not drain the channel. -/
  | working (pending : Bool) (task : Task α)
  /-- Handle the events that are in the channel. -/
  | draining
  /-- Abort the load, since the reporter cancelled it, and then go on. -/
  | aborting (next : Driver α)
  /-- Handle events until the channel is closed. -/
  | receiving
  /-- Nothing any more. -/
  | finished

/-- What the threads of a crew share while they load objects. -/
structure Workbench (α : Type) where
  /-- How to load each object. -/
  plans : List (Plan α LoadError)
  objects : List α
  arena : Arena
  distributor : Distributor
  /-- The attempts to load an object that have ended, in that order. -/
  attempts : List (Attempt LoadError) := []

/-- A driver and its workers. -/
structure Crew (α : Type) extends Workbench α where
  report : Reporter
  trace : List Progress
  driver : Driver α
  workers : List (Task α)
  channel : List LoadEvent := []
  /-- The number of senders of the channel that have not been dropped. -/
  senders : Nat
  failures : List LoadFailure := []
  outOfMemory : Bool := false
  cancelled : Bool := false

/-- One step of a thread that loads objects.  What it does with the channel is its owner's matter. -/
def Workbench.advance {α : Type} [Loadable α] (b : Workbench α) :
    Task α → Option (Task α × Workbench α)
  | .checking => some (if b.distributor.aborted then .stopped else .claiming, b)
  | .claiming =>
    if b.distributor.Free then
      match b.distributor.claim with
      | (none, _) => some (.stopped, b)
      | (some i, d) => (b.plans[i]?).map fun plan => (.publishing i plan, { b with distributor := d })
    else none
  | .publishing i plan =>
    some (.reserving i plan [] plan.demands, { b with distributor := b.distributor.publish })
  | .reserving i plan held [] =>
    match plan.verdict with
    | .ok install => some (.committing i install [] held, b)
    | .error why => some (.dropping i plan.started why.toSetback held, b)
  | .reserving i plan held (d :: rest) =>
    match b.arena.place d.contents with
    | (.granted buffer, a) => some (.reserving i plan (held ++ [buffer]) rest, { b with arena := a })
    | (.refused why, a) => some (.dropping i plan.started (.outOfMemory why) held, { b with arena := a })
    | (.impossible, a) =>
      some (.dropping i plan.started (.fault .capacity) held, { b with arena := a })
  | .committing i install blocks [] =>
    let object := install blocks
    some (.recording (.loaded (Loadable.title object)),
      { b with
        objects := b.objects.set i object
        attempts := b.attempts ++ [⟨i, .ok ()⟩] })
  | .committing i install blocks (buffer :: rest) =>
    let (id, a) := b.arena.commit buffer
    some (.committing i install (blocks ++ [id]) rest, { b with arena := a })
  | .dropping i object why [] =>
    let failure : LoadFailure := ⟨i, Loadable.title object, why.message⟩
    some (.recording (.failed failure why.isOutOfMemory),
      { b with
        objects := b.objects.set i (Loadable.fail why.message object)
        attempts := b.attempts ++ [⟨i, .error why⟩] })
  | .dropping i object why (buffer :: rest) =>
    some (.dropping i object why rest, { b with arena := b.arena.drop buffer })
  | .recording event =>
    let distributor :=
      match event with
      | .loaded _ => b.distributor.recordLoaded
      | .failed _ true => b.distributor.abort
      | .failed _ false => b.distributor
    some (.sending event, { b with distributor })
  | .sending _ => none
  | .stopped => none
  | .gone => none

namespace Crew

variable {α : Type} [Loadable α]

/-- One step of a worker: its task afterwards, and the crew without it.  Sending always succeeds, for
the driver keeps the receiving end. -/
def advanceWorker (c : Crew α) : Task α → Option (Task α × Crew α)
  | .sending event => some (.checking, { c with channel := c.channel ++ [event] })
  | .stopped => some (.gone, { c with senders := c.senders - 1 })
  | task => (c.advance task).map fun (task, bench) => (task, { c with toWorkbench := bench })

/-- The driver handles an event and goes on with `next`. -/
def handle (c : Crew α) (event : LoadEvent) (next : Driver α) : Crew α :=
  let c := { c with
    outOfMemory := c.outOfMemory || event.isOutOfMemory
    failures := c.failures ++ event.failure?.toList }
  if c.cancelled then { c with driver := next }
  else
    let trace := c.trace ++ [.update c.distributor.pos c.distributor.total event.title]
    if c.report trace then { c with trace, driver := next }
    else { c with trace, cancelled := true, driver := .aborting next }

/-- One step of the driver. -/
def stepDriver (c : Crew α) : Option (Crew α) :=
  match c.driver with
  | .working pending (.sending event) =>
    some (c.handle event (if pending then .working false .checking else .draining))
  | .working _ .stopped => some { c with senders := c.senders - 1, driver := .receiving }
  | .working pending task =>
    (c.advance task).map fun (task, bench) =>
      { c with toWorkbench := bench, driver := .working pending task }
  | .draining =>
    match c.channel with
    | event :: rest => some ({ c with channel := rest }.handle event .draining)
    | [] => some { c with driver := .working false .checking }
  | .aborting next => some { c with distributor := c.distributor.abort, driver := next }
  | .receiving =>
    match c.channel with
    | event :: rest => some ({ c with channel := rest }.handle event .receiving)
    | [] => if c.senders = 0 then some { c with driver := .finished } else none
  | .finished => none

/-- One step of a thread, if it can move: thread 0 is the driver, the others are the workers. -/
def step (c : Crew α) : Nat → Option (Crew α)
  | 0 => c.stepDriver
  | w + 1 =>
    (c.workers[w]?).bind fun task =>
      (c.advanceWorker task).map fun (task, c) => { c with workers := c.workers.set w task }

end Crew

/-- A bound on the steps of a task, its event included. -/
def Task.work {α : Type} : Task α → Nat
  | gone => 0
  | stopped => 1
  | claiming => 2
  | checking => 3
  | sending _ => 7
  | recording _ => 8
  | dropping _ _ _ held => held.length + 9
  | committing _ _ _ held => held.length + 9
  | reserving _ _ held demands => 2 * demands.length + held.length + 10
  | publishing _ plan => 2 * plan.demands.length + 12

/-- A bound on the steps of a driver. -/
def Driver.work {α : Type} : Driver α → Nat
  | finished => 0
  | receiving => 1
  | working _ task => task.work + 2
  | draining => 6
  | aborting next => next.work + 1

namespace Crew

variable {α : Type}

/-- A bound on the steps that are left. -/
def work (c : Crew α) : Nat :=
  let inWork := c.workers.foldr (fun task n => task.work + n) 0
  let ahead := (c.plans.drop c.distributor.cursor).foldr
    (fun plan n => 2 * plan.demands.length + 13 + n) 0
  c.driver.work + inWork + 3 * c.channel.length + ahead

variable [Loadable α]

/-- The first thread that can move, from thread `turn` on, and the crew after its step. -/
def next? (c : Crew α) (turn : Nat) : Option (Nat × Crew α) :=
  let threads := c.workers.length + 1
  (List.range threads).findSome? fun k =>
    let t := (turn + k) % threads
    (c.step t).map fun c => (t, c)

/-- At most so many steps, by threads in turn. -/
def runFor : Nat → Nat → Crew α → Crew α
  | 0, _, c => c
  | n + 1, turn, c =>
    match c.next? turn with
    | none => c
    | some (t, c) => runFor n (t + 1) c

/-- The crew when no thread has a step any more. -/
def run (c : Crew α) : Crew α := runFor c.work 0 c

/-- A crew that is about to load all objects not handed out yet, the pending one first. -/
def start (report : Reporter) (store : Store) (workers : Nat) (objects : List α) (arena : Arena)
    (distributor : Distributor) (trace : List Progress) (pending : Option Nat) : Crew α :=
  let plans := objects.map (Loadable.fromFiles store)
  let driver :=
    match pending.bind fun i => (plans[i]?).map fun plan => (i, plan) with
    | some (i, plan) => .working true (.reserving i plan [] plan.demands)
    | none => .working false .checking
  { plans, objects, arena, distributor, report, trace, driver
    workers := List.replicate workers .checking
    senders := workers + 1 }

end Crew

end Windchest
