import BuildWorker.Run.Termination
import BuildWorker.Shell.Run
/-!
# Supervising a build

A build runs with its output captured into a *sink* while it is watched by two timers:
the total time limit, counted from the start, and the limit on silence, counted from
the last output.  The worker's shutdown is a third cause, and the sink itself may ask
for the build to stop.  The first cause to come stops the build: everything it wrote
until then is kept, and one diagnostic is written last.

The course of the run is given by its *trace*: what it wrote and when, and when it
ended.  Supervision walks through the moments that matter in time order:

* each piece of output (read at most 8192 bytes at a time) goes to the sink, and a
  sink that then asks to stop stops the build at once;
* a sink with periodic work of its own (a log that flushes) does it at each period;
* once a second, and first at the start, the sink is asked whether to stop;
* before each moment, a timer due by then stops the build at its own time.

When the build stops on a cause, output written at the very moment of the cause is
lost, except when the cause is the sink's request, whose moment's output is still
drained.  The exit code of a stopped build is that of a kill (137) unless the shell had
already exited by then; a build that exits on its own reports its own code.  Times are
in microseconds.
-/

namespace BuildWorker

/-- Where output goes, and what it can ask for. -/
structure OutputSink (σ : Type) where
  write : σ → List UInt8 → σ
  stopRequested : σ → Bool
  /-- The interval of the sink's own periodic work, if it has any. -/
  period : Option Nat := none
  onPeriod : σ → σ := id

/-- How a supervised build ended. -/
structure Supervised (σ : Type) where
  exitCode : Nat
  termination : Termination
  /-- When supervision ended. -/
  endTime : Nat
  sink : σ

/-- The size of one read of output. -/
def readSize : Nat := 8192

/-- Cuts output into reads. -/
def cutReads (bytes : List UInt8) : List (List UInt8) :=
  let n := (bytes.length + readSize - 1) / readSize
  (List.range n).map fun k => (bytes.drop (k * readSize)).take readSize

/-- A moment of supervision. -/
inductive Moment where
  | output (bytes : List UInt8)
  | period
  | poll
  deriving DecidableEq, Repr

/-- The order of moments at the same time: output, then the sink's own work, then the
poll. -/
def Moment.rank : Moment → Nat
  | .output _ => 0
  | .period => 1
  | .poll => 2

/-- The microseconds in a second. -/
def microsPerSecond : Nat := 1000000

/-- The causes that timers bring, with their times, in the order that wins a tie. -/
def timerCauses (limits : Limits) (cancelAt : Option Nat) (lastOutput : Nat) :
    List (Termination × Nat) :=
  [(.timeout, limits.timeoutMs * 1000), (.idleTimeout, lastOutput + limits.idleMs * 1000)] ++
    (match cancelAt with
     | some t => [(.shutdown, t)]
     | none => [])

/-- The timer cause due by a time, the earliest. -/
def dueCause (limits : Limits) (cancelAt : Option Nat) (lastOutput time : Nat) :
    Option (Termination × Nat) :=
  (timerCauses limits cancelAt lastOutput).foldl (fun best c =>
    if c.2 ≤ time then
      match best with
      | some b => if c.2 < b.2 then some c else best
      | none => some c
    else best) none

/-- Where supervision stands: the sink, the time of the last output, and whether and
why it stopped. -/
structure Watch (σ : Type) where
  sink : σ
  lastOutput : Nat := 0
  stop : Option (Termination × Nat) := none

/-- Goes through the moments in order, up to the first cause. -/
def Watch.walk {σ : Type} (out : OutputSink σ) (limits : Limits) (cancelAt : Option Nat) :
    Watch σ → List (Nat × Moment) → Watch σ
  | w, [] => w
  | w, (t, m) :: rest =>
      match w.stop with
      | some (.userRequested, k) =>
          -- the moment's remaining output is drained after a request
          match m with
          | .output bytes => if t == k then Watch.walk out limits cancelAt { w with sink := out.write w.sink bytes } rest else w
          | _ => Watch.walk out limits cancelAt w rest
      | some _ => w
      | none =>
          match dueCause limits cancelAt w.lastOutput t with
          | some c => { w with stop := some c }
          | none =>
              match m with
              | .output bytes =>
                  let sink := out.write w.sink bytes
                  let w := { w with sink, lastOutput := t }
                  if out.stopRequested sink then
                    Watch.walk out limits cancelAt { w with stop := some (.userRequested, t) } rest
                  else Watch.walk out limits cancelAt w rest
              | .period => Watch.walk out limits cancelAt { w with sink := out.onPeriod w.sink } rest
              | .poll =>
                  if out.stopRequested w.sink then { w with stop := some (.userRequested, t) }
                  else Watch.walk out limits cancelAt w rest

/-- How supervision ends once it is known whether and why it stopped: a build stopped
at a time reports the shell's own exit code if the shell had exited before then, that
of a kill (137) otherwise, and gets the cause's diagnostic written last; a build that
was not stopped ends with the run, or at the horizon. -/
def Supervised.ofStop {σ : Type} (out : OutputSink σ) (limits : Limits) (trace : Shell.Trace)
    (finish : Option Nat) (horizon : Nat) (w : Watch σ) :
    Option (Termination × Nat) → Supervised σ
  | some (cause, t) =>
      let exitCode := match trace.exit with
        | some (e, code) => if e < t then code else 137
        | none => 137
      let message := (cause.message limits).getD ""
      { exitCode, termination := cause, endTime := t,
        sink := out.write w.sink (Text.encode message) }
  | none =>
      { exitCode := (trace.exit.map (·.2)).getD 137, termination := .exited,
        endTime := finish.getD horizon, sink := w.sink }

/-- Supervises a traced run into a sink. -/
def supervise {σ : Type} (out : OutputSink σ) (sink : σ) (limits : Limits) (cancelAt : Option Nat)
    (trace : Shell.Trace) : Supervised σ :=
  let finish : Option Nat := trace.exit.bind fun (t, _) => trace.closed.map (max t)
  let horizon := match cancelAt with
    | some c => min c (limits.timeoutMs * 1000)
    | none => limits.timeoutMs * 1000
  let last := match finish with
    | some e => min e horizon
    | none => horizon
  let outputs := trace.written.flatMap fun (t, bytes) => (cutReads bytes).map fun b => (t, Moment.output b)
  let periods := match out.period with
    | some p => if p == 0 then [] else (List.range (last / p + 1)).filterMap fun k =>
        if 0 < k && k * p ≤ last then some (k * p, Moment.period) else none
    | none => []
  let polls := (List.range (last / microsPerSecond + 1)).map fun k => (k * microsPerSecond, Moment.poll)
  let moments := (outputs ++ periods ++ polls).mergeSort fun a b =>
    a.1 < b.1 || (a.1 == b.1 && a.2.rank ≤ b.2.rank)
  let w := Watch.walk out limits cancelAt { sink } moments
  let stop := match w.stop with
    | some s => some s
    | none =>
        match finish with
        | some e => dueCause limits cancelAt w.lastOutput e
        | none => dueCause limits cancelAt w.lastOutput horizon
  Supervised.ofStop out limits trace finish horizon w stop

end BuildWorker
