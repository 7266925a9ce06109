import SputterOS.Kernel.PipelineRefinement
import SputterOS.Tools.Visits

/-!
# From the tool to the application

The tool visits the device while the control task runs beside the communications
task. An ACK that the tool hears is a promise about the application.
-/

set_option autoImplicit false

namespace SputterOS.Tools.Delivery
open SputterOS.FrameCodec SputterOS.FrameStream SputterOS.Logic SputterOS.CommandLine
  SputterOS.ReceivedStream SputterOS.ScheduledCommsTask SputterOS.CommandReplies
  SputterOS.ReadTimeline SputterOS.CommandAnswers SputterOS.TextProbe SputterOS.CommandPipeline
  SputterOS.PipelineRefinement SputterOS.Tools.Exchange SputterOS.Tools.Opening
  SputterOS.Tools.Connection SputterOS.Tools.Visits Foundation.Transition
open MetricsReply (reporting idleSnapshot)
open ResponseSerializer (PerformanceSnapshot)
open Client (PROTOCOL_VERSION HANDSHAKE_MAGIC)
open Protocol (feed)

section Visits

variable (cfg : Cfg) (env : Environment) (w : ControlTask.Wiring)
  (snapshotFn : List Effect → PerformanceSnapshot)

/-- What a visit leads to on both sides of the device: the tool hears one reply to each
call, and the application has handled what was acknowledged before, and then the
commands of the visit that were accepted. -/
structure Delivered (v : Visit) (handled : List Command) (c c' : CLI) : Prop where
  visited : Visited snapshotFn v c c'
  handled : ∃ es, c'.history = c.history ++ es ∧
    (answers c).filterMap acknowledged ++ accepted (es.filterMap offer) <+: handled

/-- Whatever the control task does meanwhile, a visit to a quiet device is answered call
by call, and some rounds of the control task behind it the application has handled, in
order, the commands for which the tool heard an ACK. -/
theorem visit_delivered (hvalid : w.validateDependencies = true) (atInit : Read)
    (as bs : List Action) (rounds : List (List Action)) (c c' : CLI) (v : Visit)
    (hbefore : Between cfg env w atInit as c) (hafter : Between cfg env w atInit (as ++ bs) c')
    (hquiet : Quiet c) (hrep : .request_metrics ∈ v.calls → Reporting env snapshotFn)
    (hreads : ticked cfg env w (run (step cfg env w) (start cfg env atInit) as) bs = v.reads)
    (hrounds : ∀ r ∈ rounds, Round w r) (hroom : w.queueCapacity < (rounds.length-1)*w.limit) :
    Delivered snapshotFn v
      (run (step cfg env w) (start cfg env atInit) (as ++ bs ++ rounds.flatten)).control.handled
      c c' := by
  obtain ⟨-, hticked⟩ := between_ticks cfg env w atInit as bs c c' hbefore hafter
  rw [hreads] at hticked
  obtain ⟨c'', hticks, hvisited⟩ :=
    visit_ticks cfg (replaying env c'.history) snapshotFn 0 c v hquiet hrep
  obtain rfl : c' = c'' := Option.some_inj.mp (hticked.symm.trans hticks)
  obtain ⟨es, replies, hhist, -⟩ := hvisited.served
  exact ⟨hvisited, es, hhist, between_handled cfg env w hvalid atInit (as ++ bs) c c' _ hafter hhist
    rounds hrounds hroom⟩

end Visits

section Moments

def emptyLine : List Read := [⟨[0x0A], by decide⟩]

def oneCall : List (Call × List Read) := visitCalls.take 1

theorem leaving_fits : (wire kMaxPayload ⟨.exitHandshake, 2, none, 0⟩).length ≤ kReadBufSize := by
  decide +kernel

def leaving : List Read := [⟨wire kMaxPayload ⟨.exitHandshake, 2, none, 0⟩, leaving_fits⟩]

theorem leaving_bytes :
    disconnectBytes (Client.next_seq^[oneCall.length+1] 0) = some (leaving.flatMap Read.bytes) := by
  have hlast := disconnectBytes_eq 2
  simp only [leaving, List.flatMap_cons, List.flatMap_nil, List.append_nil]
  exact hlast

theorem oneCall_sent : Sent (Client.next_seq 0) oneCall := ⟨visitCalls_sent.1, trivial⟩

def oneVisit : Visit :=
  { seq := 0
    opening := openingReads
    exchanges := oneCall
    closing := leaving
    seq_lt := seq_zero_lt
    opened := openingReads_bytes
    sent := oneCall_sent
    closed := leaving_bytes }

def plant (as : List Action) : Plant :=
  Foundation.Transition.run (step CommandAnswers.plainCfg (reporting 7) ControlTask.dualMonitor)
    (start CommandAnswers.plainCfg (reporting 7) noBytes) as

theorem plant_idle : isIdle (plant (ticks emptyLine)).comms = true ∧
    isIdle (plant (ticks emptyLine ++ ticks oneVisit.reads)).comms = true := by
  decide +kernel

theorem plant_reads :
    ticked CommandAnswers.plainCfg (reporting 7) ControlTask.dualMonitor (plant (ticks emptyLine))
      (ticks oneVisit.reads) = oneVisit.reads :=
  reads_injective (by decide +kernel)

theorem plant_quiet : Quiet (plant (ticks emptyLine)).comms.cli where
  connectable :=
    { ready := ⟨by decide +kernel, by decide +kernel⟩
      idle := by decide +kernel
      probe := by decide +kernel }
  slot := by decide +kernel
  probe := by decide +kernel
  frame := by decide +kernel

theorem visit_delivered_idle :
    (plant (ticks emptyLine ++ ticks oneVisit.reads ++
      [safeRound, safeRound].flatten)).control.handled = [⟨2, 0, 0x40A00000⟩] ∧
    Delivered (fun _ => idleSnapshot 7) oneVisit
      (plant (ticks emptyLine ++ ticks oneVisit.reads ++
        [safeRound, safeRound].flatten)).control.handled
      (plant (ticks emptyLine)).comms.cli
      (plant (ticks emptyLine ++ ticks oneVisit.reads)).comms.cli :=
  ⟨by decide +kernel, visit_delivered _ (reporting 7) ControlTask.dualMonitor _ rfl noBytes
    (ticks emptyLine) (ticks oneVisit.reads) [safeRound, safeRound] _ _ oneVisit
    (idle_cli _ plant_idle.1) (idle_cli _ plant_idle.2) plant_quiet (fun _ => reporting_idle)
    plant_reads safeRounds (by decide)⟩

end Moments

end SputterOS.Tools.Delivery
