import RemotePlayback.Proofs.Session.Steps

/-! What only few inputs touch.

The clock moves when time passes, a session is cancelled when somebody cancels it, connections are
counted where they are made, the backend is that of the endpoints that were found last, and the
session connects when it was given a token. All other inputs, and all turns of the session and of
its connection, leave these alone. One lemma for each function of the session says so;
`step?_gauge`, `step?_repoint` and `step?_connect` put them together. -/

namespace RemotePlayback.Session

open Playback Dealer

/-- What a session counts besides its attempts, whether it was cancelled, and its backend. -/
structure Gauge where
  clock : Nat
  cancelled : Bool
  connections : Nat
  backend : Option String

/-- The gauge of a session. -/
def gauge (s : Session) : Gauge := ⟨s.clock, s.cancelled, s.connections, s.backend⟩

/-- **What an input does to the gauge.** -/
def Gauge.next (g : Gauge) : Input → Gauge
  | .tick => { g with clock := g.clock + 1 }
  | .cancel => { g with cancelled := true }
  | .connected (.ok ()) => { g with connections := g.connections + 1 }
  | .resolved (.ok e) => { g with backend := some e.backendUrl }
  | _ => g

/-- Whether an effect makes a connection or moves the backend. -/
def Effect.directs : Effect → Bool
  | .connect _ | .repoint _ => true
  | _ => false

/-- **A result that leaves the gauge alone**, makes no connection and keeps the backend. -/
structure Steady (s : Session) (r : Result) : Prop where
  gauge : r.1.gauge = s.gauge
  directs : ∀ e ∈ r.2, e.directs = false

variable {s : Session} {i : Input} {r : Result}

/-- A result without effects. -/
theorem steady_nil {s' : Session} (gauge : s'.gauge = s.gauge) : Steady s (s', []) :=
  ⟨gauge, List.forall_mem_nil _⟩

theorem steady_one {s' : Session} {e : Effect} (gauge : s'.gauge = s.gauge)
    (other : e.directs = false) : Steady s (s', [e]) :=
  ⟨gauge, List.forall_mem_singleton.mpr other⟩

/-! ## Attempts -/

theorem attempt_steady (s : Session) : Steady s s.attempt := by
  unfold attempt
  dsimp only
  split
  · exact steady_one rfl rfl
  · exact steady_one rfl rfl

/-! ## Frames -/

theorem greet_steady (s : Session) (text : String) : Steady s (s.greet text) := by
  unfold greet
  split
  · exact steady_nil rfl
  · split
    · exact steady_one rfl rfl
    · exact steady_nil rfl

theorem announced_steady (s : Session) (id : String) (answer : Except Failure Cluster.State) :
    Steady s (s.announced id answer) := by
  cases answer with
  | error cause => exact steady_nil rfl
  | ok cluster => exact steady_nil rfl

theorem reply_steady (s : Session) (key : String) : Steady s (s.reply key) := by
  unfold reply
  split
  · exact steady_nil rfl
  · exact steady_nil rfl

theorem notify_steady (s : Session) (uri : String) (payload : Bytes) :
    Steady s (s.notify uri payload) := by
  unfold notify
  split
  · split
    · exact steady_one rfl rfl
    · exact steady_nil rfl
  · split
    · refine ⟨rfl, fun e mem => ?_⟩
      obtain ⟨change, -, rfl⟩ := List.mem_map.mp mem
      rfl
    · exact steady_nil rfl
  · exact steady_one rfl rfl
  · exact steady_nil rfl

theorem handle_steady (s : Session) (text : String) : Steady s (s.handle text) := by
  unfold handle
  split
  · exact steady_nil rfl
  · exact steady_nil rfl
  · exact notify_steady ..
  · split
    · exact steady_one rfl rfl
    · exact reply_steady ..
  · exact steady_nil rfl

theorem received_steady {received : Received} (reads : Reads s received r) : Steady s r := by
  cases reads with
  | greet => exact greet_steady ..
  | handle => exact handle_steady ..
  | failed | ended => exact steady_nil rfl

theorem delivered_steady (s : Session) (event : Event) (key : String) :
    Steady s (s.delivered event key) := by
  unfold delivered
  split
  · split
    · exact steady_one rfl rfl
    · exact reply_steady ..
  · exact reply_steady ..

/-! ## The session's own turn -/

theorem close_steady (s : Session) (outcome : Outcome) : Steady s (s.close outcome) := by
  unfold close
  split
  · exact steady_nil rfl
  · split
    · exact steady_nil rfl
    · split
      · exact steady_nil rfl
      · split
        · exact steady_nil rfl
        · exact steady_nil rfl

theorem proceed_steady (proceeds : Proceeds s r) : Steady s r := by
  cases proceeds with
  | abandon | leave | lose | replied | stuck | letGo | finish | stop => exact steady_nil rfl
  | adopt => exact steady_one rfl rfl
  | close => exact close_steady ..

/-! ## Reports, commands and the writer -/

theorem report_steady (s : Session) (player : Cluster.PlayerState) :
    Steady s (s.report player).2 := by
  unfold report
  split
  · exact steady_nil rfl
  · exact steady_one rfl rfl

theorem reported_steady {number : Nat} {answer : Except Failure Cluster.State}
    (answers : Answers s number answer r) : Steady s r := by
  cases answers with
  | drop => exact steady_nil rfl
  | publish => exact steady_one rfl rfl

theorem send_steady (s : Session) (command : Command) : Steady s (s.send command).2 := by
  unfold send
  split
  · exact steady_one rfl rfl
  · exact steady_nil rfl

theorem write_steady (writes : Writes s r) : Steady s r := by
  cases writes with
  | take => exact steady_one rfl rfl
  | exhaust => exact steady_nil rfl

/-! ## Steps -/

/-- **What a step does to the gauge**, and when it connects. -/
inductive Gauged (s : Session) : Input → Result → Prop where
  | steady {i : Input} {r : Result} (alone : s.gauge.next i = s.gauge) (steady : Steady s r) :
      Gauged s i r
  | moved {i : Input} {s' : Session} (moved : s'.gauge = s.gauge.next i) : Gauged s i (s', [])
  | repoint {e : Endpoints} {s' : Session} (before : s.stage = .resolving)
      (after : s'.stage = .authorizing e.dealerUrl)
      (moved : s'.gauge = s.gauge.next (.resolved (.ok e))) :
      Gauged s (.resolved (.ok e)) (s', [.repoint e.backendUrl, .authorize])
  | connect {base token : String} {s' : Session} (stage : s.stage = .authorizing base)
      (same : s'.gauge = s.gauge) :
      Gauged s (.authorized (.ok token)) (s', [.connect (connectUrl base token)])

theorem resolved_gauged (stage : s.stage = .resolving) (answer : Except Failure Endpoints) :
    Gauged s (.resolved answer) (s.resolved answer) := by
  cases answer with
  | error cause => exact .moved rfl
  | ok endpoints => exact .repoint stage rfl rfl

theorem authorized_gauged {base : String} (stage : s.stage = .authorizing base)
    (answer : Except Failure String) :
    Gauged s (.authorized answer) (s.authorized base answer) := by
  cases answer with
  | error cause => exact .moved rfl
  | ok token => exact .connect stage rfl

theorem connected_gauged (s : Session) (answer : Except Failure Unit) :
    Gauged s (.connected answer) (s.connected answer) := by
  cases answer with
  | error cause => exact .moved rfl
  | ok _ => exact .moved rfl

theorem step_gauged (step : Steps s i r) : Gauged s i r := by
  cases step with
  | resolved stage => exact resolved_gauged stage _
  | authorized stage => exact authorized_gauged stage _
  | connected => exact connected_gauged s _
  | received reads => exact .steady rfl (received_steady reads)
  | announced => exact .steady rfl (announced_steady ..)
  | delivered => exact .steady rfl (delivered_steady ..)
  | proceed proceeds => exact .steady rfl (proceed_steady proceeds)
  | wake => exact .steady rfl (attempt_steady s)
  | write writes => exact .steady rfl (write_steady writes)
  | wrote | ping | endKeepalive | tick | wallClock | cancel => exact .moved rfl
  | report => exact .steady rfl (report_steady s _)
  | reported answers => exact .steady rfl (reported_steady answers)
  | command => exact .steady rfl (send_steady s _)

variable {s' : Session} {effects : List Effect}

/-- **Every step moves the gauge by its input alone.** -/
theorem step?_gauge (h : s.step? i = some (s', effects)) : s'.gauge = s.gauge.next i := by
  cases step_gauged (step?_steps h) with
  | steady alone steady => exact steady.gauge.trans alone.symm
  | moved moved | repoint _ _ moved => exact moved
  | connect _ same => exact same

/-- **The backend moves when endpoints were found**, and there alone. -/
theorem step?_repoint {url : String} (h : s.step? i = some (s', effects))
    (mem : .repoint url ∈ effects) :
    ∃ e : Endpoints, i = .resolved (.ok e) ∧ url = e.backendUrl := by
  cases step_gauged (step?_steps h) with
  | steady _ steady => cases steady.directs _ mem
  | moved => cases mem
  | repoint =>
    simp only [List.mem_cons, List.not_mem_nil, or_false, reduceCtorEq] at mem
    cases mem
    exact ⟨_, rfl, rfl⟩
  | connect => cases List.mem_singleton.mp mem

/-- **The session connects when it was given a token**, and there alone. -/
theorem step?_connect {url : String} (h : s.step? i = some (s', effects))
    (mem : .connect url ∈ effects) : ∃ base token, s.stage = .authorizing base ∧
      i = .authorized (.ok token) ∧ url = connectUrl base token ∧ effects = [.connect url] := by
  cases step_gauged (step?_steps h) with
  | steady _ steady => cases steady.directs _ mem
  | moved => cases mem
  | repoint => simp at mem
  | connect stage =>
    cases List.mem_singleton.mp mem
    exact ⟨_, _, stage, rfl, rfl, rfl⟩

end RemotePlayback.Session
