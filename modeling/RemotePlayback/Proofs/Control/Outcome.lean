import RemotePlayback.Proofs.Backend.Requests
import RemotePlayback.Proofs.Control.CommandBody
import RemotePlayback.Simulation.Scenario

/-! What the status of a reply tells of what was done.

A call of the control API is refused because of its argument, or it calls the session. The session
may not be in a state to do anything, and then nothing is done; else a command is posted, or the
local player is told to go on. What comes of a post is up to the backend, but its failures are of
another kind than those of the session (`Backend.isPrecondition_of_postCommand`), so a caller can
tell by the status whether anything was done at all. -/

namespace RemotePlayback

/-- A computation fails where one of its parts does. -/
theorem bind_eq_error_iff {ε α β : Type} {x : Except ε α} {f : α → Except ε β} {e : ε} :
    (x >>= f) = .error e ↔ x = .error e ∨ ∃ a, x = .ok a ∧ f a = .error e := by
  cases x <;> simp [bind, Except.bind]

theorem bind_eq_ok_iff {ε α β : Type} {x : Except ε α} {f : α → Except ε β} {b : β} :
    (x >>= f) = .ok b ↔ ∃ a, x = .ok a ∧ f a = .ok b := by
  cases x <;> simp [bind, Except.bind]

theorem Failure.isPrecondition_iff {cause : Failure} : cause.isPrecondition = true ↔
    cause = .notReady ∨ cause = .noActiveDevice ∨ cause = .nothingPlaying := by
  cases cause <;> simp [Failure.isPrecondition]

namespace Backend

variable {base : String} {token : Option String} {exchange : Request → Option Response}
  {post : Session.Post} {cause : Failure}

/-! ## Posting -/

theorem isPrecondition_of_requireToken (failed : requireToken token = .error cause) :
    cause.isPrecondition = false := by
  rw [requireToken] at failed
  split at failed <;> cases failed
  rfl

theorem isPrecondition_of_checked {request : Request} (failed : request.checked = .error cause) :
    cause.isPrecondition = false := by
  rw [Request.checked] at failed
  split at failed <;> cases failed
  rfl

theorem isPrecondition_of_commandAnswer {response : Response}
    (failed : commandAnswer response = .error cause) : cause.isPrecondition = false := by
  rw [commandAnswer] at failed
  split at failed <;> cases failed
  rfl

/-- **A failure of the backend is no precondition** of the session, whatever the token and whatever
the backend answers. -/
theorem isPrecondition_of_postCommand
    (failed : postCommand base token exchange post = .error cause) :
    cause.isPrecondition = false := by
  rcases bind_eq_error_iff.mp failed with unsent | ⟨request, -, failed⟩
  · rcases bind_eq_error_iff.mp unsent with missing | ⟨t, -, unsendable⟩
    · exact isPrecondition_of_requireToken missing
    · exact isPrecondition_of_checked unsendable
  · cases exchanged : exchange request with
    | none =>
      rw [exchanged] at failed
      cases failed
      rfl
    | some response =>
      rw [exchanged] at failed
      exact isPrecondition_of_commandAnswer failed

/-- A command is accepted when the response to its request is a success. -/
theorem postCommand_eq_ok_iff : postCommand base token exchange post = .ok () ↔
    ∃ request response, commandRequest base token post = .ok request ∧
      exchange request = some response ∧ response.isSuccess = true := by
  cases requested : commandRequest base token post with
  | error refused => simp [postCommand, requested, bind, Except.bind]
  | ok request =>
    cases exchanged : exchange request with
    | none => simp [postCommand, requested, exchanged, bind, Except.bind]
    | some response =>
      by_cases success : response.isSuccess = true <;>
        simp [postCommand, requested, exchanged, commandAnswer, success, bind, Except.bind]

end Backend

namespace Control

open Playback Session Simulation

variable {s : Session} {backend : Post → Except Failure Unit} {route : Route} {r : Request}
  {reply : Reply} {a : Action} {command : Command}

/-! ## Calls -/

/-- **A call**: a POST to a route that does something with the session, with any argument. -/
structure IsCall (r : Request) (route : Route) : Prop where
  method : r.method = "POST"
  path : Route.ofPath? (Route.pathOf r.target) = some route
  acts : route ≠ .state

theorem IsCall.action_eq (call : IsCall r route) : action r = route.action r := by
  have allowed : "POST" ∈ route.methods := by
    cases route with
    | state => exact absurd rfl call.acts
    | _ => exact List.mem_singleton_self _
  rw [action, call.path, call.method, if_neg (by decide)]
  dsimp only
  rw [if_pos allowed]

/-- What comes of the call of the session that an action makes. -/
def Action.outcome (s : Session) (backend : Post → Except Failure Unit) :
    Action → Except Failure Unit
  | .showState => .ok ()
  | .send command => (s.command command).bind backend
  | .takeOver => s.takeover.map fun _ => ()

/-- What comes of a request on a route: it is refused because of an argument, or the session is
called. -/
def Route.outcome (route : Route) (s : Session) (backend : Post → Except Failure Unit)
    (r : Request) : Except Reply (Except Failure Unit) :=
  (route.action r).map fun a => a.outcome s backend

/-! ## Arguments -/

theorem status_of_argument {name : String} {written : List Char}
    (refused : argument name written = .error reply) : reply.status = 400 := by
  rw [argument] at refused
  split at refused <;> cases refused
  rfl

theorem status_of_parameters (refused : parameters r = .error reply) : reply.status = 400 := by
  rw [parameters] at refused
  split at refused <;> cases refused
  rfl

theorem status_of_position {text : String} (refused : position text = .error reply) :
    reply.status = 400 := by
  rw [position] at refused
  split at refused <;> cases refused
  rfl

theorem status_of_shuffling {text : String} (refused : shuffling text = .error reply) :
    reply.status = 400 := by
  rw [shuffling] at refused
  split at refused
  · cases refused
  · split at refused <;> cases refused
    rfl

theorem status_of_repeating {text : String} (refused : repeating text = .error reply) :
    reply.status = 400 := by
  rw [repeating] at refused
  split at refused <;> cases refused
  rfl

/-- An argument is read, and then something is made of it; either may be refused. -/
theorem status_of_reading {α : Type} {name : String} {written : List Char}
    {read : String → Except Reply α} {make : String → α → Action}
    (bad : ∀ {text reply}, read text = .error reply → reply.status = 400)
    (refused : (argument name written >>= fun text => read text >>= fun v => .ok (make text v)) =
      .error reply) : reply.status = 400 := by
  rcases bind_eq_error_iff.mp refused with unreadable | ⟨text, -, refused⟩
  · exact status_of_argument unreadable
  · rcases bind_eq_error_iff.mp refused with unfit | ⟨v, -, made⟩
    · exact bad unfit
    · cases made

/-- **What is refused because of an argument is a bad request**, on every route. -/
theorem Route.status_of_refusal (refused : route.action r = .error reply) : reply.status = 400 := by
  cases route with
  | command name => exact status_of_reading status_of_parameters refused
  | seek written => exact status_of_reading status_of_position refused
  | shuffle written => exact status_of_reading status_of_shuffling refused
  | «repeat» written => exact status_of_reading status_of_repeating refused
  | state | pause | resume | next | previous | takeover => cases refused

/-- Every other call is a command, but for the one that takes playback over. -/
theorem IsCall.asks (call : IsCall r route) (understood : route.action r = .ok a) :
    route = .takeover ∧ a = .takeOver ∨ route ≠ .takeover ∧ ∃ command, a = .send command := by
  cases route with
  | state => exact absurd rfl call.acts
  | takeover =>
    cases understood
    exact .inl ⟨rfl, rfl⟩
  | command name | seek name | shuffle name | «repeat» name =>
    obtain ⟨text, -, understood⟩ := bind_eq_ok_iff.mp understood
    obtain ⟨v, -, understood⟩ := bind_eq_ok_iff.mp understood
    cases understood
    exact .inr ⟨nofun, _, rfl⟩
  | pause | resume | next | previous =>
    cases understood
    exact .inr ⟨nofun, _, rfl⟩

/-! ## Answers -/

/-- What a deed is to the world around the session. -/
def Deed.effect : Deed → Effect
  | .posted post => .post post
  | .delivered event => .deliver event

/-- **How a call is answered**, with what was done for it. Nothing is done where an argument is
refused or the session is not in a state to do it; else it is one thing. -/
inductive Answer (s : Session) (backend : Post → Except Failure Unit) (route : Route)
    (r : Request) : Reply × Option Deed → Prop where
  | refused {reply : Reply} (refusal : route.action r = .error reply) (bad : reply.status = 400) :
      Answer s backend route r (reply, none)
  | unsent {command cause} (understood : route.action r = .ok (.send command))
      (unsent : s.command command = .error cause) :
      Answer s backend route r (.failure 409 cause.message, none)
  | failed {command post cause} (understood : route.action r = .ok (.send command))
      (sent : s.command command = .ok post) (failed : backend post = .error cause) :
      Answer s backend route r (.failure 502 cause.message, some (.posted post))
  | posted {command post} (understood : route.action r = .ok (.send command))
      (sent : s.command command = .ok post) (accepted : backend post = .ok ()) :
      Answer s backend route r ({ status := 204 }, some (.posted post))
  | silent (takeover : route = .takeover) (silence : s.snapshot.takeover? s.now = none) :
      Answer s backend route r (.failure 409 Failure.nothingPlaying.message, none)
  | delivered {play} (takeover : route = .takeover)
      (playing : s.snapshot.takeover? s.now = some play) :
      Answer s backend route r ({ status := 204 }, some (.delivered (.play play)))

/-- The session refuses a command only where it is not in a state to send it. -/
theorem isPrecondition_of_command {cause : Failure} (refused : s.command command = .error cause) :
    cause.isPrecondition = true := by
  rw [Session.command] at refused
  split at refused
  · cases refused
    rfl
  · split at refused <;> cases refused
    rfl

/-- A command goes from this device to the active one. -/
theorem post_of_command {post : Post} (sent : s.command command = .ok post) :
    post.sender = s.config.deviceId ∧ s.snapshot.activeDeviceId = some post.receiver ∧
      post.body = command.envelope := by
  rw [Session.command] at sent
  split at sent
  · cases sent
  · split at sent
    · cases sent
    · rename_i active
      cases sent
      exact ⟨rfl, active, rfl⟩

theorem takeover_of_playing {play : PlayRequest}
    (playing : s.snapshot.takeover? s.now = some play) : s.takeover = .ok (.play play) := by
  rw [Session.takeover, playing]

theorem takeover_of_silence (silence : s.snapshot.takeover? s.now = none) :
    s.takeover = .error .nothingPlaying := by
  rw [Session.takeover, silence]

theorem Route.outcome_of_action (understood : route.action r = .ok a) :
    route.outcome s backend r = .ok (a.outcome s backend) := by
  rw [Route.outcome, understood]
  rfl

theorem callReply_plain (result : Except Failure Unit) :
    (callReply result).headersOnly = false := by
  cases result <;> rfl

/-- A call that is understood is answered by what comes of its action. -/
theorem IsCall.handle_of_action (call : IsCall r route) (understood : route.action r = .ok a) :
    handle s backend r = carryOut s backend a := by
  have whole : (r.method == "HEAD") = false := by
    rw [call.method]
    decide
  have plain : (carryOut s backend a).1.headersOnly = false := by
    cases a with
    | showState => rfl
    | send command => cases sent : s.command command <;> simp [carryOut, sent, callReply_plain]
    | takeOver => cases taken : s.takeover <;> simp [carryOut, taken, callReply_plain]
  rw [handle, call.action_eq, understood]
  dsimp only
  rw [whole, ← plain]

/-- **Every call is answered in one of these ways**, if no failure of the backend is a precondition
of the session. -/
theorem IsCall.answer (call : IsCall r route) (s : Session) (backend : Post → Except Failure Unit)
    (foreign : ∀ {post cause}, backend post = .error cause → cause.isPrecondition = false) :
    Answer s backend route r (handle s backend r) := by
  cases understood : route.action r with
  | error reply =>
    rw [handle, call.action_eq, understood]
    exact .refused understood (Route.status_of_refusal understood)
  | ok a =>
    rw [call.handle_of_action understood]
    rcases call.asks understood with ⟨takeover, rfl⟩ | ⟨-, command, rfl⟩
    · cases playing : s.snapshot.takeover? s.now with
      | none =>
        simp only [carryOut, takeover_of_silence playing]
        exact .silent takeover playing
      | some play =>
        simp only [carryOut, takeover_of_playing playing]
        exact .delivered takeover playing
    · cases sent : s.command command with
      | error cause =>
        simp only [carryOut, sent, callReply, isPrecondition_of_command sent]
        exact .unsent understood sent
      | ok post =>
        simp only [carryOut, sent]
        cases posted : backend post with
        | ok => exact .posted understood sent posted
        | error cause =>
          simp only [callReply, foreign posted]
          exact .failed understood sent posted

/-! ## Statuses -/

/-- **What success stands for**: one command, posted with its body to the path from this device to
the active one and accepted by the backend; or, on the route that takes playback over, one
instruction to play. -/
inductive Done (s : Session) (base : String) (token : Option String)
    (exchange : Backend.Request → Option Backend.Response) (route : Route) (r : Request) :
    Option Deed → Prop where
  | posted {command post request response} (understood : route.action r = .ok (.send command))
      (sender : post.sender = s.config.deviceId)
      (active : s.snapshot.activeDeviceId = some post.receiver)
      (body : post.body = command.envelope)
      (sent : Backend.commandRequest base token post = .ok request)
      (method : request.method = "POST")
      (goes : request.GoesTo base (Backend.commandPath post.sender post.receiver))
      (carries : request.body = post.body.bytes)
      (answered : exchange request = some response) (accepted : response.isSuccess = true) :
      Done s base token exchange route r (some (.posted post))
  | delivered {play} (takeover : route = .takeover)
      (playing : s.snapshot.takeover? s.now = some play) :
      Done s base token exchange route r (some (.delivered (.play play)))

/-- No request changes the session. -/
theorem request_session (w : World) (r : Request) : (w.request r).2.session = w.session := by
  rw [World.request]
  generalize handle w.session w.post r = answer
  obtain ⟨reply, deed⟩ := answer
  cases deed with
  | none => rfl
  | some deed =>
    cases deed with
    | posted post => rfl
    | delivered event =>
      simp only [World.perform]
      split <;> rfl

/-- The status for what comes of a call. -/
def statusOf : Except Reply (Except Failure Unit) → Nat
  | .error _ => 400
  | .ok (.ok ()) => 204
  | .ok (.error cause) => if cause.isPrecondition then 409 else 502

/-- Each status stands for one kind of outcome. -/
theorem statusOf_iff (outcome : Except Reply (Except Failure Unit)) :
    (statusOf outcome = 400 ↔ ∃ refusal, outcome = .error refusal) ∧
    (statusOf outcome = 409 ↔
      ∃ cause, outcome = .ok (.error cause) ∧ cause.isPrecondition = true) ∧
    (statusOf outcome = 204 ↔ outcome = .ok (.ok ())) ∧
    (statusOf outcome = 502 ↔
      ∃ cause, outcome = .ok (.error cause) ∧ ¬cause.isPrecondition = true) := by
  rcases outcome with refusal | cause | ⟨⟩
  · simp [statusOf]
  · cases unmet : cause.isPrecondition <;> simp [statusOf, unmet]
  · simp [statusOf]

namespace Answer

variable {deed : Option Deed}

theorem status (answer : Answer s backend route r (reply, deed))
    (foreign : ∀ {post cause}, backend post = .error cause → cause.isPrecondition = false) :
    reply.status = statusOf (route.outcome s backend r) := by
  cases answer with
  | refused refusal bad =>
    rw [Route.outcome, refusal]
    exact bad
  | unsent understood unsent =>
    rw [Route.outcome_of_action understood, Action.outcome, unsent, Except.bind, statusOf,
      isPrecondition_of_command unsent]
    rfl
  | failed understood sent failed =>
    rw [Route.outcome_of_action understood, Action.outcome, sent, Except.bind, failed, statusOf,
      foreign failed]
    rfl
  | posted understood sent accepted =>
    rw [Route.outcome_of_action understood, Action.outcome, sent, Except.bind, accepted, statusOf]
  | silent takeover silence =>
    rw [takeover, Route.outcome_of_action rfl, Action.outcome, takeover_of_silence silence]
    rfl
  | delivered takeover playing =>
    rw [takeover, Route.outcome_of_action rfl, Action.outcome, takeover_of_playing playing]
    rfl

/-- A bad request and a conflict mean that nothing was done. -/
theorem deed_eq_none (answer : Answer s backend route r (reply, deed))
    (undone : reply.status = 400 ∨ reply.status = 409) : deed = none := by
  cases answer with
  | refused | unsent | silent => rfl
  | failed | posted | delivered => rcases undone with undone | undone <;> cases undone

/-- Success stands for what has to be done. -/
theorem done {base : String} {token : Option String}
    {exchange : Backend.Request → Option Backend.Response}
    (answer : Answer s (Backend.postCommand base token exchange) route r (reply, deed))
    (success : reply.status = 204) : Done s base token exchange route r deed := by
  cases answer with
  | refused refusal bad =>
    rw [bad] at success
    cases success
  | unsent | failed | silent => cases success
  | posted understood sent accepted =>
    obtain ⟨sender, active, body⟩ := post_of_command sent
    obtain ⟨request, response, requested, answered, accepted⟩ :=
      Backend.postCommand_eq_ok_iff.mp accepted
    obtain ⟨method, goes⟩ := Backend.commandRequest_goesTo requested
    exact .posted understood sender active body requested method goes
      (Backend.body_of_commandRequest requested) answered accepted
  | delivered takeover playing => exact .delivered takeover playing

/-- A command that is called for is a step of the session, which leaves it as it is and does just
what is done for the call. -/
theorem step (answer : Answer s backend route r (reply, deed))
    (understood : route.action r = .ok (.send command)) :
    s.step? (.command command) = some (s, deed.toList.map Deed.effect) := by
  cases answer with
  | refused refusal _ =>
    rw [understood] at refusal
    cases refusal
  | unsent meant unsent =>
    rw [understood] at meant
    cases meant
    rw [step?, send, unsent]
    rfl
  | failed meant sent _ | posted meant sent _ =>
    rw [understood] at meant
    cases meant
    rw [step?, send, sent]
    rfl
  | silent takeover _ | delivered takeover _ =>
    rw [takeover] at understood
    cases understood

end Answer

/-- **The status of a call tells what was done for it**, on every session and every route, for every
argument and whatever the backend answers. A bad request and a conflict mean that nothing was done.
It is a bad request exactly if an argument is refused; else it is a conflict exactly if the session
is not in a state to do what is asked; any other failure is that of the backend. Success stands for
one deed (`Done`). The session stays as it is in every case. -/
theorem status_tells_what_was_done (call : IsCall r route) (s : Session) (base : String)
    (token : Option String) (exchange : Backend.Request → Option Backend.Response) :
    let backend := Backend.postCommand base token exchange
    ∃ reply deed, handle s backend r = (reply, deed) ∧
      (reply.status = 400 ∨ reply.status = 409 → deed = none) ∧
      (reply.status = 400 ↔ ∃ refusal, route.outcome s backend r = .error refusal) ∧
      (reply.status = 409 ↔ ∃ cause, route.outcome s backend r = .ok (.error cause) ∧
        (cause = .notReady ∨ cause = .noActiveDevice ∨ cause = .nothingPlaying)) ∧
      (reply.status = 204 ↔ route.outcome s backend r = .ok (.ok ())) ∧
      (reply.status = 204 → Done s base token exchange route r deed) ∧
      (reply.status = 502 ↔ ∃ cause, route.outcome s backend r = .ok (.error cause) ∧
        ¬(cause = .notReady ∨ cause = .noActiveDevice ∨ cause = .nothingPlaying)) ∧
      (∀ command, route.action r = .ok (.send command) →
        s.step? (.command command) = some (s, deed.toList.map Deed.effect)) ∧
      ∀ w : World, w.session = s → (w.request r).2.session = s := by
  intro backend
  obtain ⟨reply, deed, answered⟩ : ∃ reply deed, handle s backend r = (reply, deed) :=
    ⟨_, _, rfl⟩
  have answer := call.answer s backend Backend.isPrecondition_of_postCommand
  rw [answered] at answer
  have status := answer.status Backend.isPrecondition_of_postCommand
  obtain ⟨bad, conflict, success, gateway⟩ :=
    statusOf_iff (route.outcome s backend r)
  simp only [Failure.isPrecondition_iff] at conflict gateway
  rw [← status] at bad conflict success gateway
  refine ⟨reply, deed, answered, answer.deed_eq_none, bad, conflict, success, answer.done, gateway,
    fun command understood => answer.step understood, fun w same => ?_⟩
  rw [request_session, same]

/-- A call without an argument. -/
def plainCall (path : String) : Request where
  method := "POST"
  target := path

/-- The phone plays, but nothing is known of what. -/
theorem exists_ready_without_track : ∃ ms s link, Run sampleConfig 0 ms s ∧
    s.readyLink? = some link ∧ s.snapshot.activeDeviceId = some "phone" ∧
    s.snapshot.takeover? s.now = none := by
  have told : (replay? sampleConfig 0 (joining "one" { activeDeviceId := "phone" })).map
      (fun run => (run.2.readyLink?.isSome, run.2.snapshot.activeDeviceId,
        (run.2.snapshot.takeover? run.2.now).isNone)) = some (true, some "phone", true) := by
    decide +kernel
  obtain ⟨⟨ms, s⟩, replayed, told⟩ := Option.map_eq_some_iff.mp told
  obtain ⟨ready, active, silence⟩ : s.readyLink?.isSome = true ∧
      s.snapshot.activeDeviceId = some "phone" ∧ (s.snapshot.takeover? s.now).isNone = true := by
    simpa only [Prod.mk.injEq] using told
  obtain ⟨link, ready⟩ := Option.isSome_iff_exists.mp ready
  exact ⟨ms, s, link, Run.of_replay? replayed, ready, active, Option.isNone_iff_eq_none.mp silence⟩

/-- Then a pause is posted to the phone, but playback cannot be taken over. -/
theorem pause_is_posted_and_takeover_is_not :
    let exchange : Backend.Request → Option Backend.Response := fun _ => some ⟨200, [], []⟩
    let backend := Backend.postCommand "https://backend" (some "token") exchange
    ∃ ms s, Run sampleConfig 0 ms s ∧
      IsCall (plainCall "/api/pause") .pause ∧ IsCall (plainCall "/api/takeover") .takeover ∧
      (∃ reply deed, handle s backend (plainCall "/api/pause") = (reply, deed) ∧
        reply.status = 204 ∧
        Done s "https://backend" (some "token") exchange .pause (plainCall "/api/pause") deed) ∧
      ∃ reply, handle s backend (plainCall "/api/takeover") = (reply, none) ∧
        reply.status = 409 := by
  intro exchange backend
  obtain ⟨ms, s, link, run, ready, active, silence⟩ := exists_ready_without_track
  have pause : IsCall (plainCall "/api/pause") .pause := ⟨rfl, by decide, nofun⟩
  have takeover : IsCall (plainCall "/api/takeover") .takeover := ⟨rfl, by decide, nofun⟩
  refine ⟨ms, s, run, pause, takeover, ?_, ?_⟩
  · obtain ⟨reply, deed, answered, -, -, -, success, done, -⟩ :=
      status_tells_what_was_done pause s "https://backend" (some "token") exchange
    obtain ⟨post, -, sent⟩ := command_conveys "pause" ready active List.Pairwise.nil
    have accepted : backend post = .ok () :=
      Backend.postCommand_eq_ok_iff.mpr ⟨_, _, rfl, rfl, rfl⟩
    have called : Route.outcome .pause s backend (plainCall "/api/pause") = .ok (.ok ()) := by
      change Except.ok ((s.command ⟨"pause", []⟩).bind backend) = _
      rw [sent, Except.bind, accepted]
    exact ⟨reply, deed, answered, success.mpr called, done (success.mpr called)⟩
  · obtain ⟨reply, deed, answered, undone, -, conflict, -⟩ :=
      status_tells_what_was_done takeover s "https://backend" (some "token") exchange
    have called : Route.outcome .takeover s backend (plainCall "/api/takeover") =
        .ok (.error .nothingPlaying) := by
      change Except.ok (s.takeover.map fun _ => ()) = _
      rw [takeover_of_silence silence]
      rfl
    have status : reply.status = 409 := conflict.mpr ⟨_, called, .inr (.inr rfl)⟩
    rw [undone (.inr status)] at answered
    exact ⟨reply, answered, status⟩

end Control

end RemotePlayback
