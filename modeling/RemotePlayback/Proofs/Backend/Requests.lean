import RemotePlayback.Backend.State
import RemotePlayback.Proofs.Text.Cutting

/-! What is sent to the backend.

A request is sent if there is a token and no header holds a control, and is then as it was made:
reports and commands go to paths of the same service, below whichever base URL they are given. A
report goes to the path of the device, a command to that from its sender to its receiver. -/

namespace RemotePlayback.Backend

variable {base deviceId connectionId : String} {token : Option String} {request : Request}

theorem Request.eq_of_checked {r : Request} (passed : r.checked = .ok request) : request = r := by
  rw [checked] at passed
  split at passed <;> cases passed
  rfl

/-- What is sent is what was made with the token. -/
theorem exists_of_sent {make : String → Request}
    (sent : (requireToken token >>= fun t => (make t).checked) = .ok request) :
    ∃ t, request = make t := by
  cases granted : requireToken token with
  | error cause =>
    rw [granted] at sent
    cases sent
  | ok t =>
    rw [granted] at sent
    exact ⟨t, Request.eq_of_checked sent⟩

theorem body_of_commandRequest {post : Session.Post}
    (posted : commandRequest base token post = .ok request) : request.body = post.body.bytes := by
  obtain ⟨t, rfl⟩ := exists_of_sent posted
  rfl

/-! ## Where requests go -/

/-- The path to which a command from one device to another is posted. -/
def commandPath (sender receiver : String) : String :=
  "/connect-state/v1/player/command/from/" ++ sender ++ "/to/" ++ receiver

/-- **A request to a path below a base URL**; slashes at the end of the base do not count. -/
def Request.GoesTo (request : Request) (base path : String) : Prop :=
  ∃ root, Text.Unslashed base root ∧ request.url = root ++ path

theorem goesTo_of_url {path : String} (url : request.url = Text.trimSlashes base ++ path) :
    request.GoesTo base path := ⟨_, Text.unslashed_iff.mpr rfl, url⟩

theorem commandRequest_made {post : Session.Post}
    (posted : commandRequest base token post = .ok request) :
    request.method = "POST" ∧
      request.url = Text.trimSlashes base ++ "/connect-state/v1/player/command/from/" ++
        post.sender ++ "/to/" ++ post.receiver := by
  obtain ⟨t, rfl⟩ := exists_of_sent posted
  constructor
  · rfl
  · rfl

/-- A command is posted to the path from its sender to its receiver. -/
theorem commandRequest_goesTo {post : Session.Post}
    (posted : commandRequest base token post = .ok request) :
    request.method = "POST" ∧ request.GoesTo base (commandPath post.sender post.receiver) := by
  obtain ⟨method, url⟩ := commandRequest_made posted
  refine ⟨method, goesTo_of_url ?_⟩
  show request.url = Text.trimSlashes base ++
    ("/connect-state/v1/player/command/from/" ++ post.sender ++ "/to/" ++ post.receiver)
  rw [url]
  simp only [String.append_assoc]

end RemotePlayback.Backend
