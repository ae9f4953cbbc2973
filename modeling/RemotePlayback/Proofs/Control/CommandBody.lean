import RemotePlayback.Control.Handle
import RemotePlayback.Proofs.Json.Parsed
import RemotePlayback.Proofs.Json.RoundTrip
import RemotePlayback.Proofs.Session.Routing

/-! Which bodies of a command request are sent on.

The body of a command request is meant to be an object with the parameters, or to be missing. An
array or a text in its place is refused. But a body that is no JSON is taken for a missing one, and
so is one that is too long; and of a body that goes on after its first value nothing but that value
is looked at. So what is done depends on the value that a body begins with (`Gives`, `Misshapen`),
which is what the body means (`Means`) only where the body is one JSON text. -/

namespace RemotePlayback.Control

open Playback Session

variable {s : Session} {link : Link} {receiver name : String} {written : List Char}
  {backend : Post → Except Failure Unit} {r : Request} {body : Bytes} {v : Json}
  {members : List (String × Json)} {post : Post}

/-! ## Requests -/

/-- **A command request**: a POST of JSON to the path of a command, its name written with or without
escapes, and with or without a query behind it. -/
structure IsCommand (r : Request) (name : String) : Prop where
  method : r.method = "POST"
  path : ∃ written, Route.pathOf r.target = "/api/command/".toList ++ written ∧ written ≠ [] ∧
    '/' ∉ written ∧ Text.unescapePercents? written = some name
  json : r.contentType.any Text.isJsonMedia = true

theorem ofPath?_command (named : written ≠ []) (whole : '/' ∉ written) :
    Route.ofPath? ("/api/command/".toList ++ written) = some (.command written) := by
  have segments : Text.splitAll '/' ("/api/command/".toList ++ written) =
      [[], "api".toList, "command".toList, written] := by
    have cut : "/api/command/".toList ++ written =
        [] ++ '/' :: ("api".toList ++ '/' :: ("command".toList ++ '/' :: written)) := rfl
    rw [cut, Text.splitAll_append (by decide), Text.splitAll_append (by decide),
      Text.splitAll_append (by decide), Text.splitAll_of_not_mem whole]
  rw [Route.ofPath?, segments]
  dsimp only
  rw [if_pos rfl, Route.ofArgument?, if_neg named, String.ofList_toList, if_pos rfl]

/-- What a command request wants done is a matter of its parameters. -/
theorem IsCommand.action_eq (command : IsCommand r name) :
    action r = (parameters r).map fun ps => .send ⟨name, ps⟩ := by
  obtain ⟨method, ⟨written, path, named, whole, escaped⟩, -⟩ := command
  have route := ofPath?_command named whole
  have allowed : "POST" ∈ (Route.command written).methods := List.mem_singleton_self _
  rw [action, path, route, method, if_neg (by decide)]
  dsimp only
  rw [if_pos allowed, Route.action, argument, escaped]
  cases parameters r <;> rfl

/-! ## Bodies -/

/-- **The parameters that a body means**: none if it is empty or null, and those of an object. -/
inductive Means (body : Bytes) : List (String × Json) → Prop where
  | nothing (empty : body = []) : Means body []
  | null (text : Json.parse? body = some .null) : Means body []
  | members {members : List (String × Json)} (text : Json.parse? body = some (.object members)) :
    Means body members

/-- **The parameters that are taken from a body**: those of the object that it begins with; none if
it begins with null or with no value at all, or if it is too long. -/
inductive Gives (body : Bytes) : List (String × Json) → Prop where
  | unread (front : maxBody < body.length ∨ Json.parsePart? body = none) : Gives body []
  | null (short : body.length ≤ maxBody) (front : Json.parsePart? body = some .null) : Gives body []
  | members {members : List (String × Json)} (short : body.length ≤ maxBody)
    (front : Json.parsePart? body = some (.object members)) : Gives body members

/-- A body of the wrong shape begins with a value that is neither null nor an object. -/
def Misshapen (body : Bytes) : Prop :=
  body.length ≤ maxBody ∧
    ∃ v, Json.parsePart? body = some v ∧ v ≠ .null ∧ ∀ members, v ≠ .object members

theorem gives_iff_of_unread (front : maxBody < body.length ∨ Json.parsePart? body = none) :
    Gives body members ↔ members = [] := by
  constructor
  · intro gives
    cases gives with
    | members short read =>
      rcases front with long | none
      · exact absurd short (Nat.not_le.mpr long)
      · rw [none] at read
        cases read
    | _ => rfl
  · rintro rfl
    exact .unread front

theorem gives_iff_of_front (short : body.length ≤ maxBody) (front : Json.parsePart? body = some v) :
    Gives body members ↔ v = .null ∧ members = [] ∨ v = .object members := by
  constructor
  · intro gives
    cases gives with
    | unread other =>
      rcases other with long | none
      · exact absurd short (Nat.not_le.mpr long)
      · rw [front] at none
        cases none
    | null _ read => exact .inl ⟨Option.some.inj (front.symm.trans read), rfl⟩
    | members _ read => exact .inr (Option.some.inj (front.symm.trans read))
  · rintro (⟨rfl, rfl⟩ | rfl)
    · exact .null short front
    · exact .members short front

theorem means_nil_iff : Means [] members ↔ members = [] := by
  constructor
  · intro means
    cases means with
    | members text =>
      rw [Json.parse?_eq_none Json.parsePart?_nil] at text
      cases text
    | _ => rfl
  · rintro rfl
    exact .nothing rfl

theorem not_means_of_broken (there : body ≠ []) (broken : Json.parse? body = none) :
    ¬Means body members := by
  intro means
  cases means with
  | nothing empty => exact there empty
  | null text =>
    rw [broken] at text
    cases text
  | members text =>
    rw [broken] at text
    cases text

theorem means_iff_of_text (text : Json.parse? body = some v) :
    Means body members ↔ v = .null ∧ members = [] ∨ v = .object members := by
  constructor
  · intro means
    cases means with
    | nothing empty =>
      rw [empty, Json.parse?_eq_none Json.parsePart?_nil] at text
      cases text
    | null read => exact .inl ⟨Option.some.inj (text.symm.trans read), rfl⟩
    | members read => exact .inr (Option.some.inj (text.symm.trans read))
  · rintro (⟨rfl, rfl⟩ | rfl)
    · exact .null text
    · exact .members text

theorem gives_or_misshapen (body : Bytes) : (∃ members, Gives body members) ∨ Misshapen body := by
  by_cases short : body.length ≤ maxBody
  · cases front : Json.parsePart? body with
    | none => exact .inl ⟨[], .unread (.inr front)⟩
    | some v =>
      cases v with
      | null => exact .inl ⟨[], .null short front⟩
      | object members => exact .inl ⟨members, .members short front⟩
      | _ => exact .inr ⟨short, _, front, by simp, by simp⟩
  · exact .inl ⟨[], .unread (.inl (Nat.lt_of_not_le short))⟩

/-- Nothing is taken from a body of the wrong shape. -/
theorem Misshapen.not_gives (misshapen : Misshapen body) : ¬Gives body members := by
  obtain ⟨short, v, front, notNull, notObject⟩ := misshapen
  rw [gives_iff_of_front short front]
  rintro (⟨null, -⟩ | object)
  · exact notNull null
  · exact notObject members object

/-- **A body that is mistaken for what it is not**: one that is not JSON, but passes for a missing
one or for the value that it begins with; or one that is too long, and passes for a missing one. -/
def Mistaken (body : Bytes) : Prop :=
  (body ≠ [] ∧ Json.parse? body = none ∧ ¬Misshapen body) ∨
    (maxBody < body.length ∧ ∃ v, Json.parse? body = some v ∧ v ≠ .null ∧ v ≠ .object [])

theorem Mistaken.differs (mistaken : Mistaken body) :
    ∃ members, Gives body members ∧ ¬Means body members := by
  rcases mistaken with ⟨there, broken, shaped⟩ | ⟨long, v, text, notNull, notEmpty⟩
  · obtain ⟨members, gives⟩ := (gives_or_misshapen body).resolve_right shaped
    exact ⟨members, gives, not_means_of_broken there broken⟩
  · refine ⟨[], .unread (.inl long), ?_⟩
    rw [means_iff_of_text text]
    rintro (⟨null, -⟩ | object)
    · exact notNull null
    · exact notEmpty object

/-- **What a body means is taken from it, unless it is mistaken.** -/
theorem gives_iff_means :
    (∀ members, Gives body members ↔ Means body members) ↔ ¬Mistaken body := by
  constructor
  · intro same mistaken
    obtain ⟨members, gives, other⟩ := mistaken.differs
    exact other ((same members).mp gives)
  · intro plain members
    obtain ⟨notBroken, notLong⟩ := not_or.mp plain
    by_cases empty : body = []
    · rw [empty, gives_iff_of_unread (.inr Json.parsePart?_nil), means_nil_iff]
    · cases text : Json.parse? body with
      | none =>
        have misshapen : Misshapen body :=
          Classical.byContradiction fun shaped => notBroken ⟨empty, text, shaped⟩
        exact iff_of_false misshapen.not_gives (not_means_of_broken empty text)
      | some v =>
        rw [means_iff_of_text text]
        by_cases short : body.length ≤ maxBody
        · exact gives_iff_of_front short (Json.parsePart?_of_parse? text)
        · -- nothing is taken, so a body that is not mistaken means nothing
          have long : maxBody < body.length := Nat.lt_of_not_le short
          rw [gives_iff_of_unread (.inl long)]
          have nothing : v = .null ∨ v = .object [] :=
            Classical.byContradiction fun other =>
              notLong ⟨long, v, text, (not_or.mp other).1, (not_or.mp other).2⟩
          rcases nothing with rfl | rfl <;> simp [eq_comm]

theorem IsCommand.parameters_of_gives (command : IsCommand r name) (gives : Gives r.body members) :
    parameters r = .ok members := by
  cases gives with
  | unread front =>
    have none : bodyValue? r = none := by
      rw [bodyValue?]
      rcases front with long | none
      · rw [if_neg fun both => absurd both.2 (Nat.not_le.mpr long)]
      · rw [none, ite_self]
    rw [parameters, none]
  | null short front =>
    rw [parameters, bodyValue?, if_pos ⟨command.json, short⟩, front]
  | members short front =>
    rw [parameters, bodyValue?, if_pos ⟨command.json, short⟩, front]

theorem IsCommand.parameters_of_misshapen (command : IsCommand r name)
    (misshapen : Misshapen r.body) :
    parameters r = .error (.failure 400 "body must be a JSON object") := by
  obtain ⟨short, v, front, notNull, notObject⟩ := misshapen
  rw [parameters, bodyValue?, if_pos ⟨command.json, short⟩, front]
  cases v with
  | null => exact absurd rfl notNull
  | object members => exact absurd rfl (notObject members)
  | _ => rfl

/-! ## Posts -/

/-- **A command as it is posted**: from this device to the active one, with the given parameters but
for the name of the endpoint. -/
structure Conveys (s : Session) (receiver name : String) (members : List (String × Json))
    (post : Post) : Prop where
  sender : post.sender = s.config.deviceId
  receiver : post.receiver = receiver
  body : ∃ fields, post.body = .object [("command", .object fields)] ∧ Entries.Sorted fields ∧
    Entries.find? "endpoint" fields = some (.string name) ∧
    ∀ k, k ≠ "endpoint" → Entries.find? k fields = Entries.find? k members

/-- This leaves no choice. -/
theorem Conveys.body_eq (conveys : Conveys s receiver name members post)
    (sorted : Entries.Sorted members) : post.body =
      .object [("command", .object (Entries.insert "endpoint" (.string name) members))] := by
  obtain ⟨fields, body, ordered, endpoint, others⟩ := conveys.body
  have same : fields = Entries.insert "endpoint" (.string name) members := by
    refine Entries.eq_of_find?_eq ordered (Entries.sorted_insert sorted _ _) fun k => ?_
    rw [Entries.find?_insert]
    by_cases own : k = "endpoint"
    · rw [if_pos own, own, endpoint]
    · rw [if_neg own, others k own]
  rw [body, same]

/-- A ready session with an active device posts every command. -/
theorem command_conveys (name : String) (ready : s.readyLink? = some link)
    (active : s.snapshot.activeDeviceId = some receiver) (sorted : Entries.Sorted members) :
    ∃ post, Conveys s receiver name members post ∧ s.command ⟨name, members⟩ = .ok post := by
  refine ⟨⟨s.config.deviceId, receiver, (Command.mk name members).envelope⟩, ⟨rfl, rfl, ?_⟩, ?_⟩
  · refine ⟨_, rfl, Entries.sorted_insert (Entries.sorted_ofList _) _ _, ?_, fun k other => ?_⟩
    · rw [Entries.find?_insert, if_pos rfl]
    · rw [Entries.find?_insert, if_neg other, Entries.ofList_eq_self sorted]
  · rw [Session.command, ready, active]

theorem Gives.sorted (gives : Gives body members) : Entries.Sorted members := by
  cases gives with
  | members _ front => exact Json.sorted_of_parsePart? front
  | _ => exact List.Pairwise.nil

theorem IsCommand.handle_of_gives (command : IsCommand r name) (ready : s.readyLink? = some link)
    (active : s.snapshot.activeDeviceId = some receiver) (gives : Gives r.body members) :
    ∃ post, Conveys s receiver name members post ∧
      handle s backend r = (callReply (backend post), some (.posted post)) := by
  obtain ⟨post, conveys, sent⟩ := command_conveys name ready active gives.sorted
  refine ⟨post, conveys, ?_⟩
  rw [handle, command.action_eq, command.parameters_of_gives gives]
  simp only [Except.map, carryOut, sent, command.method]
  cases backend post <;> rfl

theorem IsCommand.handle_of_misshapen (command : IsCommand r name) (misshapen : Misshapen r.body) :
    handle s backend r = (.failure 400 "body must be a JSON object", none) := by
  rw [handle, command.action_eq, command.parameters_of_misshapen misshapen]
  rfl

/-- **What a command request does**, on a ready session with an active device, for every name and
every body. Either the body gives parameters, and exactly these are posted with the name for the
endpoint; or it is of the wrong shape, and it is refused and nothing is posted. What a body gives is
what it means exactly if it is not mistaken for something else. -/
theorem body_decides_what_is_posted (ready : s.readyLink? = some link)
    (active : s.snapshot.activeDeviceId = some receiver) (command : IsCommand r name)
    (backend : Post → Except Failure Unit) :
    ((∃ members, Gives r.body members) ∨ Misshapen r.body) ∧
    (∀ members, Gives r.body members → ∃ post, Conveys s receiver name members post ∧
      handle s backend r = (callReply (backend post), some (.posted post))) ∧
    (Misshapen r.body →
      handle s backend r = (.failure 400 "body must be a JSON object", none)) ∧
    ((∀ members, Gives r.body members ↔ Means r.body members) ↔ ¬Mistaken r.body) := by
  refine ⟨gives_or_misshapen r.body, ?_, command.handle_of_misshapen, gives_iff_means⟩
  intro members gives
  exact command.handle_of_gives ready active gives

/-- A request to seek, sent to a path with an escape and a query. -/
def seekRequest (body : Bytes) : Request where
  method := "POST"
  target := "/api/command/seek%5Fto?at=once"
  contentType := some "application/json; charset=utf-8"
  body

theorem isCommand_seekRequest (body : Bytes) : IsCommand (seekRequest body) "seek_to" := by
  have path : Route.pathOf "/api/command/seek%5Fto?at=once" =
      "/api/command/".toList ++ "seek%5Fto".toList := by decide
  have name : Text.unescapePercents? "seek%5Fto".toList = some "seek_to" := by decide +kernel
  have json : Text.isJsonMedia "application/json; charset=utf-8" = true := by decide
  exact ⟨rfl, ⟨_, path, by decide, by decide, name⟩, json⟩

/-- A connection is established, and the phone plays. -/
theorem exists_ready : ∃ ms s link, Run sampleConfig 0 ms s ∧ s.readyLink? = some link ∧
    s.snapshot.activeDeviceId = some "phone" := by
  have told : (replay? sampleConfig 0 (joining "one" { activeDeviceId := "phone" })).map
      (fun run => (run.2.readyLink?.isSome, run.2.snapshot.activeDeviceId)) =
        some (true, some "phone") := by decide +kernel
  obtain ⟨⟨ms, s⟩, replayed, told⟩ := Option.map_eq_some_iff.mp told
  obtain ⟨ready, active⟩ := Prod.mk.inj told
  obtain ⟨link, ready⟩ := Option.isSome_iff_exists.mp ready
  exact ⟨ms, s, link, Run.of_replay? replayed, ready, active⟩

/-- A position to seek to. -/
theorem position_is_posted :
    let request := seekRequest (Json.ofMembers [("value", .ofInt 1000)]).bytes
    ∃ ms s link, Run sampleConfig 0 ms s ∧ s.readyLink? = some link ∧
      s.snapshot.activeDeviceId = some "phone" ∧ IsCommand request "seek_to" ∧
      ∃ post, Conveys s "phone" "seek_to" [("value", .ofInt 1000)] post ∧
        handle s (fun _ => .ok ()) request = ({ status := 204 }, some (.posted post)) := by
  intro request
  obtain ⟨ms, s, link, run, ready, active⟩ := exists_ready
  have command : IsCommand request "seek_to" := isCommand_seekRequest _
  have readable : Json.Readable Json.Document.maxDepth (Json.ofMembers [("value", .ofInt 1000)]) :=
    Json.readable_ofMembers (by simp [Json.ofInt, Json.Readable, Json.Number.IsWord])
  have text : Json.parse? request.body = some (.object [("value", .ofInt 1000)]) :=
    Json.parse?_bytes readable
  have short : request.body.length ≤ maxBody := by decide +kernel
  obtain ⟨-, posts, -⟩ := body_decides_what_is_posted ready active command fun _ => .ok ()
  obtain ⟨post, conveys, done⟩ := posts _ (.members short (Json.parsePart?_of_parse? text))
  exact ⟨ms, s, link, run, ready, active, command, post, conveys, done⟩

/-- An object that breaks off behind the position. -/
def brokenBody : Bytes := Bytes.ofText "\x7b\"value\":1000"

open Json Json.Document in
theorem parsePart?_brokenBody : parsePart? brokenBody = none := by
  have bytes : brokenBody = 0x7B :: (encoded (quoted "value") ++
      0x3A :: (encoded (Json.ofInt 1000).chars ++ [])) := by decide +kernel
  have position : Readable 0 (Json.ofInt 1000) := by simp [Json.ofInt, Readable, Number.IsWord]
  -- the position is read, and then there is no brace where the object has to end
  have front : readPart? brokenBody = none := by
    rw [bytes, readPart?, value_object (skip_cons rfl _) (not_end_of_key _ _) (key?_quoted _ _),
      value_chars _ position _ _ ends_nil, resume.eq_def]
    rfl
  rw [parsePart?, front]
  rfl

/-- **A body that breaks off passes for a missing one**: it is neither empty nor JSON, and the
command is posted all the same, without the position. -/
theorem broken_body_is_posted :
    let request := seekRequest brokenBody
    ∃ ms s link, Run sampleConfig 0 ms s ∧ s.readyLink? = some link ∧
      s.snapshot.activeDeviceId = some "phone" ∧ IsCommand request "seek_to" ∧
      request.body ≠ [] ∧ Json.parse? request.body = none ∧
      ∃ post, post.body = .object [("command", .object [("endpoint", .string "seek_to")])] ∧
        handle s (fun _ => .ok ()) request = ({ status := 204 }, some (.posted post)) := by
  intro request
  obtain ⟨ms, s, link, run, ready, active⟩ := exists_ready
  have command : IsCommand request "seek_to" := isCommand_seekRequest _
  obtain ⟨post, conveys, done⟩ := command.handle_of_gives ready active
    (.unread (.inr parsePart?_brokenBody))
  exact ⟨ms, s, link, run, ready, active, command, by decide,
    Json.parse?_eq_none parsePart?_brokenBody, post, conveys.body_eq List.Pairwise.nil, done⟩

end RemotePlayback.Control
