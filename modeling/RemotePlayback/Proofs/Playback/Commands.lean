import RemotePlayback.Playback.Request
import RemotePlayback.Proofs.Backend.Requests
import RemotePlayback.Proofs.Control.CommandBody
import RemotePlayback.Proofs.Double
import RemotePlayback.Proofs.Json.Spelled

/-!
Commands are understood as they were meant.

A command is sent in an envelope, and what is received is the body of a request that has the same
command in it. Between the two is a JSON text, which may be spelled in any way, with other members
around the command. What is read of it depends on the values of its fields alone (`IsBody.decode`),
and the command that is read has the parameters that were sent, under the name that it was sent with
(`Carries.decode`).

The names that are sent and the endpoints that are known are two tables. They agree on the commands
of `Tells`, and so does the position of a seek, which on its way is an integer and a floating-point
number.
-/

namespace RemotePlayback

namespace Playback

open Json Json.Document

/-! ## Bodies -/

namespace Request

/-- The fields of a request, in the order of their declaration. -/
def fieldNames : List String := ["message_id", "sent_by_device_id", "command"]

/-- **What the fields of a request say.** The id of the message is zero if it is not there, and the
device that sent it may be missing or null. -/
structure HasFields (fields : List (String × Json)) (messageId : UInt32) (sentBy : Option String)
    (command : Json) : Prop where
  messageId : (Entries.find? "message_id" fields).getD (Json.ofNat 0) = Json.ofNat messageId.toNat
  sentBy : (Entries.find? "sent_by_device_id" fields).getD .null = Json.ofText? sentBy
  command : Entries.find? "command" fields = some command

/-- **A body of a request**: a text that spells out a record with its fields. -/
inductive IsBody (body : Bytes) (messageId : UInt32) (sentBy : Option String) (command : Json) :
    Prop where
  | mk {v : Json} {fields : List (String × Json)} (spells : Spells fieldNames body v)
      (record : fields? fieldNames v = some fields)
      (fields : HasFields fields messageId sentBy command)

variable {body : Bytes} {messageId : UInt32} {sentBy : Option String} {command : Json}
  {fields : List (String × Json)}

theorem HasFields.field_messageId (h : HasFields fields messageId sentBy command) :
    field? fields "message_id" (some 0) (integerWithin? 0 (2 ^ 32 - 1)) =
      some (messageId.toNat : Int) := by
  have bound := messageId.toNat_lt
  have stated := h.messageId
  rw [field?]
  cases found : Entries.find? "message_id" fields with
  | none =>
    rw [found] at stated
    have same : (0 : Int) = messageId.toNat := by simpa [Json.ofNat] using stated
    rw [← same]
  | some v =>
    rw [found] at stated
    rw [show v = Json.ofNat messageId.toNat from stated, Json.ofNat]
    exact if_pos ⟨by omega, by omega⟩

theorem HasFields.field_sentBy (h : HasFields fields messageId sentBy command) :
    field? fields "sent_by_device_id" (some none) textOrNull? = some sentBy := by
  have stated := h.sentBy
  rw [field?]
  cases found : Entries.find? "sent_by_device_id" fields with
  | none =>
    rw [found] at stated
    cases sentBy with
    | none => rfl
    | some t => cases stated
  | some v =>
    rw [found] at stated
    rw [show v = Json.ofText? sentBy from stated]
    cases sentBy <;> rfl

/-- **What is read of a body** is what its fields say, however it is spelled. -/
theorem IsBody.decode (h : IsBody body messageId sentBy command) :
    decode body = ofParts ⟨messageId, sentBy, command⟩ := by
  obtain ⟨spells, record, stated⟩ := h
  obtain ⟨d, r, document, found, field⟩ := spells.record record
  have id : r.field "message_id" (some 0) (integer? 0 (2 ^ 32 - 1)) =
      some (messageId.toNat : Int) :=
    (field (by decide) _ fun _ _ => integer?_of_value? _ _).trans stated.field_messageId
  have sender : r.field "sent_by_device_id" (some none) (optional? text?) = some sentBy :=
    (field (by decide) _ fun _ _ => textOrNull?_of_value?).trans stated.field_sentBy
  have whole : r.field "command" none value? = some command := by
    rw [field (by decide) none fun _ _ value => value, field?, stated.command]
  have parts : parseAs? Parts.read? body = some ⟨messageId, sentBy, command⟩ := by
    rw [parseAs?, document, Option.bind_some, Parts.read?]
    simp only [fieldNames] at found
    rw [found]
    simp only [Option.bind_eq_bind, Option.bind_some, id, sender, whole]
    simp
  rw [Request.decode, parts]

/-- The compact text of a record with the fields of a request is a body of it. -/
theorem HasFields.isBody {v : Json} (stated : HasFields fields messageId sentBy command)
    (record : fields? fieldNames v = some fields) (readable : Readable maxDepth v) :
    IsBody v.bytes messageId sentBy command := ⟨spells_bytes _ readable, record, stated⟩

end Request

/-! ## Envelopes -/

namespace Command

variable {c c' : Command} {fields fields' : List (String × Json)} {body : Bytes}
  {messageId : UInt32} {sentBy : Option String}

/-- **The parameters of a command in its envelope**: those that were given, but for the endpoint,
which is the name of the command. -/
structure HasParameters (c : Command) (fields : List (String × Json)) : Prop where
  sorted : Entries.Sorted fields
  endpoint : Entries.find? "endpoint" fields = some (.string c.name)
  others : ∀ k, k ≠ "endpoint" →
    Entries.find? k fields = Entries.find? k (Entries.ofList c.parameters)

/-- **A body that carries the command of an envelope.** -/
def Carries (envelope : Json) (body : Bytes) (messageId : UInt32) (sentBy : Option String) : Prop :=
  ∃ command, envelope.member? "command" = some command ∧
    Request.IsBody body messageId sentBy command

/-- What is in an envelope. -/
theorem exists_parameters (c : Command) :
    ∃ fields, c.envelope.member? "command" = some (.object fields) ∧ c.HasParameters fields := by
  refine ⟨_, rfl, Entries.sorted_insert (Entries.sorted_ofList _) _ _, ?_, fun k other => ?_⟩
  · rw [Entries.find?_insert, if_pos rfl]
  · rw [Entries.find?_insert, if_neg other]

/-- **Nothing else decides what is in an envelope.** -/
theorem HasParameters.unique (h : c.HasParameters fields) (h' : c'.HasParameters fields')
    (name : c.name = c'.name)
    (others : ∀ k, k ≠ "endpoint" → Entries.find? k (Entries.ofList c.parameters) =
      Entries.find? k (Entries.ofList c'.parameters)) : fields = fields' := by
  refine Entries.eq_of_find?_eq h.sorted h'.sorted fun k => ?_
  by_cases own : k = "endpoint"
  · rw [own, h.endpoint, h'.endpoint, name]
  · rw [h.others k own, h'.others k own, others k own]

/-- **The command that was sent is the one that is read.** -/
theorem Carries.decode (carries : Carries c.envelope body messageId sentBy) :
    ∃ fields, c.HasParameters fields ∧ Request.decode body =
      .ok ⟨messageId, sentBy.bind Text.nonEmpty?, Endpoint.ofName c.name, .object fields⟩ := by
  obtain ⟨command, inside, isBody⟩ := carries
  obtain ⟨fields, whole, parameters⟩ := c.exists_parameters
  cases whole.symm.trans inside
  refine ⟨fields, parameters, isBody.decode.trans ?_⟩
  rw [Request.ofParts, member?, parameters.endpoint]
  rfl

/-! ## Instructions -/

/-- **What a command tells the player** who receives it. -/
inductive Tells : Command → Event → Prop where
  | pause : Tells .pause .pause
  | resume : Tells .resume .resume
  | skipNext : Tells .skipNext .skipNext
  | shuffle (on : Bool) : Tells (.setShuffle on) (.setShuffle on)
  | seek {position : Span} (exactly : position.milliseconds ≤ 2 ^ 53) :
      Tells (.seekTo position) (.seekTo (Span.ofMilliseconds position.milliseconds))

/-- A position of whole milliseconds up to `2 ^ 53` is read as it was written. -/
theorem position_integer {n : Nat} (le : n ≤ 2 ^ 53) :
    Request.position (.integer n) = Span.ofMilliseconds n := by
  obtain ⟨positive, exact⟩ := Double.floorMagnitude_ofNat le
  have double : (Number.integer n).toDouble = Double.ofNat n := by
    rw [Number.toDouble, if_neg (by omega), Int.natAbs_natCast]
  have small : min n (2 ^ 64 - 1) = n := by omega
  simp [Request.position, double, positive, exact, small]

/-- **A request with the parameters of a command gives its instruction.** -/
theorem Tells.event {e : Event} (tells : Tells c e) (parameters : c.HasParameters fields) :
    Request.event ⟨messageId, sentBy, Endpoint.ofName c.name, .object fields⟩ = .ok (some e) := by
  have value : Entries.find? "value" fields = Entries.find? "value" (Entries.ofList c.parameters) :=
    parameters.others "value" (by decide)
  cases tells with
  | pause | resume | skipNext => rfl
  | shuffle on =>
    have endpoint : Endpoint.ofName "set_shuffling_context" = .setShufflingContext := by decide
    rw [setShuffle, endpoint, Request.event]
    dsimp only
    rw [Request.required, member?, value]
    rfl
  | @seek position exactly =>
    have endpoint : Endpoint.ofName "seek_to" = .seekTo := by decide
    have small : position.milliseconds % 2 ^ 64 = position.milliseconds := by omega
    rw [seekTo, small] at value ⊢
    rw [endpoint, Request.event]
    dsimp only
    rw [Request.required, member?, value, ← position_integer exactly]
    rfl

/-- The envelope of a command can be read back if its parameters can. -/
theorem readable_envelope (values : ∀ m ∈ c.parameters, Readable 125 m.2) :
    Readable maxDepth c.envelope := by
  refine ⟨List.pairwise_singleton _ _, ⟨Entries.sorted_insert (Entries.sorted_ofList _) _ _, ?_⟩,
    trivial⟩
  refine membersReadable_iff.mpr fun m mem => ?_
  rcases Entries.mem_insert mem with rfl | mem
  · trivial
  · exact values m (Entries.mem_ofList mem)

theorem Tells.readable {e : Event} (tells : Tells c e) : ∀ m ∈ c.parameters, Readable 125 m.2 := by
  cases tells with
  | pause | resume | skipNext => exact List.forall_mem_nil _
  | shuffle on => simp [setShuffle, Readable]
  | @seek position exactly =>
    have small : position.milliseconds % 2 ^ 64 < 2 ^ 64 := Nat.mod_lt _ (by decide)
    simp [seekTo, Readable, Json.ofNat, Number.IsWord]
    omega

/-- An envelope is itself a body that carries its command. -/
theorem carries_envelope (values : ∀ m ∈ c.parameters, Readable 125 m.2) :
    Carries c.envelope c.envelope.bytes 0 none := by
  obtain ⟨fields, inside, -⟩ := c.exists_parameters
  have stated : Request.HasFields [("command", .object fields)] 0 none (.object fields) :=
    ⟨rfl, rfl, rfl⟩
  cases inside
  exact ⟨_, rfl, stated.isBody rfl (readable_envelope values)⟩

theorem Carries.event {e : Event} (carries : Carries c.envelope body messageId sentBy)
    (tells : Tells c e) : ∃ r, Request.decode body = .ok r ∧ r.event = .ok (some e) := by
  obtain ⟨fields, parameters, decoded⟩ := carries.decode
  exact ⟨_, decoded, tells.event parameters⟩

theorem body_of_send {s : Session} {post : Session.Post} (sent : (s.send c).1 = .ok post) :
    post.body = c.envelope := by
  have routed := Session.send_routed s c
  generalize s.send c = result at sent routed
  cases routed with
  | unlinked | stale | inactive => cases sent
  | posted linked seen active sender body =>
    cases sent
    exact body

/-- **Commands are understood as they were sent.** A body that carries a command, however it is
spelled, is read as a request for the endpoint of its name, with the parameters that were given
under that name; a parameter called `endpoint` makes no difference. The compact text of every record
with the fields of a request, its numbers integers and its containers not too deep, is such a body,
and so is what is posted for a command of `Tells`. The player is told of it what the command says.
-/
theorem commands_are_understood :
    (∀ (c : Command) body messageId sentBy, Carries c.envelope body messageId sentBy →
      ∃ fields, c.HasParameters fields ∧ Request.decode body =
        .ok ⟨messageId, sentBy.bind Text.nonEmpty?, Endpoint.ofName c.name, .object fields⟩) ∧
    (∀ c c' : Command, c.name = c'.name →
      (∀ k, k ≠ "endpoint" → Entries.find? k (Entries.ofList c.parameters) =
        Entries.find? k (Entries.ofList c'.parameters)) →
      ∀ body body' messageId sentBy, Carries c.envelope body messageId sentBy →
        Carries c'.envelope body' messageId sentBy →
          ∃ r, Request.decode body = .ok r ∧ Request.decode body' = .ok r) ∧
    (∀ v fields messageId sentBy command, Readable maxDepth v →
      fields? Request.fieldNames v = some fields →
      Request.HasFields fields messageId sentBy command →
        Request.IsBody v.bytes messageId sentBy command) ∧
    ∀ (s : Session) c e post, Tells c e → (s.send c).1 = .ok post →
      (∀ body messageId sentBy, Carries post.body body messageId sentBy →
        ∃ r, Request.decode body = .ok r ∧ r.event = .ok (some e)) ∧
      ∀ base token request, Backend.commandRequest base token post = .ok request →
        ∃ r, Request.decode request.body = .ok r ∧ r.event = .ok (some e) := by
  refine ⟨fun c body messageId sentBy carries => carries.decode, ?_, ?_, ?_⟩
  · intro c c' name others body body' messageId sentBy carries carries'
    obtain ⟨fields, parameters, decoded⟩ := carries.decode
    obtain ⟨fields', parameters', decoded'⟩ := carries'.decode
    rw [← name, ← parameters.unique parameters' name others] at decoded'
    exact ⟨_, decoded, decoded'⟩
  · intro v fields messageId sentBy command readable record stated
    exact stated.isBody record readable
  · intro s c e post tells sent
    have envelope := body_of_send sent
    refine ⟨fun body messageId sentBy carries => ?_, fun base token request posted => ?_⟩
    · rw [envelope] at carries
      exact carries.event tells
    · rw [Backend.body_of_commandRequest posted, envelope]
      exact (carries_envelope tells.readable).event tells

/-- A request with a command, as a dealer hands it on. -/
def forwarded (command : Json) : Json :=
  .object [("command", command), ("message_id", Json.ofNat 7),
    ("sent_by_device_id", .string "phone")]

theorem readable_forwarded {command : Json} (readable : Readable 126 command) :
    Readable maxDepth (forwarded command) := by
  have keys : ["command", "message_id", "sent_by_device_id"].Pairwise (· < ·) := by decide
  have word : Number.IsWord (.integer 7) := by simp [Number.IsWord]
  exact ⟨Entries.sorted_iff_keys.mpr keys, readable, word, trivial, trivial⟩

/-- A session sends a seek to a position between two milliseconds; the player on the other side is
told to seek to the first of them. -/
theorem seek_is_understood :
    ∃ (s : Session) (post : Session.Post) (command : Json),
      (s.send (.seekTo (Span.ofSeconds 2 500000007))).1 = .ok post ∧
      post.body.member? "command" = some command ∧
      ∃ r, Request.decode (forwarded command).bytes = .ok r ∧
        r.event = .ok (some (.seekTo (Span.ofMilliseconds 2500))) := by
  obtain ⟨-, s, link, -, ready, active⟩ := Control.exists_ready
  have sent : (s.send (.seekTo (Span.ofSeconds 2 500000007))).1 = .ok ⟨s.config.deviceId, "phone",
      (Command.seekTo (Span.ofSeconds 2 500000007)).envelope⟩ := by
    rw [Session.send, Session.command, ready, active]
  obtain ⟨-, -, texts, told⟩ := commands_are_understood
  have tells : Tells (.seekTo (Span.ofSeconds 2 500000007)) _ := .seek (by decide)
  have readable := readable_forwarded (readable_envelope tells.readable).2.1
  obtain ⟨told, -⟩ := told s _ _ _ tells sent
  refine ⟨s, _, _, sent, rfl, told _ 7 (some "phone") ⟨_, rfl, ?_⟩⟩
  exact texts _ _ 7 (some "phone") _ readable rfl ⟨rfl, rfl, rfl⟩

end Command

end Playback

end RemotePlayback
