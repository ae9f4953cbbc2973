import RemotePlayback.Proofs.Session.Conversation

/-! Every request is replied to.

Whatever a request asks for, and whatever comes of it, the session replies to it once, and replies
go out in the order in which the requests came, while pings are written among them. At any moment
of an attempt some replies may be on their way: to a request that the local player deals with, or in
the queue. When the attempt is over all of them were written, unless a text was lost. -/

namespace RemotePlayback.Session

open Playback Dealer

variable {config : Config} {now : Int64} {ms : List Moment} {s : Session}

/-- The keys of the requests that were read on established connections. -/
def requests (ms : List Moment) : List String := ms.filterMap fun m => m.before.asked? m.input

/-- **The texts that are no pings.** -/
def replies (frames : List Outbound) : List String :=
  (frames.filterMap Outbound.text?).filter (· ≠ pingText)

/-- The texts that are on their way, pings left aside. -/
def unsaid (s : Session) : List String := s.line.unsent.filterMap Outbound.text?

/-- What makes a step read a request. -/
theorem asked?_eq_some_iff {i : Input} {key : String} :
    s.asked? i = some key ↔ ∃ text uri headers payload, s.stage = .reading ∧
      i = .received (.text text) ∧ Frame.read text = .ok (.request key uri headers payload) := by
  constructor
  · intro asked
    obtain ⟨⟨key', event⟩, found, rfl⟩ := Option.map_eq_some_iff.mp asked
    obtain ⟨text, read, request⟩ := Option.bind_eq_some_iff.mp found
    unfold read? at read
    split at read
    · rename_i stage
      cases read
      unfold request? at request
      split at request
      · rename_i read
        cases request
        exact ⟨text, _, _, _, stage, rfl, read⟩
      · cases request
    · cases read
  · rintro ⟨text, uri, headers, payload, stage, rfl, read⟩
    simp [asked?, read?, stage, request?, read]

theorem replies_eq (frames : List Outbound) :
    replies frames = (own frames).filterMap Outbound.text? := by
  rw [replies, own, List.filter_filterMap, List.filterMap_filter]
  congr 1
  funext f
  cases f with
  | text t =>
    by_cases ping : t = pingText
    · simp [Outbound.text?, ping]
    · simp [Outbound.text?, ping]
  | close => rfl

/-- The text that becomes due with a step is the reply to the request that it reads. -/
theorem texts_of_due (s : Session) (i : Input) :
    (s.due i).filterMap Outbound.text? =
      ((s.asked? i).map fun key => replyText key true).toList := by
  have silent : (s.farewell? i).toList.filterMap Outbound.text? = [] := by
    cases farewell : s.farewell? i with
    | none => rfl
    | some f =>
      unfold farewell? at farewell
      split at farewell
      · simp [closing?_text? farewell]
      · cases farewell
  rw [due, List.filterMap_append, silent, List.append_nil]
  cases s.asked? i <;> rfl

theorem texts_of_dues (ms : List Moment) :
    (dues ms).filterMap Outbound.text? = (requests ms).map fun key => replyText key true := by
  induction ms with
  | nil => rfl
  | cons m ms ih =>
    have first : dues (m :: ms) = m.before.due m.input ++ dues ms := rfl
    rw [first, List.filterMap_append, ih, texts_of_due]
    simp only [requests, List.filterMap_cons]
    cases m.before.asked? m.input <;> rfl

/-- **Every request is replied to, once and in order.** On an attempt on which no text is lost, the
texts that were written, pings left aside, and those that are on their way are one reply for each
request that was read, in the order of the requests; once the attempt is over all of them were
written. Every frame that decodes as a request counts, whatever becomes of it. Its key is the one
that it names, or else its URI, and the reply to any key is read back as a reply to that key. -/
theorem requests_are_replied_to (run : Run config now ms s) (epoch : Nat)
    (kept : ∀ m ∈ during ms epoch, ¬m.Loses) :
    (epoch = s.epoch → replies (written (during ms epoch)) ++ s.unsaid =
      (requests (during ms epoch)).map fun key => replyText key true) ∧
    (s.Over epoch → replies (written (during ms epoch)) =
      (requests (during ms epoch)).map fun key => replyText key true) ∧
    (∀ m ∈ during ms epoch, ∀ key, m.before.asked? m.input = some key ↔
      ∃ text uri headers payload, m.before.stage = .reading ∧ m.input = .received (.text text) ∧
        Frame.read text = .ok (.request key uri headers payload)) ∧
    (∀ text key uri headers payload, Frame.read text = .ok (.request key uri headers payload) →
      ∃ parts, Json.parseAs? Frame.Parts.read? (Bytes.ofText text) = some parts ∧
        parts.messageIdent.or parts.uri = some uri ∧ key = parts.key.getD uri) ∧
    ∀ key, Json.parse? (Bytes.ofText (replyText key true)) =
      some (.ofMembers [("type", .string "reply"), ("key", .string key),
        ("payload", .ofMembers [("success", .string "true")])]) := by
  refine ⟨?_, ?_, fun m _ key => asked?_eq_some_iff, ?_, ?_⟩
  · rintro rfl
    rw [replies_eq, unsaid, ← List.filterMap_append, run.written_of_current kept, texts_of_dues]
  · intro ended
    rw [replies_eq, run.written_of_over ended kept, texts_of_dues]
  · intro text key uri headers payload read
    obtain ⟨parts, parsed, -, named, keyed⟩ := Frame.read_request read
    exact ⟨parts, parsed, named, keyed⟩
  · intro key
    exact parse?_replyText key true

/-- A request without a body. -/
def bareRequestText (key : String) : String :=
  (Json.ofMembers [("type", .string "request"), ("uri", .string "hm://connect-state/v1/odd"),
    ("key", .string key)]).text

/-- Two requests without a body are replied to before the connection is lost. -/
theorem bare_requests_are_replied_to : ∃ ms s, Run sampleConfig 0 ms s ∧ s.Over 1 ∧
    (∀ m ∈ during ms 1, ¬m.Loses) ∧
    replies (written (during ms 1)) = [replyText "a" true, replyText "\n" true] := by
  let inputs := joining "one" {} ++ [.received (.text (bareRequestText "a")),
    .received (.text (bareRequestText "\n")), .write, .wrote true, .write, .wrote true] ++ losing
  have told : (replay? sampleConfig 0 inputs).map (fun run =>
      (requests (during run.1 1), run.2.epoch)) = some (["a", "\n"], 2) := by decide +kernel
  obtain ⟨⟨ms, s⟩, replayed, told⟩ := Option.map_eq_some_iff.mp told
  simp only [Prod.mk.injEq] at told
  obtain ⟨asked, epoch⟩ := told
  have kept : ∀ m ∈ during ms 1, ¬m.Loses := by
    rintro m mem ⟨lost, -⟩
    have among := List.mem_map_of_mem (f := (·.input)) (List.mem_filter.mp mem).1
    rw [inputs_of_replay? replayed, lost] at among
    simp [inputs, joining, losing] at among
  have ended : s.Over 1 := .inl (by omega)
  have run := Run.of_replay? replayed
  obtain ⟨-, all, -⟩ := requests_are_replied_to run 1 kept
  refine ⟨ms, s, run, ended, kept, ?_⟩
  rw [all ended, asked]
  rfl

end RemotePlayback.Session
